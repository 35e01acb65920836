import Affinity.Rules.Basic

/-!
# The rules of each language

`Language.rules` gives the pattern rules of a language.
-/

namespace Affinity

namespace Rules

/-!
## Rules for Python

The rules for files that the grammar does not accept.
-/

/-- Comments and strings in Python. A string over several lines that opens a statement is a
docstring. -/
def pythonComments : CommentStyle where
  line := ["#".toList]
  quotes := ['"', '\'']
  multilineStrings := ["\"\"\"".toList, "'''".toList]
  docstrings := true

/-- The rules for Python. -/
def python : Rules where
  language := .python
  comments := pythonComments
  blocks := .indentation
  functions := [
    .ofString r"^\s*(?:async\s+)?def\s+(?P<name>\w+)\s*\((?P<params>[^)]*)"]
  classes := [
    .ofString r"^\s*class\s+(?P<name>\w+)"]
  variablePatterns := [
    .ofString r"^\s*(?P<name>[A-Za-z_]\w*(?:\s*,\s*[A-Za-z_]\w*)*)\s*(?::[^=]+)?=[^=]"]
  functionCasings := [.snake]
  classCasings := [.pascal]
  variableCasings := [.snake, .screamingSnake]
  docPosition := .after
  keywords := [
    "if", "elif", "else", "for", "while", "try", "except", "finally", "with", "return", "raise",
    "yield", "import", "from", "pass", "lambda", "assert", "del", "global", "nonlocal",
    "await", "match", "case", "print", "self", "cls"]
  branch := .ofString r"\b(?:if|elif|for|while|except|and|or)\b"
  control := .ofString r"^\s*(?:if|elif|else|try|except|finally|with|match|case)\b"
  loops := .ofString r"^\s*(?:async\s+)?(?:for|while)\b"
  exits := .ofString r"\b(?:return|raise)\b"
  guard := .ofString r"^\s*try\b"
  risk := .ofString
    r"\b(?:open|requests\.\w+|json\.loads?|subprocess\.\w+|urlopen)\s*\(|\.(?:read|write|connect|execute)\s*\("
  checks := .ofString r"\b(?:raise|assert|isinstance)\b|\bis\s+(?:not\s+)?None\b"
  testPath := .ofString r"(?:^|/)test_[^/]*\.py$|_test\.py$|(?:^|/)tests?/"
  testFunction := .ofString r"^\s*(?:async\s+)?def\s+test\w*"
  assertion := .ofString r"\bassert\b|\bself\.assert\w+\s*\(|\bpytest\.raises\b"
  dangers := Danger.common ++ [
    Danger.code "eval" r"\b(?:eval|exec)\s*\(",
    Danger.code "command_injection" r"\bos\.(?:system|popen)\s*\(|\bshell\s*=\s*True\b",
    Danger.code "unsafe_deserialization" r"\b(?:pickle|marshal)\.loads?\s*\(",
    Danger.code "weak_crypto" r"\bhashlib\.(?:md5|sha1)\s*\("]
  io := .ofString
    r"\b(?:print|open|input|urlopen|requests\.\w+)\s*\(|\.(?:read|write|execute|send|recv)\s*\("
  concat := .ofString r#"\+=\s*[fFrRbB]?["']"#
  imports := [
    .ofString r"^\s*import\s+(?P<target>[\w.]+)",
    .ofString r"^\s*from\s+(?P<target>\.*[\w.]*)\s+import\b"]

/-!
## Rules for JavaScript

`Rules.ecmaScript` holds what JavaScript shares with TypeScript. Template strings may run over
several lines; what is called on a collection counts as a loop.
-/

/-- The rules that JavaScript and TypeScript share. -/
def ecmaScript (language : Language) : Rules where
  language
  comments := { CommentStyle.cLike with docLine := [], multilineStrings := ["`".toList] }
  blocks := .braces
  functions := [
    .ofString r"^\s*(?:export\s+)?(?:default\s+)?(?:async\s+)?function\s*\*?\s*(?P<name>[\w$]+)\s*(?:<[^>]*>)?\s*\((?P<params>[^)]*)",
    .ofString r"^\s*(?:export\s+)?(?:const|let|var)\s+(?P<name>[\w$]+)\s*(?::[^=]+)?=\s*(?:async\s+)?function\b\s*\*?\s*[\w$]*\s*\((?P<params>[^)]*)",
    .ofString r"^\s*(?:export\s+)?(?:const|let|var)\s+(?P<name>[\w$]+)\s*(?::[^=]+)?=\s*(?:async\s+)?\((?P<params>[^)]*)\)\s*(?::\s*[^=]+?)?\s*=>",
    .ofString r"^\s*(?:export\s+)?(?:const|let|var)\s+(?P<name>[\w$]+)\s*=\s*(?:async\s+)?(?P<params>[\w$]+)\s*=>",
    .ofString r"^\s*(?:(?:public|private|protected|static|readonly|async|abstract|override|get|set)\s+)*\*?(?P<name>#?[\w$]+)\s*(?:<[^>]*>)?\s*\((?P<params>[^()]*)\)\s*(?::\s*[^\x7b]+)?\x7b"]
  classes := [
    .ofString r"^\s*(?:export\s+)?(?:default\s+)?(?:abstract\s+)?class\s+(?P<name>[\w$]+)"]
  variablePatterns := [
    .ofString r"\b(?:const|let|var)\s+(?P<name>[\w$]+)"]
  functionCasings := [.camel, .pascal]
  classCasings := [.pascal]
  variableCasings := [.camel, .pascal]
  keywords := [
    "if", "else", "for", "while", "do", "switch", "case", "catch", "return", "throw", "new",
    "typeof", "await", "yield", "try", "finally", "delete", "void", "super", "import"]
  branch := .ofString r"\b(?:if|for|while|case|catch)\b|&&|\|\||\?\?|\s\?\s"
  control := .ofString r"\b(?:if|else|switch|try|catch|finally)\b"
  loops := .ofString r"\b(?:for|while|do)\b|\.(?:forEach|map|filter|reduce)\s*\("
  exits := .ofString r"\b(?:return|throw)\b"
  guard := .ofString r"\btry\b"
  risk := .ofString
    r"\b(?:fetch|axios(?:\.\w+)?|JSON\.parse|readFileSync|readFile|writeFileSync|writeFile|parseInt|parseFloat)\s*\(|\.(?:query|send|connect|request)\s*\("
  checks := .ofString
    r"\bthrow\b|\.catch\s*\(|\bif\s*\(\s*!?\s*(?:err|error)\b|\btypeof\s+[\w$.]+\s*[!=]==|[!=]==?\s*(?:null|undefined)\b|\binstanceof\b"
  testPath := .ofString r"(?i)\.(?:test|spec)\.m?[jt]sx?$|(?:^|/)(?:__tests__|tests?)/"
  testFunction := .ofString r#"\b(?:it|test)\s*\(\s*["'`]"#
  assertion := .ofString r"\bexpect\s*\(|\bassert(?:\.\w+)?\s*\(|\.should\b"
  dangers := Danger.common ++ [
    Danger.code "eval" r"\beval\s*\(",
    Danger.code "dynamic_code" r#"\bnew\s+Function\s*\(|\bset(?:Timeout|Interval)\s*\(\s*["']"#,
    Danger.code "xss" r"\.(?:innerHTML|outerHTML)\s*=|\bdocument\.write\s*\(|\bdangerouslySetInnerHTML\b",
    Danger.code "command_injection" r"\bchild_process\.exec\s*\(|\bexecSync\s*\("]
  io := .ofString
    r"\b(?:fetch|axios|readFileSync|readFile|writeFileSync|writeFile|appendFileSync)\s*\(|\.(?:query|send|request)\s*\("
  concat := .ofString r#"\+=\s*["'`]|[\w$]+\s*=\s*[\w$]+\s*\+\s*["'`]"#
  imports := [
    .ofString r#"^\s*import\s+(?:[^'"]*\s+from\s+)?["'](?P<target>[^"']+)["']"#,
    .ofString r#"\brequire\s*\(\s*["'](?P<target>[^"']+)["']\s*\)"#,
    .ofString r#"^\s*export\s+[^'"]*\s+from\s+["'](?P<target>[^"']+)["']"#]

/-- The rules for JavaScript. -/
def javascript : Rules := ecmaScript .javascript

/-!
## Rules for TypeScript

The rules of JavaScript with the declarations of types and with private members.
-/

/-- The rules for TypeScript. -/
def typescript : Rules :=
  let base := ecmaScript .typescript
  { base with
    classes := base.classes ++ [
      .ofString
        r"^\s*(?:export\s+)?(?:declare\s+)?(?:const\s+)?(?:interface|enum|type)\s+(?P<name>\w+)"]
    visibility := .unmarked (.ofString r"^\s*(?:private|protected)\b")
    dangers := base.dangers ++ [Danger.code "any_type" r":\s*any\b|\bas\s+any\b|<any>"] }

/-!
## Rules for Java

Only symbols marked as public or protected are there for others.
-/

/-- The rules for Java. -/
def java : Rules where
  language := .java
  comments := .cLike
  blocks := .braces
  functions := [
    .ofString r"^\s*(?:@\w+\s+)*(?:(?:public|private|protected|static|final|abstract|synchronized|native|default)\s+)*(?:<[^>]+>\s+)?[\w<>\[\],.?\s]+?\s+(?P<name>\w+)\s*\((?P<params>[^)]*)\)?\s*(?:throws\s+[\w.,\s]+)?\s*(?:\x7b|$)"]
  classes := [
    .ofString r"^\s*(?:(?:public|private|protected|static|final|abstract|sealed)\s+)*(?:class|interface|enum|record)\s+(?P<name>\w+)"]
  variablePatterns := [
    .ofString r"^\s*(?:(?:private|protected|public|static|final)\s+)*(?:[A-Z][\w<>\[\],?\s]*|int|long|double|float|boolean|char|byte|short|var)\s+(?P<name>[a-zA-Z_]\w*)\s*(?:=|;)"]
  functionCasings := [.camel]
  classCasings := [.pascal]
  variableCasings := [.camel]
  visibility := .marked (.ofString r"\b(?:public|protected)\b")
  keywords := [
    "if", "else", "for", "while", "do", "switch", "case", "catch", "return", "throw", "new",
    "try", "finally", "synchronized", "assert", "super", "this"]
  branch := .ofString r"\b(?:if|for|while|case|catch)\b|&&|\|\||\s\?\s"
  control := .ofString r"\b(?:if|else|switch|try|catch|finally|synchronized)\b"
  loops := .ofString r"\b(?:for|while|do)\b|\.forEach\s*\("
  exits := .ofString r"\b(?:return|throw)\b"
  guard := .ofString r"\btry\b"
  risk := .ofString
    r"\bnew\s+(?:File(?:Input|Output)Stream|FileReader|FileWriter|Socket|URL)\s*\(|\b(?:Files\.\w+|Integer\.parseInt|Long\.parseLong|Double\.parseDouble|Class\.forName)\s*\(|\.(?:executeQuery|executeUpdate|execute|openConnection|connect|readLine|getConnection)\s*\("
  checks := .ofString
    r"\bthrow\s+new\b|\bObjects\.requireNonNull\s*\(|[!=]=\s*null\b|\binstanceof\b|\bOptional\."
  testPath := .ofString r"(?:^|/)src/test/|(?:Test|Tests|IT)\.java$"
  testFunction := .ofString r"^\s*@(?:Test|ParameterizedTest|RepeatedTest)\b"
  assertion := .ofString r"\bassert\w*\s*\(|\bverify\s*\(|\bassertThat\s*\("
  dangers := Danger.common ++ [
    Danger.code "command_injection" r"\bRuntime\.getRuntime\(\)\.exec\s*\(|\bnew\s+ProcessBuilder\s*\(",
    Danger.code "unsafe_deserialization" r"\bnew\s+ObjectInputStream\s*\(|\.readObject\s*\(",
    Danger.code "reflection" r"\bClass\.forName\s*\(|\.setAccessible\s*\(\s*true",
    Danger.code "weak_crypto" r#"MessageDigest\.getInstance\s*\(\s*""\s*\)|\bDES\b|\bnew\s+Random\s*\("#]
  io := .ofString
    r"\bnew\s+(?:File\w*|Socket|URL)\s*\(|\bFiles\.\w+\s*\(|\.(?:executeQuery|executeUpdate|execute|readLine|write|openConnection)\s*\(|\bSystem\.out\.print"
  concat := .ofString r#"\+=\s*["']|\b\w+\s*=\s*\w+\s*\+\s*["']"#
  imports := [
    .ofString r"^\s*import\s+(?:static\s+)?(?P<target>[\w.]+(?:\.\*)?)\s*;"]

/-!
## Rules for Go

Names in capitals are exported, comments before a symbol are its documentation, and a method names
the type to which it belongs.
-/

/-- The rules for Go. -/
def go : Rules where
  language := .go
  comments :=
    { CommentStyle.cLike with docLine := [], docBlock := [], multilineStrings := ["`".toList] }
  blocks := .braces
  functions := [
    .ofString r"^\s*func\s+\(\s*\w*\s*\*?(?P<receiver>\w+)(?:\[[^\]]*\])?\s*\)\s*(?P<name>\w+)\s*(?:\[[^\]]*\])?\s*\((?P<params>[^)]*)",
    .ofString r"^\s*func\s+(?P<name>\w+)\s*(?:\[[^\]]*\])?\s*\((?P<params>[^)]*)"]
  classes := [
    .ofString r"^\s*type\s+(?P<name>\w+)\s*(?:\[[^\]]*\])?\s+(?:struct|interface)\b"]
  variablePatterns := [
    .ofString r"^\s*(?P<name>[a-zA-Z_]\w*(?:\s*,\s*[a-zA-Z_]\w*)*)\s*:=",
    .ofString r"^\s*(?:var|const)\s+(?P<name>[a-zA-Z_]\w*)"]
  functionCasings := [.camel, .pascal]
  classCasings := [.pascal, .camel]
  variableCasings := [.camel]
  visibility := .capitalized
  commentsDocument := true
  keywords := [
    "if", "else", "for", "switch", "case", "select", "return", "go", "defer", "range"]
  branch := .ofString r"\b(?:if|for|case|select)\b|&&|\|\|"
  control := .ofString r"\b(?:if|else|switch|select|case|default)\b"
  loops := .ofString r"\bfor\b"
  exits := .ofString r"\b(?:return|panic)\b"
  risk := .ofString
    r"\b(?:os\.(?:Open|Create|ReadFile|WriteFile)|ioutil\.\w+|io\.ReadAll|http\.(?:Get|Post|NewRequest)|json\.(?:Unmarshal|Marshal)|strconv\.(?:Atoi|Parse\w+)|sql\.Open)\s*\(|\.(?:Query|QueryRow|Exec|Do|Dial|Scan)\s*\("
  checks := .ofString
    r"\bif\s+(?:[^\x7b]*;\s*)?err\s*!=\s*nil\b|\berrors\.(?:Is|As)\s*\(|\bif\s+!ok\b"
  testPath := .ofString r"_test\.go$"
  testFunction := .ofString r"^\s*func\s+(?:Test|Benchmark|Fuzz)\w*\s*\("
  assertion := .ofString
    r"\bt\.(?:Error|Errorf|Fatal|Fatalf|Fail)\s*\(|\b(?:assert|require)\.\w+\s*\("
  dangers := Danger.common ++ [
    Danger.code "unsafe_pointer" r"\bunsafe\.Pointer\b",
    Danger.code "command_injection" r"\bexec\.Command\s*\(\s*(?:\w+\s*,|\w+\s*\.\.\.)",
    Danger.code "weak_crypto" r"\b(?:md5|sha1|des)\.New\b|\bmath/rand\b",
    Danger.written "tls_skip_verify" r"InsecureSkipVerify:\s*true"]
  io := .ofString
    r"\b(?:os\.(?:Open|Create|ReadFile|WriteFile)|http\.(?:Get|Post)|fmt\.Print\w*)\s*\(|\.(?:Query|QueryRow|Exec|Do|Write|Read)\s*\("
  concat := .ofString r#"\+=\s*["`]|\b\w+\s*=\s*\w+\s*\+\s*["`]"#
  imports := [
    .ofString r#"^\s*import\s+(?:\w+\s+)?"(?P<target>[^"]+)""#,
    .ofString r#"^\s*(?:[\w.]+\s+)?"(?P<target>[^"]+)"\s*$"#]

/-!
## Rules for C#

Tests are told by their attributes.
-/

/-- The rules for C#. -/
def csharp : Rules where
  language := .csharp
  comments := { CommentStyle.cLike with multilineStrings := ["\"\"\"".toList] }
  blocks := .braces
  functions := [
    .ofString r"^\s*(?:\[[^\]]*\]\s*)*(?:(?:public|private|protected|internal|static|virtual|override|abstract|sealed|async|extern|partial|new|unsafe)\s+)*[\w<>\[\],.?()\s]+?\s+(?P<name>\w+)\s*(?:<[^>]+>)?\s*\((?P<params>[^)]*)\)?\s*(?:where\s+[^\x7b]+)?(?:\x7b|=>|$)"]
  classes := [
    .ofString r"^\s*(?:(?:public|private|protected|internal|static|abstract|sealed|partial|readonly)\s+)*(?:class|interface|struct|enum|record)\s+(?P<name>\w+)"]
  variablePatterns := [
    .ofString r"^\s*(?:var|int|long|double|float|bool|string|decimal|char|byte|object|[A-Z][\w<>\[\],?]*)\s+(?P<name>[a-zA-Z_]\w*)\s*(?:=|;)"]
  functionCasings := [.pascal]
  classCasings := [.pascal]
  variableCasings := [.camel, .pascal]
  visibility := .marked (.ofString r"\b(?:public|protected|internal)\b")
  keywords := [
    "if", "else", "for", "foreach", "while", "do", "switch", "case", "catch", "return", "throw",
    "new", "try", "finally", "using", "lock", "await", "yield", "base", "this", "nameof",
    "typeof"]
  branch := .ofString r"\b(?:if|for|foreach|while|case|catch)\b|&&|\|\||\?\?|\s\?\s"
  control := .ofString r"\b(?:if|else|switch|try|catch|finally|using|lock)\b"
  loops := .ofString r"\b(?:for|foreach|while|do)\b"
  exits := .ofString r"\b(?:return|throw)\b"
  guard := .ofString r"\btry\b"
  risk := .ofString
    r"\b(?:File\.\w+|Directory\.\w+|int\.Parse|long\.Parse|double\.Parse|Convert\.To\w+|JsonSerializer\.Deserialize|JsonConvert\.DeserializeObject)\s*[(<]|\.(?:GetAsync|PostAsync|SendAsync|ExecuteReader|ExecuteNonQuery|ExecuteScalar|Open|ReadToEnd)\s*\("
  checks := .ofString
    r"\bthrow\s+new\b|\bArgumentNullException\.ThrowIfNull\s*\(|[!=]=\s*null\b|\bis\s+(?:not\s+)?null\b|\bTryParse\s*\(|\bstring\.IsNullOrEmpty\s*\("
  testPath := .ofString r"(?:Tests?|Spec)\.cs$|(?:^|/)[\w.]*Tests?/"
  testFunction := .ofString r"^\s*\[(?:Test|Fact|Theory|TestMethod|TestCase)\b"
  assertion := .ofString r"\bAssert\.\w+\s*\(|\.Should\(\)"
  dangers := Danger.common ++ [
    Danger.code "unsafe_deserialization" r"\bBinaryFormatter\b|\bTypeNameHandling\.(?:All|Auto|Objects)\b",
    Danger.code "command_injection" r"\bProcess\.Start\s*\(",
    Danger.code "unsafe_code" r"\bunsafe\s*\x7b|\bunsafe\s+\w",
    Danger.code "dynamic_sql" r#"\bnew\s+SqlCommand\s*\(\s*\$""#]
  io := .ofString
    r"\b(?:File|Directory|Console)\.\w+\s*\(|\.(?:GetAsync|PostAsync|SendAsync|ExecuteReader|ExecuteNonQuery|ExecuteScalar|ReadToEnd|Write|WriteLine)\s*\("
  concat := .ofString r#"\+=\s*\$?["']|\b\w+\s*=\s*\w+\s*\+\s*\$?["']"#
  imports := [
    .ofString r"^\s*using\s+(?:static\s+)?(?P<target>[A-Z][\w.]*)\s*;"]

/-!
## Rules for C++

Functions defined outside their class name it before two colons.
-/

/-- The rules for C++. -/
def cpp : Rules where
  language := .cpp
  comments :=
    { CommentStyle.cLike with
      docLine := ["///".toList, "//!".toList]
      docBlock := [⟨"/**".toList, "*/".toList⟩, ⟨"/*!".toList, "*/".toList⟩] }
  blocks := .braces
  functions := [
    .ofString r"^\s*(?:(?:static|inline|virtual|explicit|constexpr|extern|friend)\s+)*[\w:<>,*&\s]+?[\s*&]+(?:(?:\w+::)*(?P<receiver>\w+)::)?(?P<name>~?\w+)\s*\((?P<params>[^)]*)\)?\s*(?:const\s*)?(?:noexcept\s*)?(?:override\s*)?(?:final\s*)?(?:->\s*[\w:<>]+\s*)?(?:\x7b|$|:)"]
  classes := [
    .ofString r"^\s*(?:template\s*<[^>]*>\s*)?(?:class|struct|union|enum\s+class|enum)\s+(?:\w+\s+)?(?P<name>\w+)(?:\s*final)?\s*(?::|\x7b|$)"]
  variablePatterns := [
    .ofString r"^\s*(?:(?:const|static|constexpr)\s+)*(?:auto|int|long|double|float|bool|char|size_t|unsigned|std::\w+(?:<[^;=]*>)?|[A-Z]\w*(?:<[^;=]*>)?)[\s*&]+(?P<name>[a-zA-Z_]\w*)\s*(?:=|;|\x7b)"]
  functionCasings := [.snake, .camel, .pascal]
  classCasings := [.pascal, .snake]
  variableCasings := [.snake, .camel]
  visibility := .unmarked (.ofString r"^\s*static\b")
  keywords := [
    "if", "else", "for", "while", "do", "switch", "case", "catch", "return", "throw", "new",
    "delete", "try", "sizeof", "static_assert", "using", "namespace", "template", "typedef",
    "goto", "co_return", "co_await"]
  branch := .ofString r"\b(?:if|for|while|case|catch)\b|&&|\|\||\s\?\s"
  control := .ofString r"\b(?:if|else|switch|try|catch)\b"
  loops := .ofString r"\b(?:for|while|do)\b"
  exits := .ofString r"\b(?:return|throw)\b"
  guard := .ofString r"\btry\b"
  risk := .ofString
    r"\b(?:fopen|fread|fwrite|malloc|calloc|realloc|stoi|stol|stod|atoi|atof|socket|connect|recv|send)\s*\(|\bstd::(?:ifstream|ofstream|fstream)\b|\.open\s*\("
  checks := .ofString
    r"\bthrow\b|[!=]=\s*(?:nullptr|NULL)\b|\bassert\s*\(|\bif\s*\(\s*!\s*\w+\s*\)|\.is_open\s*\(|\bstatic_assert\b"
  testPath := .ofString r"(?:^|/)tests?/|_test\.(?:cpp|cc|cxx)$|Test\.(?:cpp|cc|cxx)$"
  testFunction := .ofString r"^\s*(?:TEST|TEST_F|TEST_P|TEST_CASE|BOOST_AUTO_TEST_CASE)\s*\("
  assertion := .ofString r"\b(?:EXPECT|ASSERT|REQUIRE|CHECK)(?:_\w+)?\s*\(|\bassert\s*\("
  dangers := Danger.common ++ [
    Danger.code "buffer_overflow" r"\b(?:strcpy|strcat|sprintf|gets|scanf)\s*\(",
    Danger.code "command_injection" r"\b(?:system|popen)\s*\(",
    Danger.code "unsafe_cast" r"\breinterpret_cast\b"]
  io := .ofString
    r"\b(?:fopen|fread|fwrite|fprintf|printf|getline|recv|send)\s*\(|\bstd::(?:cout|cin|cerr)\b|\.(?:read|write|open)\s*\("
  concat := .ofString r#"\+=\s*["']|\b\w+\s*=\s*\w+\s*\+\s*["']"#
  imports := [
    .ofString r#"^\s*#\s*include\s*[<"](?P<target>[^>"]+)[>"]"#]

/-!
## Rules for PHP

Comments open with two slashes or a hash sign.
-/

/-- The rules for PHP. -/
def php : Rules where
  language := .php
  comments := { CommentStyle.cLike with line := ["//".toList, "#".toList], docLine := [] }
  blocks := .braces
  functions := [
    .ofString r"^\s*(?:(?:public|private|protected|static|final|abstract)\s+)*function\s+&?(?P<name>\w+)\s*\((?P<params>[^)]*)"]
  classes := [
    .ofString r"^\s*(?:(?:abstract|final|readonly)\s+)*(?:class|interface|trait|enum)\s+(?P<name>\w+)"]
  variablePatterns := [
    .ofString r"\$(?P<name>[a-zA-Z_]\w*)\s*=[^=>]"]
  functionCasings := [.camel, .snake]
  classCasings := [.pascal]
  variableCasings := [.camel, .snake]
  visibility := .unmarked (.ofString r"\b(?:private|protected)\b")
  keywords := [
    "if", "else", "elseif", "for", "foreach", "while", "do", "switch", "case", "catch",
    "return", "throw", "new", "try", "finally", "echo", "print", "include", "require", "use",
    "namespace", "fn", "match", "this"]
  branch := .ofString r"\b(?:if|elseif|for|foreach|while|case|catch|and|or)\b|&&|\|\||\?\?|\s\?\s"
  control := .ofString r"\b(?:if|else|elseif|switch|try|catch|finally)\b"
  loops := .ofString r"\b(?:for|foreach|while|do)\b"
  exits := .ofString r"\b(?:return|throw|exit|die)\b"
  guard := .ofString r"\btry\b"
  risk := .ofString
    r"\b(?:file_get_contents|file_put_contents|fopen|fread|fwrite|curl_exec|json_decode|unserialize|mysqli_query|mysql_query)\s*\(|->(?:query|prepare|execute|request)\s*\("
  checks := .ofString
    r"\bthrow\s+new\b|\b(?:isset|empty|is_null|is_numeric|is_array|is_string|filter_var)\s*\(|[!=]==?\s*null\b|\binstanceof\b"
  testPath := .ofString r"(?:^|/)tests?/|Test\.php$"
  testFunction := .ofString r"^\s*(?:public\s+)?function\s+test\w*\s*\("
  assertion := .ofString r"\$this->assert\w+\s*\(|\bself::assert\w+\s*\(|\bexpect\s*\("
  dangers := Danger.common ++ [
    Danger.code "eval" r"\beval\s*\(",
    Danger.code "command_injection" r"\b(?:exec|shell_exec|system|passthru|proc_open|popen)\s*\(",
    Danger.code "unsafe_deserialization" r"\bunserialize\s*\(",
    Danger.code "file_inclusion" r"\b(?:include|require)(?:_once)?\s*\(?\s*\$",
    Danger.code "xss" r"\b(?:echo|print)\s+\$_(?:GET|POST|REQUEST|COOKIE)\b"]
  io := .ofString
    r"\b(?:file_get_contents|file_put_contents|fopen|fread|fwrite|curl_exec|mysqli_query|echo|print)\b|->(?:query|execute)\s*\("
  concat := .ofString r#"\.=\s*["'$]"#
  imports := [
    .ofString r"^\s*use\s+(?P<target>[\w\\]+)",
    .ofString r#"^\s*(?:require|include)(?:_once)?\s*\(?\s*["'](?P<target>[^"']+)["']"#]

/-!
## Rules for Ruby

Blocks run from a word to `end`, and a comment before a symbol is its documentation.
-/

/-- The rules for Ruby. -/
def ruby : Rules where
  language := .ruby
  comments :=
    { line := ["#".toList]
      block := [⟨"=begin".toList, "=end".toList⟩]
      quotes := ['"', '\'']
      blockAtLineStart := true }
  blocks := .keywords
  functions := [
    .ofString r"^\s*def\s+(?:self\.)?(?P<name>\w+[?!]?)=?\s*\(?(?P<params>[^)#;]*)"]
  classes := [
    .ofString r"^\s*(?:class|module)\s+(?:[A-Z]\w*::)*(?P<name>[A-Z]\w*)"]
  variablePatterns := [
    .ofString r"^\s*(?P<name>@{0,2}[a-z_]\w*)\s*(?:\|\|)?=[^=~>]"]
  functionCasings := [.snake]
  classCasings := [.pascal]
  variableCasings := [.snake]
  commentsDocument := true
  keywords := [
    "if", "unless", "else", "elsif", "while", "until", "for", "case", "when", "begin", "rescue",
    "ensure", "return", "raise", "yield", "do", "end", "then", "next", "break", "puts",
    "require", "require_relative", "include", "extend", "attr_reader", "attr_writer",
    "attr_accessor", "private", "protected", "public", "self"]
  branch := .ofString r"\b(?:if|elsif|unless|while|until|for|when|rescue|and|or)\b|&&|\|\||\s\?\s"
  control := .ofString r"^\s*(?:if|unless|case|begin)\b"
  loops := .ofString
    r"^\s*(?:while|until|for)\b|\.(?:each\w*|map|times|select|flat_map|upto|downto)\b.*\bdo\b"
  exits := .ofString r"\b(?:return|raise|next|break)\b"
  guard := .ofString r"^\s*begin\b"
  risk := .ofString
    r"\b(?:File\.(?:read|open|write|readlines)|JSON\.parse|YAML\.load|Net::HTTP\.\w+|Integer|Float)\s*\(|\bHTTParty\.\w+"
  checks := .ofString
    r"\b(?:raise|rescue)\b|\.nil\?|\b(?:is_a|kind_of)\?|\.(?:blank|empty|present)\?"
  testPath := .ofString r"_spec\.rb$|_test\.rb$|(?:^|/)(?:spec|test)/"
  testFunction := .ofString r#"^\s*(?:it|specify|scenario|test)\s+["']|^\s*def\s+test_\w+"#
  assertion := .ofString r"\bexpect\s*[(\x7b]|\bassert(?:_\w+)?\b|\brefute(?:_\w+)?\b|\.should\b"
  dangers := Danger.common ++ [
    Danger.code "eval" r"\b(?:eval|instance_eval|class_eval)\b",
    Danger.code "command_injection" r"\b(?:system|exec|spawn)\s*\(|%x[(\x7b\[]",
    Danger.code "unsafe_deserialization" r"\bMarshal\.load\b|\bYAML\.load\s*\(",
    Danger.code "unsafe_reflection" r"\b(?:send|public_send|constantize)\s*\(\s*params\b"]
  io := .ofString
    r"\b(?:File\.\w+|IO\.\w+|puts|print|Net::HTTP\.\w+|HTTParty\.\w+)|\.(?:save|create|update)!?\s*[(\s]"
  concat := .ofString r#"\+=\s*["']|<<\s*["']"#
  imports := [
    .ofString r#"^\s*require(?:_relative)?\s*\(?\s*["'](?P<target>[^"']+)["']"#]
  openers := .ofString
    r"^\s*(?:def|class|module|if|unless|while|until|for|case|begin)\b|\bdo\b\s*(?:\|[^|]*\|)?\s*$"
  closers := .ofString r"^\s*end\b"

/-!
## Rules for Swift

Declarations carry any number of modifiers and attributes in front.
-/

/-- The modifiers and attributes in front of a declaration. -/
def modifiers : String :=
  r"(?:(?:public|private|fileprivate|internal|open|static|class|final|override|mutating|nonmutating|convenience|required|@\w+(?:\([^)]*\))?)\s+)*"

/-- The rules for Swift. -/
def swift : Rules where
  language := .swift
  comments :=
    { CommentStyle.cLike with quotes := ['"'], multilineStrings := ["\"\"\"".toList] }
  blocks := .braces
  functions := [
    .ofString (r"^\s*" ++ modifiers ++ r"func\s+(?P<name>\w+)\s*(?:<[^>]*>)?\s*\((?P<params>[^)]*)"),
    .ofString (r"^\s*" ++ modifiers ++ r"(?P<name>init)\??\s*\((?P<params>[^)]*)")]
  classes := [
    .ofString (r"^\s*" ++ modifiers ++ r"(?:class|struct|enum|protocol|extension|actor)\s+(?P<name>\w+)\s*(?:<[^>]*>)?\s*(?::|\x7b|$|where\b)")]
  variablePatterns := [
    .ofString r"\b(?:let|var)\s+(?P<name>\w+)"]
  functionCasings := [.camel]
  classCasings := [.pascal]
  variableCasings := [.camel]
  visibility := .unmarked (.ofString r"\b(?:private|fileprivate)\b")
  keywords := [
    "if", "else", "for", "while", "repeat", "switch", "case", "catch", "return", "throw",
    "guard", "defer", "do", "try", "await", "let", "var", "import", "where", "in"]
  branch := .ofString r"\b(?:if|guard|for|while|case|catch)\b|&&|\|\||\?\?|\s\?\s"
  control := .ofString r"\b(?:if|else|guard|switch|do|catch|defer)\b"
  loops := .ofString r"\b(?:for|while|repeat)\b|\.forEach\s*\x7b"
  exits := .ofString r"\b(?:return|throw)\b"
  guard := .ofString r"\bdo\b"
  risk := .ofString r"\btry\s|\bURLSession\.shared\.\w+\s*\("
  checks := .ofString r"\b(?:guard|throw|precondition|assert)\b|\btry\?|[!=]=\s*nil\b|\bif\s+let\b"
  testPath := .ofString r"Tests?\.swift$|(?:^|/)\w*Tests/"
  testFunction := .ofString r"^\s*func\s+test\w*\s*\(|^\s*@Test\b"
  assertion := .ofString r"\bXCTAssert\w*\s*\(|#expect\s*\("
  dangers := Danger.common ++ [
    Danger.code "force_try" r"\btry!",
    Danger.code "force_cast" r"\bas!",
    Danger.code "unsafe_pointer" r"\bUnsafe(?:Mutable)?(?:Raw)?(?:Buffer)?Pointer\b"]
  io := .ofString r"\b(?:print|URLSession\.\w+|FileManager\.\w+)\b|\.(?:write|dataTask)\s*\("
  concat := .ofString r#"\+=\s*"|\b\w+\s*=\s*\w+\s*\+\s*""#
  imports := [
    .ofString r"^\s*(?:@testable\s+)?import\s+(?:(?:class|struct|func|enum|protocol)\s+)?(?P<target>[\w.]+)"]

/-!
## Rules for HTML

The names of a page are the values of `id` and `class`; attribute values are part of the code.
-/

/-- The rules for HTML. -/
def html : Rules where
  language := .html
  comments := { block := [⟨"<!--".toList, "-->".toList⟩] }
  blocks := .flat
  variablePatterns := [
    .ofString r#"\b(?:id|class)\s*=\s*["'](?P<name>[^"']+)["']"#]
  variableCasings := [.kebab, .camel]
  dangers := [
    Danger.code "javascript_url" r#"(?i)\b(?:href|src)\s*=\s*["']?\s*javascript:"#,
    Danger.code "inline_event_handler" r"(?i)\bon(?:click|load|error|mouseover|submit|change|focus|blur)\s*=",
    Danger.code "insecure_form" r#"(?i)<form\b[^>]*\baction\s*=\s*["']?http://"#]
  imports := [
    .ofString r#"<script\b[^>]*\bsrc\s*=\s*["'](?P<target>[^"']+)["']"#,
    .ofString r#"<link\b[^>]*\bhref\s*=\s*["'](?P<target>[^"']+)["']"#]

/-!
## Rules for CSS

Style sheets have neither functions nor variables; what they import are other style sheets.
-/

/-- The rules for CSS. -/
def css : Rules where
  language := .css
  comments := { CommentStyle.cLike with line := [], docLine := [] }
  blocks := .flat
  dangers := [
    Danger.code "expression" r"(?i)\bexpression\s*\(",
    Danger.written "javascript_url" r#"(?i)\burl\s*\(\s*["']?\s*javascript:"#,
    Danger.written "insecure_import" r#"(?i)@import\s+(?:url\()?\s*["']?http://"#]
  imports := [
    .ofString r#"^\s*@(?:import|use|forward)\s+(?:url\()?\s*["']?(?P<target>[^"')\s;]+)"#]

end Rules

/-- The pattern rules of a language. -/
def Language.rules : Language → Rules
  | .python => .python
  | .javascript => .javascript
  | .typescript => .typescript
  | .java => .java
  | .go => .go
  | .csharp => .csharp
  | .cpp => .cpp
  | .php => .php
  | .ruby => .ruby
  | .swift => .swift
  | .html => .html
  | .css => .css

end Affinity
