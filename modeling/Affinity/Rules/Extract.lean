import Affinity.Facts
import Affinity.Rules.Blocks
import Affinity.Rules.Declaration
import Affinity.Rules.Tables

/-!
# Facts by pattern rules

`Rules.extract` counts everything in a file that the rules of its language describe, and
`SourceFile.ruleFacts` adds what is counted in files of some languages only.
-/

namespace Affinity

/-!
## Signatures of design patterns

`designPatterns` looks for signs of six design patterns in all code of a file. A pattern is found
at most once in a file.
-/

namespace DesignPattern

/-- A single instance is asked for or kept. -/
def singleton : Pattern := .ofString
  r"(?i)\bget_?instance\s*\(|\bshared(?:_?instance)?\s*[:=]|\b_instance\s*[:=]|\bstatic\s+(?:readonly\s+|final\s+)?[\w<>]*\s*_?instance\b|@@instance\b"

/-- The name of a class or function that makes others. -/
def factoryName : Pattern := .ofString r"(?i)factory|^create_?[a-z0-9]|^make_?[a-z0-9]"

/-- Something is made. -/
def instantiation : Pattern := .ofString r"\bnew\s+[A-Z]\w*|\breturn\s+[A-Z]\w*\s*\("

/-- An observer is registered. -/
def observerRegister : Pattern := .ofString
  r"(?i)\b(?:subscribe|add_?(?:event_?)?listener|add_?observer|register_?(?:observer|listener|handler|callback)|attach)\s*\("

/-- Observers are told of something. -/
def observerNotify : Pattern := .ofString
  r"(?i)\b(?:notify\w*|emit|dispatch(?:_?event)?|publish|trigger|fire_?event)\s*\("

/-- A class that builds others. -/
def builderClass : Pattern := .ofString r"(?i)\b(?:class|struct)\s+\w*builder\b"

/-- A method that can be chained. -/
def returnSelf : Pattern := .ofString r"(?m)\breturn\s+(?:self|this|\$this)\s*;?\s*$"

/-- Something is wrapped. -/
def decorator : Pattern := .ofString
  r"(?i)\bclass\s+\w*decorator\b|functools\.wraps|\bdef\s+\w+\s*\(\s*(?:func|fn|f|wrapped)\s*\)"

/-- A class that stands for a way to do something. -/
def strategy : Pattern := .ofString r"(?i)\b(?:class|interface|protocol|trait)\s+\w*strategy\b"

/-- Some function or class is named like a factory. -/
def namesFactory (functions : List FunctionFacts) (classes : List ClassFacts) : Bool :=
  functions.any (fun f => factoryName.isMatch f.name.toList) ||
    classes.any fun c => contains (lowercase c.name).toList "factory".toList

end DesignPattern

open DesignPattern in
/-- The design patterns that show in a file, each counted once. -/
def designPatterns (functions : List FunctionFacts) (classes : List ClassFacts)
    (code : List Char) : Table String Nat :=
  let found : List (String × Bool) :=
    [("singleton", singleton.isMatch code),
     ("factory", namesFactory functions classes && instantiation.isMatch code),
     ("observer", observerRegister.isMatch code && observerNotify.isMatch code),
     ("builder", builderClass.isMatch code || 2 ≤ returnSelf.count code),
     ("decorator", decorator.isMatch code),
     ("strategy", strategy.isMatch code)]
  Table.tally ((found.filter (·.2)).map (·.1))

/-! ## Everything that the rules describe -/

/-- All code of a file, one line per row. -/
def codeText (rows : List Row) : List Char :=
  (rows.map (·.code)).intersperse ['\n'] |>.flatten

/-- The dangerous constructs on the code lines, by kind. -/
def dangerousConstructs (dangers : List Danger) (rows : List Row) : Table String Nat :=
  let code := rows.filter Row.isCode
  dangers.foldl (fun table danger =>
    let hits := sumOf (code.map fun row =>
      danger.pattern.count (if danger.raw then row.raw else row.code))
    if hits = 0 then table else table.add danger.kind hits) {}

namespace Rules

/-- The targets of the imports on the code lines, in order. -/
def importTargets (rules : Rules) (rows : List Row) : List String :=
  let code := rows.filter Row.isCode
  code.flatMap fun row => rules.imports.flatMap fun pattern =>
    (((pattern.groups "target" row.raw).map trim).filter (!·.isEmpty)).map String.ofList

/-- The facts about a file, from its rows. -/
def extractRows (rules : Rules) (file : SourceFile) (rows : List Row) : FileFacts :=
  let blocks := rules.scanBlocks rows
  let code := codeText rows
  { path := file.key
    language := file.language
    lines := .ofRows rows
    naming := rules.naming blocks.declarations rows
    docs := rules.docs blocks.declarations rows
    functions := blocks.functions
    classes := blocks.classes
    errors := blocks.errors
    tests :=
      { isTestFile := rules.testPath.isMatch file.key.toList
        testFunctions := rows.countP fun row => rules.testFunction.isMatch row.code
        assertions := rules.assertion.count code }
    security := dangerousConstructs rules.dangers rows
    style := .ofRows file.text rows
    imports := rules.importTargets rows
    markers := Table.tally (markers rows)
    patterns :=
      if rules.language.isMarkup then {} else designPatterns blocks.functions blocks.classes code
    magicNumbers := if rules.language.isMarkup then 0 else magicNumberCount rows
    fingerprints := fingerprints rows }

/-- The rows of a file. -/
def rowsOf (rules : Rules) (file : SourceFile) : List Row :=
  classify rules.comments file.text

/-- The facts about a file. -/
def extract (rules : Rules) (file : SourceFile) : FileFacts :=
  rules.extractRows file (rules.rowsOf file)

end Rules

/-!
## Type annotations

`typeAnnotations` counts the places of a TypeScript file that could carry an explicit type —
parameters, results of functions, variables — and those that do.
-/

namespace TypeFacts

/-- The counts of two texts together. -/
def add (a b : TypeFacts) : TypeFacts :=
  ⟨a.annotatable + b.annotatable, a.annotated + b.annotated⟩

/-- One place, annotated or not. -/
def place (annotated : Bool) : TypeFacts := ⟨1, if annotated then 1 else 0⟩

/-- The places of some parts together. -/
def sum (parts : List TypeFacts) : TypeFacts := parts.foldl add {}

/-- The parameters of a signature: the parts between commas that are not blank. -/
def ofParameters (params : List Char) : TypeFacts :=
  sum (((pieces (· = ',') params).filter fun part => !allBlank part).map fun part =>
    place (part.contains ':'))

/-- The head of a function: groups `params` and `ret`. -/
def signature : Pattern := .ofString
  r"(?:\bfunction\s*\*?\s*[\w$]*|\b(?:const|let|var)\s+[\w$]+\s*=\s*(?:async\s*)?)\s*(?:<[^>]*>)?\s*\((?P<params>[^)]*)\)(?P<ret>\s*:\s*[\w$<\[\x7b])?"

/-- The declaration of a variable: group `typed`. -/
def variableDeclaration : Pattern :=
  .ofString r"\b(?:const|let|var)\s+[\w$]+\s*(?P<typed>:)?"

/-- The places on a line of code. -/
def ofCode (code : List Char) : TypeFacts :=
  let text := code.toArray
  let functions := (signature.findAll text).map fun found =>
    (ofParameters ((found.group? text "params").getD [])).add
      (place (found.group? text "ret").isSome)
  let bindings := (variableDeclaration.findAll text).map fun found =>
    place (found.group? text "typed").isSome
  (sum functions).add (sum bindings)

end TypeFacts

/-- The places on the code lines of a file. -/
def typeAnnotations (rows : List Row) : TypeFacts :=
  .sum ((rows.filter Row.isCode).map fun row => .ofCode row.code)

/-!
## Selectors

The names in a style sheet are the classes and ids in its selectors. Values of properties are not
looked at, so a colour written with a hash sign is no name.
-/

/-- The part of a code line that is a selector: what stands before the brace, or the whole line if
a list of selectors goes on below. -/
def selectorText? (code : List Char) : Option (List Char) :=
  let text := trim code
  if startsWith text "@" then none
  else if text.contains '\x7b' then some (text.takeWhile (· != '\x7b'))
  else if endsWith text "," then some text
  else none

/-- A class or an id in a selector. -/
def selectorName : Pattern := .ofString r"[.#](?P<name>-?[A-Za-z_][\w-]*)"

/-- The class and id names of a style sheet held against the conventions for them. -/
def selectorNaming (rows : List Row) : NamingFacts :=
  let names := (rows.filterMap fun row => selectorText? row.code).flatMap
    (selectorName.groups "name")
  names.foldl (fun naming name => naming.record [.kebab, .camel] name) {}

/-! ## Files of any language -/

/-- A page or a style sheet is documented if there is any comment in it. -/
def FileFacts.withCommentsAsDoc (facts : FileFacts) : FileFacts :=
  { facts with docs :=
      { facts.docs with moduleDoc := 0 < facts.lines.comment + facts.lines.doc } }

/-- The facts about a file by the rules of its language. -/
def SourceFile.ruleFacts (file : SourceFile) : FileFacts :=
  let rules := file.language.rules
  let rows := rules.rowsOf file
  let facts := rules.extractRows file rows
  match file.language with
  | .typescript => { facts with types := some (typeAnnotations rows) }
  | .html => facts.withCommentsAsDoc
  | .css => { facts with naming := selectorNaming rows }.withCommentsAsDoc
  | _ => facts

end Affinity
