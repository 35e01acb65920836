import Affinity.Facts
import Affinity.Rules.Basic
import Affinity.Text.Lines

/-!
# Declarations

* `Rules.declaration?` — the function or class that a line of code declares.
* `Rules.naming` — the declared functions, classes and variables held against the conventions.
* `Rules.docs` — how many public symbols there are and how many of them are documented.
-/

namespace Affinity

/-!
## Declarations

Classes come before functions, and each before those of later patterns; a line that begins with a
keyword declares nothing.
-/

/-- A declared function or class. -/
inductive Declaration where
  /-- A function; `receiver` is the type to which it belongs if the declaration names it. -/
  | function (name : List Char) (params : Nat) (receiver : Option (List Char))
  | classLike (name : List Char)
  deriving DecidableEq, Repr

namespace Declaration

/-- The name that is declared. -/
def name : Declaration → List Char
  | function name _ _ => name
  | classLike name => name

/-- The type to which a function belongs, if its declaration names it. -/
def receiver? : Declaration → Option (List Char)
  | function _ _ receiver => receiver
  | classLike _ => none

end Declaration

/-- The first word of a line: letters, digits and underscores. -/
def firstWord (code : List Char) : List Char :=
  ((fields (fun c => !isAlphanumeric c && c != '_') code).head?).getD []

/-- What stands behind the last pair of colons in a name, if there is one. -/
def behindColons? : List Char → Option (List Char)
  | [] => none
  | c :: rest =>
    behindColons? rest <|> if startsWith (c :: rest) "::" then some (rest.drop 1) else none

/-- A name without the names in front of it that are set off by pairs of colons. -/
def unqualified (name : List Char) : List Char := (behindColons? name).getD name

namespace Rules

/-- The class that a line declares, by one pattern. -/
def classBy? (code : Array Char) (pattern : Pattern) : Option Declaration :=
  (pattern.find? code).bind fun found => (found.group? code "name").map .classLike

/-- The function that a line declares, by one pattern. -/
def functionBy? (rules : Rules) (code : Array Char) (pattern : Pattern) : Option Declaration :=
  (pattern.find? code).bind fun found =>
    match found.group? code "name" with
    | none => none
    | some qualified =>
      let name := unqualified qualified
      if name.isEmpty || rules.isKeyword name then none
      else
        some (.function name (((found.group? code "params").map parameterCount).getD 0)
          (found.group? code "receiver"))

/-- The declaration on a line of code. -/
def declaration? (rules : Rules) (code : List Char) : Option Declaration :=
  if rules.isKeyword (firstWord code) then none
  else
    (rules.classes.findSome? (classBy? code.toArray)) <|>
      (rules.functions.findSome? (rules.functionBy? code.toArray))

end Rules

/-! ## Names and documentation of the declared symbols -/

namespace Rules

/-- The names of variables declared in the rows, each once, in ascending order. -/
def variableNames (rules : Rules) (rows : List Row) : List String :=
  let names := rows.flatMap fun row => rules.variablePatterns.flatMap fun pattern =>
    (pattern.groups "name" row.code).flatMap (fields fun c => isBlank c || c = ',')
  (Table.tally (names.map String.ofList)).keys

/-- The names of a file held against the conventions. A constant may be written in capitals
wherever a variable may stand. -/
def naming (rules : Rules) (declarations : List (Nat × Declaration)) (rows : List Row) :
    NamingFacts :=
  let declared := declarations.foldl (fun naming (_, declaration) =>
    match declaration with
    | .function name _ _ => naming.record rules.functionCasings name
    | .classLike name => naming.record rules.classCasings name) {}
  let names := (rules.variableNames rows).filter fun name => !rules.keywords.contains name
  names.foldl (fun naming name =>
    naming.record (rules.variableCasings ++ [.screamingSnake]) name.toList) declared

/-- The symbol declared on a line may be used by others. -/
def isPublic (rules : Rules) (name line : List Char) : Bool :=
  match rules.visibility with
  | .marked marker => marker.isMatch line
  | .unmarked hidden =>
    name.head? != some '_' && name.head? != some '#' && !hidden.isMatch line
  | .capitalized => name.head?.any isUppercase

/-- A line that annotates the declaration below it. -/
def isAnnotation (code : List Char) : Bool :=
  let text := trimStart code
  startsWith text "@" || startsWith text "#[" ||
    (startsWith text "[" && endsWith (trimEnd text) "]")

/-- A line of this kind documents the declaration next to it. -/
def documents (rules : Rules) : LineKind → Bool
  | .doc => true
  | .comment => rules.commentsDocument
  | _ => false

/-- The declaration on line `line` is documented. -/
def isDocumented (rules : Rules) (rows : List Row) (line : Nat) : Bool :=
  let neighbour :=
    match rules.docPosition with
    | .before => previousSignificant isAnnotation rows line
    | .after => nextSignificant rows line
  (neighbour.bind (rows[·]?)).any fun row => rules.documents row.kind

/-- The documentation of a file. -/
def docs (rules : Rules) (declarations : List (Nat × Declaration)) (rows : List Row) : DocFacts :=
  let visible := declarations.filter fun (line, declaration) =>
    rules.isPublic declaration.name ((rows[line]?.map (·.code)).getD [])
  { publicSymbols := visible.length
    documentedSymbols := visible.countP fun (line, _) => rules.isDocumented rows line
    moduleDoc := hasHeader (rules.commentsDocument || rules.docPosition == .before) rows }

end Rules

end Affinity
