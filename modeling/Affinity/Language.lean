import Affinity.Unicode
import Affinity.Text.Lines

/-!
# Languages

The twelve languages that are scored, in their canonical order. A file's language is told by the
extension of its path (`Language.detect?`); in settings a language is called by its key, its display
name or an alias, in any letter case (`Language.ofName?`).
-/

namespace Affinity

/-- A language. The order of the constructors is the order of reports and breaks ties. -/
inductive Language where
  | python
  | javascript
  | typescript
  | java
  | go
  | csharp
  | cpp
  | php
  | ruby
  | swift
  | html
  | css
  deriving DecidableEq, Repr, Inhabited

namespace Language

/-- All languages in their order. -/
def all : List Language :=
  [python, javascript, typescript, java, go, csharp, cpp, php, ruby, swift, html, css]

/-- The position in the canonical order. -/
def rank : Language → Nat
  | python => 0
  | javascript => 1
  | typescript => 2
  | java => 3
  | go => 4
  | csharp => 5
  | cpp => 6
  | php => 7
  | ruby => 8
  | swift => 9
  | html => 10
  | css => 11

instance : Ord Language := ⟨fun a b => compare a.rank b.rank⟩

/-- The name used in settings and in structured reports. -/
def key : Language → String
  | python => "python"
  | javascript => "javascript"
  | typescript => "typescript"
  | java => "java"
  | go => "go"
  | csharp => "csharp"
  | cpp => "cpp"
  | php => "php"
  | ruby => "ruby"
  | swift => "swift"
  | html => "html"
  | css => "css"

/-- The name shown to people. -/
def displayName : Language → String
  | python => "Python"
  | javascript => "JavaScript"
  | typescript => "TypeScript"
  | java => "Java"
  | go => "Go"
  | csharp => "C#"
  | cpp => "C++"
  | php => "PHP"
  | ruby => "Ruby"
  | swift => "Swift"
  | html => "HTML"
  | css => "CSS"

/-- Further names by which settings may call a language. -/
def aliases : Language → List String
  | javascript => ["js"]
  | typescript => ["ts"]
  | go => ["golang"]
  | csharp => ["c#"]
  | cpp => ["c++"]
  | _ => []

/-- The extensions of a language's files, without the dot. -/
def extensions : Language → List String
  | python => ["py"]
  | javascript => ["js", "jsx", "mjs"]
  | typescript => ["ts", "tsx"]
  | java => ["java"]
  | go => ["go"]
  | csharp => ["cs"]
  | cpp => ["cpp", "cc", "cxx", "hpp", "h", "hh"]
  | php => ["php", "php3", "php4", "php5", "phtml"]
  | ruby => ["rb", "rake", "gemspec"]
  | swift => ["swift"]
  | html => ["html", "htm", "xhtml"]
  | css => ["css", "scss", "sass", "less"]

/-- The language knows classes. -/
def supportsClasses : Language → Bool
  | go | html | css => false
  | _ => true

/-- Markup and style sheets have no functions, branches or calls. -/
def isMarkup : Language → Bool
  | html | css => true
  | _ => false

/-- The language's files are read by a grammar; those of the others by pattern rules. -/
def hasGrammar : Language → Bool
  | python => true
  | _ => false

/-- The language with a given extension, in any letter case. -/
def ofExtension? (extension : String) : Option Language :=
  let wanted := lowercase extension
  all.find? fun language => language.extensions.contains wanted

/-- The language with a given name, in any letter case. -/
def ofName? (name : String) : Option Language :=
  let wanted := lowercase name
  all.find? fun language => wanted == language.key || language.aliases.contains wanted

/-- The language with exactly this key. -/
def ofKey? (key : String) : Option Language :=
  all.find? fun language => language.key == key

/-- Every recognized extension, in the order of the languages. -/
def allExtensions : List String :=
  all.flatMap extensions

end Language

end Affinity
