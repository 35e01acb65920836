import Affinity.Facts
import Affinity.Json

/-!
# Facts as structured values

`FileFacts.toJson` writes the facts about a file and `FileFacts.ofJson?` reads them; every field has
to be there, except for those that may be null. The texts behind the fingerprints are left out.
-/

namespace Affinity

open Json (ofNat)

/-- The counts of lines as a structured value. -/
def LineCounts.toJson (c : LineCounts) : Json := .obj [
  ("total", ofNat c.total), ("code", ofNat c.code), ("comment", ofNat c.comment),
  ("doc", ofNat c.doc), ("blank", ofNat c.blank)]

/-- The counts of lines, read from a structured value. -/
def LineCounts.ofJson? (v : Json) : Option LineCounts := do
  return {
    total := ← v.get? "total" Json.nat?
    code := ← v.get? "code" Json.nat?
    comment := ← v.get? "comment" Json.nat?
    doc := ← v.get? "doc" Json.nat?
    blank := ← v.get? "blank" Json.nat? }

/-- The counts of names as a structured value. -/
def NamingFacts.toJson (n : NamingFacts) : Json := .obj [
  ("total", ofNat n.total), ("conventional", ofNat n.conventional), ("short", ofNat n.short)]

/-- The counts of names, read from a structured value. -/
def NamingFacts.ofJson? (v : Json) : Option NamingFacts := do
  return {
    total := ← v.get? "total" Json.nat?
    conventional := ← v.get? "conventional" Json.nat?
    short := ← v.get? "short" Json.nat? }

/-- The counts of documented symbols as a structured value. -/
def DocFacts.toJson (d : DocFacts) : Json := .obj [
  ("public_symbols", ofNat d.publicSymbols), ("documented_symbols", ofNat d.documentedSymbols),
  ("module_doc", .bool d.moduleDoc)]

/-- The counts of documented symbols, read from a structured value. -/
def DocFacts.ofJson? (v : Json) : Option DocFacts := do
  return {
    publicSymbols := ← v.get? "public_symbols" Json.nat?
    documentedSymbols := ← v.get? "documented_symbols" Json.nat?
    moduleDoc := ← v.get? "module_doc" Json.bool? }

/-- The facts about a function as a structured value. -/
def FunctionFacts.toJson (f : FunctionFacts) : Json := .obj [
  ("name", .str f.name), ("line", ofNat f.line), ("lines", ofNat f.lines),
  ("params", ofNat f.params), ("branches", ofNat f.branches),
  ("max_nesting", ofNat f.maxNesting), ("early_returns", ofNat f.earlyReturns),
  ("max_loop_depth", ofNat f.maxLoopDepth), ("io_in_loop", ofNat f.ioInLoop),
  ("concat_in_loop", ofNat f.concatInLoop)]

/-- The facts about a function, read from a structured value. -/
def FunctionFacts.ofJson? (v : Json) : Option FunctionFacts := do
  return {
    name := ← v.get? "name" Json.str?
    line := ← v.get? "line" Json.nat?
    lines := ← v.get? "lines" Json.nat?
    params := ← v.get? "params" Json.nat?
    branches := ← v.get? "branches" Json.nat?
    maxNesting := ← v.get? "max_nesting" Json.nat?
    earlyReturns := ← v.get? "early_returns" Json.nat?
    maxLoopDepth := ← v.get? "max_loop_depth" Json.nat?
    ioInLoop := ← v.get? "io_in_loop" Json.nat?
    concatInLoop := ← v.get? "concat_in_loop" Json.nat? }

/-- The facts about a class as a structured value. -/
def ClassFacts.toJson (c : ClassFacts) : Json := .obj [
  ("name", .str c.name), ("line", ofNat c.line), ("lines", ofNat c.lines),
  ("methods", ofNat c.methods)]

/-- The facts about a class, read from a structured value. -/
def ClassFacts.ofJson? (v : Json) : Option ClassFacts := do
  return {
    name := ← v.get? "name" Json.str?
    line := ← v.get? "line" Json.nat?
    lines := ← v.get? "lines" Json.nat?
    methods := ← v.get? "methods" Json.nat? }

/-- The counts of error handling as a structured value. -/
def ErrorFacts.toJson (e : ErrorFacts) : Json := .obj [
  ("risk", ofNat e.risk), ("guarded", ofNat e.guarded), ("checks", ofNat e.checks)]

/-- The counts of error handling, read from a structured value. -/
def ErrorFacts.ofJson? (v : Json) : Option ErrorFacts := do
  return {
    risk := ← v.get? "risk" Json.nat?
    guarded := ← v.get? "guarded" Json.nat?
    checks := ← v.get? "checks" Json.nat? }

/-- The counts of tests as a structured value. -/
def TestFacts.toJson (t : TestFacts) : Json := .obj [
  ("is_test_file", .bool t.isTestFile), ("test_functions", ofNat t.testFunctions),
  ("assertions", ofNat t.assertions)]

/-- The counts of tests, read from a structured value. -/
def TestFacts.ofJson? (v : Json) : Option TestFacts := do
  return {
    isTestFile := ← v.get? "is_test_file" Json.bool?
    testFunctions := ← v.get? "test_functions" Json.nat?
    assertions := ← v.get? "assertions" Json.nat? }

/-- The habits of layout as a structured value. -/
def StyleFacts.toJson (s : StyleFacts) : Json := .obj [
  ("indent_unit", Json.ofOption ofNat s.indentUnit), ("tab_lines", ofNat s.tabLines),
  ("space_lines", ofNat s.spaceLines), ("brace_same_line", ofNat s.braceSameLine),
  ("brace_next_line", ofNat s.braceNextLine), ("crlf", .bool s.crlf),
  ("trailing_whitespace", ofNat s.trailingWhitespace)]

/-- The habits of layout, read from a structured value. -/
def StyleFacts.ofJson? (v : Json) : Option StyleFacts := do
  return {
    indentUnit := ← v.getOption? "indent_unit" Json.nat?
    tabLines := ← v.get? "tab_lines" Json.nat?
    spaceLines := ← v.get? "space_lines" Json.nat?
    braceSameLine := ← v.get? "brace_same_line" Json.nat?
    braceNextLine := ← v.get? "brace_next_line" Json.nat?
    crlf := ← v.get? "crlf" Json.bool?
    trailingWhitespace := ← v.get? "trailing_whitespace" Json.nat? }

/-- The counts of explicit types as a structured value. -/
def TypeFacts.toJson (t : TypeFacts) : Json := .obj [
  ("annotatable", ofNat t.annotatable), ("annotated", ofNat t.annotated)]

/-- The counts of explicit types, read from a structured value. -/
def TypeFacts.ofJson? (v : Json) : Option TypeFacts := do
  return {
    annotatable := ← v.get? "annotatable" Json.nat?
    annotated := ← v.get? "annotated" Json.nat? }

/-- The language with a given key. -/
def Language.ofJson? (v : Json) : Option Language := v.str?.bind Language.ofKey?

/-- A language as a structured value. -/
def Language.toJson (language : Language) : Json := .str language.key

namespace FileFacts

/-- The facts about a file as a structured value. -/
def toJson (f : FileFacts) : Json := .obj [
  ("path", .str f.path), ("language", f.language.toJson), ("lines", f.lines.toJson),
  ("naming", f.naming.toJson), ("docs", f.docs.toJson),
  ("functions", .arr (f.functions.map (·.toJson))), ("classes", .arr (f.classes.map (·.toJson))),
  ("errors", f.errors.toJson), ("tests", f.tests.toJson),
  ("security", Json.ofTable ofNat f.security), ("style", f.style.toJson),
  ("imports", Json.strings f.imports), ("markers", Json.ofTable ofNat f.markers),
  ("patterns", Json.ofTable ofNat f.patterns), ("magic_numbers", ofNat f.magicNumbers),
  ("types", Json.ofOption TypeFacts.toJson f.types), ("fallback", .bool f.fallback)]

/-- The facts about a file, read from a structured value. -/
def ofJson? (v : Json) : Option FileFacts := do
  return {
    path := ← v.get? "path" Json.str?
    language := ← v.get? "language" Language.ofJson?
    lines := ← v.get? "lines" LineCounts.ofJson?
    naming := ← v.get? "naming" NamingFacts.ofJson?
    docs := ← v.get? "docs" DocFacts.ofJson?
    functions := ← v.get? "functions" (Json.list? FunctionFacts.ofJson?)
    classes := ← v.get? "classes" (Json.list? ClassFacts.ofJson?)
    errors := ← v.get? "errors" ErrorFacts.ofJson?
    tests := ← v.get? "tests" TestFacts.ofJson?
    security := ← v.get? "security" (Json.table? Json.nat?)
    style := ← v.get? "style" StyleFacts.ofJson?
    imports := ← v.get? "imports" (Json.list? Json.str?)
    markers := ← v.get? "markers" (Json.table? Json.nat?)
    patterns := ← v.get? "patterns" (Json.table? Json.nat?)
    magicNumbers := ← v.get? "magic_numbers" Json.nat?
    types := ← v.getOption? "types" TypeFacts.ofJson?
    fallback := ← v.get? "fallback" Json.bool? }

end FileFacts

end Affinity
