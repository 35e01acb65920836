import Affinity.Json
import Affinity.Settings.Basic

/-!
# Settings as structured values

`Settings.toJson` writes settings and `Settings.ofJson?` reads them. A field that is missing has its
default; a field that is not known is passed over.
-/

namespace Affinity

open Json (ofNat)

/-- A field of an object, or its default if it is missing. -/
def Json.getD? {α : Type} (value : Json) (name : String) (read : Json → Option α) (default : α) :
    Option α :=
  match value.field? name with
  | some field => read field
  | none => some default

/-- The value is an object. -/
def Json.isObject : Json → Bool
  | .obj _ => true
  | _ => false

namespace Weights

/-- The weights as a structured value. -/
def toJson (weights : Weights Float) : Json :=
  .obj (Category.all.map fun c => (c.key, .float (weights.of c)))

/-- The weights, read from a structured value. -/
def ofJson? (v : Json) : Option (Weights Float) :=
  if !v.isObject then none
  else do
    let values ← Category.all.mapM fun c => v.getD? c.key Json.float? (Weights.standard.of c)
    return ⟨fun c => values.getD c.rank 0⟩

end Weights

/-- The limits as a structured value. -/
def Limits.toJson (limits : Limits) : Json := .obj [
  ("max_files_per_language", ofNat limits.maxFilesPerLanguage),
  ("max_file_bytes", ofNat limits.maxFileBytes)]

/-- The limits, read from a structured value. -/
def Limits.ofJson? (v : Json) : Option Limits :=
  if !v.isObject then none
  else do
    let d : Limits := {}
    return {
      maxFilesPerLanguage :=
        ← v.getD? "max_files_per_language" Json.nat? d.maxFilesPerLanguage
      maxFileBytes := ← v.getD? "max_file_bytes" Json.nat? d.maxFileBytes }

/-- How the program runs as a structured value. -/
def Runtime.toJson (runtime : Runtime) : Json := .obj [
  ("workers", ofNat runtime.workers), ("timeout_secs", ofNat runtime.timeoutSecs)]

/-- How the program runs, read from a structured value. -/
def Runtime.ofJson? (v : Json) : Option Runtime :=
  if !v.isObject then none
  else do
    let d : Runtime := {}
    return {
      workers := ← v.getD? "workers" Json.nat? d.workers
      timeoutSecs := ← v.getD? "timeout_secs" Json.nat? d.timeoutSecs }

namespace Thresholds

/-- The thresholds as a structured value. -/
def toJson (t : Thresholds Float) : Json := .obj [
  ("duplication_window", ofNat t.duplicationWindow),
  ("god_class_methods", ofNat t.godClassMethods),
  ("god_class_lines", ofNat t.godClassLines),
  ("spaghetti_lines", ofNat t.spaghettiLines),
  ("spaghetti_nesting", ofNat t.spaghettiNesting),
  ("long_parameter_list", ofNat t.longParameterList),
  ("monolithic_file_lines", ofNat t.monolithicFileLines),
  ("complexity_per_function", .float t.complexityPerFunction),
  ("max_recommendations", ofNat t.maxRecommendations)]

/-- The thresholds, read from a structured value. -/
def ofJson? (v : Json) : Option (Thresholds Float) :=
  if !v.isObject then none
  else do
    let d : Thresholds Float := .standard
    return {
      duplicationWindow := ← v.getD? "duplication_window" Json.nat? d.duplicationWindow
      godClassMethods := ← v.getD? "god_class_methods" Json.nat? d.godClassMethods
      godClassLines := ← v.getD? "god_class_lines" Json.nat? d.godClassLines
      spaghettiLines := ← v.getD? "spaghetti_lines" Json.nat? d.spaghettiLines
      spaghettiNesting := ← v.getD? "spaghetti_nesting" Json.nat? d.spaghettiNesting
      longParameterList := ← v.getD? "long_parameter_list" Json.nat? d.longParameterList
      monolithicFileLines := ← v.getD? "monolithic_file_lines" Json.nat? d.monolithicFileLines
      complexityPerFunction :=
        ← v.getD? "complexity_per_function" Json.float? d.complexityPerFunction
      maxRecommendations := ← v.getD? "max_recommendations" Json.nat? d.maxRecommendations }

end Thresholds

/-- A format as a structured value. -/
def Format.toJson (format : Format) : Json := .str format.key

/-- The format with exactly the given key. -/
def Format.ofJson? (v : Json) : Option Format := v.str?.bind Format.ofKey?

/-- The settings of the output as a structured value. -/
def OutputSettings.toJson (output : OutputSettings) : Json := .obj [
  ("format", output.format.toJson), ("color", .bool output.color)]

/-- The settings of the output, read from a structured value. -/
def OutputSettings.ofJson? (v : Json) : Option OutputSettings :=
  if !v.isObject then none
  else do
    let d : OutputSettings := {}
    return {
      format := ← v.getD? "format" Format.ofJson? d.format
      color := ← v.getD? "color" Json.bool? d.color }

/-- The importance of languages. -/
def importanceOfJson? (v : Json) : Option (Table String Float) :=
  if !v.isObject then none else v.getD? "importance_multiplier" (Json.table? Json.float?) {}

namespace Settings

/-- The settings as a structured value. -/
def toJson (s : Settings Float) : Json := .obj [
  ("exclude", .strings s.exclude),
  ("weights", s.weights.toJson),
  ("languages", .obj [("importance_multiplier", Json.ofTable .float s.importance)]),
  ("limits", s.limits.toJson),
  ("runtime", s.runtime.toJson),
  ("thresholds", s.thresholds.toJson),
  ("output", s.output.toJson)]

/-- The settings, read from a structured value. -/
def ofJson? (v : Json) : Option (Settings Float) :=
  if !v.isObject then none
  else do
    return {
      exclude := ← v.getD? "exclude" (Json.list? Json.str?) []
      weights := ← v.getD? "weights" Weights.ofJson? .standard
      importance := ← v.getD? "languages" importanceOfJson? {}
      limits := ← v.getD? "limits" Limits.ofJson? {}
      runtime := ← v.getD? "runtime" Runtime.ofJson? {}
      thresholds := ← v.getD? "thresholds" Thresholds.ofJson? .standard
      output := ← v.getD? "output" OutputSettings.ofJson? {} }

end Settings

end Affinity
