import Mathlib.Data.List.Basic
import Mathlib.Data.String.Basic

/-!
# Slices of a text by byte positions

A text is stored as UTF-8 and sliced by byte positions. A slice exists only if its ends lie in the
text and between two of its characters.

* `cutAt` — both parts of a text at a byte position, or why there are none.
* `cutAt_utf8Len` — behind a first part, the text can be cut.
* `position?` — the byte position at which a text first occurs in another.
* `position?_eq_some`, `position?_eq_none` — it is the first one, and the text can be cut there.
-/

namespace Affinity

open String (utf8Len utf8Len_nil utf8Len_cons utf8Len_append)

/-- Why a scan by slices yields nothing. -/
inductive ScanFault where
  /-- A position lies behind the end of the text. -/
  | outOfRange
  /-- A position lies inside a character. -/
  | insideCharacter
  /-- The scan did not end in the rounds that it was given. -/
  | unfinished
  deriving DecidableEq, Repr

/-! ## Cuts -/

/-- The parts of a text before and behind a byte position. -/
def cutAt : List Char → Nat → Except ScanFault (List Char × List Char)
  | text, 0 => .ok ([], text)
  | [], _ + 1 => .error .outOfRange
  | c :: rest, position + 1 =>
    if position + 1 < c.utf8Size then .error .insideCharacter
    else do
      let (before, behind) ← cutAt rest (position + 1 - c.utf8Size)
      return (c :: before, behind)

/-- The text up to a byte position. -/
def sliceTo (text : List Char) (position : Nat) : Except ScanFault (List Char) :=
  return (← cutAt text position).1

/-- The text from a byte position on. -/
def sliceFrom (text : List Char) (position : Nat) : Except ScanFault (List Char) :=
  return (← cutAt text position).2

theorem cutAt_cons (c : Char) (rest : List Char) (position : Nat) :
    cutAt (c :: rest) (position + c.utf8Size) =
      (cutAt rest position).map fun (before, behind) => (c :: before, behind) := by
  obtain ⟨size, hsize⟩ := Nat.exists_eq_add_one.2 c.utf8Size_pos
  rw [hsize, ← Nat.add_assoc, cutAt, hsize, if_neg (by omega), Nat.add_assoc, Nat.add_sub_cancel]
  cases cutAt rest position <;> rfl

/-- A text can be cut behind each of its beginnings. -/
theorem cutAt_utf8Len (before behind : List Char) :
    cutAt (before ++ behind) (utf8Len before) = .ok (before, behind) := by
  induction before with
  | nil =>
    rw [utf8Len_nil, List.nil_append, cutAt]
  | cons c before ih =>
    rw [utf8Len_cons, List.cons_append, cutAt_cons, ih]
    rfl

theorem sliceTo_utf8Len (before behind : List Char) :
    sliceTo (before ++ behind) (utf8Len before) = .ok before := by
  rw [sliceTo, cutAt_utf8Len]
  rfl

theorem sliceFrom_utf8Len (before behind : List Char) :
    sliceFrom (before ++ behind) (utf8Len before) = .ok behind := by
  rw [sliceFrom, cutAt_utf8Len]
  rfl

theorem sliceFrom_utf8Size (c : Char) (rest : List Char) :
    sliceFrom (c :: rest) c.utf8Size = .ok rest := by
  have hslice := sliceFrom_utf8Len [c] rest
  rwa [utf8Len_cons, utf8Len_nil, Nat.zero_add] at hslice

theorem sliceFrom_behind (before pattern behind : List Char) :
    sliceFrom (before ++ (pattern ++ behind)) (utf8Len before + utf8Len pattern) = .ok behind := by
  rw [← utf8Len_append, ← List.append_assoc, sliceFrom_utf8Len]

/-- A beginning of the text can be cut off. -/
theorem sliceFrom_of_isPrefix {start text : List Char} (h : start <+: text) :
    sliceFrom text (utf8Len start) = .ok (text.drop start.length) := by
  obtain ⟨behind, rfl⟩ := h
  rw [sliceFrom_utf8Len, List.drop_left]

/-! ## Occurrences -/

/-- The byte position at which `pattern` first occurs. -/
def position? (pattern : List Char) : List Char → Option Nat
  | [] => if pattern.isEmpty then some 0 else none
  | c :: rest =>
    if pattern.isPrefixOf (c :: rest) then some 0 else (position? pattern rest).map (· + c.utf8Size)

/-- The pattern begins nowhere in the first part of `before ++ behind`. -/
def NotWithin (pattern : List Char) : List Char → List Char → Prop
  | [], _ => True
  | c :: before, behind =>
    ¬ pattern <+: c :: (before ++ behind) ∧ NotWithin pattern before behind

/-- The pattern stands at the position that was found, and nowhere before. -/
theorem position?_eq_some {pattern text : List Char} {position : Nat}
    (h : position? pattern text = some position) :
    ∃ before behind, text = before ++ (pattern ++ behind) ∧ position = utf8Len before ∧
      NotWithin pattern before (pattern ++ behind) := by
  induction text generalizing position with
  | nil =>
    rw [position?] at h
    split at h
    case isTrue hempty =>
      cases h
      rw [List.isEmpty_iff] at hempty
      exact ⟨[], [], by rw [hempty]; rfl, rfl, trivial⟩
    case isFalse => cases h
  | cons c rest ih =>
    rw [position?] at h
    split at h
    case isTrue hstart =>
      cases h
      obtain ⟨behind, hbehind⟩ := List.isPrefixOf_iff_prefix.1 hstart
      exact ⟨[], behind, hbehind.symm, rfl, trivial⟩
    case isFalse hstart =>
      obtain ⟨position, hposition, rfl⟩ := Option.map_eq_some_iff.1 h
      obtain ⟨before, behind, rfl, rfl, hbefore⟩ := ih hposition
      rw [List.isPrefixOf_iff_prefix] at hstart
      exact ⟨c :: before, behind, rfl, rfl, hstart, hbefore⟩

/-- A pattern that was not found stands nowhere. -/
theorem position?_eq_none {pattern text : List Char} (h : position? pattern text = none) :
    NotWithin pattern text [] := by
  induction text with
  | nil => trivial
  | cons c rest ih =>
    rw [position?] at h
    split at h
    case isTrue => cases h
    case isFalse hstart =>
      rw [List.isPrefixOf_iff_prefix] at hstart
      exact ⟨by rwa [List.append_nil], ih (Option.map_eq_none_iff.1 h)⟩

/-! ## Strings -/

/-- The byte position behind the closing quote of a string; `escaped` after a backslash. -/
def closingQuote? (quote : Char) : Bool → List Char → Option Nat
  | _, [] => none
  | true, c :: rest => (closingQuote? quote false rest).map (· + c.utf8Size)
  | false, c :: rest =>
    if c = '\\' then (closingQuote? quote true rest).map (· + c.utf8Size)
    else if c = quote then some c.utf8Size
    else (closingQuote? quote false rest).map (· + c.utf8Size)

/-- What follows a string; nothing if the line ends before it. -/
def skipString (quote : Char) (text : List Char) : Except ScanFault (List Char) :=
  match closingQuote? quote false text with
  | some position => sliceFrom text position
  | none => return []

end Affinity
