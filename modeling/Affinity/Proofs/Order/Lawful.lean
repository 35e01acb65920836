import Mathlib.Order.Defs.LinearOrder
import Affinity.Source.Delivery
import Affinity.Source.FileSet

/-!
# The orders of keys, paths and warnings

Tables and sorted lists rest on orders. Each of them is total and transitive (`Std.TransOrd`), and
apart from the order of paths each tells different values apart (`Std.LawfulEqOrd`). Paths compare
as equal exactly if they have the same components, which paths with different texts may have.

* `Path.compare_eq_iff` — which paths compare as equal.
* `byPathAndContent_eq_iff` — which files compete for one place in a file set.
-/

namespace Affinity

/-! ## Languages and categories -/

theorem Language.rank_injective : Function.Injective Language.rank := by
  intro a b h
  cases a <;> cases b <;> first | rfl | exact absurd h (by decide)

instance : Std.TransOrd Language :=
  inferInstanceAs (Std.TransCmp (compareOn Language.rank))

instance : Std.LawfulEqOrd Language where
  eq_of_compare h := Language.rank_injective (Std.LawfulEqOrd.eq_of_compare h)

theorem Language.mem_all (l : Language) : l ∈ Language.all := by
  cases l <;> decide

theorem Language.nodup_all : Language.all.Nodup := by decide

theorem Category.rank_injective : Function.Injective Category.rank := by
  intro a b h
  cases a <;> cases b <;> first | rfl | exact absurd h (by decide)

theorem Category.mem_all (c : Category) : c ∈ Category.all := by
  cases c <;> decide

instance : Std.TransOrd Category :=
  inferInstanceAs (Std.TransCmp (compareOn Category.rank))

instance : Std.LawfulEqOrd Category where
  eq_of_compare h := Category.rank_injective (Std.LawfulEqOrd.eq_of_compare h)

/-! ## Paths -/

instance : Std.TransOrd PathComponent :=
  inferInstanceAs
    (Std.TransCmp (compareLex (compareOn PathComponent.rank) (compareOn PathComponent.text)))

instance : Std.LawfulEqOrd PathComponent where
  eq_of_compare {a b} h := by
    obtain ⟨hrank, htext⟩ := Ordering.then_eq_eq.1 h
    have hr : a.rank = b.rank := Std.LawfulEqOrd.eq_of_compare hrank
    have ht : a.text = b.text := Std.LawfulEqOrd.eq_of_compare htext
    cases a <;> cases b <;> simp_all [PathComponent.rank, PathComponent.text]

instance : Std.TransOrd Path :=
  inferInstanceAs (Std.TransCmp (compareOn Path.components))

/-- Paths compare as equal exactly if they have the same components. -/
theorem Path.compare_eq_iff {a b : Path} : compare a b = .eq ↔ a.components = b.components :=
  Std.LawfulEqOrd.compare_eq_iff_eq (α := List PathComponent)

/-! ## Files and warnings -/

instance : Std.TransCmp fun a b : SourceFile => compare a.path b.path :=
  inferInstanceAs (Std.TransCmp (compareOn SourceFile.path))

instance : Std.TransCmp fun a b : FileFacts => compare a.path b.path :=
  inferInstanceAs (Std.TransCmp (compareOn FileFacts.path))

instance : Std.TransCmp byPathAndContent :=
  inferInstanceAs
    (Std.TransCmp (compareLex (compareOn SourceFile.path) (compareOn SourceFile.content)))

/-- Two files compete for one place exactly if their paths have the same components and their
contents are the same. -/
theorem byPathAndContent_eq_iff {a b : SourceFile} :
    byPathAndContent a b = .eq ↔ a.path.components = b.path.components ∧ a.content = b.content := by
  rw [byPathAndContent, Ordering.then_eq_eq, Path.compare_eq_iff, Std.LawfulEqOrd.compare_eq_iff_eq]

instance : Std.TransOrd FileWarning :=
  inferInstanceAs
    (Std.TransCmp (compareLex (compareOn FileWarning.path) (compareOn FileWarning.reason)))

instance : Std.LawfulEqOrd FileWarning where
  eq_of_compare {a b} h := by
    obtain ⟨hpath, hreason⟩ := Ordering.then_eq_eq.1 h
    have hp : a.path = b.path := Std.LawfulEqOrd.eq_of_compare hpath
    have hr : a.reason = b.reason := Std.LawfulEqOrd.eq_of_compare hreason
    cases a
    cases b
    simp_all

/-! ## Cache keys -/

/-- The order of cache keys with one name: by revision, octet by octet. -/
def compareRevisions (a b : CacheKey) : Ordering := compareOfLessAndEq a.revision b.revision

theorem compareRevisions_isLE_iff {a b : CacheKey} :
    (compareRevisions a b).isLE ↔ a.revision ≤ b.revision :=
  isLE_compareOfLessAndEq List.le_antisymm List.not_le List.le_total

instance : Std.TransCmp compareRevisions where
  eq_swap := compareOfLessAndEq_eq_swap List.le_antisymm List.le_total List.not_le
  isLE_trans hab hbc :=
    compareRevisions_isLE_iff.2
      (List.le_trans (compareRevisions_isLE_iff.1 hab) (compareRevisions_isLE_iff.1 hbc))

theorem compareRevisions_eq_iff {a b : CacheKey} :
    compareRevisions a b = .eq ↔ a.revision = b.revision :=
  compareOfLessAndEq_eq_eq List.le_refl List.not_le

instance : Std.TransOrd CacheKey :=
  inferInstanceAs (Std.TransCmp (compareLex (compareOn CacheKey.repository) compareRevisions))

instance : Std.LawfulEqOrd CacheKey where
  eq_of_compare {a b} h := by
    obtain ⟨hrepository, hrevision⟩ := Ordering.then_eq_eq.1 h
    have hid : a.repository = b.repository := Std.LawfulEqOrd.eq_of_compare hrepository
    have hrev : a.revision = b.revision := compareRevisions_eq_iff.1 hrevision
    cases a
    cases b
    simp_all

end Affinity
