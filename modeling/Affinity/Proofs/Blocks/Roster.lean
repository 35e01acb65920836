import Mathlib.Data.List.Basic
import Affinity.Proofs.Blocks.Nesting

/-!
# What a scan declares

Of all that the scan of the code lines does, only a declaration changes what is declared so far and
which class has how many methods; opening and closing blocks and counting on a line do not.

* `BlockScan.roster` — what is declared so far.
* `BlockScan.Roster.declare`, `BlockScan.roster_declare` — what one declaration adds.
* `BlockScan.roster_step` — what one line adds.
* `Rules.roster_scanRows_concat` — what one more row adds.
-/

namespace Affinity

namespace BlockScan

/-- What is declared so far, apart from the blocks of the declarations. -/
structure Roster where
  /-- The declarations with the index of their line, in order. -/
  declarations : List (Nat × Declaration) := []
  /-- The number of functions. -/
  functions : Nat := 0
  /-- The classes, each with its number of methods. -/
  classes : List (String × Nat) := []

namespace Roster

/-- One more method of a class, if there is one. -/
def credit (classes : List (String × Nat)) (index : Option Nat) : List (String × Nat) :=
  index.elim classes fun i => classes.modify i fun c => (c.1, c.2 + 1)

/-- The roster after a declaration on line `line` in a block of the class `owner`. -/
def declare (r : Roster) (owner : Option Nat) (line : Nat) (declaration : Declaration) : Roster :=
  let declarations := r.declarations ++ [(line, declaration)]
  match declaration with
  | .function _ _ _ =>
    { declarations
      functions := r.functions + 1
      classes := credit r.classes owner }
  | .classLike name =>
    { r with declarations, classes := r.classes ++ [(String.ofList name, 0)] }

end Roster

/-- The name of a class and its number of methods. -/
def entryOf (c : ClassFacts) : String × Nat := (c.name, c.methods)

/-- What is declared so far. -/
def roster (s : BlockScan) : Roster where
  declarations := s.declarations
  functions := s.functions.length
  classes := s.classes.map entryOf

/-! ## Operations -/

/-- A change that keeps what `view` shows of every entry. -/
theorem map_modify {α β : Type} {change : α → α} {view : α → β}
    (h : ∀ a, view (change a) = view a) (l : List α) (index : Nat) :
    (l.modify index change).map view = l.map view := by
  apply List.ext_getElem?
  intro i
  rw [List.getElem?_map, List.getElem?_map]
  exact map_getElem?_modify h l index i

/-- A change that `view` shows as another one. -/
theorem map_modify_of_comm {α β : Type} {change : α → α} {change' : β → β} {view : α → β}
    (h : ∀ a, view (change a) = change' (view a)) (l : List α) (index : Nat) :
    (l.modify index change).map view = (l.map view).modify index change' := by
  apply List.ext_getElem?
  intro i
  rw [List.getElem?_map, List.getElem?_modify, List.getElem?_modify, List.getElem?_map]
  cases l[i]? with
  | none => rfl
  | some a => by_cases hi : index = i <;> simp [hi, h]

section Operations

variable {s : BlockScan}

@[simp] theorem roster_push (s : BlockScan) (frame : Frame) : (s.push frame).roster = s.roster := by
  unfold push
  extract_lets stack
  split
  · simp [roster]
  · rfl

@[simp] theorem roster_pop (s : BlockScan) (line : Nat) : (s.pop line).roster = s.roster := by
  unfold pop
  split
  · rfl
  · extract_lets popped
    split
    · simp [roster, popped]
    · simp only [roster, Roster.mk.injEq]
      refine ⟨rfl, rfl, ?_⟩
      apply map_modify
      exact fun _ => rfl
    · rfl

@[simp] theorem roster_observe (s : BlockScan) (rules : Rules) (code : List Char) :
    (s.observe rules code).roster = s.roster := by
  unfold observe
  extract_lets risk counted
  split
  · rfl
  · simp [roster, counted]

@[simp] theorem roster_expire (s : BlockScan) (line : Nat) :
    (s.expire line).roster = s.roster := by
  unfold expire
  split
  · split <;> rfl
  · rfl

@[simp] theorem roster_openBlock (s : BlockScan) (rules : Rules) (context : List Char)
    (indent : Nat) : (s.openBlock rules context indent).roster = s.roster :=
  roster_push _ _

@[simp] theorem roster_openInner (s : BlockScan) : s.openInner.roster = s.roster := by
  unfold openInner
  split
  · exact roster_push _ _
  · exact roster_push _ _

/-- Only a declaration changes the roster. -/
theorem roster_declare (s : BlockScan) (line : Nat) (declaration : Declaration) :
    (s.declare line declaration).roster =
      s.roster.declare (owner? s.stack) line declaration := by
  cases declaration with
  | function name params receiver =>
    simp only [roster, declare, Roster.declare, List.length_append, List.length_singleton,
      Roster.mk.injEq, true_and]
    cases owner? s.stack with
    | none => rfl
    | some index =>
      apply map_modify_of_comm
      exact fun _ => rfl
  | classLike name => simp [roster, declare, Roster.declare, entryOf]

@[simp] theorem roster_closings {α : Type} (line : Nat) (l : List α) (s : BlockScan) :
    (l.foldl (fun s _ => s.pop line) s).roster = s.roster := by
  induction l generalizing s with
  | nil => rfl
  | cons _ rest ih => rw [List.foldl_cons, ih, roster_pop]

@[simp] theorem roster_finish (s : BlockScan) (line : Nat) : (s.finish line).roster = s.roster :=
  roster_closings line _ s

/-! ## Lines -/

@[simp] theorem roster_arrive (rules : Rules) (s : BlockScan) (last line : Nat) (row : Row) :
    (s.arrive rules last line row).roster = s.roster := by
  unfold arrive
  extract_lets expired
  split
  · exact (roster_closings last _ expired).trans (roster_expire s line)
  · exact roster_expire s line

@[simp] theorem roster_followBraces (rules : Rules) (context : List Char) (line : Nat)
    (first : Bool) (s : BlockScan) (code : List Char) :
    (followBraces rules context line first s code).roster = s.roster := by
  induction code generalizing first s with
  | nil => rfl
  | cons c rest ih =>
    rw [followBraces_cons]
    split
    · rw [ih]
      split <;> simp
    · split
      · rw [ih, roster_pop]
      · exact ih first s

@[simp] theorem roster_keywords (rules : Rules) (s : BlockScan) (line : Nat) (code : List Char) :
    (s.keywords rules line code).roster = s.roster := by
  unfold keywords
  extract_lets closed text
  have hclosed : closed.roster = s.roster := by
    unfold closed
    split
    · exact roster_pop s line
    · rfl
  split
  · split
    · exact hclosed
    · rw [roster_openBlock, hclosed]
  · exact hclosed

@[simp] theorem roster_indented (rules : Rules) (s : BlockScan) (code : List Char)
    (indent : Nat) : (s.indented rules code indent).roster = s.roster := by
  unfold indented
  split
  · exact roster_openBlock s rules code indent
  · rfl

@[simp] theorem roster_followTo (rules : Rules) (s : BlockScan) (line : Nat) (row : Row)
    (column : Nat) : (s.followTo rules line row column).roster = s.roster := by
  unfold followTo
  cases rules.blocks with
  | braces => exact roster_followBraces ..
  | keywords => exact roster_keywords ..
  | indentation => exact roster_indented ..
  | flat => rfl

/-- A line adds what it declares. -/
theorem roster_step (rules : Rules) (s : BlockScan) (last line : Nat) (row : Row) :
    (s.step rules last line row).roster =
      ((s.arrive rules last line row).register rules line row).roster := by
  rw [step_eq]
  generalize (s.arrive rules last line row).register rules line row = taken
  cases rules.blocks with
  | braces =>
    dsimp only [braces]
    split
    · exact roster_followBraces ..
    · exact roster_followBraces ..
  | keywords => exact roster_keywords ..
  | indentation => exact roster_indented ..
  | flat => rfl

theorem roster_register (rules : Rules) (s : BlockScan) (line : Nat) (row : Row) :
    (s.register rules line row).roster =
      match rules.declaration? row.code with
      | some declaration => s.roster.declare (owner? s.stack) line declaration
      | none => s.roster := by
  unfold register
  cases rules.declaration? row.code with
  | some declaration => exact roster_declare s line declaration
  | none => exact roster_observe s rules row.code

end Operations

end BlockScan

/-! ## Rows -/

namespace Rules

/-- The declaration on a row, if it is one of code. -/
def declarationOn? (rules : Rules) (row : Row) : Option Declaration :=
  if row.isCode then rules.declaration? row.code else none

/-- One more row adds what it declares, to the class in whose block it stands. -/
theorem roster_scanRows_concat (rules : Rules) (rows : List Row) (row : Row) :
    (rules.scanRows (rows ++ [row])).1.roster =
      match rules.declarationOn? row with
      | some declaration =>
        (rules.scanRows rows).1.roster.declare (owner? (rules.stateAt rows row).stack) rows.length
          declaration
      | none => (rules.scanRows rows).1.roster := by
  rw [scanRows_concat, declarationOn?]
  split
  · rw [BlockScan.roster_step, BlockScan.roster_register, BlockScan.roster_arrive]
    rfl
  · rfl

end Rules

end Affinity
