import Affinity.Profile.Batch
import Affinity.Proofs.Text.ParameterLists
import Affinity.Proofs.Text.Pieces

/-!
# Places for type annotations

In the head of a function, each parameter and the result can carry a type. The parameters are told
apart by all commas of the list, those inside brackets included, whereas the signature rules go by
the commas outside brackets. A parameter whose type lists types of its own counts more than once.

* `TypeFacts.ofHeader`, `TypeFacts.ofCode_eq` — the places of one head, and of a line.
* `pieces_of_splitsOutside` — all commas cut the parts between the commas outside brackets.
* `two_le_filledParts` — a comma inside brackets stands between pieces that are not blank.
* `TypeFacts.countsAlike_iff` — when a head has the places that the signature rules give it.
* `TypeFacts.generic_parameter_counted_twice` — a parameter that counts twice.
-/

namespace Affinity

/-! ## Commas inside brackets -/

/-- The pieces of a text between all its commas. -/
def commaPieces (text : List Char) : List (List Char) := pieces (· = ',') text

theorem commaPieces_append (before behind : List Char) :
    commaPieces (before ++ ',' :: behind) = commaPieces before ++ commaPieces behind :=
  pieces_append_cons (by decide) before behind

theorem commaPieces_of_notMem {text : List Char} (h : ',' ∉ text) : commaPieces text = [text] :=
  pieces_of_forall fun _ hc => decide_eq_false fun heq => h (heq ▸ hc)

/-- A character that is no comma stands in one of the pieces. -/
theorem exists_mem_commaPieces {text : List Char} {c : Char} (hmem : c ∈ text) (hc : c ≠ ',') :
    ∃ piece ∈ commaPieces text, c ∈ piece :=
  exists_mem_pieces hmem (decide_eq_false hc)

/-- A text with a character that is no blank is not blank. -/
theorem allBlank_eq_false_of_mem {text : List Char} {c : Char} (hmem : c ∈ text)
    (hc : isBlank c = false) : allBlank text = false :=
  Bool.eq_false_iff.2 fun hblank => Bool.eq_false_iff.1 hc (isBlank_of_mem hblank hmem)

/-- All commas cut the parts between the commas outside brackets. -/
theorem pieces_of_splitsOutside {text : List Char} {parts : List (List Char)}
    (h : SplitsOutside text parts) : commaPieces text = parts.flatMap commaPieces := by
  induction h with
  | last _ => exact (List.flatMap_singleton ..).symm
  | cons _ _ _ ih => rw [commaPieces_append, ih, List.flatMap_cons]

/-- The parts of a list that closes its brackets close theirs. -/
theorem closed_of_splitsOutside {text : List Char} {parts : List (List Char)}
    (h : SplitsOutside text parts) (hclosed : bracketDepth text = 0) :
    ∀ part ∈ parts, bracketDepth part = 0 ∧ NoOuterComma part := by
  induction h with
  | @last part hwhole =>
    intro other hother
    obtain rfl := List.mem_singleton.1 hother
    exact ⟨hclosed, hwhole⟩
  | @cons part rest parts hwhole hpart _ ih =>
    rw [bracketDepth_append, bracketDepth_comma, hpart, Int.zero_add] at hclosed
    exact List.forall_mem_cons.2 ⟨⟨hpart, hwhole⟩, ih hclosed⟩

/-- A text that opens or closes a bracket for good has a piece that is not blank. -/
theorem filledParts_pos {text : List Char} (h : bracketDepth text ≠ 0) :
    0 < filledParts (commaPieces text) := by
  have hbracket : ∃ c ∈ text, isOpening c = true ∨ isClosing c = true := by
    by_contra hnone
    simp only [not_exists, not_and, not_or] at hnone
    apply h
    rw [bracketDepth, List.countP_eq_zero.2 fun c hc => (hnone c hc).1,
      List.countP_eq_zero.2 fun c hc => (hnone c hc).2]
    rfl
  obtain ⟨c, hc, hopens⟩ := hbracket
  have hcomma : c ≠ ',' := by
    rintro rfl
    exact absurd hopens (by decide)
  obtain ⟨piece, hpiece, hin⟩ := exists_mem_commaPieces hc hcomma
  have hisBlank : isBlank c = false := by
    rw [← Bool.not_eq_true]
    intro hblank
    rw [not_isOpening_of_isBlank hblank, not_isClosing_of_isBlank hblank] at hopens
    simp at hopens
  refine List.countP_pos_iff.2 ⟨piece, hpiece, ?_⟩
  rw [Bool.not_eq_true']
  exact allBlank_eq_false_of_mem hin hisBlank

section Part

variable {part : List Char}

/-- A comma inside brackets stands between pieces that are not blank. -/
theorem two_le_filledParts (hclosed : bracketDepth part = 0) (hwhole : NoOuterComma part)
    (hcomma : ',' ∈ part) : 2 ≤ filledParts (commaPieces part) := by
  obtain ⟨before, behind, rfl⟩ := List.append_of_mem hcomma
  have hbefore : bracketDepth before ≠ 0 := hwhole before behind rfl
  have hbehind : bracketDepth behind ≠ 0 := by
    rw [bracketDepth_append, bracketDepth_comma] at hclosed
    omega
  rw [commaPieces_append, filledParts, List.countP_append]
  have hfirst := filledParts_pos hbefore
  have hsecond := filledParts_pos hbehind
  unfold filledParts at hfirst hsecond
  omega

/-- A part that is not blank is one piece that is not blank, and perhaps further ones. -/
theorem filledParts_add_blank (hclosed : bracketDepth part = 0) (hwhole : NoOuterComma part) :
    filledParts (commaPieces part) + (if allBlank part = true then 1 else 0) =
      1 + (filledParts (commaPieces part) - 1) := by
  by_cases hcomma : ',' ∈ part
  · have htwo := two_le_filledParts hclosed hwhole hcomma
    have hblank : ¬ allBlank part = true := fun h => notMem_comma_of_allBlank h hcomma
    rw [if_neg hblank]
    omega
  · rw [commaPieces_of_notMem hcomma, filledParts, List.countP_singleton]
    cases allBlank part <;> rfl

end Part

/-! ## The parameters of a list -/

/-- The parts of a list that are parameters: all of them but a blank one at the end. -/
def listedParts (parts : List (List Char)) : List (List Char) :=
  if parts.getLast?.any allBlank then parts.dropLast else parts

theorem listedParts_subset (parts : List (List Char)) : listedParts parts ⊆ parts := by
  unfold listedParts
  split
  · exact List.dropLast_subset parts
  · exact List.Subset.refl parts

/-- A part that is no parameter is blank. -/
theorem mem_listedParts_or_allBlank {parts : List (List Char)} {part : List Char}
    (h : part ∈ parts) : part ∈ listedParts parts ∨ allBlank part = true := by
  unfold listedParts
  split
  · next hlast =>
    obtain ⟨last, hsome, hblank⟩ := (Option.any_eq_true _ _).1 hlast
    obtain ⟨others, rfl⟩ := List.getLast?_eq_some_iff.1 hsome
    rw [List.dropLast_concat]
    rcases List.mem_append.1 h with hmem | hmem
    · exact .inl hmem
    · obtain rfl := List.mem_singleton.1 hmem
      exact .inr hblank
  · exact .inl h

theorem trailsOff_iff_of_splitsOutside {text : List Char} {parts : List (List Char)}
    (h : SplitsOutside text parts) : TrailsOff text ↔ parts.getLast?.any allBlank = true := by
  induction h with
  | @last part hwhole =>
    exact or_iff_left fun ⟨before, blanks, htext, _, hdepth⟩ => hwhole before blanks htext hdepth
  | @cons part rest parts _ hclosed hrest ih =>
    have hne : parts ≠ [] := by cases hrest <;> exact List.cons_ne_nil _ _
    obtain ⟨first, others, rfl⟩ := List.exists_cons_of_ne_nil hne
    rw [trailsOff_cons_iff hclosed, ih, List.getLast?_cons_cons]

/-- The parameters of a list with balanced brackets are counted. -/
theorem parameterCount_eq_length {text : List Char} {parts : List (List Char)}
    (h : SplitsOutside text parts) (hclosed : bracketDepth text = 0)
    (hvoid : trim text ≠ "void".toList) :
    parameterCount text = (listedParts parts).length := by
  have hlength := length_eq_of_splitsOutside h
  have htrails := trailsOff_iff_of_splitsOutside h
  have hinside : ¬ EndsInsideBrackets text := by
    rintro ⟨before, blanks, rfl, hblanks, hbefore⟩
    rw [bracketDepth_append, bracketDepth_comma, bracketDepth_of_allBlank hblanks] at hclosed
    omega
  unfold listedParts
  by_cases hblank : allBlank text = true
  · rw [if_pos (htrails.1 (.inl hblank)), List.length_dropLast, hlength,
      parameterCount_of_allBlank hblank, outerCommas_of_allBlank hblank]
  · rw [Bool.not_eq_true] at hblank
    have hends := (endsWith_comma_iff hblank).trans (or_iff_left hinside)
    rw [parameterCount_eq hblank hvoid]
    by_cases hoff : TrailsOff text
    · rw [if_pos (hends.2 hoff), if_pos (htrails.1 hoff), List.length_dropLast, hlength]
    · rw [if_neg (mt hends.1 hoff), if_neg (mt htrails.2 hoff), hlength]
      rfl

/-- How many pieces of some parts are not blank, beyond one for each part. -/
def surplusPieces (parts : List (List Char)) : Nat :=
  sumOf (parts.map fun part => filledParts (commaPieces part) - 1)

section Counts

variable {text : List Char} {parts : List (List Char)}

/-- Every part that is not blank has one piece, and perhaps a surplus. -/
theorem filledParts_add_blanks
    (hparts : ∀ part ∈ parts, bracketDepth part = 0 ∧ NoOuterComma part) :
    filledParts (parts.flatMap commaPieces) + parts.countP allBlank =
      parts.length + surplusPieces parts := by
  induction parts with
  | nil => rfl
  | cons part others ih =>
    rw [List.forall_mem_cons] at hparts
    have hpart := filledParts_add_blank hparts.1.1 hparts.1.2
    have hothers := ih hparts.2
    unfold filledParts at hpart hothers ⊢
    unfold surplusPieces filledParts at hothers ⊢
    rw [List.flatMap_cons, List.countP_append, List.countP_cons, List.length_cons, List.map_cons,
      sumOf_cons]
    omega

/-- There is no surplus exactly if no comma stands inside brackets. -/
theorem surplusPieces_eq_zero_iff
    (hparts : ∀ part ∈ parts, bracketDepth part = 0 ∧ NoOuterComma part) :
    surplusPieces parts = 0 ↔ ∀ part ∈ parts, ',' ∉ part := by
  induction parts with
  | nil => exact iff_of_true rfl nofun
  | cons part others ih =>
    rw [List.forall_mem_cons] at hparts ⊢
    rw [← ih hparts.2, surplusPieces, List.map_cons, sumOf_cons, ← surplusPieces,
      Nat.add_eq_zero_iff]
    refine and_congr_left fun _ => ⟨fun hzero hcomma => ?_, fun hcomma => ?_⟩
    · have htwo := two_le_filledParts hparts.1.1 hparts.1.2 hcomma
      omega
    · rw [commaPieces_of_notMem hcomma, filledParts, List.countP_singleton]
      cases allBlank part <;> rfl

/-- A blank part at the end has no piece that satisfies what no blank does. -/
theorem countP_commaPieces_eq (h : SplitsOutside text parts) {p : List Char → Bool}
    (hp : ∀ piece, allBlank piece = true → p piece = false) :
    (commaPieces text).countP p = ((listedParts parts).flatMap commaPieces).countP p := by
  rw [pieces_of_splitsOutside h, listedParts]
  split
  · next hlast =>
    obtain ⟨last, hsome, hblank⟩ := (Option.any_eq_true _ _).1 hlast
    obtain ⟨others, rfl⟩ := List.getLast?_eq_some_iff.1 hsome
    rw [List.dropLast_concat, List.flatMap_append, List.flatMap_singleton, List.countP_append,
      commaPieces_of_notMem (notMem_comma_of_allBlank hblank), List.countP_singleton,
      if_neg (by simp [hp last hblank]), Nat.add_zero]
  · rfl

end Counts

namespace TypeFacts

/-! ## Places -/

/-- The places of the head of a function: its parameters and its result. -/
def ofHeader (text : Array Char) (header : Match) : TypeFacts :=
  (ofParameters ((header.group? text "params").getD [])).add
    (place (header.group? text "ret").isSome)

/-- The places on a line of code are those of the heads of functions and of the variables. -/
theorem ofCode_eq (code : List Char) :
    ofCode code =
      (sum ((signature.findAll code.toArray).map (ofHeader code.toArray))).add
        (sum ((variableDeclaration.findAll code.toArray).map fun found =>
          place (found.group? code.toArray "typed").isSome)) :=
  rfl

theorem foldl_add_places {α : Type} (annotated : α → Bool) (places : List α) (before : TypeFacts) :
    (places.map fun a => place (annotated a)).foldl add before =
      ⟨before.annotatable + places.length, before.annotated + places.countP annotated⟩ := by
  induction places generalizing before with
  | nil => rfl
  | cons a others ih =>
    rw [List.map_cons, List.foldl_cons, ih, List.length_cons, List.countP_cons]
    simp only [add, place, TypeFacts.mk.injEq]
    omega

/-- Every piece between commas that is not blank is a place. -/
theorem ofParameters_eq (params : List Char) :
    ofParameters params =
      ⟨filledParts (commaPieces params), (commaPieces params).countP (·.contains ':')⟩ := by
  have hcolon : ∀ piece ∈ commaPieces params,
      (piece.contains ':' && !allBlank piece) = true ↔ piece.contains ':' = true := by
    intro piece _
    rw [Bool.and_eq_true, Bool.not_eq_true']
    exact and_iff_left_of_imp fun hmem =>
      allBlank_eq_false_of_mem (List.contains_iff_mem.1 hmem) (by decide)
  have hannotated := List.countP_congr hcolon
  rw [ofParameters, sum, foldl_add_places, List.countP_filter, ← List.countP_eq_length_filter,
    Nat.zero_add, Nat.zero_add, ← hannotated]
  rfl

theorem annotatable_ofHeader {text : Array Char} {header : Match} {params : List Char}
    (hparams : header.group? text "params" = some params) :
    (ofHeader text header).annotatable = filledParts (commaPieces params) + 1 := by
  rw [ofHeader, hparams, Option.getD_some, ofParameters_eq]
  rfl

theorem annotated_ofHeader {text : Array Char} {header : Match} {params : List Char}
    (hparams : header.group? text "params" = some params) :
    (ofHeader text header).annotated = (commaPieces params).countP (·.contains ':') +
      if (header.group? text "ret").isSome then 1 else 0 := by
  rw [ofHeader, hparams, Option.getD_some, ofParameters_eq]
  rfl

/-- The word that stands for no parameters is a piece of its own. -/
theorem filledParts_pos_of_void {params : List Char} (h : trim params = "void".toList) :
    0 < filledParts (commaPieces params) := by
  obtain ⟨before, behind, -, -, hmargins⟩ := exists_margins params
  have hmem : 'v' ∈ params := by
    rw [hmargins, h]
    exact List.mem_append_left _ (List.mem_append_right _ List.mem_cons_self)
  obtain ⟨piece, hpiece, hin⟩ := exists_mem_commaPieces hmem (by decide)
  refine List.countP_pos_iff.2 ⟨piece, hpiece, ?_⟩
  rw [Bool.not_eq_true']
  exact allBlank_eq_false_of_mem hin (by decide)

/-- A head has the places that the signature rules give it: one for each parameter and one for the
result. If every parameter has a colon, the places of the parameters are annotated. -/
def CountsAlike (text : Array Char) (header : Match) (params : List Char)
    (parts : List (List Char)) : Prop :=
  (ofHeader text header).annotatable = parameterCount params + 1 ∧
    ((∀ part ∈ listedParts parts, ':' ∈ part) →
      (ofHeader text header).annotated =
        parameterCount params + if (header.group? text "ret").isSome then 1 else 0)

section Header

variable {text : Array Char} {header : Match} {params : List Char} {parts : List (List Char)}

/-- Parameters without commas, each with a colon, are as many pieces with a colon. -/
theorem countP_colon_of_forall (hsplit : SplitsOutside params parts)
    (hcolon : ∀ part ∈ listedParts parts, ':' ∈ part)
    (hcommas : ∀ part ∈ listedParts parts, ',' ∉ part) :
    (commaPieces params).countP (·.contains ':') = (listedParts parts).length := by
  have hblank : ∀ piece : List Char, allBlank piece = true → piece.contains ':' = false := by
    intro piece hblank
    refine Bool.eq_false_iff.2 fun hmem => ?_
    rw [allBlank_eq_false_of_mem (List.contains_iff_mem.1 hmem) (by decide)] at hblank
    cases hblank
  have hpieces : (listedParts parts).flatMap commaPieces = listedParts parts := by
    rw [List.flatMap_congr fun part hpart => commaPieces_of_notMem (hcommas part hpart)]
    exact List.flatMap_singleton' _
  rw [countP_commaPieces_eq hsplit hblank, hpieces]
  exact List.countP_eq_length.2 fun part hpart => List.contains_iff_mem.2 (hcolon part hpart)

theorem countsAlike_of_parts (hparams : header.group? text "params" = some params)
    (hsplit : SplitsOutside params parts) (hclosed : bracketDepth params = 0) :
    CountsAlike text header params parts ↔
      trim params ≠ "void".toList ∧
        surplusPieces (listedParts parts) = (listedParts parts).countP allBlank := by
  have hlisted : ∀ part ∈ listedParts parts, bracketDepth part = 0 ∧ NoOuterComma part :=
    fun part hpart => closed_of_splitsOutside hsplit hclosed part (listedParts_subset parts hpart)
  have hfilled : filledParts (commaPieces params) =
      filledParts ((listedParts parts).flatMap commaPieces) :=
    countP_commaPieces_eq hsplit fun piece hblank => by rw [hblank]; rfl
  have hcount := filledParts_add_blanks hlisted
  rw [CountsAlike, annotatable_ofHeader hparams, annotated_ofHeader hparams]
  by_cases hvoid : trim params = "void".toList
  · have hzero : parameterCount params = 0 := by
      rw [parameterCount, hvoid]
      decide
    have hpos := filledParts_pos_of_void hvoid
    refine iff_of_false (fun h => ?_) fun h => h.1 hvoid
    have hplaces := h.1
    omega
  · have hlength := parameterCount_eq_length hsplit hclosed hvoid
    constructor
    · rintro ⟨hplaces, -⟩
      exact ⟨hvoid, by omega⟩
    · rintro ⟨-, hsurplus⟩
      refine ⟨by omega, fun hcolon => ?_⟩
      -- a parameter with a colon is not blank, so there is no surplus and no comma in brackets
      have hfilledParts : ∀ part ∈ listedParts parts, allBlank part = false :=
        fun part hpart => allBlank_eq_false_of_mem (hcolon part hpart) (by decide)
      have hblanks : (listedParts parts).countP allBlank = 0 :=
        List.countP_eq_zero.2 fun part hpart => Bool.eq_false_iff.1 (hfilledParts part hpart)
      have hcommas := (surplusPieces_eq_zero_iff hlisted).1 (hsurplus.trans hblanks)
      rw [countP_colon_of_forall hsplit hcolon hcommas, hlength]

/-- No parameter of the list is blank. -/
theorem surplus_eq_blanks_iff_of_filled (hsplit : SplitsOutside params parts)
    (hclosed : bracketDepth params = 0)
    (hfilled : ∀ part ∈ listedParts parts, allBlank part = false) :
    surplusPieces (listedParts parts) = (listedParts parts).countP allBlank ↔
      ∀ part ∈ parts, ',' ∉ part := by
  have hlisted : ∀ part ∈ listedParts parts, bracketDepth part = 0 ∧ NoOuterComma part :=
    fun part hpart => closed_of_splitsOutside hsplit hclosed part (listedParts_subset parts hpart)
  have hblanks : (listedParts parts).countP allBlank = 0 :=
    List.countP_eq_zero.2 fun part hpart => by simp [hfilled part hpart]
  rw [hblanks, surplusPieces_eq_zero_iff hlisted]
  refine ⟨fun h part hpart => ?_, fun h part hpart => h part (listedParts_subset parts hpart)⟩
  rcases mem_listedParts_or_allBlank hpart with hmem | hblank
  · exact h part hmem
  · exact notMem_comma_of_allBlank hblank

end Header

/-- **When the head of a function has as many places as parameters.** Let the brackets of its
parameter list be balanced. Its places are those that the signature rules give it exactly if it does
not say that there are no parameters and the commas inside brackets yield as many further pieces as
there are blank parameters. If no parameter is blank, that is: no comma stands inside brackets. -/
theorem countsAlike_iff (code : List Char) :
    ofCode code =
        (sum ((signature.findAll code.toArray).map (ofHeader code.toArray))).add
          (sum ((variableDeclaration.findAll code.toArray).map fun found =>
            place (found.group? code.toArray "typed").isSome)) ∧
      ∀ header ∈ signature.findAll code.toArray, ∀ params parts,
        header.group? code.toArray "params" = some params → SplitsOutside params parts →
        bracketDepth params = 0 →
        (CountsAlike code.toArray header params parts ↔
          trim params ≠ "void".toList ∧
            surplusPieces (listedParts parts) = (listedParts parts).countP allBlank) ∧
        ((∀ part ∈ listedParts parts, allBlank part = false) →
          (CountsAlike code.toArray header params parts ↔
            trim params ≠ "void".toList ∧ ∀ part ∈ parts, ',' ∉ part)) := by
  refine ⟨ofCode_eq code, fun header _ params parts hparams hsplit hclosed => ?_⟩
  have halike := countsAlike_of_parts hparams hsplit hclosed
  refine ⟨halike, fun hfilled => ?_⟩
  rw [halike, surplus_eq_blanks_iff_of_filled hsplit hclosed hfilled]

/-- Two parameters, one of them with brackets but no comma in them. -/
theorem countsAlike_iff_array :
    let code := "function add(a: Array<number>, b: number): number \x7b".toList
    let header : Match := ⟨0, 44, [("ret", 41, 44), ("params", 13, 40)]⟩
    let params := "a: Array<number>, b: number".toList
    let parts := ["a: Array<number>".toList, " b: number".toList]
    header ∈ signature.findAll code.toArray ∧
      header.group? code.toArray "params" = some params ∧ SplitsOutside params parts ∧
      bracketDepth params = 0 ∧ (∀ part ∈ listedParts parts, allBlank part = false) ∧
      CountsAlike code.toArray header params parts ∧ parameterCount params = 2 := by
  intro code header params parts
  have hheader : header ∈ signature.findAll code.toArray := by decide +kernel
  have hparams : header.group? code.toArray "params" = some params := by decide +kernel
  have hfirst : NoOuterComma "a: Array<number>".toList := noOuterComma_iff.2 (by decide)
  have hlast : NoOuterComma " b: number".toList := noOuterComma_iff.2 (by decide)
  have hsplit : SplitsOutside params parts := .cons hfirst (by decide) (.last hlast)
  have hfilled : ∀ part ∈ listedParts parts, allBlank part = false := by decide
  have halike := ((countsAlike_iff code).2 header hheader params parts hparams hsplit
    (by decide)).2 hfilled
  exact ⟨hheader, hparams, hsplit, by decide, hfilled, halike.2 ⟨by decide, by decide⟩, by decide⟩

/-- One parameter, whose type has a comma inside brackets, counts as two places. -/
theorem generic_parameter_counted_twice :
    let code := "function f(m: Map<string, number>) \x7b".toList
    let header : Match := ⟨0, 34, [("params", 11, 33)]⟩
    let params := "m: Map<string, number>".toList
    header ∈ signature.findAll code.toArray ∧
      header.group? code.toArray "params" = some params ∧ bracketDepth params = 0 ∧
      NeverOvercloses params ∧ SplitsOutside params [params] ∧ parameterCount params = 1 ∧
      ofCode code = ⟨3, 1⟩ ∧ ¬ CountsAlike code.toArray header params [params] := by
  intro code header params
  have hheader : header ∈ signature.findAll code.toArray := by decide +kernel
  have hparams : header.group? code.toArray "params" = some params := by decide +kernel
  have hsplit : SplitsOutside params [params] := .last (noOuterComma_iff.2 (by decide))
  have hplaces : (ofHeader code.toArray header).annotatable ≠ parameterCount params + 1 := by
    decide +kernel
  exact ⟨hheader, hparams, by decide, by decide, hsplit, by decide, by decide +kernel,
    fun h => hplaces h.1⟩

end TypeFacts

end Affinity
