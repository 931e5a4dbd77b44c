import Bindery.Proofs.Chapter.Layout
import Bindery.Proofs.Text.Trim

set_option autoImplicit false

/-! # What the layout of definition lists keeps

`Passage` is a prepared line with what it is taken as, and `IsReading` says which lines are taken as
what. The lines of a chapter have one reading (`exists_isReading`, `IsReading.unique`), and what is
written is written passage by passage, in order (`laidOut_of_isReading`).

A line reaches the output but for the marker and the colon around a label and for white space that
only sets it off (`Passage.due`). There is one exception: what stands behind the colon of a line
that is taken as one with a label is dropped, whatever it is. `conserved_iff_of_layOut` says that
nothing else is, so that a line is kept exactly if only white space stands there, and
`not_conserved_of_layOut` that more than white space can stand there. -/

namespace Bindery

namespace DefinitionList

/-! ## Passages -/

/-- A prepared line and what it is taken as. -/
inductive Passage where
  /-- A line outside definitions without a label. -/
  | plain (line : Text)
  /-- A line with a label and what stands behind the colon that ends it. -/
  | term (label behind : Text)
  /-- The first line of a definition. -/
  | first (line : Text)
  /-- A further line of a definition. -/
  | further (line : Text)
  deriving DecidableEq, Repr

namespace Passage

/-- The prepared line. -/
def line : Passage → Text
  | .plain line => line
  | .term label behind => termMarker ++ label ++ ':' :: behind
  | .first line => line
  | .further line => line

/-- The mode for the next line. -/
def next : Passage → Mode
  | .plain _ => .outside
  | .term _ _ => .separator
  | .first _ => .body
  | .further _ => .body

/-- The lines that are written for it. -/
def written : Passage → List Text
  | .plain line => [line]
  | .term label _ => [label]
  | .first line => [[], opened line]
  | .further line => [continued line]

/-- What of the line has to be kept: all but the marker and the colon around a label, white space at
the end of a line with a label, and white space in front of a line of a definition. -/
def due : Passage → Text
  | .plain line => line
  | .term label behind => label ++ Text.trimEnd behind
  | .first line => Text.trimStart line
  | .further line => Text.trimStart line

/-- What has to be kept of the line is written, character by character in order. -/
def IsConserved (passage : Passage) : Prop :=
  List.Sublist passage.due passage.written.flatten

/-- Only white space stands behind the colon of a line with a label. -/
def HasNothingBehind : Passage → Prop
  | .term _ behind => ∀ c ∈ behind, isBlank c = true
  | _ => True

end Passage

/-- A line that is looked at in a mode is outside definitions. -/
def IsOutside (mode : Mode) (line : Text) : Prop :=
  mode = .outside ∨ mode = .body ∧ ¬ IsContinuation line

/-- A line that is looked at in a mode is taken as the passage says. -/
inductive IsTaken : Mode → Passage → Prop
  | plain {mode : Mode} {line : Text} :
      IsOutside mode line → (∀ label, ¬ IsLabel line label) → IsTaken mode (.plain line)
  | term {mode : Mode} {label behind : Text} :
      IsOutside mode (Passage.term label behind).line →
      IsLabel (Passage.term label behind).line label → IsTaken mode (.term label behind)
  | first {line : Text} : IsTaken .separator (.first line)
  | further {line : Text} : IsContinuation line → IsTaken .body (.further line)

/-- The passages are what lines are taken as from a mode on. -/
inductive IsReading : Mode → List Passage → Prop
  | nil {mode : Mode} : IsReading mode []
  | cons {mode : Mode} {passage : Passage} {passages : List Passage} :
      IsTaken mode passage → IsReading passage.next passages →
      IsReading mode (passage :: passages)

/-! ## One line -/

variable {mode : Mode} {passage other : Passage} {line label : Text}

theorem not_isOutside_separator : ¬ IsOutside .separator line := by
  simp [IsOutside]

theorem isOutside_body_iff : IsOutside .body line ↔ ¬ IsContinuation line := by
  simp [IsOutside]

theorem laidOut_of_isOutside (h : IsOutside mode line) (lines : List Text) :
    laidOut mode (line :: lines) = laidOut .outside (line :: lines) := by
  rcases h with rfl | ⟨rfl, hline⟩
  · rfl
  · exact laidOut_body_cons_of_not hline

/-- A line with a label falls into the marker, the label, a colon and what is behind it. -/
theorem IsLabel.exists_behind (h : IsLabel line label) :
    ∃ behind, (Passage.term label behind).line = line := by
  obtain ⟨⟨-, -, behind, rfl⟩, -⟩ := h
  exact ⟨behind, by simp [Passage.line, termMarker]⟩

/-- A line can be taken as something in each mode in which a new line is looked at. -/
theorem exists_isTaken (hmode : mode ≠ .first) (line : Text) :
    ∃ passage, IsTaken mode passage ∧ passage.line = line := by
  have houtside : ∀ mode, IsOutside mode line →
      ∃ passage, IsTaken mode passage ∧ passage.line = line := by
    intro mode h
    by_cases hlabel : ∃ label, IsLabel line label
    · obtain ⟨label, hlabel⟩ := hlabel
      obtain ⟨behind, rfl⟩ := hlabel.exists_behind
      exact ⟨_, .term h hlabel, rfl⟩
    · exact ⟨_, .plain h fun label hl => hlabel ⟨label, hl⟩, rfl⟩
  cases mode with
  | outside => exact houtside _ (.inl rfl)
  | separator => exact ⟨_, .first, rfl⟩
  | first => exact absurd rfl hmode
  | body =>
    by_cases hline : IsContinuation line
    · exact ⟨_, .further hline, rfl⟩
    · exact houtside _ (isOutside_body_iff.2 hline)

/-- A line is taken in one way only. -/
theorem IsTaken.unique (h : IsTaken mode passage) (ho : IsTaken mode other)
    (hline : passage.line = other.line) : passage = other := by
  have hcontinues : IsContinuation passage.line ↔ IsContinuation other.line := by
    rw [hline]
  cases h with
  | plain houtside hnone =>
    cases ho with
    | plain _ _ => exact congrArg Passage.plain hline
    | term _ hlabel => exact absurd (hline ▸ hlabel) (hnone _)
    | first => exact absurd houtside not_isOutside_separator
    | further hother => exact absurd (hcontinues.2 hother) (isOutside_body_iff.1 houtside)
  | term houtside hlabel =>
    cases ho with
    | plain _ hnone => exact absurd (hline ▸ hlabel) (hnone _)
    | term _ hother =>
      obtain rfl := hlabel.unique (hline ▸ hother)
      have hbehind := (List.cons.inj (List.append_cancel_left hline)).2
      rw [hbehind]
    | first => exact absurd houtside not_isOutside_separator
    | further hother => exact absurd (hcontinues.2 hother) (isOutside_body_iff.1 houtside)
  | first =>
    cases ho with
    | plain houtside _ => exact absurd houtside not_isOutside_separator
    | term houtside _ => exact absurd houtside not_isOutside_separator
    | first => exact congrArg Passage.first hline
  | further hline' =>
    cases ho with
    | plain houtside _ => exact absurd (hcontinues.1 hline') (isOutside_body_iff.1 houtside)
    | term houtside _ => exact absurd (hcontinues.1 hline') (isOutside_body_iff.1 houtside)
    | further _ => exact congrArg Passage.further hline

/-- What a line that is taken as something brings about. -/
theorem laidOut_of_isTaken (h : IsTaken mode passage) (lines : List Text) :
    laidOut mode (passage.line :: lines) = passage.written ++ laidOut passage.next lines := by
  cases h with
  | plain houtside hnone =>
    rw [Passage.line, laidOut_of_isOutside houtside, laidOut, label?_eq_none_iff.2 hnone]
    rfl
  | term houtside hlabel =>
    rw [laidOut_of_isOutside houtside, laidOut, label?_eq_some_iff.2 hlabel]
    rfl
  | first => rfl
  | further hcontinuation =>
    rw [Passage.line, laidOut, if_pos (isContinuation_iff.1 hcontinuation)]
    rfl

/-! ## All lines -/

theorem exists_isReading (hmode : mode ≠ .first) (lines : List Text) :
    ∃ passages, IsReading mode passages ∧ passages.map Passage.line = lines := by
  induction lines generalizing mode with
  | nil => exact ⟨[], .nil, rfl⟩
  | cons line lines ih =>
    obtain ⟨passage, htaken, rfl⟩ := exists_isTaken hmode line
    have hnext : passage.next ≠ .first := by
      cases passage <;> simp [Passage.next]
    obtain ⟨passages, hreading, rfl⟩ := ih hnext
    exact ⟨passage :: passages, .cons htaken hreading, rfl⟩

theorem IsReading.unique {passages others : List Passage} (h : IsReading mode passages)
    (ho : IsReading mode others)
    (hlines : passages.map Passage.line = others.map Passage.line) : passages = others := by
  induction h generalizing others with
  | nil => exact (List.map_eq_nil_iff.1 hlines.symm).symm
  | cons htaken _ ih =>
    cases ho with
    | nil => cases hlines
    | cons htaken' ho =>
      simp only [List.map_cons, List.cons.injEq] at hlines
      obtain rfl := htaken.unique htaken' hlines.1
      rw [ih ho hlines.2]

/-- What is written is what is written for each passage, in order. -/
theorem laidOut_of_isReading {passages : List Passage} (h : IsReading mode passages) :
    laidOut mode (passages.map Passage.line) = passages.flatMap Passage.written := by
  induction h with
  | nil => simp
  | cons htaken _ ih => rw [List.map_cons, laidOut_of_isTaken htaken, ih, List.flatMap_cons]

/-! ## What is kept -/

/-- All that a line has to keep is kept, unless it is dropped behind a label. -/
theorem isConserved_iff : passage.IsConserved ↔ passage.HasNothingBehind := by
  cases passage with
  | plain line =>
    simp [Passage.IsConserved, Passage.due, Passage.written, Passage.HasNothingBehind]
  | term label behind =>
    simp only [Passage.IsConserved, Passage.due, Passage.written, List.flatten_singleton,
      Passage.HasNothingBehind]
    rw [← Text.trimEnd_eq_nil_iff]
    constructor
    · intro h
      have hlength := h.length_le
      rw [List.length_append] at hlength
      exact List.length_eq_zero_iff.1 (by omega)
    · intro h
      rw [h, List.append_nil]
  | first line =>
    have hwritten : opened line ∈ (Passage.first line).written := by
      simp [Passage.written]
    have hdue : List.Sublist (Text.trimStart line) (opened line) :=
      List.sublist_append_right _ (Text.trimStart line)
    exact iff_of_true (hdue.trans (List.sublist_flatten_of_mem hwritten)) trivial
  | further line =>
    refine iff_of_true ?_ trivial
    simp only [Passage.IsConserved, Passage.due, Passage.written, List.flatten_singleton, continued]
    split
    · next hempty => simp [hempty, Text.trimStart]
    · exact List.sublist_append_right _ (Text.trimStart line)

/-- Lines of which each is kept are kept as a whole. -/
theorem sublist_flatten_of_isConserved {passages : List Passage}
    (h : ∀ p ∈ passages, p.IsConserved) :
    List.Sublist (passages.flatMap Passage.due) (passages.flatMap Passage.written).flatten := by
  induction passages with
  | nil => exact List.Sublist.refl _
  | cons passage passages ih =>
    obtain ⟨hpassage, hpassages⟩ := List.forall_mem_cons.1 h
    rw [List.flatMap_cons, List.flatMap_cons, List.flatten_append]
    exact List.Sublist.append hpassage (ih hpassages)

/-! ## Chapters -/

/-- The lines of a chapter are read in one way, and the output is what is written for them, in
order. A line is kept exactly if it is not one with a label or only white space stands behind the
colon of the label; if that holds of all lines, all text is kept. -/
theorem conserved_iff_of_layOut {ε : Type} {prepare : Text → Except ε Text} {lines out : List Text}
    (h : layOut prepare lines = .ok out) :
    ∃ passages, IsReading .outside passages ∧
      lines.mapM prepare = .ok (passages.map Passage.line) ∧
      (∀ others, IsReading .outside others → lines.mapM prepare = .ok (others.map Passage.line) →
        others = passages) ∧
      out = passages.flatMap Passage.written ∧
      (∀ p ∈ passages, p.IsConserved ↔ p.HasNothingBehind) ∧
      ((∀ p ∈ passages, p.HasNothingBehind) →
        List.Sublist (passages.flatMap Passage.due) out.flatten) := by
  rw [layOut_eq, map_eq_ok_iff] at h
  obtain ⟨prepared, hprepared, rfl⟩ := h
  obtain ⟨passages, hreading, rfl⟩ := exists_isReading (by decide : Mode.outside ≠ .first) prepared
  have hwritten := laidOut_of_isReading hreading
  refine ⟨passages, hreading, hprepared, ?_, hwritten, fun p _ => isConserved_iff, ?_⟩
  · intro others hothers hlines
    rw [hprepared] at hlines
    exact hothers.unique hreading (Except.ok.inj hlines).symm
  · intro hnothing
    rw [hwritten]
    exact sublist_flatten_of_isConserved fun p hp => isConserved_iff.2 (hnothing p hp)

/-- A label may hold a colon, and white space behind the last one is no loss. -/
theorem conserved_iff_of_layOut_colonInLabel :
    layOut (prepareLine .empty ⟨⟨.empty, []⟩, []⟩) ["- term a: b:  ".toList, "  x".toList] =
        .ok ["a: b".toList, [], ":    x".toList] ∧
      ∃ passages, IsReading .outside passages ∧ (∀ p ∈ passages, p.HasNothingBehind) ∧
        List.Sublist (passages.flatMap Passage.due) "a: b:    x".toList := by
  have hout : layOut (prepareLine .empty ⟨⟨.empty, []⟩, []⟩)
      ["- term a: b:  ".toList, "  x".toList] = .ok ["a: b".toList, [], ":    x".toList] := by
    decide +kernel
  have hlabel : IsLabel "- term a: b:  ".toList "a: b".toList :=
    label?_eq_some_iff.1 (by decide)
  have hexplicit : IsReading .outside [.term "a: b".toList "  ".toList, .first "  x".toList] :=
    .cons (.term (.inl rfl) hlabel) (.cons .first .nil)
  obtain ⟨passages, hreading, -, hunique, -, -, hkept⟩ := conserved_iff_of_layOut hout
  obtain rfl := hunique _ hexplicit (by decide +kernel)
  have hnothing : ∀ p ∈ [Passage.term "a: b".toList "  ".toList, .first "  x".toList],
      p.HasNothingBehind := by
    simp [Passage.HasNothingBehind, isBlank]
  exact ⟨hout, _, hreading, hnothing, hkept hnothing⟩

/-- Text behind a label is lost. -/
theorem not_conserved_of_layOut :
    ¬ ∀ (index : Index) (assets : Assets) (lines out : List Text) (passages : List Passage),
      layOut (prepareLine index assets) lines = .ok out → IsReading .outside passages →
      lines.mapM (prepareLine index assets) = .ok (passages.map Passage.line) →
      ∀ p ∈ passages, p.IsConserved := by
  intro h
  have hlabel : IsLabel "- term Foo: bar".toList "Foo".toList :=
    label?_eq_some_iff.1 (by decide)
  have hreading : IsReading .outside [.term "Foo".toList " bar".toList] :=
    .cons (.term (.inl rfl) hlabel) .nil
  have hconserved := h .empty ⟨⟨.empty, []⟩, []⟩ ["- term Foo: bar".toList] ["Foo".toList]
    [.term "Foo".toList " bar".toList] (by decide +kernel) hreading (by decide +kernel)
    _ (List.mem_singleton_self _)
  have hblank := isConserved_iff.1 hconserved 'b' (by decide)
  exact absurd hblank (by decide)

end DefinitionList

end Bindery
