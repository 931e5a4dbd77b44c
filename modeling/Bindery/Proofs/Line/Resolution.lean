import Bindery.Proofs.FirstFault
import Bindery.Proofs.Index.Lookup
import Bindery.Proofs.Line.Reference

set_option autoImplicit false

/-! # What becomes of the cross-references of a line

The two equations `resolveReferences_plain` and `resolveReferences_reference` say what
`resolveReferences` does from one reference to the next. From them,
`resolveReferences_eq_error_iff` says which reference decides the error: of all references without
a label, the leftmost. -/

namespace Bindery

/-! ## The pieces of a line -/

theorem scan_cons_of_some {c : Char} {text target rest : Text}
    (h : reference? (c :: text) = some (target, rest)) :
    Piece.scan (c :: text) = .reference target :: Piece.scan rest := by
  rw [Piece.scan]
  split
  · next target' rest' h' =>
    rw [h'] at h
    cases h
    rfl
  · next hnone => simp [hnone] at h

theorem scan_cons_of_none {c : Char} {text : Text} (h : reference? (c :: text) = none) :
    Piece.scan (c :: text) = .plain c :: Piece.scan text := by
  rw [Piece.scan]
  split
  · next hsome => simp [hsome] at h
  · rfl

/-- A line without references is scanned character by character. -/
theorem scan_of_not_holdsReference {line : Text} (h : ¬ HoldsReference line) :
    Piece.scan line = line.map .plain := by
  induction line with
  | nil => simp [Piece.scan]
  | cons c text ih =>
    have hnone : reference? (c :: text) = none := by
      cases hread : reference? (c :: text) with
      | none => rfl
      | some found =>
        obtain ⟨htarget, heq⟩ := reference?_eq_some_iff.1 hread
        exact absurd ⟨[], found.1, found.2, ⟨by simpa using heq, htarget⟩⟩ h
    rw [scan_cons_of_none hnone, ih fun htext => h (htext.cons c), List.map_cons]

/-- A first reference is scanned behind the characters in front of it. -/
theorem scan_reference {front target rest : Text} (hfront : ¬ HoldsReference front)
    (htarget : IsTarget target) :
    Piece.scan (front ++ referenceTo target ++ rest) =
      front.map .plain ++ .reference target :: Piece.scan rest := by
  induction front with
  | nil =>
    obtain ⟨tail, htail, -⟩ := exists_referenceTo_eq_cons htarget
    have hread := reference?_eq_some_iff.2 ⟨htarget, (rfl : referenceTo target ++ rest = _)⟩
    rw [htail, List.cons_append] at hread
    rw [List.nil_append, htail, List.cons_append, scan_cons_of_some hread]
    rfl
  | cons c front ih =>
    have hnone : reference? (c :: front ++ referenceTo target ++ rest) = none := by
      cases hread : reference? (c :: front ++ referenceTo target ++ rest) with
      | none => rfl
      | some found =>
        -- a reference at the start would be the first of the line
        obtain ⟨hfound, heq⟩ := reference?_eq_some_iff.1 hread
        have hat : ReferenceAt (c :: front ++ referenceTo target ++ rest) [] found.1 found.2 :=
          ⟨by simpa using heq, hfound⟩
        rcases (referenceAt_iff hfront htarget).1 hat with ⟨hnil, -⟩ | ⟨b, hnil, -⟩
        · cases hnil
        · cases hnil
    have htail := ih fun htext => hfront (htext.cons c)
    rw [List.cons_append, List.cons_append] at hnone ⊢
    rw [scan_cons_of_none hnone, htail, List.map_cons, List.cons_append]

/-- The scan finds the references that stand in the line, and no others. -/
theorem reference_mem_scan_iff {line target : Text} :
    Piece.reference target ∈ Piece.scan line ↔
      ∃ before behind, ReferenceAt line before target behind := by
  induction line using reference_induction with
  | plain line h =>
    rw [scan_of_not_holdsReference h]
    constructor
    · intro hmem
      simp at hmem
    · rintro ⟨before, behind, hat⟩
      exact absurd hat.holds h
  | reference front first rest hfront hfirst ih =>
    simp only [scan_reference hfront hfirst, referenceAt_iff hfront hfirst, List.mem_append,
      List.mem_map, reduceCtorEq, and_false, exists_false, false_or, List.mem_cons, ih,
      Piece.reference.injEq]
    constructor
    · rintro (rfl | ⟨before, behind, hat⟩)
      · exact ⟨front, rest, Or.inl ⟨rfl, rfl, rfl⟩⟩
      · exact ⟨_, behind, Or.inr ⟨before, rfl, hat⟩⟩
    · rintro ⟨before, behind, ⟨-, rfl, -⟩ | ⟨b, -, hat⟩⟩
      · exact Or.inl rfl
      · exact Or.inr ⟨b, behind, hat⟩

/-! ## What becomes of a line -/

variable {index : Index}

theorem flatten_map_singleton (text : Text) : (text.map ([·])).flatten = text := by
  rw [← List.flatMap_def, List.flatMap_singleton']

theorem mapM_resolve_plain (text : Text) (pieces : List Piece) :
    (text.map Piece.plain ++ pieces).mapM (Piece.resolve index) =
      (pieces.mapM (Piece.resolve index)).map (text.map ([·]) ++ ·) := by
  induction text with
  | nil =>
    rw [List.map_nil, List.nil_append]
    cases pieces.mapM (Piece.resolve index) <;> rfl
  | cons c text ih =>
    have hc : Piece.resolve index (.plain c) = .ok [c] := rfl
    rw [List.map_cons, List.cons_append, mapM_cons_ok hc, ih]
    cases pieces.mapM (Piece.resolve index) <;> rfl

/-- A line without references stays as it is. -/
theorem resolveReferences_plain {line : Text} (h : ¬ HoldsReference line) :
    resolveReferences index line = .ok line := by
  rw [resolveReferences, scan_of_not_holdsReference h, ← List.append_nil (line.map Piece.plain),
    mapM_resolve_plain]
  simp [pure, Except.pure, Except.map, flatten_map_singleton]

/-- The first reference of a line is the first to fail, or becomes a link. -/
theorem resolveReferences_reference {front target rest : Text} (hfront : ¬ HoldsReference front)
    (htarget : IsTarget target) :
    resolveReferences index (front ++ referenceTo target ++ rest) =
      match labelOf index target with
      | .error e => .error e
      | .ok label => (resolveReferences index rest).map (front ++ linkTo label ++ ·) := by
  rw [resolveReferences, scan_reference hfront htarget, mapM_resolve_plain]
  cases hlabel : labelOf index target with
  | error e =>
    have hpiece : Piece.resolve index (.reference target) = .error e := by
      simp [Piece.resolve, hlabel, Except.map]
    rw [mapM_cons_error hpiece]
    rfl
  | ok label =>
    have hpiece : Piece.resolve index (.reference target) = .ok (linkTo label) := by
      simp [Piece.resolve, hlabel, Except.map]
    rw [mapM_cons_ok hpiece, resolveReferences]
    cases (Piece.scan rest).mapM (Piece.resolve index) with
    | error e => rfl
    | ok texts => simp [Except.map, flatten_map_singleton]

/-- A text in which no reference opens stays in front of what becomes of the rest. -/
theorem resolveReferences_append_left {front rest : Text} (hfront : '<' ∉ front) :
    resolveReferences index (front ++ rest) = (resolveReferences index rest).map (front ++ ·) := by
  cases rest using reference_induction with
  | plain rest hrest =>
    have hline : ¬ HoldsReference (front ++ rest) := by
      rwa [holdsReference_append_left hfront]
    rw [resolveReferences_plain hline, resolveReferences_plain hrest]
    rfl
  | reference gap target rest hgap htarget _ =>
    have hline : ¬ HoldsReference (front ++ gap) := by
      rwa [holdsReference_append_left hfront]
    have hcut : front ++ (gap ++ referenceTo target ++ rest) =
        front ++ gap ++ referenceTo target ++ rest := by
      simp
    rw [hcut, resolveReferences_reference hline htarget, resolveReferences_reference hgap htarget]
    cases labelOf index target with
    | error e => rfl
    | ok label => cases resolveReferences index rest <;> simp [Except.map]

theorem resolveReferences_cons {rest : Text} {c : Char} (hopen : c ≠ '<') :
    resolveReferences index (c :: rest) = (resolveReferences index rest).map (c :: ·) := by
  rw [← List.singleton_append, resolveReferences_append_left (by simpa using hopen.symm)]
  rfl

/-- What stands first in a line with links stands first in the line, unless it opens a link. -/
theorem exists_of_resolveReferences_eq_cons {line out : Text} {c : Char} (hopen : c ≠ '<')
    (hlink : c ≠ '[') (h : resolveReferences index line = .ok (c :: out)) :
    ∃ rest, line = c :: rest ∧ resolveReferences index rest = .ok out := by
  have hfirst : ∃ rest, line = c :: rest := by
    cases line using reference_induction with
    | plain line hline =>
      rw [resolveReferences_plain hline] at h
      exact ⟨out, Except.ok.inj h⟩
    | reference gap target rest hgap htarget _ =>
      rw [resolveReferences_reference hgap htarget] at h
      split at h
      · cases h
      · obtain ⟨linked, -, hout⟩ := map_eq_ok_iff.1 h
        cases gap with
        | nil => exact absurd (List.cons.inj hout).1.symm hlink
        | cons d gap => exact ⟨_, by rw [(List.cons.inj hout).1]; rfl⟩
  obtain ⟨rest, rfl⟩ := hfirst
  rw [resolveReferences_cons hopen] at h
  obtain ⟨linked, hlinked, hout⟩ := map_eq_ok_iff.1 h
  exact ⟨rest, rfl, (List.cons.inj hout).2 ▸ hlinked⟩

/-- No line is emptied, and none comes of nothing. -/
theorem eq_nil_iff_of_resolveReferences {line linked : Text}
    (h : resolveReferences index line = .ok linked) : linked = [] ↔ line = [] := by
  cases line using reference_induction with
  | plain line hline =>
    rw [resolveReferences_plain hline] at h
    rw [Except.ok.inj h]
  | reference gap target rest hgap htarget _ =>
    rw [resolveReferences_reference hgap htarget] at h
    split at h
    · cases h
    · obtain ⟨linked', -, rfl⟩ := map_eq_ok_iff.1 h
      simp [linkTo, referenceTo]

/-! ## References without a label -/

/-- A reference to the target has no label, for the given reason. A target with a fragment always
has one: only a reference to a whole document needs the document. -/
inductive ReferenceFault (index : Index) (target : Text) : IndexError → Prop
  | absent : '#' ∉ target → index.get? target = none →
      ReferenceFault index target (.unresolved target)
  | untitled {record : Record} : '#' ∉ target → index.get? target = some record →
      record.title = none → ReferenceFault index target (.untitled target)

/-- `e` is the fault of the leftmost of all references of the line that have no label. -/
def LeftmostFault (index : Index) (line : Text) (e : IndexError) : Prop :=
  ∃ before target behind, ReferenceAt line before target behind ∧
    ReferenceFault index target e ∧
      ∀ b t a, ReferenceAt line b t a → b.length < before.length → ∀ e', ¬ ReferenceFault index t e'

/-- The fragment is what stands behind the first `#`. -/
theorem fragment?_eq_some_iff {target fragment : Text} :
    fragment? target = some fragment ↔
      ∃ before, target = before ++ '#' :: fragment ∧ '#' ∉ before := by
  rw [fragment?]
  constructor
  · intro h
    split at h
    · cases h
    · next c rest hdrop =>
      cases h
      obtain ⟨hcut, hbefore, rfl⟩ := span_ne_iff.1 ⟨rfl, hdrop⟩
      exact ⟨_, hcut, hbefore⟩
  · rintro ⟨before, rfl, hbefore⟩
    rw [(span_ne_iff.2 ⟨rfl, hbefore, rfl⟩).2]

theorem fragment?_eq_none_iff {target : Text} : fragment? target = none ↔ '#' ∉ target := by
  rw [Option.eq_none_iff_forall_ne_some]
  constructor
  · intro h hmem
    obtain ⟨before, fragment, hcut, hbefore⟩ := List.eq_append_cons_of_mem hmem
    exact h fragment (fragment?_eq_some_iff.2 ⟨before, hcut, hbefore⟩)
  · intro h fragment hfragment
    obtain ⟨before, rfl, -⟩ := fragment?_eq_some_iff.1 hfragment
    simp at h

/-- A label is missing exactly for a reason. -/
theorem labelOf_eq_error_iff {target : Text} {e : IndexError} :
    labelOf index target = .error e ↔ ReferenceFault index target e := by
  rw [labelOf]
  cases hfragment : fragment? target with
  | some fragment =>
    -- nothing is looked up, and there is no fault
    have hmem : '#' ∈ target := by
      obtain ⟨before, rfl, -⟩ := fragment?_eq_some_iff.1 hfragment
      simp
    constructor
    · intro h
      cases h
    · intro h
      cases h with
      | absent hnot _ => exact absurd hmem hnot
      | untitled hnot _ _ => exact absurd hmem hnot
  | none =>
    have hnot := fragment?_eq_none_iff.1 hfragment
    rw [Index.titleFor_eq_error_iff]
    constructor
    · rintro (⟨hget, rfl⟩ | ⟨record, hget, htitle, rfl⟩)
      · exact .absent hnot hget
      · exact .untitled hnot hget htitle
    · intro h
      cases h with
      | absent _ hget => exact Or.inl ⟨hget, rfl⟩
      | untitled _ hget htitle => exact Or.inr ⟨_, hget, htitle, rfl⟩

theorem not_leftmostFault_plain {line : Text} {e : IndexError} (h : ¬ HoldsReference line) :
    ¬ LeftmostFault index line e := by
  rintro ⟨before, target, behind, hat, -⟩
  exact h hat.holds

theorem leftmostFault_reference {front target rest : Text} {e : IndexError}
    (hfront : ¬ HoldsReference front) (htarget : IsTarget target) :
    LeftmostFault index (front ++ referenceTo target ++ rest) e ↔
      ReferenceFault index target e ∨
        (∀ e', ¬ ReferenceFault index target e') ∧ LeftmostFault index rest e := by
  have hfirst : ReferenceAt (front ++ referenceTo target ++ rest) front target rest :=
    ⟨rfl, htarget⟩
  have hlonger : ∀ b : Text, front.length < (front ++ referenceTo target ++ b).length := by
    intro b
    have hpos := length_referenceTo_pos target
    simp only [List.length_append]
    omega
  constructor
  · rintro ⟨before, t, behind, hat, hfault, hleft⟩
    rcases (referenceAt_iff hfront htarget).1 hat with ⟨rfl, rfl, rfl⟩ | ⟨b, rfl, hb⟩
    · exact Or.inl hfault
    · refine Or.inr ⟨?_, b, t, behind, hb, hfault, ?_⟩
      · exact hleft front target rest hfirst (hlonger b)
      · intro b' t' a' hb' hlt
        have hat' := (referenceAt_iff hfront htarget).2 (Or.inr ⟨b', rfl, hb'⟩)
        refine hleft _ t' a' hat' ?_
        simpa using hlt
  · rintro (hfault | ⟨hnone, before, t, behind, hat, hfault, hleft⟩)
    · refine ⟨front, target, rest, hfirst, hfault, ?_⟩
      intro b t a hb hlt
      rcases (referenceAt_iff hfront htarget).1 hb with ⟨rfl, -, -⟩ | ⟨b, rfl, -⟩
      · exact absurd hlt (Nat.lt_irrefl _)
      · exact absurd hlt (Nat.lt_asymm (hlonger b))
    · refine ⟨_, t, behind, (referenceAt_iff hfront htarget).2 (Or.inr ⟨before, rfl, hat⟩), hfault,
        ?_⟩
      intro b' t' a' hb' hlt
      rcases (referenceAt_iff hfront htarget).1 hb' with ⟨rfl, rfl, rfl⟩ | ⟨b, rfl, hb⟩
      · exact hnone
      · refine hleft b t' a' hb ?_
        simpa using hlt

/-- The leftmost reference without a label is the error. -/
theorem resolveReferences_eq_error_iff {line : Text} {e : IndexError} :
    resolveReferences index line = .error e ↔ LeftmostFault index line e := by
  induction line using reference_induction with
  | plain line h => simp [resolveReferences_plain h, not_leftmostFault_plain h]
  | reference front target rest hfront htarget ih =>
    rw [resolveReferences_reference hfront htarget, leftmostFault_reference hfront htarget, ← ih]
    simp only [← labelOf_eq_error_iff]
    cases labelOf index target with
    | error e' => simp
    | ok label => simp [map_eq_error_iff]

end Bindery
