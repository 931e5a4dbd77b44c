import Bindery.Proofs.Line.Resolution

set_option autoImplicit false

/-! # Lines as gaps and references

A line is a gap, then a reference and a gap, and so on. `Division` is such a reading, and a line has
exactly one (`exists_isDivision`, `IsDivision.unique`), because references do not overlap. Its
references are those that stand in the line (`IsDivision.referenceAt_iff_standsAt`).
`resolveReferences` keeps the gaps and puts links between them, or ends in the fault of the first
reference that has one (`resolveReferences_division`). -/

namespace Bindery

/-- A gap, and then the target of each reference together with the gap behind that reference. -/
structure Division where
  front : Text
  references : List (Text × Text)

namespace Division

/-- The gaps, with what is shown for each target between them. -/
def rejoin (division : Division) (shown : Text → Text) : Text :=
  division.front ++ division.references.flatMap fun (target, gap) => shown target ++ gap

theorem rejoin_nil (front : Text) (shown : Text → Text) : rejoin ⟨front, []⟩ shown = front := by
  simp [rejoin]

theorem rejoin_cons (front target gap : Text) (references : List (Text × Text))
    (shown : Text → Text) :
    rejoin ⟨front, (target, gap) :: references⟩ shown =
      front ++ shown target ++ rejoin ⟨gap, references⟩ shown := by
  simp [rejoin]

/-- One of the references has the given target, and the text before and behind it is that of the
gaps and references there. -/
def StandsAt (division : Division) (before target behind : Text) : Prop :=
  ∃ passed gap ahead, division.references = passed ++ (target, gap) :: ahead ∧
    before = rejoin ⟨division.front, passed⟩ referenceTo ∧
    behind = rejoin ⟨gap, ahead⟩ referenceTo

theorem not_standsAt_nil {front before target behind : Text} :
    ¬ StandsAt ⟨front, []⟩ before target behind := by
  rintro ⟨passed, gap, ahead, hreferences, -⟩
  simp at hreferences

/-- The first reference stands behind the front, and the others behind the first. -/
theorem standsAt_cons {front first gap before target behind : Text}
    {references : List (Text × Text)} :
    StandsAt ⟨front, (first, gap) :: references⟩ before target behind ↔
      (before = front ∧ target = first ∧ behind = rejoin ⟨gap, references⟩ referenceTo) ∨
        ∃ b, before = front ++ referenceTo first ++ b ∧
          StandsAt ⟨gap, references⟩ b target behind := by
  constructor
  · rintro ⟨passed, gap', ahead, hreferences, hbefore, hbehind⟩
    cases passed with
    | nil =>
      rw [List.nil_append, List.cons.injEq, Prod.mk.injEq] at hreferences
      obtain ⟨⟨rfl, rfl⟩, rfl⟩ := hreferences
      exact .inl ⟨hbefore.trans (rejoin_nil ..), rfl, hbehind⟩
    | cons reference passed =>
      rw [List.cons_append, List.cons.injEq] at hreferences
      obtain ⟨rfl, hreferences⟩ := hreferences
      exact .inr ⟨_, hbefore.trans (rejoin_cons ..), passed, gap', ahead, hreferences, rfl, hbehind⟩
  · rintro (⟨rfl, rfl, rfl⟩ | ⟨b, rfl, passed, gap', ahead, hreferences, rfl, hbehind⟩)
    · exact ⟨[], gap, references, rfl, (rejoin_nil ..).symm, rfl⟩
    · change references = _ at hreferences
      exact ⟨(first, gap) :: passed, gap', ahead, by rw [hreferences, List.cons_append],
        (rejoin_cons ..).symm, hbehind⟩

end Division

/-! ## The division of a line -/

/-- The line is taken apart at references, and no reference is left in a gap. -/
structure IsDivision (line : Text) (division : Division) : Prop where
  line_eq : line = division.rejoin referenceTo
  front : ¬ HoldsReference division.front
  targets : ∀ reference ∈ division.references, IsTarget reference.1
  gaps : ∀ reference ∈ division.references, ¬ HoldsReference reference.2

theorem isDivision_nil_iff {line front : Text} :
    IsDivision line ⟨front, []⟩ ↔ line = front ∧ ¬ HoldsReference front := by
  constructor
  · intro h
    exact ⟨h.line_eq.trans (Division.rejoin_nil ..), h.front⟩
  · rintro ⟨rfl, hfront⟩
    exact ⟨(Division.rejoin_nil ..).symm, hfront, by simp, by simp⟩

theorem isDivision_cons_iff {line front target gap : Text} {references : List (Text × Text)} :
    IsDivision line ⟨front, (target, gap) :: references⟩ ↔
      ¬ HoldsReference front ∧ IsTarget target ∧
        ∃ rest, line = front ++ referenceTo target ++ rest ∧ IsDivision rest ⟨gap, references⟩ := by
  constructor
  · intro h
    obtain ⟨htarget, htargets⟩ := List.forall_mem_cons.1 h.targets
    obtain ⟨hgap, hgaps⟩ := List.forall_mem_cons.1 h.gaps
    exact ⟨h.front, htarget, _, h.line_eq.trans (Division.rejoin_cons ..), rfl, hgap, htargets,
      hgaps⟩
  · rintro ⟨hfront, htarget, rest, rfl, hrest⟩
    refine ⟨?_, hfront, List.forall_mem_cons.2 ⟨htarget, hrest.targets⟩,
      List.forall_mem_cons.2 ⟨hrest.front, hrest.gaps⟩⟩
    rw [Division.rejoin_cons, ← hrest.line_eq]

theorem exists_isDivision (line : Text) : ∃ division, IsDivision line division := by
  induction line using reference_induction with
  | plain line h => exact ⟨⟨line, []⟩, isDivision_nil_iff.2 ⟨rfl, h⟩⟩
  | reference front target rest hfront htarget ih =>
    obtain ⟨⟨gap, references⟩, hrest⟩ := ih
    exact ⟨⟨front, (target, gap) :: references⟩,
      isDivision_cons_iff.2 ⟨hfront, htarget, rest, rfl, hrest⟩⟩

theorem IsDivision.unique {line : Text} {division other : Division} (h : IsDivision line division)
    (ho : IsDivision line other) : other = division := by
  obtain ⟨front, references⟩ := division
  obtain ⟨front', references'⟩ := other
  induction references generalizing line front front' references' with
  | nil =>
    obtain ⟨rfl, hplain⟩ := isDivision_nil_iff.1 h
    cases references' with
    | nil => rw [(isDivision_nil_iff.1 ho).1]
    | cons reference' references' =>
      obtain ⟨-, htarget', rest', hline', -⟩ := isDivision_cons_iff.1 ho
      exact absurd (ReferenceAt.holds ⟨hline', htarget'⟩) hplain
  | cons reference references ih =>
    obtain ⟨hfront, htarget, rest, rfl, hrest⟩ := isDivision_cons_iff.1 h
    cases references' with
    | nil =>
      obtain ⟨rfl, hplain⟩ := isDivision_nil_iff.1 ho
      exact absurd (ReferenceAt.holds ⟨rfl, htarget⟩) hplain
    | cons reference' references' =>
      obtain ⟨hfront', htarget', rest', hline', hrest'⟩ := isDivision_cons_iff.1 ho
      obtain ⟨target, gap⟩ := reference
      obtain ⟨target', gap'⟩ := reference'
      -- both first references stand in the line, and neither gap in front holds the other
      rcases (referenceAt_iff hfront htarget).1 ⟨hline', htarget'⟩ with
        ⟨rfl, rfl, rfl⟩ | ⟨b, rfl, -⟩
      · cases ih gap hrest gap' references' hrest'
        rfl
      · exact absurd (ReferenceAt.holds ⟨rfl, htarget⟩) hfront'

/-- The references of the division are the references of the line. -/
theorem IsDivision.referenceAt_iff_standsAt {line before target behind : Text}
    {division : Division} (h : IsDivision line division) :
    ReferenceAt line before target behind ↔ division.StandsAt before target behind := by
  obtain ⟨front, references⟩ := division
  induction references generalizing line front before with
  | nil =>
    obtain ⟨rfl, hplain⟩ := isDivision_nil_iff.1 h
    exact iff_of_false (fun hat => hplain hat.holds) Division.not_standsAt_nil
  | cons reference references ih =>
    obtain ⟨first, gap⟩ := reference
    obtain ⟨hfront, hfirst, rest, rfl, hrest⟩ := isDivision_cons_iff.1 h
    rw [referenceAt_iff hfront hfirst, Division.standsAt_cons, ← hrest.line_eq]
    simp only [ih gap hrest]

/-- Without the text that opens references, the line is a single gap. -/
theorem isDivision_of_not_infix {line : Text} (h : ¬ referenceMarker <:+: line) :
    IsDivision line ⟨line, []⟩ := by
  refine isDivision_nil_iff.2 ⟨rfl, ?_⟩
  rintro ⟨before, target, behind, hat⟩
  refine h ⟨before, target ++ ['>'] ++ behind, ?_⟩
  rw [hat.eq, referenceTo]
  simp only [List.append_assoc]

/-! ## What becomes of it -/

variable {index : Index}

/-- The label of a reference to the target: what stands behind its first `#`, with spaces for
hyphens, else the title of the document that the whole target names. -/
inductive IsLabelOf (index : Index) : (target label : Text) → Prop
  | fragment {before fragment : Text} : '#' ∉ before →
      IsLabelOf index (before ++ '#' :: fragment) (Text.replace '-' ' ' fragment)
  | title {target title : Text} {record : Record} : '#' ∉ target →
      index.get? target = some record → record.title = some title → IsLabelOf index target title

theorem labelOf_eq_ok_iff {target label : Text} :
    labelOf index target = .ok label ↔ IsLabelOf index target label := by
  rw [labelOf]
  cases hfragment : fragment? target with
  | some fragment =>
    obtain ⟨before, rfl, hbefore⟩ := fragment?_eq_some_iff.1 hfragment
    constructor
    · intro h
      cases h
      exact .fragment hbefore
    · intro h
      generalize htarget : before ++ '#' :: fragment = target at h hfragment
      cases h with
      | fragment hbefore' =>
        rw [fragment?_eq_some_iff.2 ⟨_, rfl, hbefore'⟩] at hfragment
        cases hfragment
        rfl
      | title hnot _ _ => simp [← htarget] at hnot
  | none =>
    have hnot := fragment?_eq_none_iff.1 hfragment
    rw [Index.titleFor_eq_ok_iff]
    constructor
    · rintro ⟨record, hget, htitle⟩
      exact .title hnot hget htitle
    · intro h
      cases h with
      | fragment _ => simp at hnot
      | title _ hget htitle => exact ⟨_, hget, htitle⟩

/-- A reference has a label unless it names a whole document that is absent or has no title. -/
theorem exists_labelOf_iff {target : Text} :
    (∃ label, labelOf index target = .ok label) ↔
      ('#' ∉ target → ∃ record title, index.get? target = some record ∧
        record.title = some title) := by
  simp only [labelOf_eq_ok_iff]
  constructor
  · rintro ⟨label, hlabel⟩ hnot
    cases hlabel with
    | fragment _ => simp at hnot
    | title _ hget htitle => exact ⟨_, _, hget, htitle⟩
  · intro h
    by_cases hmem : '#' ∈ target
    · obtain ⟨before, fragment, rfl, hbefore⟩ := List.eq_append_cons_of_mem hmem
      exact ⟨_, .fragment hbefore⟩
    · obtain ⟨record, title, hget, htitle⟩ := h hmem
      exact ⟨title, .title hmem hget htitle⟩

/-- Where all references have labels, links take their places. -/
theorem IsDivision.resolveReferences_eq_ok {line : Text} {division : Division}
    (h : IsDivision line division) {label : Text → Text}
    (hlabel : ∀ reference ∈ division.references,
      labelOf index reference.1 = .ok (label reference.1)) :
    resolveReferences index line = .ok (division.rejoin fun target => linkTo (label target)) := by
  obtain ⟨front, references⟩ := division
  induction references generalizing line front with
  | nil =>
    obtain ⟨rfl, hplain⟩ := isDivision_nil_iff.1 h
    rw [resolveReferences_plain hplain, Division.rejoin_nil]
  | cons reference references ih =>
    obtain ⟨target, gap⟩ := reference
    obtain ⟨hfront, htarget, rest, rfl, hrest⟩ := isDivision_cons_iff.1 h
    obtain ⟨hfirst, hothers⟩ := List.forall_mem_cons.1 hlabel
    have htail : resolveReferences index rest = _ := ih gap hrest hothers
    rw [resolveReferences_reference hfront htarget, hfirst, htail, Division.rejoin_cons]
    rfl

/-- The first reference without a label decides the error. -/
theorem IsDivision.resolveReferences_eq_error_iff {line : Text} {division : Division}
    {e : IndexError} (h : IsDivision line division) :
    resolveReferences index line = .error e ↔
      FirstFault (fun reference e => ReferenceFault index reference.1 e) division.references e := by
  obtain ⟨front, references⟩ := division
  induction references generalizing line front with
  | nil =>
    obtain ⟨rfl, hplain⟩ := isDivision_nil_iff.1 h
    rw [resolveReferences_plain hplain]
    exact iff_of_false (by simp) FirstFault.not_nil
  | cons reference references ih =>
    obtain ⟨target, gap⟩ := reference
    obtain ⟨hfront, htarget, rest, rfl, hrest⟩ := isDivision_cons_iff.1 h
    rw [resolveReferences_reference hfront htarget, FirstFault.cons_iff, ← ih gap hrest]
    simp only [← labelOf_eq_error_iff]
    cases labelOf index target with
    | error e' => simp
    | ok label => simp [map_eq_error_iff]

/-- Resolving goes through as soon as every reference has a label. -/
theorem IsDivision.exists_resolveReferences_iff {line : Text} {division : Division}
    (h : IsDivision line division) :
    (∃ out, resolveReferences index line = .ok out) ↔
      ∀ reference ∈ division.references, ∃ label, labelOf index reference.1 = .ok label := by
  refine exists_ok_iff_of_firstFault fun e => ?_
  simp only [h.resolveReferences_eq_error_iff, labelOf_eq_error_iff]

/-- A line has one division. Its references are all that stand in the line. Resolving the line
succeeds exactly if each of them that names a whole document names one with a title, and then keeps
the gaps and puts links between them; otherwise the first that does not decides the error. A line
without the text that opens references needs no look at its references. -/
theorem resolveReferences_division (index : Index) (line : Text) :
    ∃ division, IsDivision line division ∧
      (∀ other, IsDivision line other → other = division) ∧
      (∀ before target behind,
        ReferenceAt line before target behind ↔ division.StandsAt before target behind) ∧
      ((∃ out, resolveReferences index line = .ok out) ↔
        ∀ reference ∈ division.references, '#' ∉ reference.1 →
          ∃ record title, index.get? reference.1 = some record ∧ record.title = some title) ∧
      (∀ out, resolveReferences index line = .ok out →
        ∃ label : Text → Text,
          (∀ reference ∈ division.references,
            IsLabelOf index reference.1 (label reference.1)) ∧
          out = division.rejoin fun target =>
            '[' :: label target ++ [']', '(', '#'] ++
              Text.replace ' ' '-' (lowercase (label target)) ++ [')']) ∧
      (∀ e, resolveReferences index line = .error e ↔
        FirstFault (fun reference e => ReferenceFault index reference.1 e)
          division.references e) ∧
      (¬ referenceMarker <:+: line →
        division = ⟨line, []⟩ ∧ resolveReferences index line = .ok line) := by
  obtain ⟨division, hdivision⟩ := exists_isDivision line
  refine ⟨division, hdivision, fun other hother => hdivision.unique hother,
    fun before target behind => hdivision.referenceAt_iff_standsAt, ?_, ?_,
    fun e => hdivision.resolveReferences_eq_error_iff, ?_⟩
  · simp only [hdivision.exists_resolveReferences_iff, exists_labelOf_iff]
  · intro out hout
    have hlabels : ∀ target, (∃ gap, (target, gap) ∈ division.references) →
        ∃ label, labelOf index target = .ok label := by
      rintro target ⟨gap, hmem⟩
      exact hdivision.exists_resolveReferences_iff.1 ⟨out, hout⟩ _ hmem
    choose! label hlabel using hlabels
    have hfound : ∀ reference ∈ division.references,
        labelOf index reference.1 = .ok (label reference.1) :=
      fun reference hmem => hlabel reference.1 ⟨reference.2, hmem⟩
    refine ⟨label, fun reference hmem => labelOf_eq_ok_iff.1 (hfound reference hmem), ?_⟩
    rw [hdivision.resolveReferences_eq_ok hfound] at hout
    exact (Except.ok.inj hout).symm
  · intro hmarker
    have hsingle := isDivision_of_not_infix hmarker
    refine ⟨(hdivision.unique hsingle).symm, ?_⟩
    exact resolveReferences_plain hsingle.front

end Bindery
