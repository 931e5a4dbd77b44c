import Bindery.Proofs.Chapter.Layout
import Mathlib.Logic.Relation

set_option autoImplicit false

/-! # Runs of the layout machine

`Looks` is one look of the machine, and `Relation.ReflTransGen` of it a run. `FollowsTerm` says
that a run takes the line in front of a place as one that opens an item. A line that neither opens
an item nor goes on with a definition is written as it is wherever it stands, except behind such a
line (`mem_of_layOut`): a definition that it comes upon ends there. -/

namespace Bindery

namespace DefinitionList

variable {ε : Type}

/-- One look of the machine leads from the one state to the other. -/
def Looks (prepare : Text → Except ε Text) (p q : Progress) : Prop :=
  ∃ written, p.advance prepare = .ok (some (written, q))

/-- The lines lead the machine to a line outside definitions that it takes as one with a label, and
`following` are the lines behind that line. -/
def FollowsTerm (prepare : Text → Except ε Text) (lines following : List Text) : Prop :=
  ∃ p q label, Relation.ReflTransGen (Looks prepare) (Progress.start lines) p ∧
    p.mode = .outside ∧ p.advance prepare = .ok (some (some label, q)) ∧
    q.mode = .separator ∧ q.ahead = following

variable {prepare : Text → Except ε Text} {p q : Progress}

/-! ## One look -/

/-- Only a line with a label asks for a separating line. -/
theorem step_eq_separator {mode : Mode} {line : Text} (h : (step mode line).next = .separator) :
    mode = .outside ∧ ∃ label, label? line = some label ∧ (step mode line).written = some label := by
  cases mode with
  | outside =>
    cases hlabel : label? line with
    | none => simp [step, hlabel] at h
    | some label => exact ⟨rfl, label, rfl, by simp [step, hlabel]⟩
  | separator => cases h
  | first => cases h
  | body =>
    simp only [step] at h
    split at h
    · cases h
    · split at h <;> cases h

/-- The first line of a definition waits in the slot. -/
theorem step_eq_first {mode : Mode} {line : Text} (h : (step mode line).next = .first) :
    (step mode line).back ≠ none := by
  cases mode with
  | outside =>
    simp only [step] at h
    split at h <;> cases h
  | separator => exact Option.some_ne_none line
  | first => cases h
  | body =>
    simp only [step] at h
    split at h
    · cases h
    · split at h <;> cases h

theorem followsTerm_of_run {lines : List Text}
    (hrun : Relation.ReflTransGen (Looks prepare) (Progress.start lines) q)
    (hmode : q.mode = .separator) : FollowsTerm prepare lines q.ahead := by
  -- the machine does not start in this mode, so a look has led there
  rcases Relation.ReflTransGen.cases_tail hrun with hstart | ⟨p, hp, written, hlook⟩
  · rw [hstart] at hmode
    cases hmode
  · obtain ⟨line, hwritten, hnext, -, -⟩ := advance_eq_some hlook
    obtain ⟨houtside, label, -, hlabel⟩ := step_eq_separator (hnext ▸ hmode)
    rw [hwritten, hlabel] at hlook
    exact ⟨p, q, label, hp, houtside, hlook, hmode, rfl⟩

/-! ## A whole run -/

/-- A run goes through the one state that a look leads to. -/
theorem run_cases {r : Progress} {written : Option Text}
    (hlook : p.advance prepare = .ok (some (written, q)))
    (hrun : Relation.ReflTransGen (Looks prepare) p r) :
    r = p ∨ Relation.ReflTransGen (Looks prepare) q r := by
  rcases Relation.ReflTransGen.cases_head hrun with hhere | ⟨q', ⟨written', hlook'⟩, hrest⟩
  · exact Or.inl hhere.symm
  · rw [hlook] at hlook'
    cases hlook'
    exact Or.inr hrest

/-- A line that is looked at outside definitions, or behind the first line of one, is written if it
neither has a label nor goes on with the definition. -/
theorem mem_laidOut {mode : Mode} {line : Text} (hlabel : label? line = none)
    (hcontinuation : ¬ IsContinuation line) (hmode : mode = .outside ∨ mode = .body)
    (lines : List Text) : line ∈ laidOut mode (line :: lines) := by
  have houtside : line ∈ laidOut .outside (line :: lines) := by
    simp [laidOut, hlabel]
  rcases hmode with rfl | rfl
  · exact houtside
  · rw [laidOut_body_cons_of_not hcontinuation]
    exact houtside

theorem mem_finish {raw line : Text} {following out : List Text}
    (hraw : prepare raw = .ok line) (hlabel : label? line = none)
    (hcontinuation : ¬ IsContinuation line) (hout : p.finish prepare = .ok out)
    (hfirst : p.mode = .first → p.slot ≠ none) (hahead : raw :: following <:+ p.ahead)
    (hterm : ∀ q, Relation.ReflTransGen (Looks prepare) p q → q.mode = .separator →
      q.ahead ≠ raw :: following) : line ∈ out := by
  fun_induction Progress.finish prepare p generalizing out with
  | case1 p e h => cases hout
  | case2 p h =>
    obtain ⟨-, hnil⟩ := advance_eq_none h
    rw [hnil] at hahead
    cases List.suffix_nil.1 hahead
  | case3 p written q hlook _ ih =>
    obtain ⟨rest, hrest, rfl⟩ := map_eq_ok_iff.1 hout
    obtain ⟨looked, hwritten, hnext, hback, hline⟩ := advance_eq_some hlook
    -- the place of the line is still ahead after this look, or the look is at the line
    by_cases hlater : raw :: following <:+ q.ahead
    · refine List.mem_append_right _ (ih hrest ?_ hlater fun r hr => hterm r (.head ⟨_, hlook⟩ hr))
      intro hmode
      rw [hback]
      exact step_eq_first (hnext ▸ hmode)
    · rcases hline with ⟨-, hsame⟩ | ⟨hnone, raw', hcons, hraw'⟩
      · exact absurd (hsame ▸ hahead) hlater
      · rw [hcons] at hahead
        rcases List.suffix_cons_iff.1 hahead with hhere | hthere
        · have hmode : p.mode = .outside ∨ p.mode = .body := by
            cases hm : p.mode with
            | outside => exact Or.inl rfl
            | separator => exact absurd (hcons.trans hhere.symm) (hterm p .refl hm)
            | first => exact absurd hnone (hfirst hm)
            | body => exact Or.inr rfl
          cases hhere
          obtain rfl : looked = line := by
            rw [hraw] at hraw'
            cases hraw'
            rfl
          rw [finish_eq] at hrest
          obtain ⟨lines, -, rfl⟩ := map_eq_ok_iff.1 hrest
          rw [hwritten, hnext, hback, ← laidOut_step]
          exact mem_laidOut hlabel hcontinuation hmode lines
        · exact absurd hthere hlater

/-- A prepared line that neither has a label nor goes on with a definition is written as it is,
unless it stands behind a line that is taken as one with a label. -/
theorem mem_of_layOut {raw line : Text} {leading following out : List Text}
    (hraw : prepare raw = .ok line) (hlabel : label? line = none)
    (hcontinuation : ¬ IsContinuation line)
    (hterm : ¬ FollowsTerm prepare (leading ++ raw :: following) (raw :: following))
    (hout : layOut prepare (leading ++ raw :: following) = .ok out) : line ∈ out := by
  refine mem_finish hraw hlabel hcontinuation hout (fun h => by cases h)
    (List.suffix_append leading _) ?_
  intro q hrun hmode hahead
  have hfollows := followsTerm_of_run hrun hmode
  rw [hahead] at hfollows
  exact hterm hfollows

end DefinitionList

end Bindery
