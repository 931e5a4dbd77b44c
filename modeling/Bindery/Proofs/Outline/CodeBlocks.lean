import Bindery.Proofs.Outline.FencedCode
import Mathlib.Data.List.Basic
import Mathlib.Data.Nat.Find

set_option autoImplicit false

/-! # Where the blocks of fenced code are

`CodeBlocks` says by positions where the blocks of a document are: each begins at the first line
behind the one before it that opens a fence, and goes as far as the first later line that closes
this fence, or to the end. `codeLines_codeBlocks` says that exactly the lines in these blocks are
marked as code. The proof goes by the fence that is open in front of a position: it stays what it is
as long as no line opens or closes one (`openBehind_take_of_forall`). -/

namespace Bindery

/-! ## The first line with a property -/

section

variable {lines : List Text} {here i : Nat} {p : Text → Prop}

/-- The first line from a position on that has the property is at position `i`. -/
structure IsFirstFrom (lines : List Text) (here : Nat) (p : Text → Prop) (i : Nat) : Prop where
  le : here ≤ i
  holds : ∃ line, lines[i]? = some line ∧ p line
  least : ∀ j line, here ≤ j → j < i → lines[j]? = some line → ¬ p line

/-- No line from a position on has the property. -/
def NoneFrom (lines : List Text) (here : Nat) (p : Text → Prop) : Prop :=
  ∀ j line, here ≤ j → lines[j]? = some line → ¬ p line

theorem IsFirstFrom.lt_length (h : IsFirstFrom lines here p i) : i < lines.length := by
  obtain ⟨line, hline, -⟩ := h.holds
  exact (List.getElem?_eq_some_iff.1 hline).1

theorem exists_isFirstFrom_or_noneFrom (lines : List Text) (here : Nat) (p : Text → Prop) :
    (∃ i, IsFirstFrom lines here p i) ∨ NoneFrom lines here p := by
  classical
  by_cases h : ∃ i, here ≤ i ∧ ∃ line, lines[i]? = some line ∧ p line
  · obtain ⟨hle, hholds⟩ := Nat.find_spec h
    refine .inl ⟨Nat.find h, hle, hholds, fun j line hj hlt hline hp => ?_⟩
    exact Nat.find_min h hlt ⟨hj, line, hline, hp⟩
  · exact .inr fun j line hj hline hp => h ⟨j, hj, line, hline, hp⟩

end

/-! ## Blocks by their positions -/

/-- Lines of a document from one position up to another one, at which the block is over. -/
structure CodeBlock where
  /-- The fence of the first line. -/
  fence : Fence
  start : Nat
  stop : Nat
  deriving DecidableEq, Repr

/-- The position is in the block. -/
def CodeBlock.Holds (block : CodeBlock) (i : Nat) : Prop := block.start ≤ i ∧ i < block.stop

/-- The block is over behind the first line below its own first one that closes its fence, or at the
end of the document if there is none. -/
inductive CodeBlock.EndsIn (lines : List Text) (block : CodeBlock) : Prop
  | closed {last : Nat} : IsFirstFrom lines (block.start + 1) block.fence.Closes last →
      block.stop = last + 1 → EndsIn lines block
  | unclosed : NoneFrom lines (block.start + 1) block.fence.Closes →
      block.stop = lines.length → EndsIn lines block

/-- The blocks of the document from a position on, which is in no block. -/
inductive CodeBlocks (lines : List Text) : (here : Nat) → (blocks : List CodeBlock) → Prop
  | nil {here : Nat} :
      NoneFrom lines here (fun line => ∃ fence : Fence, fence.Opens line) → CodeBlocks lines here []
  | cons {here : Nat} {block : CodeBlock} {blocks : List CodeBlock} :
      IsFirstFrom lines here (fun line => ∃ fence : Fence, fence.Opens line) block.start →
      (∃ line, lines[block.start]? = some line ∧ block.fence.Opens line) →
      block.EndsIn lines → CodeBlocks lines block.stop blocks →
      CodeBlocks lines here (block :: blocks)

variable {lines : List Text} {here i : Nat} {block : CodeBlock} {blocks : List CodeBlock}

theorem CodeBlock.EndsIn.start_lt (h : block.EndsIn lines) (hstart : block.start < lines.length) :
    block.start < block.stop := by
  cases h with
  | closed hlast hstop =>
    have := hlast.le
    omega
  | unclosed _ hstop => omega

theorem CodeBlock.EndsIn.stop_le (h : block.EndsIn lines) : block.stop ≤ lines.length := by
  cases h with
  | closed hlast hstop =>
    have := hlast.lt_length
    omega
  | unclosed _ hstop => omega

/-- A line in the block, behind its first one, is the last line of the block only if it closes the
fence or is the last of the document. -/
theorem CodeBlock.EndsIn.holds_succ {line : Text} (h : block.EndsIn lines) (hi : block.start < i)
    (hholds : block.Holds i) (hline : lines[i]? = some line) (hclose : ¬ block.fence.Closes line)
    (hnext : i + 1 < lines.length) : block.Holds (i + 1) := by
  refine ⟨by omega, ?_⟩
  have hlt := hholds.2
  cases h with
  | @closed last hlast hstop =>
    obtain ⟨line', hline', hclose'⟩ := hlast.holds
    have hne : i ≠ last := by
      rintro rfl
      rw [hline] at hline'
      cases hline'
      exact hclose hclose'
    omega
  | unclosed _ hstop => omega

namespace CodeBlocks

/-- Every document has blocks, or none, from every position on. -/
theorem exists_from (lines : List Text) (here : Nat) : ∃ blocks, CodeBlocks lines here blocks := by
  -- every block brings the end of the document nearer
  induction hn : lines.length - here using Nat.strong_induction_on generalizing here with
  | _ n ih =>
    rcases exists_isFirstFrom_or_noneFrom lines here
      (fun line => ∃ fence : Fence, fence.Opens line) with ⟨start, hstart⟩ | hnone
    · obtain ⟨first, hfirst, fence, hopens⟩ := hstart.holds
      have hlength := hstart.lt_length
      have hle := hstart.le
      obtain ⟨stop, hends⟩ : ∃ stop, CodeBlock.EndsIn lines ⟨fence, start, stop⟩ := by
        rcases exists_isFirstFrom_or_noneFrom lines (start + 1) fence.Closes with
          ⟨last, hlast⟩ | hopen
        · exact ⟨last + 1, .closed hlast rfl⟩
        · exact ⟨lines.length, .unclosed hopen rfl⟩
      have hlt : start < stop := hends.start_lt hlength
      obtain ⟨blocks, hblocks⟩ := ih (lines.length - stop) (by omega) stop rfl
      exact ⟨⟨fence, start, stop⟩ :: blocks, .cons hstart ⟨first, hfirst, hopens⟩ hends hblocks⟩
    · exact ⟨[], .nil hnone⟩

theorem of_mem (h : CodeBlocks lines here blocks) (hblock : block ∈ blocks) :
    here ≤ block.start ∧ block.EndsIn lines := by
  induction h with
  | nil _ => cases hblock
  | cons hfirst _ hends _ ih =>
    rcases List.mem_cons.1 hblock with rfl | hblock
    · exact ⟨hfirst.le, hends⟩
    · have hlt := hends.start_lt hfirst.lt_length
      have hle := hfirst.le
      obtain ⟨hstart, hends'⟩ := ih hblock
      exact ⟨by omega, hends'⟩

/-- A position in a block is one of the document, and none in front of the first block. -/
theorem of_holds (h : CodeBlocks lines here blocks) (hblock : block ∈ blocks)
    (hholds : block.Holds i) : here ≤ i ∧ i < lines.length := by
  obtain ⟨hle, hends⟩ := h.of_mem hblock
  exact ⟨hle.trans hholds.1, Nat.lt_of_lt_of_le hholds.2 hends.stop_le⟩

/-- No two blocks have a line in common: each begins behind the one before it. -/
theorem pairwise (h : CodeBlocks lines here blocks) :
    blocks.Pairwise fun first second => first.stop ≤ second.start := by
  induction h with
  | nil _ => exact .nil
  | cons _ _ _ hrest ih => exact .cons (fun _ hmem => (hrest.of_mem hmem).1) ih

end CodeBlocks

/-! ## The fence that is open in front of a position -/

theorem openBehind_take_succ {opened : Option Fence} {line : Text} (h : lines[i]? = some line) :
    openBehind opened (lines.take (i + 1)) =
      (Fence.look (openBehind opened (lines.take i)) line).2 := by
  rw [List.take_add_one, h, openBehind_append]
  rfl

/-- The open fence, or that none is open, stays up to a position if no line on the way changes
it. -/
theorem openBehind_take_of_forall {opened opened' : Option Fence} (hle : here ≤ i)
    (hhere : openBehind opened (lines.take here) = opened')
    (hkeep : ∀ j line, here ≤ j → j < i → lines[j]? = some line →
      (Fence.look opened' line).2 = opened') : openBehind opened (lines.take i) = opened' := by
  induction i, hle using Nat.le_induction with
  | base => exact hhere
  | succ i hle ih =>
    have hbefore := ih fun j line hj hlt => hkeep j line hj (by omega)
    cases hline : lines[i]? with
    | none =>
      rw [List.take_add_one, hline, Option.toList_none, List.append_nil]
      exact hbefore
    | some line =>
      rw [openBehind_take_succ hline, hbefore]
      exact hkeep i line hle (by omega) hline

/-- In front of a block no fence is open. -/
theorem openBehind_take_of_not_opens (hle : here ≤ i)
    (hhere : openBehind none (lines.take here) = none)
    (hopens : ∀ j line, here ≤ j → j < i → lines[j]? = some line →
      ¬ ∃ fence : Fence, fence.Opens line) : openBehind none (lines.take i) = none := by
  refine openBehind_take_of_forall hle hhere fun j line hj hlt hline => ?_
  rw [look_of_not_opens fun fence hfence => hopens j line hj hlt hline ⟨fence, hfence⟩]

/-- Within a block its own fence is open. -/
theorem openBehind_take_of_not_closes {fence : Fence} {start : Nat} {line : Text}
    (hline : lines[start]? = some line) (hopens : fence.Opens line)
    (hstart : openBehind none (lines.take start) = none) (hle : start + 1 ≤ i)
    (hcloses : ∀ j line, start + 1 ≤ j → j < i → lines[j]? = some line → ¬ fence.Closes line) :
    openBehind none (lines.take i) = some fence := by
  refine openBehind_take_of_forall hle ?_ fun j line hj hlt hline => ?_
  · rw [openBehind_take_succ hline, hstart, look_of_opens hopens]
  · rw [look_of_not_closes (hcloses j line hj hlt hline)]

/-- Behind the first line of a block its fence is open up to the end of the block, and no longer. -/
theorem CodeBlock.EndsIn.openBehind_take {first : Text} (h : block.EndsIn lines)
    (hfirst : lines[block.start]? = some first) (hopens : block.fence.Opens first)
    (hstart : openBehind none (lines.take block.start) = none) :
    (∀ i, block.start < i → i < block.stop →
        openBehind none (lines.take i) = some block.fence) ∧
      (block.stop < lines.length → openBehind none (lines.take block.stop) = none) := by
  cases h with
  | @closed last hlast hstop =>
    have hbefore : ∀ i, block.start < i → i ≤ last →
        openBehind none (lines.take i) = some block.fence := fun i hi hle =>
      openBehind_take_of_not_closes hfirst hopens hstart hi fun j line hj hlt =>
        hlast.least j line hj (Nat.lt_of_lt_of_le hlt hle)
    obtain ⟨line, hline, hclose⟩ := hlast.holds
    refine ⟨fun i hi hlt => hbefore i hi (by omega), fun _ => ?_⟩
    rw [hstop, openBehind_take_succ hline, hbefore last hlast.le le_rfl, look_of_closes hclose]
  | unclosed hnone hstop =>
    refine ⟨fun i hi _ => ?_, fun hlt => absurd hlt (by omega)⟩
    exact openBehind_take_of_not_closes hfirst hopens hstart hi fun j line hj _ => hnone j line hj

/-! ## Marked lines -/

/-- A line is marked if a fence is open in front of it or it opens one itself. -/
theorem getElem?_codeLines_iff {line : Text} (h : lines[i]? = some line) :
    (codeLines none lines)[i]? = some true ↔
      (openBehind none (lines.take i)).isSome = true ∨ ∃ fence : Fence, fence.Opens line := by
  rw [getElem?_codeLines h, Option.some.injEq, Bool.or_eq_true]
  refine or_congr Iff.rfl ?_
  rw [Option.isSome_iff_exists]
  simp only [Fence.ofStart?_eq_some_iff]

/-- From a position on that is in no block, the marked lines are those of the blocks. -/
theorem CodeBlocks.getElem?_codeLines_iff (h : CodeBlocks lines here blocks)
    (hhere : openBehind none (lines.take here) = none) (hle : here ≤ i) :
    (codeLines none lines)[i]? = some true ↔ ∃ block ∈ blocks, block.Holds i := by
  cases hline : lines[i]? with
  | none =>
    -- no position behind the end is marked or in a block
    have hlength := List.getElem?_eq_none_iff.1 hline
    have hmark : (codeLines none lines)[i]? = none := by
      rwa [List.getElem?_eq_none_iff, length_codeLines]
    rw [hmark]
    refine iff_of_false (Option.some_ne_none true).symm ?_
    rintro ⟨block, hblock, hholds⟩
    exact Nat.not_lt_of_le hlength (h.of_holds hblock hholds).2
  | some line =>
    have hlength := (List.getElem?_eq_some_iff.1 hline).1
    rw [Bindery.getElem?_codeLines_iff hline]
    induction h with
    | nil hnone =>
      have hopen := openBehind_take_of_not_opens hle hhere fun j line hj _ => hnone j line hj
      simp [hopen, hnone i line hle hline]
    | @cons here block blocks hfirst hopens hends hrest ih =>
      obtain ⟨first, hstart, hfence⟩ := hopens
      have hbefore : ∀ j, here ≤ j → j ≤ block.start → openBehind none (lines.take j) = none :=
        fun j hj hjs => openBehind_take_of_not_opens hj hhere fun k line hk hkj =>
          hfirst.least k line hk (Nat.lt_of_lt_of_le hkj hjs)
      obtain ⟨hinside, hbehind⟩ :=
        hends.openBehind_take hstart hfence (hbefore block.start hfirst.le le_rfl)
      rw [List.exists_mem_cons_iff]
      by_cases hin : block.Holds i
      · -- the first line opens the fence, and in front of the others it is open
        refine iff_of_true ?_ (.inl hin)
        rcases Nat.eq_or_lt_of_le hin.1 with rfl | hi
        · rw [hstart] at hline
          cases hline
          exact .inr ⟨_, hfence⟩
        · exact .inl (by rw [hinside i hi hin.2, Option.isSome_some])
      · rw [or_iff_right hin]
        rcases Nat.lt_or_ge i block.start with hi | hi
        · -- in front of the block nothing opens, and the other blocks are behind it
          refine iff_of_false ?_ ?_
          · rintro (hopen | hopens)
            · rw [hbefore i hle (Nat.le_of_lt hi)] at hopen
              cases hopen
            · exact hfirst.least i line hle hi hline hopens
          · rintro ⟨other, hother, hholds⟩
            have hlt := hends.start_lt hfirst.lt_length
            have hbehind := (hrest.of_holds hother hholds).1
            omega
        · have hstop : block.stop ≤ i := Nat.le_of_not_lt fun hlt => hin ⟨hi, hlt⟩
          exact ih (hbehind (Nat.lt_of_le_of_lt hstop hlength)) hstop

/-! ## Lines that close nothing -/

/-- A run of the other character, one that is too short and one with something behind it close
nothing. -/
theorem Fence.StandsIn.not_closes {fence run : Fence} {line rest : Text}
    (h : run.StandsIn line rest)
    (hmiss : run.marker ≠ fence.marker ∨ run.length < fence.length ∨
      ∃ c ∈ rest, isBlank c = false) : ¬ fence.Closes line := by
  rintro ⟨run', rest', h', hmarker, hlength, hblank⟩
  -- a line starts with one run only
  obtain ⟨hrun, hrest⟩ := Fence.ofStart?_of_standsIn h
  obtain ⟨hrun', hrest'⟩ := Fence.ofStart?_of_standsIn h'
  obtain rfl : run = run' := Option.some.inj (hrun.symm.trans hrun')
  obtain rfl : rest = rest' := hrest.symm.trans hrest'
  rcases hmiss with hmiss | hmiss | ⟨c, hc, hmiss⟩
  · exact hmiss hmarker
  · omega
  · rw [hblank c hc] at hmiss
    cases hmiss

/-- The lines that are marked as code are those in the blocks of the document. The blocks have no
line in common, and a line within one that starts with a run of the other character, with a run that
is too short, or with a run that something follows is not its last one, unless the document ends
there. -/
theorem codeLines_codeBlocks (lines : List Text) :
    (∃ blocks, CodeBlocks lines 0 blocks) ∧
      ∀ blocks, CodeBlocks lines 0 blocks →
        (codeLines none lines).length = lines.length ∧
          (∀ i, (codeLines none lines)[i]? = some true ↔ ∃ block ∈ blocks, block.Holds i) ∧
          (blocks.Pairwise fun first second => first.stop ≤ second.start) ∧
          ∀ block ∈ blocks, ∀ i line run rest, block.start < i → block.Holds i →
            lines[i]? = some line → Fence.StandsIn run line rest →
            (run.marker ≠ block.fence.marker ∨ run.length < block.fence.length ∨
              ∃ c ∈ rest, isBlank c = false) →
            i + 1 < lines.length → block.Holds (i + 1) := by
  refine ⟨CodeBlocks.exists_from lines 0, fun blocks h => ?_⟩
  refine ⟨length_codeLines none lines, fun i => h.getElem?_codeLines_iff rfl (Nat.zero_le i),
    h.pairwise, ?_⟩
  intro block hblock i line run rest hi hholds hline hrun hmiss hnext
  exact (h.of_mem hblock).2.holds_succ hi hholds hline (hrun.not_closes hmiss) hnext

end Bindery
