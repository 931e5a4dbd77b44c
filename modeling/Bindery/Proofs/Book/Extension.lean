import Bindery.Proofs.Book.Segments
import Bindery.Proofs.Chapter.Layout
import Bindery.Proofs.Files.Write

set_option autoImplicit false

/-! # Assembling with more to draw on

What is assembled rests on records that were found and files that were read. A corpus that has the
same records and files, and others besides, makes the same of each line, and so the same document
(`Corpus.Extends.assemble`). Only a failure may turn into a success. -/

namespace Bindery

/-- The second corpus has all records of the first, and all its files can be read with the same
content. -/
structure Corpus.Extends (corpus corpus' : Corpus) : Prop where
  index : corpus.index.Extends corpus'.index
  read : ∀ path content, corpus.files.read path = .ok content →
    corpus'.files.read path = .ok content
  assetFolder : corpus'.assetFolder = corpus.assetFolder

/-- Going through a list succeeds with a function that succeeds more often. -/
theorem mapM_ok_of_imp {α β ε ε' : Type} {f : α → Except ε β} {g : α → Except ε' β}
    (h : ∀ x y, f x = .ok y → g x = .ok y) {xs : List α} {ys : List β}
    (hxs : xs.mapM f = .ok ys) : xs.mapM g = .ok ys :=
  mapM_eq_ok_iff.2 ((mapM_eq_ok_iff.1 hxs).imp h)

/-! ## References and images -/

section

variable {index index' : Index} (h : index.Extends index')

include h

theorem Index.Extends.labelOf {target label : Text} (hlabel : labelOf index target = .ok label) :
    labelOf index' target = .ok label := by
  unfold Bindery.labelOf at hlabel ⊢
  split at hlabel
  · exact hlabel
  · obtain ⟨record, hget, htitle⟩ := Index.titleFor_eq_ok_iff.1 hlabel
    exact Index.titleFor_eq_ok_iff.2 ⟨record, h _ _ hget, htitle⟩

theorem Index.Extends.resolveReferences {line linked : Text}
    (hlinked : resolveReferences index line = .ok linked) :
    resolveReferences index' line = .ok linked := by
  obtain ⟨texts, htexts, hflatten⟩ := map_eq_ok_iff.1 hlinked
  refine map_eq_ok_iff.2 ⟨texts, mapM_ok_of_imp (fun piece text hpiece => ?_) htexts, hflatten⟩
  cases piece with
  | plain c => exact hpiece
  | reference target =>
    obtain ⟨label, hlabel, hlink⟩ := map_eq_ok_iff.1 hpiece
    exact map_eq_ok_iff.2 ⟨label, h.labelOf hlabel, hlink⟩

end

namespace Corpus.Extends

variable {corpus corpus' : Corpus} (h : corpus.Extends corpus')

include h

theorem readText {path : Path} {text : Text} (htext : corpus.files.readText path = .ok text) :
    corpus'.files.readText path = .ok text :=
  Workspace.readText_of_read (h.read path) htext

theorem widthOf {fileName : Text} {width : Nat}
    (hwidth : corpus.assets.widthOf fileName = .ok width) :
    corpus'.assets.widthOf fileName = .ok width := by
  unfold Assets.widthOf at hwidth ⊢
  have hfolder : corpus'.assets.folder = corpus.assets.folder := h.assetFolder
  rw [hfolder]
  dsimp only at hwidth ⊢
  split at hwidth
  · cases hwidth
  · next content hread =>
    have hread' : corpus'.assets.files.read (Path.join corpus.assets.folder fileName) =
        .ok content := h.read _ _ hread
    rw [hread']
    exact hwidth

theorem resolveImage {line shown : Text} (hshown : resolveImage corpus.assets line = .ok shown) :
    resolveImage corpus'.assets line = .ok shown := by
  unfold Bindery.resolveImage at hshown ⊢
  split at hshown
  · exact hshown
  · next image _ =>
    obtain ⟨percent, hpercent, hrender⟩ := map_eq_ok_iff.1 hshown
    obtain ⟨width, hwidth, hscale⟩ := map_eq_ok_iff.1 hpercent
    exact map_eq_ok_iff.2 ⟨percent, map_eq_ok_iff.2 ⟨width, h.widthOf hwidth, hscale⟩, hrender⟩

/-! ## Lines and documents -/

theorem prepareLine {line prepared : Text}
    (hprepared : prepareLine corpus.index corpus.assets line = .ok prepared) :
    prepareLine corpus'.index corpus'.assets line = .ok prepared := by
  unfold Bindery.prepareLine at hprepared ⊢
  split at hprepared
  · cases hprepared
  · next linked hlinked =>
    rw [h.index.resolveReferences hlinked]
    dsimp only
    split at hprepared
    · cases hprepared
    · next shown hshown =>
      rw [h.resolveImage hshown]
      exact hprepared

theorem contributes {options : AssemblyOptions} {line : Text} {segment : Segment}
    (hsegment : Contributes corpus options line segment) :
    Contributes corpus' options line segment := by
  cases hsegment with
  | chapter hdirective hselects hget htext hbody =>
    refine .chapter hdirective hselects (h.index _ _ hget) (h.readText htext) ?_
    rw [DefinitionList.layOut_eq] at hbody ⊢
    obtain ⟨lines, hlines, hlaidOut⟩ := map_eq_ok_iff.1 hbody
    exact map_eq_ok_iff.2 ⟨lines, mapM_ok_of_imp (fun _ _ => h.prepareLine) hlines, hlaidOut⟩
  | skipped hdirective hselects => exact .skipped hdirective hselects
  | heading hnone htop => exact .heading hnone htop
  | plain hnone htop => exact .plain hnone htop

/-- A document that was assembled is assembled again when there is more to draw on. -/
theorem assemble {options : AssemblyOptions} {header : Header} {root : Text}
    {document : CombinedDocument} (hdocument : assemble corpus options header root = .ok document) :
    assemble corpus' options header root = .ok document := by
  rcases exists_startsAt (Text.lines root) with hnone | ⟨first, following, hstart⟩
  · rw [assemble_of_no_heading hnone] at hdocument ⊢
    exact hdocument
  · rw [assemble_of_startsAt hstart] at hdocument ⊢
    obtain ⟨segments, hsegments, heq⟩ := map_eq_ok_iff.1 hdocument
    have hagain := mapM_ok_of_imp (fun _ _ hsegment =>
      rootSegment_eq_ok_iff.2 (h.contributes (rootSegment_eq_ok_iff.1 hsegment))) hsegments
    exact map_eq_ok_iff.2 ⟨segments, hagain, heq⟩

end Corpus.Extends

end Bindery
