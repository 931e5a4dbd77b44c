import Bindery.Settings.Load
import Bindery.Proofs.FirstFault
import Mathlib

set_option autoImplicit false

/-! # Valid settings

`IsValid` says which settings can be worked with, and `validate_eq_ok_iff` that `validate` finds it
out. Only the settings of a file are checked, and only before the command line has its say: the
defaults are never checked, and the executable that the command line gives takes the place of one
that was. `validate_of_load` says that the settings in force are valid all the same, exactly if the
command line gives no empty executable. -/

namespace Bindery

namespace Settings

/-- The settings can be worked with. -/
structure IsValid (settings : Settings) : Prop where
  rootDocument : settings.book.rootDocument ≠ []
  combinedPath : settings.book.combinedPath ≠ []
  headingShift : -5 ≤ settings.book.headingShift ∧ settings.book.headingShift ≤ 5
  executable : settings.renderer.executable ≠ []
  splitLevel : 1 ≤ settings.renderer.splitLevel ∧ settings.renderer.splitLevel ≤ 6

/-! ## The check -/

theorem requireText_eq_ok_iff {field : String} {value : Text} :
    requireText field value = .ok () ↔ value ≠ [] := by
  unfold requireText
  split <;> simp_all

theorem requireRange_eq_ok_iff {field : String} {low high value : Int} :
    requireRange field low high value = .ok () ↔ low ≤ value ∧ value ≤ high := by
  unfold requireRange
  split <;> simp_all

theorem validate_eq_ok_iff {settings : Settings} :
    settings.validate = .ok () ↔ settings.IsValid := by
  simp only [validate, bind_eq_ok_iff, Unique.exists_iff, PUnit.default_eq_unit,
    requireText_eq_ok_iff, requireRange_eq_ok_iff]
  constructor
  · rintro ⟨hroot, hcombined, hshift, hexecutable, hsplit⟩
    exact ⟨hroot, hcombined, hshift, hexecutable, by omega⟩
  · rintro ⟨hroot, hcombined, hshift, hexecutable, hsplit⟩
    exact ⟨hroot, hcombined, hshift, hexecutable, by omega⟩

/-! ## Where settings come from -/

/-- The defaults pass the check that they are never put to. -/
theorem isValid_default : IsValid {} := by
  refine ⟨?_, ?_, ?_, ?_, ?_⟩ <;> decide

variable {files : Workspace} {environment : Environment} {named : Option Path} {path : Path}
  {overrides : Overrides} {settings : Settings}

/-- The settings of a file are checked after their variables are replaced. -/
theorem ofFile_eq_ok_iff :
    ofFile files environment path = .ok settings ↔
      ∃ text written expanded, files.readText path = .ok text ∧ ofText? text = some written ∧
        written.expandVariables environment = .ok expanded ∧ expanded.IsValid ∧
        { expanded with source := some path } = settings := by
  unfold ofFile
  constructor
  · intro h
    split at h
    · cases h
    · next text htext =>
      split at h
      · cases h
      · next written hwritten =>
        split at h
        · cases h
        · next expanded hexpanded =>
          split at h
          · cases h
          · next hvalid =>
            exact ⟨text, written, expanded, htext, hwritten, hexpanded,
              validate_eq_ok_iff.1 hvalid, Except.ok.inj h⟩
  · rintro ⟨text, written, expanded, htext, hwritten, hexpanded, hvalid, rfl⟩
    simp only [htext, hwritten, hexpanded, validate_eq_ok_iff.2 hvalid]

theorem isValid_of_ofFile (h : ofFile files environment path = .ok settings) :
    settings.IsValid := by
  -- where the settings come from is no matter of the check
  obtain ⟨-, -, expanded, -, -, -, hvalid, rfl⟩ := ofFile_eq_ok_iff.1 h
  exact ⟨hvalid.rootDocument, hvalid.combinedPath, hvalid.headingShift, hvalid.executable,
    hvalid.splitLevel⟩

/-- Settings that are found are those of a file or the defaults. -/
theorem exists_ofFile_of_find (h : find files environment named = .ok settings) :
    (∃ path, ofFile files environment path = .ok settings) ∨ {} = settings := by
  unfold find at h
  split at h
  · split at h
    · exact .inl ⟨_, h⟩
    · cases h
  · split at h
    · exact .inl ⟨_, h⟩
    · exact .inr (Except.ok.inj h)

theorem isValid_of_find (h : find files environment named = .ok settings) : settings.IsValid := by
  obtain ⟨path, hpath⟩ | rfl := exists_ofFile_of_find h
  · exact isValid_of_ofFile hpath
  · exact isValid_default

/-- Of what is checked, the command line can give only the executable. -/
theorem IsValid.override_iff (h : settings.IsValid) :
    (settings.override overrides).IsValid ↔ overrides.executable ≠ some [] := by
  constructor
  · rintro hvalid hempty
    exact hvalid.executable (by simp [override, hempty])
  · intro hgiven
    refine ⟨h.rootDocument, h.combinedPath, h.headingShift, ?_, h.splitLevel⟩
    cases hexecutable : overrides.executable with
    | none => simpa [override, hexecutable] using h.executable
    | some executable =>
      rw [hexecutable] at hgiven
      simpa [override, hexecutable] using hgiven

/-- The settings in force pass the check, whether they come from a file that is named, from one
that is found or from the defaults. Only an empty executable on the command line keeps them from
it. -/
theorem validate_of_load (h : load files environment named overrides = .ok settings) :
    settings.validate = .ok () ↔ overrides.executable ≠ some [] := by
  obtain ⟨found, hfound, rfl⟩ := map_eq_ok_iff.1 h
  rw [validate_eq_ok_iff]
  exact (isValid_of_find hfound).override_iff

/-- A configuration file above the working directory, with a variable for the executable. -/
def fileAbove : Workspace :=
  ⟨.folder "book".toList true .empty (.file "docbind.toml".toList
    (Utf8.encode "pandoc.executable = '${RENDERER}'".toList) .empty), ["book".toList]⟩

theorem validate_of_load_fileAbove :
    ∃ settings,
      load fileAbove [("RENDERER".toList, "r".toList)] none { pdf := some [] } = .ok settings ∧
        settings.renderer.executable = "r".toList ∧ settings.output.pdf = [] ∧
        settings.validate = .ok () := by
  have hload : load fileAbove [("RENDERER".toList, "r".toList)] none { pdf := some [] } =
      .ok { renderer := { executable := "r".toList }, output := { pdf := [] },
            source := some "/docbind.toml".toList } := by
    cbv
  exact ⟨_, hload, rfl, rfl, (validate_of_load hload).2 (by decide)⟩

end Settings

end Bindery
