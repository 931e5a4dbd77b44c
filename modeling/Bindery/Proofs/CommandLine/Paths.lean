import Bindery.CommandLine.Arguments
import Bindery.Proofs.Settings.Valid

set_option autoImplicit false

/-! # The paths of a request

An empty path is refused wherever the command line gives one, in an option, as the book or through
the environment, and no path becomes empty when the home directory is put in
(`hasPaths_of_parse`). So a request is always worked with under valid settings
(`isValid_of_parse`). -/

namespace Bindery

namespace CommandLine

/-- No path that the arguments give is empty. -/
structure Arguments.HavePaths (given : Arguments) : Prop where
  book : given.book ≠ some []
  executable : given.executable ≠ some []
  pdf : given.pdf ≠ some []
  epub : given.epub ≠ some []
  config : given.config ≠ some []

/-- No path of a request is empty. -/
structure Request.HasPaths (request : Request) : Prop where
  book : request.book ≠ []
  executable : request.overrides.executable ≠ some []
  pdf : request.overrides.pdf ≠ some []
  epub : request.overrides.epub ≠ some []
  config : request.config ≠ some []

theorem ne_of_givenOnce {old taken : Option Path} {value : Path}
    (h : givenOnce old value = .ok taken) : taken ≠ some [] := by
  unfold givenOnce at h
  split at h
  · cases h
  · next hvalue =>
    cases h
    rw [ne_eq, Option.some.injEq]
    exact fun hempty => hvalue (.inr hempty)

namespace Arguments

variable {given taken : Arguments} {waiting : Option ValueOption} {argument value name : Text}

theorem HavePaths.setValue {option : ValueOption} (hgiven : given.HavePaths)
    (h : given.setValue value option = .ok taken) : taken.HavePaths := by
  cases option with
  | executable =>
    obtain ⟨path, hpath, rfl⟩ := map_eq_ok_iff.1 h
    exact { hgiven with executable := ne_of_givenOnce hpath }
  | pdf =>
    obtain ⟨path, hpath, rfl⟩ := map_eq_ok_iff.1 h
    exact { hgiven with pdf := ne_of_givenOnce hpath }
  | epub =>
    obtain ⟨path, hpath, rfl⟩ := map_eq_ok_iff.1 h
    exact { hgiven with epub := ne_of_givenOnce hpath }
  | config =>
    obtain ⟨path, hpath, rfl⟩ := map_eq_ok_iff.1 h
    exact { hgiven with config := ne_of_givenOnce hpath }
  | chapter =>
    cases h
    exact { hgiven with }

theorem HavePaths.setFlag {flag : Flag} (hgiven : given.HavePaths)
    (h : given.setFlag flag = .ok taken) : taken.HavePaths := by
  unfold Arguments.setFlag at h
  split at h
  any_goals
    split at h
    · cases h
    · cases h
      exact { hgiven with }
  · cases h
  · cases h

theorem HavePaths.setBook (hgiven : given.HavePaths) (h : given.setBook value = .ok taken) :
    taken.HavePaths := by
  obtain ⟨path, hpath, rfl⟩ := map_eq_ok_iff.1 h
  exact { hgiven with book := ne_of_givenOnce hpath }

/-- The arguments behind `--`. -/
theorem HavePaths.setBooks {values : List Text} (hgiven : given.HavePaths)
    (h : values.foldlM Arguments.setBook given = .ok taken) : taken.HavePaths := by
  induction values generalizing given with
  | nil =>
    cases h
    exact hgiven
  | cons value values ih =>
    rw [List.foldlM_cons] at h
    obtain ⟨next, hnext, h⟩ := bind_eq_ok_iff.1 h
    exact ih (hgiven.setBook hnext) h

theorem HavePaths.setLetters (hgiven : given.HavePaths)
    (h : given.setLetters value = .ok (taken, waiting)) : taken.HavePaths := by
  induction value generalizing given with
  | nil =>
    cases h
    exact hgiven
  | cons c rest ih =>
    unfold Arguments.setLetters at h
    split at h
    · cases h
    · split at h
      · cases h
      · next hflag => exact ih (hgiven.setFlag hflag) h
    · split at h
      · cases h
        exact hgiven
      · obtain ⟨_, htaken, heq⟩ := map_eq_ok_iff.1 h
        cases heq
        exact hgiven.setValue htaken
      · obtain ⟨_, htaken, heq⟩ := map_eq_ok_iff.1 h
        cases heq
        exact hgiven.setValue htaken

theorem HavePaths.setLong {value : Option Text} (hgiven : given.HavePaths)
    (h : given.setLong name value = .ok (taken, waiting)) : taken.HavePaths := by
  unfold Arguments.setLong at h
  split at h
  · obtain ⟨_, htaken, heq⟩ := map_eq_ok_iff.1 h
    cases heq
    exact hgiven.setFlag htaken
  · obtain ⟨_, htaken, heq⟩ := map_eq_ok_iff.1 h
    cases heq
    exact hgiven.setValue htaken
  · cases h
    exact hgiven
  · cases h

theorem HavePaths.set (hgiven : given.HavePaths)
    (h : given.set argument = .ok (taken, waiting)) : taken.HavePaths := by
  unfold Arguments.set at h
  split at h
  · exact hgiven.setLong h
  · exact hgiven.setLetters h
  · obtain ⟨_, htaken, heq⟩ := map_eq_ok_iff.1 h
    cases heq
    exact hgiven.setBook htaken

theorem HavePaths.setAll {arguments : List Text} (hgiven : given.HavePaths)
    (h : given.setAll waiting arguments = .ok taken) : taken.HavePaths := by
  induction arguments generalizing given waiting with
  | nil =>
    unfold Arguments.setAll at h
    split at h
    · cases h
    · cases h
      exact hgiven
  | cons argument rest ih =>
    unfold Arguments.setAll at h
    split at h
    · split at h
      · cases h
      · split at h
        · cases h
        · next hvalue => exact ih (hgiven.setValue hvalue) h
    · split at h
      · exact hgiven.setBooks h
      · split at h
        · cases h
        · next hset => exact ih (hgiven.set hset) h

theorem HavePaths.withEnvironment {environment : Environment} (hgiven : given.HavePaths)
    (h : given.withEnvironment environment = .ok taken) : taken.HavePaths := by
  unfold Arguments.withEnvironment at h
  split at h
  · obtain ⟨path, hpath, rfl⟩ := map_eq_ok_iff.1 h
    exact { hgiven with executable := ne_of_givenOnce hpath }
  · cases h
    exact hgiven

end Arguments

/-- A path stays one when the home directory is put in. -/
theorem expandHome_eq_nil_iff {environment : Environment} {path : Path} :
    expandHome environment path = [] ↔ path = [] := by
  unfold expandHome
  dsimp only
  split
  · split <;> simp
  · split <;> simp
  · rfl

theorem map_expandHome_ne {environment : Environment} {path : Option Path} (h : path ≠ some []) :
    path.map (expandHome environment) ≠ some [] := by
  intro hempty
  obtain ⟨path, rfl, hpath⟩ := Option.map_eq_some_iff.1 hempty
  exact h (congrArg some (expandHome_eq_nil_iff.1 hpath))

variable {environment : Environment} {arguments : List Text} {request : Request}

/-- No request has an empty path. -/
theorem hasPaths_of_parse (h : parse environment arguments = .ok request) : request.HasPaths := by
  unfold parse at h
  split at h
  · cases h
  · next given hgiven =>
    obtain ⟨taken, htaken, hgiven⟩ := bind_eq_ok_iff.1 hgiven
    have hnone : Arguments.HavePaths {} := by
      constructor <;> simp
    have hpaths := (hnone.setAll htaken).withEnvironment hgiven
    split at h
    · cases h
    · next book hbook =>
      split at h
      · cases h
      · cases h
        have hne : book ≠ [] := by
          rintro rfl
          exact hpaths.book hbook
        exact ⟨mt expandHome_eq_nil_iff.1 hne, map_expandHome_ne hpaths.executable,
          map_expandHome_ne hpaths.pdf, map_expandHome_ne hpaths.epub, hpaths.config⟩

/-- The settings for a request are valid. -/
theorem isValid_of_parse {files : Workspace} {settings : Settings}
    (hparse : parse environment arguments = .ok request)
    (hload : Settings.load files environment request.config request.overrides = .ok settings) :
    settings.IsValid := by
  obtain ⟨found, hfound, rfl⟩ := map_eq_ok_iff.1 hload
  exact (Settings.isValid_of_find hfound).override_iff.2 (hasPaths_of_parse hparse).executable

end CommandLine

end Bindery
