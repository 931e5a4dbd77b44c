import Bindery.Book.Version
import Bindery.Proofs.Process.Asked
import Bindery.Proofs.Text.Lines
import Bindery.Proofs.Text.Trim
import Mathlib

set_option autoImplicit false

/-! # Asking for a version

Both questions, for the reference and for its date, are put in the same way: one request is made,
and a second one if the first has no answer (`Answered`). What counts as an answer is told by
`IsAnswer`, and the requests are written out in `ReferenceAnswered` and `DateAnswered`. By
`run_version`, a run for a version asks what `VersionCourse` says, and ends as that says, whatever
the program does. `isSingleLine_version` says when a version is made of single lines. -/

namespace Bindery

namespace Git

/-- A command that asks about the working copy in a directory. -/
def command (executable folder : Path) (arguments : List Text) : Command :=
  ⟨executable, "-C".toList :: folder :: arguments, []⟩

/-! ## Answers -/

/-- What a program answers: what it wrote to its standard output, without the white space at both
ends. A program that does not end with code `0` answers nothing, whatever it wrote. -/
inductive IsAnswer (exit : Exit) : Text → Prop
  | written {text : Text} : exit.status = .code 0 →
      Text.IsTrimOf text (Utf8.decodeLossy exit.output) → IsAnswer exit text
  | nothing : exit.status ≠ .code 0 → IsAnswer exit []

theorem isAnswer_iff {exit : Exit} {text : Text} : IsAnswer exit text ↔ text = answer exit := by
  have hsucceeded : exit.succeeded = true ↔ exit.status = .code 0 := by
    rw [Exit.succeeded, decide_eq_true_iff]
  by_cases hcode : exit.status = .code 0
  · rw [answer, if_pos (hsucceeded.2 hcode), ← Text.isTrimOf_iff]
    constructor
    · rintro (⟨-, htrim⟩ | hbad)
      · exact htrim
      · exact absurd hcode hbad
    · exact .written hcode
  · rw [answer, if_neg (mt hsucceeded.1 hcode)]
    constructor
    · rintro (⟨hgood, -⟩ | -)
      · exact absurd hgood hcode
      · rfl
    · rintro rfl
      exact .nothing hcode

theorem isAnswer_answer (exit : Exit) : IsAnswer exit (answer exit) :=
  isAnswer_iff.2 rfl

theorem isTrimmed_answer (exit : Exit) : Text.IsTrimmed (answer exit) := by
  rw [answer]
  split
  · exact Text.isTrimmed_trim _
  · exact ⟨by simp, by simp⟩

/-- The first line of a text, if there is one. -/
def firstLine (text : Text) : Text := (Text.lines text).headD []

/-- The first line of a text with white space at neither end is not empty. -/
theorem exists_lines_of_isTrimmed {text : Text} (htrimmed : Text.IsTrimmed text) (hne : text ≠ []) :
    ∃ c line rest, Text.lines text = (c :: line) :: rest := by
  obtain ⟨c, tail, rfl⟩ := List.exists_cons_of_ne_nil hne
  have hblank : isBlank c = false := htrimmed.1 c rfl
  have hfeed : c ≠ '\n' := by
    rintro rfl
    exact absurd hblank (by decide)
  have hreturn : c ≠ '\r' := by
    rintro rfl
    exact absurd hblank (by decide)
  rw [Text.lines_cons hfeed fun he => absurd he hreturn]
  split
  · exact ⟨c, [], [], rfl⟩
  · exact ⟨c, _, _, rfl⟩

/-- The text is one line, and that is not empty. -/
def IsSingleLine (text : Text) : Prop := Text.lines text = [text]

instance (text : Text) : Decidable (IsSingleLine text) :=
  inferInstanceAs (Decidable (_ = _))

theorem isSingleLine_iff {text : Text} : IsSingleLine text ↔ text ≠ [] ∧ '\n' ∉ text := by
  constructor
  · intro h
    have hmem : text ∈ Text.lines text := by
      rw [h]
      exact List.mem_singleton_self text
    refine ⟨?_, Text.not_mem_of_mem_lines hmem⟩
    rintro rfl
    cases hmem
  · rintro ⟨hne, hfeed⟩
    exact Text.lines_of_not_mem hfeed hne

/-- The first line of a text that is trimmed and not empty is a single line. -/
theorem isSingleLine_firstLine {text : Text} (htrimmed : Text.IsTrimmed text) (hne : text ≠ []) :
    IsSingleLine (firstLine text) := by
  obtain ⟨c, line, rest, hlines⟩ := exists_lines_of_isTrimmed htrimmed hne
  have hfirst : firstLine text = c :: line := by
    rw [firstLine, hlines]
    rfl
  have hmem : c :: line ∈ Text.lines text := by simp [hlines]
  rw [hfirst, isSingleLine_iff]
  exact ⟨List.cons_ne_nil c line, Text.not_mem_of_mem_lines hmem⟩

/-! ## A question with two requests -/

variable {files : Workspace} {respond : Workspace → Command → Outcome}
  {executable folder : Path} {pick : Text → Text} {Picks : Text → Text → Prop}
  {first second : List Text}

/-- Puts a question with one request and, if that has no answer, with a second. Of the answer to the
first, a part is picked. -/
def inquire (files : Workspace) (executable folder : Path) (pick : Text → Text)
    (first second : List Text) : Script (Except VersionError Text) :=
  (ask files executable folder first).andThen fun found =>
    if found ≠ [] then .done (.ok (pick found))
    else
      (ask files executable folder second).andThen fun found =>
        .done (if found = [] then .error (.unavailable folder) else .ok found)

/-- What is done with texts that are no answers makes no difference. -/
theorem ask_andThen_congr {next other : Text → Script (Except VersionError Text)}
    {arguments : List Text} (h : ∀ exit, next (answer exit) = other (answer exit)) :
    (ask files executable folder arguments).andThen next =
      (ask files executable folder arguments).andThen other := by
  unfold ask Script.andThen Script.bind
  congr 1
  funext outcome
  cases outcome with
  | error e => rfl
  | ok exit => exact h exit

/-- The reference is the first of the tags, else the branch. -/
theorem reference_eq (files : Workspace) (executable folder : Path) :
    reference files executable folder =
      inquire files executable folder firstLine tagsRequest branchRequest := by
  rw [reference, inquire]
  refine ask_andThen_congr fun exit => ?_
  by_cases hne : answer exit = []
  · simp [hne, Text.lines]
  · obtain ⟨c, line, rest, hlines⟩ := exists_lines_of_isTrimmed (isTrimmed_answer exit) hne
    rw [if_pos hne, firstLine, hlines]
    rfl

/-- The date is that of the tag, else that of the commit. -/
theorem date_eq (files : Workspace) (executable folder : Path) (reference : Text) :
    date files executable folder reference =
      inquire files executable folder id (tagDateRequest reference) (commitDateRequest reference) :=
  rfl

section

variable (outcome : Command → Outcome) (executable folder : Path) (Picks : Text → Text → Prop)
  (first second : List Text)

/-- A question was put with two requests: what it ended in, and each command with what came of it.
Of an answer to the first request, the result is what `Picks` says; an answer to the second is the
result as it is. -/
inductive Answered : Except VersionError Text → List (Command × Outcome) → Prop
  /-- The first request has an answer. -/
  | first {exit : Exit} {found text : Text} :
      outcome (command executable folder first) = .ok exit → IsAnswer exit found → found ≠ [] →
      Picks found text →
      Answered (.ok text) [(command executable folder first, .ok exit)]
  /-- The first request has no answer, but the second has one. -/
  | second {exit exit' : Exit} {text : Text} :
      outcome (command executable folder first) = .ok exit → IsAnswer exit [] →
      outcome (command executable folder second) = .ok exit' → IsAnswer exit' text → text ≠ [] →
      Answered (.ok text)
        [(command executable folder first, .ok exit), (command executable folder second, .ok exit')]
  /-- Neither request has an answer. -/
  | neither {exit exit' : Exit} : outcome (command executable folder first) = .ok exit →
      IsAnswer exit [] → outcome (command executable folder second) = .ok exit' →
      IsAnswer exit' [] →
      Answered (.error (.unavailable folder))
        [(command executable folder first, .ok exit), (command executable folder second, .ok exit')]
  /-- The program cannot be started for the first request. -/
  | firstRefused {e : OsError} : outcome (command executable folder first) = .error e →
      Answered (.error (.command executable first e))
        [(command executable folder first, .error e)]
  /-- The first request has no answer, and the program cannot be started for the second. -/
  | secondRefused {exit : Exit} {e : OsError} :
      outcome (command executable folder first) = .ok exit → IsAnswer exit [] →
      outcome (command executable folder second) = .error e →
      Answered (.error (.command executable second e))
        [(command executable folder first, .ok exit), (command executable folder second, .error e)]

end

theorem run_ask (files : Workspace) (executable folder : Path) (arguments : List Text)
    (respond : Workspace → Command → Outcome) :
    (ask files executable folder arguments).run respond =
      ((match respond files (command executable folder arguments) with
        | .error e => .error (.command executable arguments e)
        | .ok exit => .ok (answer exit)),
        [(command executable folder arguments,
          respond files (command executable folder arguments))]) :=
  rfl

theorem run_ask_ok {arguments : List Text} {exit : Exit}
    (h : respond files (command executable folder arguments) = .ok exit) :
    (ask files executable folder arguments).run respond =
      (.ok (answer exit), [(command executable folder arguments, .ok exit)]) := by
  rw [run_ask, h]

theorem run_ask_error {arguments : List Text} {e : OsError}
    (h : respond files (command executable folder arguments) = .error e) :
    (ask files executable folder arguments).run respond =
      (.error (.command executable arguments e),
        [(command executable folder arguments, .error e)]) := by
  rw [run_ask, h]

section

variable {result : Except VersionError Text} {asked : List (Command × Outcome)}
  (hpick : ∀ exit text, answer exit ≠ [] → (Picks (answer exit) text ↔ text = pick (answer exit)))

include hpick

theorem Answered.run_inquire
    (h : Answered (respond files) executable folder Picks first second result asked) :
    (inquire files executable folder pick first second).run respond = (result, asked) := by
  rw [inquire]
  cases h with
  | first hfirst hfound hne htext =>
    obtain rfl := isAnswer_iff.1 hfound
    rw [Script.run_andThen_ok (run_ask_ok hfirst), if_pos hne, (hpick _ _ hne).1 htext]
    rfl
  | second hfirst hnone hsecond hfound hne =>
    have hnone' := (isAnswer_iff.1 hnone).symm
    obtain rfl := isAnswer_iff.1 hfound
    rw [Script.run_andThen_ok (run_ask_ok hfirst), if_neg (not_not.2 hnone'),
      Script.run_andThen_ok (run_ask_ok hsecond), if_neg hne]
    rfl
  | neither hfirst hnone hsecond hnone' =>
    rw [Script.run_andThen_ok (run_ask_ok hfirst), if_neg (not_not.2 (isAnswer_iff.1 hnone).symm),
      Script.run_andThen_ok (run_ask_ok hsecond), if_pos (isAnswer_iff.1 hnone').symm]
    rfl
  | firstRefused hfirst => rw [Script.run_andThen_error (run_ask_error hfirst)]
  | secondRefused hfirst hnone hsecond =>
    rw [Script.run_andThen_ok (run_ask_ok hfirst), if_neg (not_not.2 (isAnswer_iff.1 hnone).symm),
      Script.run_andThen_error (run_ask_error hsecond)]
    rfl

omit hpick in
/-- Whatever the program does, a question is put with two requests. -/
theorem exists_answered
    (hpicks : ∀ exit, answer exit ≠ [] → ∃ text, Picks (answer exit) text)
    (outcome : Command → Outcome) (executable folder : Path) (first second : List Text) :
    ∃ result asked, Answered outcome executable folder Picks first second result asked := by
  cases hfirst : outcome (command executable folder first) with
  | error e => exact ⟨_, _, .firstRefused hfirst⟩
  | ok exit =>
    have hfound := isAnswer_answer exit
    by_cases hne : answer exit = []
    · rw [hne] at hfound
      cases hsecond : outcome (command executable folder second) with
      | error e => exact ⟨_, _, .secondRefused hfirst hfound hsecond⟩
      | ok exit' =>
        have hfound' := isAnswer_answer exit'
        by_cases hne' : answer exit' = []
        · rw [hne'] at hfound'
          exact ⟨_, _, .neither hfirst hfound hsecond hfound'⟩
        · exact ⟨_, _, .second hfirst hfound hsecond hfound' hne'⟩
    · obtain ⟨text, htext⟩ := hpicks exit hne
      exact ⟨_, _, .first hfirst hfound hne htext⟩

theorem run_inquire_iff :
    (inquire files executable folder pick first second).run respond = (result, asked) ↔
      Answered (respond files) executable folder Picks first second result asked := by
  refine ⟨fun h => ?_, fun h => h.run_inquire hpick⟩
  obtain ⟨result', asked', hanswered⟩ :=
    exists_answered (fun exit hne => ⟨_, (hpick exit _ hne).2 rfl⟩) (respond files) executable
      folder first second
  rw [hanswered.run_inquire hpick] at h
  cases h
  exact hanswered

end

section

variable (outcome : Command → Outcome) (executable folder : Path)

/-- The reference was asked for: the tags at the current commit, of which it is the first, and the
current branch if there are none. -/
def ReferenceAnswered : Except VersionError Text → List (Command × Outcome) → Prop :=
  Answered outcome executable folder Text.IsFirstLine
    ["tag".toList, "--points-at".toList, "HEAD".toList]
    ["symbolic-ref".toList, "--short".toList, "HEAD".toList]

/-- The date of a reference was asked for: that of the tags with this name, and that of the commit
if there is none. -/
def DateAnswered (reference : Text) :
    Except VersionError Text → List (Command × Outcome) → Prop :=
  Answered outcome executable folder (fun found text => text = found)
    ["for-each-ref".toList, "--format".toList, "%(taggerdate:short)".toList,
      "refs/tags/".toList ++ reference]
    ["show".toList, "--no-patch".toList, "--pretty=format:%cs".toList, reference]

end

section

variable {result : Except VersionError Text} {asked : List (Command × Outcome)}

theorem run_reference_iff :
    (reference files executable folder).run respond = (result, asked) ↔
      ReferenceAnswered (respond files) executable folder result asked := by
  rw [reference_eq]
  exact run_inquire_iff fun _ _ _ => Text.isFirstLine_iff

theorem run_date_iff {text : Text} :
    (date files executable folder text).run respond = (result, asked) ↔
      DateAnswered (respond files) executable folder text result asked := by
  rw [date_eq]
  exact run_inquire_iff fun _ _ _ => Iff.rfl

theorem exists_referenceAnswered (outcome : Command → Outcome) (executable folder : Path) :
    ∃ result asked, ReferenceAnswered outcome executable folder result asked :=
  exists_answered (fun _ _ => ⟨_, Text.isFirstLine_iff.2 rfl⟩) outcome executable folder _ _

theorem exists_dateAnswered (outcome : Command → Outcome) (executable folder : Path)
    (reference : Text) :
    ∃ result asked, DateAnswered outcome executable folder reference result asked := by
  refine exists_answered (fun exit _ => ?_) outcome executable folder _ _
  exact ⟨answer exit, rfl⟩

end

theorem command_injective (executable folder : Path) :
    Function.Injective (command executable folder) := by
  intro arguments arguments' h
  simpa [command] using h

section

variable {outcome : Command → Outcome} {result : Except VersionError Text} {text : Text}
  {asked : List (Command × Outcome)}

/-- If the program could not be started, that is the error, and nothing more is asked. -/
theorem Answered.of_refused (h : Answered outcome executable folder Picks first second result asked)
    {arguments : List Text} {e : OsError}
    (hrefused : (command executable folder arguments, .error e) ∈ asked) :
    result = .error (.command executable arguments e) ∧
      asked.getLast? = some (command executable folder arguments, .error e) := by
  have hinj := command_injective executable folder
  cases h with
  | first | second | neither => simp at hrefused
  | firstRefused =>
    obtain ⟨rfl, rfl⟩ : arguments = first ∧ e = _ := by simpa [hinj.eq_iff] using hrefused
    exact ⟨rfl, rfl⟩
  | secondRefused =>
    obtain ⟨rfl, rfl⟩ : arguments = second ∧ e = _ := by simpa [hinj.eq_iff] using hrefused
    exact ⟨rfl, rfl⟩

/-- An error is that there is no answer, or that of a request for which the program could not be
started. -/
theorem Answered.of_error (h : Answered outcome executable folder Picks first second result asked)
    {e : VersionError} (he : result = .error e) :
    e = .unavailable folder ∨ ∃ arguments error, e = .command executable arguments error ∧
      (command executable folder arguments, .error error) ∈ asked := by
  cases h with
  | first | second => cases he
  | neither =>
    cases he
    exact .inl rfl
  | firstRefused =>
    cases he
    exact .inr ⟨first, _, rfl, by simp⟩
  | secondRefused =>
    cases he
    exact .inr ⟨second, _, rfl, by simp⟩

end

/-! ## A version -/

/-- A version was asked for: what came of it, and each command with what came of it. -/
inductive VersionCourse (outcome : Command → Outcome) (executable folder : Path) :
    Except VersionError Version → List (Command × Outcome) → Prop
  /-- There is no reference, and nothing is asked about its date. -/
  | unknown {e : VersionError} {asked : List (Command × Outcome)} :
      ReferenceAnswered outcome executable folder (.error e) asked →
      VersionCourse outcome executable folder (.error e) asked
  /-- There is a reference without a date. -/
  | undated {reference : Text} {e : VersionError} {asked asked' : List (Command × Outcome)} :
      ReferenceAnswered outcome executable folder (.ok reference) asked →
      DateAnswered outcome executable folder reference (.error e) asked' →
      VersionCourse outcome executable folder (.error e) (asked ++ asked')
  /-- There is a reference with a date. -/
  | dated {reference date : Text} {asked asked' : List (Command × Outcome)} :
      ReferenceAnswered outcome executable folder (.ok reference) asked →
      DateAnswered outcome executable folder reference (.ok date) asked' →
      VersionCourse outcome executable folder (.ok ⟨reference, date⟩) (asked ++ asked')

section

variable {result : Except VersionError Version} {asked : List (Command × Outcome)}

theorem VersionCourse.run_eq (h : VersionCourse (respond files) executable folder result asked) :
    ((source files executable).version folder).run respond = (result, asked) := by
  rw [VersionSource.version, source]
  cases h with
  | unknown hreference => rw [Script.run_andThen_error (run_reference_iff.2 hreference)]
  | undated hreference hdate =>
    rw [Script.run_andThen_ok (run_reference_iff.2 hreference), Script.run_map,
      run_date_iff.2 hdate]
    rfl
  | dated hreference hdate =>
    rw [Script.run_andThen_ok (run_reference_iff.2 hreference), Script.run_map,
      run_date_iff.2 hdate]
    rfl

theorem exists_versionCourse (outcome : Command → Outcome) (executable folder : Path) :
    ∃ result asked, VersionCourse outcome executable folder result asked := by
  obtain ⟨reference?, asked, hreference⟩ := exists_referenceAnswered outcome executable folder
  cases reference? with
  | error e => exact ⟨_, _, .unknown hreference⟩
  | ok reference =>
    obtain ⟨date?, asked', hdate⟩ := exists_dateAnswered outcome executable folder reference
    cases date? with
    | error e => exact ⟨_, _, .undated hreference hdate⟩
    | ok date => exact ⟨_, _, .dated hreference hdate⟩

theorem run_version_iff :
    ((source files executable).version folder).run respond = (result, asked) ↔
      VersionCourse (respond files) executable folder result asked := by
  refine ⟨fun h => ?_, fun h => h.run_eq⟩
  obtain ⟨result', asked', hcourse⟩ := exists_versionCourse (respond files) executable folder
  rw [hcourse.run_eq] at h
  cases h
  exact hcourse

variable {outcome : Command → Outcome}

theorem VersionCourse.of_refused (h : VersionCourse outcome executable folder result asked)
    {arguments : List Text} {e : OsError}
    (hrefused : (command executable folder arguments, .error e) ∈ asked) :
    result = .error (.command executable arguments e) ∧
      asked.getLast? = some (command executable folder arguments, .error e) := by
  cases h with
  | unknown hreference =>
    obtain ⟨he, hlast⟩ := hreference.of_refused hrefused
    cases he
    exact ⟨rfl, hlast⟩
  | undated hreference hdate =>
    rcases List.mem_append.1 hrefused with hmem | hmem
    · cases (hreference.of_refused hmem).1
    · obtain ⟨he, hlast⟩ := hdate.of_refused hmem
      cases he
      exact ⟨rfl, by rw [List.getLast?_append, hlast, Option.some_or]⟩
  | dated hreference hdate =>
    rcases List.mem_append.1 hrefused with hmem | hmem
    · cases (hreference.of_refused hmem).1
    · cases (hdate.of_refused hmem).1

theorem VersionCourse.of_error (h : VersionCourse outcome executable folder result asked)
    {e : VersionError} (he : result = .error e) :
    e = .unavailable folder ∨ ∃ arguments error, e = .command executable arguments error ∧
      (command executable folder arguments, .error error) ∈ asked := by
  cases h with
  | unknown hreference =>
    cases he
    exact hreference.of_error rfl
  | undated _ hdate =>
    cases he
    rcases hdate.of_error rfl with hnone | ⟨arguments, error, hcommand, hmem⟩
    · exact .inl hnone
    · exact .inr ⟨arguments, error, hcommand, List.mem_append_right _ hmem⟩
  | dated => cases he

end

/-- A run asks for a version in the one way that its course tells, with the program doing whatever
it does. A request that the program cannot be started for ends the run with that error, and is the
last one; no other request leads to an error unless there is no answer to be had. -/
theorem run_version (files : Workspace) (executable folder : Path)
    (respond : Workspace → Command → Outcome) (result : Except VersionError Version)
    (asked : List (Command × Outcome)) :
    (((source files executable).version folder).run respond = (result, asked) ↔
      VersionCourse (respond files) executable folder result asked) ∧
    (VersionCourse (respond files) executable folder result asked →
      (∀ arguments e, (command executable folder arguments, .error e) ∈ asked →
        result = .error (.command executable arguments e) ∧
          asked.getLast? = some (command executable folder arguments, .error e)) ∧
      ∀ e, result = .error e → e = .unavailable folder ∨
        ∃ arguments error, e = .command executable arguments error ∧
          (command executable folder arguments, .error error) ∈ asked) := by
  refine ⟨run_version_iff, fun h => ⟨?_, ?_⟩⟩
  · intro arguments e hrefused
    exact h.of_refused hrefused
  · intro e he
    exact h.of_error he

/-! ### Programs and their answers -/

/-- A program that answers some requests, each told by its first word, and ends badly on others. -/
def answering (answers : List (Text × Text)) : Workspace → Command → Outcome := fun _ command =>
  match answers.find? (command.arguments[2]? = some ·.1) with
  | some (_, words) => .ok ⟨.code 0, Utf8.encode words, []⟩
  | none => .ok ⟨.code 128, [], []⟩

/-- Two tags without dates of their own at a dated commit. -/
def lightTags : Workspace → Command → Outcome :=
  answering [("tag".toList, "v2\nv1\n".toList), ("show".toList, "2024-03-04\n".toList)]

/-- The dates of the two tags are not told: the program ends badly after it wrote one. -/
def failingTagDates : Workspace → Command → Outcome := fun files command =>
  if command.arguments[2]? = some "for-each-ref".toList then
    .ok ⟨.code 128, Utf8.encode "2023-01-02\n".toList, []⟩
  else lightTags files command

/-- There is no tag, only white space is written, and then the program is taken away. -/
def takenAway : Workspace → Command → Outcome := fun _ command =>
  if command.arguments[2]? = some "tag".toList then
    .ok ⟨.code 0, Utf8.encode " \n".toList, []⟩
  else .error .noEntry

/-- The first of two tags is the reference, and its date is that of the commit. A program that
cannot be started for the branch ends the run. -/
theorem run_version_failingTagDates :
    ((source ⟨.empty, []⟩ "git".toList).version "book".toList).run failingTagDates =
        (.ok ⟨"v2".toList, "2024-03-04".toList⟩,
          [(⟨"git".toList, ["-C".toList, "book".toList, "tag".toList, "--points-at".toList,
              "HEAD".toList], []⟩, .ok ⟨.code 0, Utf8.encode "v2\nv1\n".toList, []⟩),
            (⟨"git".toList, ["-C".toList, "book".toList, "for-each-ref".toList, "--format".toList,
              "%(taggerdate:short)".toList, "refs/tags/v2".toList], []⟩,
              .ok ⟨.code 128, Utf8.encode "2023-01-02\n".toList, []⟩),
            (⟨"git".toList, ["-C".toList, "book".toList, "show".toList, "--no-patch".toList,
              "--pretty=format:%cs".toList, "v2".toList], []⟩,
              .ok ⟨.code 0, Utf8.encode "2024-03-04\n".toList, []⟩)]) ∧
      ((source ⟨.empty, []⟩ "git".toList).version "book".toList).run takenAway =
        (.error (.command "git".toList
            ["symbolic-ref".toList, "--short".toList, "HEAD".toList] .noEntry),
          [(⟨"git".toList, ["-C".toList, "book".toList, "tag".toList, "--points-at".toList,
              "HEAD".toList], []⟩, .ok ⟨.code 0, Utf8.encode " \n".toList, []⟩),
            (⟨"git".toList, ["-C".toList, "book".toList, "symbolic-ref".toList, "--short".toList,
              "HEAD".toList], []⟩, .error .noEntry)]) := by
  constructor
  · have htags : IsAnswer ⟨.code 0, Utf8.encode "v2\nv1\n".toList, []⟩ "v2\nv1".toList :=
      .written rfl (Text.isTrimOf_iff.2 (by decide))
    have hfirst : Text.IsFirstLine "v2\nv1".toList "v2".toList :=
      Text.isFirstLine_iff.2 (by decide)
    have hdate : IsAnswer ⟨.code 0, Utf8.encode "2024-03-04\n".toList, []⟩
        "2024-03-04".toList :=
      .written rfl (Text.isTrimOf_iff.2 (by decide))
    exact (run_version _ _ _ _ _ _).1.2 (.dated (.first rfl htags (by decide) hfirst)
      (.second rfl (.nothing (by decide)) rfl hdate (by decide)))
  · have htags : IsAnswer ⟨.code 0, Utf8.encode " \n".toList, []⟩ [] :=
      .written rfl (Text.isTrimOf_iff.2 (by decide))
    exact (run_version _ _ _ _ _ _).1.2 (.unknown (.secondRefused rfl htags rfl))

/-! ## Versions of single lines -/

/-- The answer to a request, if the program can be started for it. -/
def answerTo (outcome : Command → Outcome) (executable folder : Path) (arguments : List Text) :
    Text :=
  match outcome (command executable folder arguments) with
  | .ok exit => answer exit
  | .error _ => []

section

variable {outcome : Command → Outcome} {asked : List (Command × Outcome)} {text : Text}

theorem answerTo_of_ok {arguments : List Text} {exit : Exit}
    (h : outcome (command executable folder arguments) = .ok exit) :
    answerTo outcome executable folder arguments = answer exit := by
  rw [answerTo, h]

theorem isTrimmed_answerTo (outcome : Command → Outcome) (executable folder : Path)
    (arguments : List Text) : Text.IsTrimmed (answerTo outcome executable folder arguments) := by
  rw [answerTo]
  split
  · exact isTrimmed_answer _
  · exact ⟨by simp, by simp⟩

/-- The answer to a question is that to its first request or, without one, that to its second. -/
theorem Answered.eq_answerTo
    (h : Answered outcome executable folder Picks first second (.ok text) asked) :
    answerTo outcome executable folder first ≠ [] ∧
        Picks (answerTo outcome executable folder first) text ∨
      answerTo outcome executable folder first = [] ∧
        answerTo outcome executable folder second ≠ [] ∧
        text = answerTo outcome executable folder second := by
  cases h with
  | first hfirst hfound hne htext =>
    rw [answerTo_of_ok hfirst, ← isAnswer_iff.1 hfound]
    exact .inl ⟨hne, htext⟩
  | second hfirst hnone hsecond hfound hne =>
    rw [answerTo_of_ok hfirst, answerTo_of_ok hsecond, ← isAnswer_iff.1 hnone,
      ← isAnswer_iff.1 hfound]
    exact .inr ⟨rfl, hne, rfl⟩

/-- The first of the tags is a single line, and the branch is if it is told in one. -/
theorem Answered.isSingleLine_firstLine_iff
    (h : Answered outcome executable folder Text.IsFirstLine first second (.ok text) asked) :
    text ≠ [] ∧ (IsSingleLine text ↔ answerTo outcome executable folder first ≠ [] ∨
      '\n' ∉ answerTo outcome executable folder second) := by
  rcases h.eq_answerTo with ⟨hne, hfirst⟩ | ⟨hnone, hne, rfl⟩
  · obtain rfl := Text.isFirstLine_iff.1 hfirst
    have hsingle := isSingleLine_firstLine (isTrimmed_answerTo ..) hne
    exact ⟨(isSingleLine_iff.1 hsingle).1, iff_of_true hsingle (.inl hne)⟩
  · exact ⟨hne, by simp [isSingleLine_iff, hne, hnone]⟩

/-- A date is a single line if it is told in one. -/
theorem Answered.isSingleLine_iff
    (h : Answered outcome executable folder (fun found text => text = found) first second
      (.ok text) asked) :
    text ≠ [] ∧ (IsSingleLine text ↔ '\n' ∉ answerTo outcome executable folder first ∧
      (answerTo outcome executable folder first = [] →
        '\n' ∉ answerTo outcome executable folder second)) := by
  rcases h.eq_answerTo with ⟨hne, rfl⟩ | ⟨hnone, hne, rfl⟩
  · exact ⟨hne, by simp [Git.isSingleLine_iff, hne]⟩
  · exact ⟨hne, by simp [Git.isSingleLine_iff, hne, hnone]⟩

end

/-- A version has a reference and a date. The reference is a single line exactly if it is a tag or
the branch is told in one line, and the date exactly if the answer that it is taken from is told in
one: of several tags the first is taken, but of several dates all are. -/
theorem isSingleLine_version {version : Version}
    (h : (((source files executable).version folder).run respond).1 = .ok version) :
    version.reference ≠ [] ∧ version.date ≠ [] ∧
      (IsSingleLine version.reference ↔
        answerTo (respond files) executable folder tagsRequest ≠ [] ∨
          '\n' ∉ answerTo (respond files) executable folder branchRequest) ∧
      (IsSingleLine version.date ↔
        '\n' ∉ answerTo (respond files) executable folder (tagDateRequest version.reference) ∧
          (answerTo (respond files) executable folder (tagDateRequest version.reference) = [] →
            '\n' ∉ answerTo (respond files) executable folder
              (commitDateRequest version.reference))) := by
  obtain ⟨asked, hrun⟩ : ∃ asked,
      ((source files executable).version folder).run respond = (.ok version, asked) :=
    ⟨_, Prod.ext h rfl⟩
  cases run_version_iff.1 hrun with
  | dated hreference hdate =>
    obtain ⟨hne, hsingle⟩ := Answered.isSingleLine_firstLine_iff hreference
    obtain ⟨hne', hsingle'⟩ := Answered.isSingleLine_iff hdate
    exact ⟨hne, hne', hsingle, hsingle'⟩

/-- A branch without a tag at its commit, and two dated tags whose names start with its name. -/
def tagsBelowBranch : Workspace → Command → Outcome :=
  answering [("symbolic-ref".toList, "main\n".toList),
    ("for-each-ref".toList, "2024-01-02\n2024-03-04\n".toList)]

/-- The first of the tags and the one date are single lines. -/
theorem isSingleLine_version_lightTags :
    (((source ⟨.empty, []⟩ defaultExecutable).version "book".toList).run lightTags).1 =
        .ok ⟨"v2".toList, "2024-03-04".toList⟩ ∧
      IsSingleLine "v2".toList ∧ IsSingleLine "2024-03-04".toList := by
  have hrun : (((source ⟨.empty, []⟩ defaultExecutable).version "book".toList).run lightTags).1 =
      .ok ⟨"v2".toList, "2024-03-04".toList⟩ := by
    cbv
  have htags : answerTo (lightTags ⟨.empty, []⟩) defaultExecutable "book".toList tagsRequest =
      "v2\nv1".toList := by
    cbv
  have htagDate : answerTo (lightTags ⟨.empty, []⟩) defaultExecutable "book".toList
      (tagDateRequest "v2".toList) = [] := by
    cbv
  have hcommitDate : answerTo (lightTags ⟨.empty, []⟩) defaultExecutable "book".toList
      (commitDateRequest "v2".toList) = "2024-03-04".toList := by
    cbv
  obtain ⟨-, -, hreference, hdate⟩ := isSingleLine_version hrun
  simp only [htags, htagDate, hcommitDate] at hreference hdate
  exact ⟨hrun, hreference.2 (by decide), hdate.2 (by decide)⟩

/-- The dates of all tags below a branch are taken for its date. -/
theorem not_isSingleLine_of_version :
    ¬ ∀ (files : Workspace) (executable folder : Path) (respond : Workspace → Command → Outcome)
      (version : Version),
      (((source files executable).version folder).run respond).1 = .ok version →
        IsSingleLine version.reference ∧ IsSingleLine version.date := by
  intro h
  have hrun : (((source ⟨.empty, []⟩ defaultExecutable).version "book".toList).run
      tagsBelowBranch).1 = .ok ⟨"main".toList, "2024-01-02\n2024-03-04".toList⟩ := by
    cbv
  have hdate := (h _ _ _ _ _ hrun).2
  exact absurd hdate (by decide)

end Git

end Bindery
