import Bindery.CommandLine.Run
import Bindery.Proofs.Book.Stages
import Bindery.Proofs.Book.Version
import Bindery.Proofs.Process.Asked

set_option autoImplicit false

/-! # The course of a run

A request is carried out in two parts. Up to the combined document no format is rendered, and what
happens is told by the stages of combining. Then each job is run once, in order and whatever comes
of the others, while the combined document is the one that was just written (`run_of_parse`). -/

namespace Bindery

/-! ## Rendering and other commands -/

/-- The command renders a format. -/
def IsRendering (command : Command) : Prop :=
  ∃ executable renderer paths,
    ∃ job ∈ [Job.epub renderer paths, Job.pdf renderer paths, Job.latex renderer paths],
      command = job.command executable

/-- The program was started and exited with code `0`. -/
def ranWell : Outcome → Bool
  | .ok exit => exit.status = .code 0
  | .error _ => false

/-- Rendering reads a combined document and has a directory of resources. -/
theorem IsRendering.exists_arguments {command : Command} (h : IsRendering command) :
    ∃ combined rest, command.arguments =
      "--from".toList :: "markdown".toList :: combined :: "--resource-path".toList :: rest := by
  obtain ⟨executable, renderer, paths, job, hjob, rfl⟩ := h
  have hcommon : ∃ rest, job.arguments = Job.commonArguments renderer paths ++ rest := by
    simp only [List.mem_cons, List.not_mem_nil, or_false] at hjob
    rcases hjob with rfl | rfl | rfl
    · simp only [Job.epub, List.append_assoc]
      exact ⟨_, rfl⟩
    · simp only [Job.pdf, List.append_assoc]
      exact ⟨_, rfl⟩
    · simp only [Job.latex, List.append_assoc]
      exact ⟨_, rfl⟩
  obtain ⟨rest, hrest⟩ := hcommon
  exact ⟨paths.combined, _, hrest⟩

/-! ## What is asked for the combined document -/

variable {files : Workspace} {executable folder : Path}
  {respond : Workspace → Command → Outcome}

/-- The command that has the converter move the headings of a text. -/
def HeadingShifter.command (executable : Path) (levels : Int) (text : Text) : Command :=
  ⟨executable, converterArguments levels, Utf8.encode text⟩

theorem Git.asksWithin_ask (arguments : List Text) :
    (ask files executable folder arguments).AsksWithin respond
      [command executable folder arguments] :=
  Script.asksWithin_call fun _ => Script.asksWithin_done _ _

/-- The version is asked for with up to four commands, of which the last two depend on the answers
to the first two. -/
theorem Git.exists_asksWithin_version (files : Workspace) (executable folder : Path)
    (respond : Workspace → Command → Outcome) :
    ∃ reference, ((source files executable).version folder).AsksWithin respond
      (([tagsRequest, branchRequest] ++ [tagDateRequest reference, commitDateRequest reference]).map
        (command executable folder)) := by
  have hreference : (Git.reference files executable folder).AsksWithin respond
      ([tagsRequest, branchRequest].map (command executable folder)) := by
    unfold Git.reference
    refine Script.asksWithin_andThen (asksWithin_ask tagsRequest) ?_
    intro tags _
    split
    · exact Script.asksWithin_done _ _
    · exact Script.asksWithin_andThen (asksWithin_ask branchRequest)
        fun _ _ => Script.asksWithin_done _ []
  have hdate : ∀ reference, (Git.date files executable folder reference).AsksWithin respond
      ([tagDateRequest reference, commitDateRequest reference].map
        (command executable folder)) := by
    intro reference
    unfold Git.date
    refine Script.asksWithin_andThen (asksWithin_ask (tagDateRequest reference)) ?_
    intro tagDate _
    split
    · exact Script.asksWithin_done _ _
    · exact Script.asksWithin_andThen (asksWithin_ask (commitDateRequest reference))
        fun _ _ => Script.asksWithin_done _ []
  -- only a reference that is found is asked about
  obtain ⟨reference, hasked⟩ : ∃ asked, ∀ reference,
      ((Git.reference files executable folder).run respond).1 = .ok reference →
        reference = asked := by
    cases ((Git.reference files executable folder).run respond).1 with
    | error e => exact ⟨[], fun _ h => by cases h⟩
    | ok reference => exact ⟨reference, fun _ h => by cases h; rfl⟩
  refine ⟨reference, ?_⟩
  rw [List.map_append]
  refine Script.asksWithin_andThen hreference ?_
  intro found hfound
  rw [← hasked found hfound]
  exact Script.asksWithin_map _ (hdate found)

theorem HeadingShifter.asksWithin_ofEngine (engine : ShiftEngine) (text : Text) (levels : Int) :
    (HeadingShifter.ofEngine files executable engine text levels).AsksWithin respond
      [command executable levels text] := by
  cases engine with
  | converter => exact Script.asksWithin_call fun _ => Script.asksWithin_done _ _
  | builtIn => exact Script.asksWithin_done _ _

/-- Combines a book as the command does. -/
def combineBook (files : Workspace) (settings : Settings) (folder : Path) :
    Script (Except BookError CombinedBook × Workspace) :=
  combine files settings
    (HeadingShifter.ofEngine files settings.renderer.executable settings.book.shiftEngine)
    (Git.source files Git.defaultExecutable) folder

/-- The commands that may be asked for a combined document, in their order. -/
def combineCommands (settings : Settings) (folder : Path) (reference root : Text) : List Command :=
  ([Git.tagsRequest, Git.branchRequest] ++
    [Git.tagDateRequest reference, Git.commitDateRequest reference]).map
      (Git.command Git.defaultExecutable folder) ++
    [HeadingShifter.command settings.renderer.executable settings.book.headingShift root]

theorem exists_asksWithin_combineBook (files : Workspace) (settings : Settings) (folder : Path)
    (respond : Workspace → Command → Outcome) :
    ∃ reference root, (combineBook files settings folder).AsksWithin respond
      (combineCommands settings folder reference root) := by
  obtain ⟨reference, hversion⟩ :=
    Git.exists_asksWithin_version files Git.defaultExecutable folder respond
  unfold combineBook combine
  cases Manuscript.read files settings.book folder with
  | error e => exact ⟨reference, [], Script.asksWithin_done _ _⟩
  | ok manuscript =>
    refine ⟨reference, manuscript.root, Script.asksWithin_bind hversion ?_⟩
    split
    · exact Script.asksWithin_done _ _
    · refine Script.asksWithin_bind_nil (HeadingShifter.asksWithin_ofEngine _ _ _) ?_
      split
      · exact Script.asksWithin_done _ _
      · exact Script.asksWithin_done _ _

theorem not_isRendering_of_mem_combineCommands {settings : Settings} {reference root : Text}
    {command : Command} (h : command ∈ combineCommands settings folder reference root) :
    ¬ IsRendering command := by
  intro hrendering
  obtain ⟨combined, rest, harguments⟩ := hrendering.exists_arguments
  rcases List.mem_append.1 h with h | h
  · obtain ⟨arguments, _, rfl⟩ := List.mem_map.1 h
    exact absurd (List.cons.inj harguments).1 (by decide)
  · obtain rfl := List.mem_singleton.1 h
    simp [HeadingShifter.command, HeadingShifter.converterArguments] at harguments

theorem nodup_combineCommands (settings : Settings) (folder : Path) (reference root : Text) :
    (combineCommands settings folder reference root).Nodup := by
  simp [combineCommands, Git.command, Git.tagsRequest, Git.branchRequest, Git.tagDateRequest,
    Git.commitDateRequest, HeadingShifter.command, HeadingShifter.converterArguments]

/-- None of the commands renders a format, and none is run twice. -/
structure IsPreparation (asked : List (Command × Outcome)) : Prop where
  not_isRendering : ∀ entry ∈ asked, ¬ IsRendering entry.1
  nodup : (asked.map (·.1)).Nodup

theorem isPreparation_nil : IsPreparation [] :=
  ⟨by simp, List.nodup_nil⟩

theorem isPreparation_of_run {settings : Settings}
    {result : Except BookError CombinedBook × Workspace} {asked : List (Command × Outcome)}
    (h : (combineBook files settings folder).run respond = (result, asked)) :
    IsPreparation asked := by
  obtain ⟨reference, root, hasked⟩ :=
    exists_asksWithin_combineBook files settings folder respond
  unfold Script.AsksWithin at hasked
  rw [h] at hasked
  refine ⟨?_, (nodup_combineCommands settings folder reference root).sublist hasked⟩
  intro entry hentry
  have hmem := hasked.subset (List.mem_map_of_mem hentry)
  exact not_isRendering_of_mem_combineCommands hmem

/-! ## Running the jobs -/

/-- Each job is run once, in order, whatever comes of the others. -/
theorem Job.run_runAll (files : Workspace) (executable : Path) (jobs : List Job)
    (respond : Workspace → Command → Outcome) :
    (Job.runAll files executable jobs).run respond =
      (jobs.map fun job => (job, respond files (job.command executable)),
        jobs.map fun job => (job.command executable, respond files (job.command executable))) := by
  induction jobs with
  | nil => rfl
  | cons job jobs ih => simp [Job.runAll, Script.run, Script.run_map, ih]

/-- A job is judged by whether the program ran well. -/
theorem Job.isOk_judge (executable : Path) (job : Job) (outcome : Outcome) :
    (job.judge executable outcome).isOk = ranWell outcome := by
  unfold Job.judge ranWell
  split
  · rfl
  · next exit =>
    unfold Exit.succeeded
    split
    · next h => simp_all [Except.isOk, Except.toBool]
    · next h => simp_all [Except.isOk, Except.toBool]

namespace CommandLine

section

variable (files : Workspace) (environment : Environment) (request : Request)
  (respond : Workspace → Command → Outcome)

/-- The directory of the book is there, the settings can be loaded, and the book is combined. The
files are those after the combined document was written. -/
structure Combines (settings : Settings) (book : CombinedBook) (files' : Workspace) : Prop where
  isFolder : files.isFolder request.book = true
  load : Settings.load files environment request.config request.overrides = .ok settings
  completes : ∃ asked, Completes files settings
    (HeadingShifter.ofEngine files settings.renderer.executable settings.book.shiftEngine)
    (Git.source files Git.defaultExecutable) request.book respond book files' asked

/-- The jobs that render a book, in order: that of the LaTeX source if it was asked for, else that
of the EPUB and then that of the PDF. -/
def jobsOf (settings : Settings) (book : CombinedBook) : List Job :=
  let paths := renderPaths settings request.book book
  if request.source then [Job.latex settings.renderer paths]
  else [Job.epub settings.renderer paths, Job.pdf settings.renderer paths]

/-- What comes of a job when the files are as given. -/
def outcomeOf (settings : Settings) (files' : Workspace) (job : Job) : Outcome :=
  respond files' (job.command settings.renderer.executable)

/-- What is told at last if the rendering fails: how many of how many jobs did not run well. -/
def failureReport (failed total : Nat) : Text :=
  "Error: ".toList ++ Text.ofNat failed ++ " of ".toList ++ Text.ofNat total ++
    " pandoc runs failed\n".toList

/-- A request is carried out: `asked` is what is asked up to the combined document, `runs` are the
runs of the jobs, and the command ends as given. -/
structure Course (ending : Ending) (asked runs : List (Command × Outcome)) : Prop where
  /-- Up to the combined document no format is rendered. -/
  prepared : ∀ entry ∈ asked, ¬ IsRendering entry.1
  /-- Nothing is rendered if no book was combined. -/
  stopped : (¬ ∃ settings book files',
    Combines files environment request respond settings book files') → runs = []
  /-- Nothing is rendered if that was not asked for. -/
  combineOnly : request.combineOnly = true → runs = []
  /-- Otherwise all jobs are run, in order and whatever comes of each, with the combined document as
  it was written. -/
  rendered : ∀ settings book files',
    Combines files environment request respond settings book files' →
      request.combineOnly = false →
      runs = (jobsOf request settings book).map fun job =>
        (job.command settings.renderer.executable, outcomeOf respond settings files' job)
  /-- No command is run twice, so each may be answered in any way whatever. -/
  once : ((asked ++ runs).map (·.1)).Nodup
  /-- The combined document was written in this run, and stays as it was written. -/
  saved : ∀ settings book files',
    Combines files environment request respond settings book files' →
      files.Saved files' book.path (Utf8.encode (Text.joinLines book.document.lines)) ∧
        ending.files = files'
  /-- The command ends well if the book was combined and all jobs ran well, if any was asked for. -/
  code_eq_zero_iff : ending.code = 0 ↔ ∃ settings book files',
    Combines files environment request respond settings book files' ∧
      (request.combineOnly = true ∨ ∀ job ∈ jobsOf request settings book,
        ranWell (outcomeOf respond settings files' job) = true)
  code : ending.code = 0 ∨ ending.code = 1
  /-- If the rendering fails, the command tells how many of how many jobs did not run well. -/
  failed : ∀ settings book files',
    Combines files environment request respond settings book files' → ending.code = 1 →
      ∃ told, ending.errors = told ++ Utf8.encode (failureReport
        ((jobsOf request settings book).countP fun job =>
          !ranWell (outcomeOf respond settings files' job))
        (jobsOf request settings book).length)

end

variable {environment : Environment} {request : Request} {settings : Settings}
  {respond : Workspace → Command → Outcome} {book : CombinedBook} {files' : Workspace}

/-! ## The jobs of a book -/

theorem jobsOf_eq (request : Request) (settings : Settings) (book : CombinedBook) :
    jobsOf request settings book =
      Job.all settings.renderer (renderPaths settings request.book book)
        (if request.source then .source else .publish) := by
  unfold jobsOf
  cases request.source <;> rfl

theorem isRendering_of_mem_jobsOf {job : Job} (h : job ∈ jobsOf request settings book)
    (executable : Path) : IsRendering (job.command executable) := by
  refine ⟨executable, settings.renderer, renderPaths settings request.book book, job, ?_, rfl⟩
  unfold jobsOf at h
  cases hsource : request.source with
  | true =>
    simp only [hsource, if_true] at h
    exact List.mem_append_right [_, _] h
  | false =>
    simp only [hsource, Bool.false_eq_true, if_false] at h
    exact List.mem_append_left [_] h

/-- No two jobs are the same command. -/
theorem nodup_commands (request : Request) (settings : Settings) (book : CombinedBook)
    (executable : Path) : ((jobsOf request settings book).map (Job.command executable)).Nodup := by
  unfold jobsOf
  cases request.source with
  | true => exact List.nodup_singleton _
  | false => simp [Job.command, Job.epub, Job.pdf]

theorem failureReport_eq (failed total : Nat) :
    failureReport failed total =
      "Error: ".toList ++ (RunError.render failed total).message ++ ['\n'] := by
  have hline : " pandoc runs failed\n".toList = " pandoc runs failed".toList ++ ['\n'] := by
    decide
  unfold failureReport RunError.message
  rw [hline]
  simp only [List.append_assoc]

/-! ## Up to the combined document -/

theorem Combines.unique {settings' : Settings} {book' : CombinedBook} {files'' : Workspace}
    (h : Combines files environment request respond settings book files')
    (h' : Combines files environment request respond settings' book' files'') :
    settings' = settings ∧ book' = book ∧ files'' = files' := by
  obtain ⟨_, hload, _, hcompletes⟩ := h
  obtain ⟨_, hload', _, hcompletes'⟩ := h'
  rw [hload] at hload'
  cases hload'
  have hrun := run_combine_of_completes hcompletes
  rw [run_combine_of_completes hcompletes'] at hrun
  cases hrun
  exact ⟨rfl, rfl, rfl⟩

/-- If the book is combined, it goes on to be rendered. -/
theorem Combines.run_execute (h : Combines files environment request respond settings book files') :
    ∃ asked, IsPreparation asked ∧
      (execute files environment request).run respond =
        (((render request settings book files').run respond).1,
          asked ++ ((render request settings book files').run respond).2) := by
  obtain ⟨hfolder, hload, asked, hcompletes⟩ := h
  have hrun : (combineBook files settings request.book).run respond = ((.ok book, files'), asked) :=
    run_combine_of_completes hcompletes
  refine ⟨asked, isPreparation_of_run hrun, ?_⟩
  unfold combineBook at hrun
  simp only [execute, if_pos hfolder, hload, Script.run_bind, hrun]

/-- If it is not, the command ends with an error. -/
theorem run_execute_of_not_combines
    (h : ¬ ∃ settings book files',
      Combines files environment request respond settings book files') :
    ∃ asked files' e, IsPreparation asked ∧
      (execute files environment request).run respond = (fail files' [] [] e, asked) := by
  by_cases hfolder : files.isFolder request.book = true
  · cases hload : Settings.load files environment request.config request.overrides with
    | error e =>
      refine ⟨[], files, .settings e, isPreparation_nil, ?_⟩
      simp only [execute, if_pos hfolder, hload]
      rfl
    | ok settings =>
      obtain ⟨result, files', asked, hrun⟩ : ∃ result files' asked,
          (combineBook files settings request.book).run respond = ((result, files'), asked) :=
        ⟨_, _, _, rfl⟩
      cases result with
      | ok book =>
        have hcompletes := completes_of_run hrun
        exact absurd ⟨settings, book, files', hfolder, hload, asked, hcompletes⟩ h
      | error e =>
        refine ⟨asked, files', .book e, isPreparation_of_run hrun, ?_⟩
        unfold combineBook at hrun
        simp only [execute, if_pos hfolder, hload, Script.run_bind, hrun, Script.run,
          List.append_nil]
  · refine ⟨[], files, .noBook request.book, isPreparation_nil, ?_⟩
    simp only [execute, if_neg hfolder]
    rfl

/-! ## After the combined document -/

theorem run_render_combineOnly (h : request.combineOnly = true) :
    (render request settings book files').run respond =
      (⟨0, [], tellCombined request.book book, files'⟩, []) := by
  simp only [render, if_pos h]
  rfl

theorem run_render (h : request.combineOnly = false) :
    (render request settings book files').run respond =
      (endRender files' settings.renderer.executable (tellCombined request.book book)
        ((jobsOf request settings book).map fun job =>
          (job, outcomeOf respond settings files' job)),
        (jobsOf request settings book).map fun job =>
          (job.command settings.renderer.executable, outcomeOf respond settings files' job)) := by
  have hnot : ¬ request.combineOnly = true := by simp [h]
  simp only [render, if_neg hnot, Script.run_map, Job.run_runAll, jobsOf_eq]
  rfl

section

variable {jobs : List Job} {outcome : Job → Outcome}

/-- If all jobs ran well, the command ends well. -/
theorem endRender_of_ranWell (told : Bytes) (h : ∀ job ∈ jobs, ranWell (outcome job) = true) :
    ∃ output errors, endRender files executable told (jobs.map fun job => (job, outcome job)) =
      ⟨0, output, errors, files⟩ := by
  have hcount : (jobs.countP fun job => !ranWell (outcome job)) = 0 := by
    rw [List.countP_eq_zero]
    intro job hjob
    simp [h job hjob]
  simp only [endRender, Job.isOk_judge, List.countP_map, Function.comp_def, hcount]
  exact ⟨_, _, rfl⟩

/-- If a job did not run well, the command tells how many of how many did not. -/
theorem endRender_of_not_ranWell (told : Bytes)
    (h : ¬ ∀ job ∈ jobs, ranWell (outcome job) = true) :
    ∃ output errors, endRender files executable told (jobs.map fun job => (job, outcome job)) =
      fail files output errors
        (.render (jobs.countP fun job => !ranWell (outcome job)) jobs.length) := by
  have hcount : (jobs.countP fun job => !ranWell (outcome job)) ≠ 0 := by
    intro hzero
    rw [List.countP_eq_zero] at hzero
    exact h fun job hjob => by simpa using hzero job hjob
  obtain ⟨failed, hfailed⟩ := Nat.exists_eq_succ_of_ne_zero hcount
  simp only [endRender, Job.isOk_judge, List.countP_map, Function.comp_def, hfailed,
    List.length_map]
  exact ⟨_, _, rfl⟩

end

/-! ## The whole course -/

theorem course_of_not_combines (hnone : ¬ ∃ settings book files',
    Combines files environment request respond settings book files') {e : RunError}
    {asked : List (Command × Outcome)} (hasked : IsPreparation asked) :
    Course files environment request respond (fail files' [] [] e) asked [] where
  prepared := hasked.not_isRendering
  stopped _ := rfl
  combineOnly _ := rfl
  rendered settings book files' hcombines _ := absurd ⟨settings, book, files', hcombines⟩ hnone
  once := by
    rw [List.append_nil]
    exact hasked.nodup
  saved settings book files' hcombines := absurd ⟨settings, book, files', hcombines⟩ hnone
  code_eq_zero_iff := by
    constructor
    · intro h
      cases h
    · rintro ⟨settings, book, files', hcombines, _⟩
      exact absurd ⟨settings, book, files', hcombines⟩ hnone
  code := .inr rfl
  failed settings book files' hcombines _ := absurd ⟨settings, book, files', hcombines⟩ hnone

/-- A book that was combined makes a course with what comes of its jobs. -/
theorem Combines.course (hw : files.HasWorkingFolder)
    (h : Combines files environment request respond settings book files') {ending : Ending}
    {asked runs : List (Command × Outcome)} (hasked : IsPreparation asked)
    (honly : request.combineOnly = true → runs = [])
    (hrendered : request.combineOnly = false →
      runs = (jobsOf request settings book).map fun job =>
        (job.command settings.renderer.executable, outcomeOf respond settings files' job))
    (hfiles : ending.files = files')
    (hzero : ending.code = 0 ↔ request.combineOnly = true ∨ ∀ job ∈ jobsOf request settings book,
      ranWell (outcomeOf respond settings files' job) = true)
    (hcode : ending.code = 0 ∨ ending.code = 1)
    (hfailed : ending.code = 1 → ∃ told, ending.errors = told ++ Utf8.encode (failureReport
        ((jobsOf request settings book).countP fun job =>
          !ranWell (outcomeOf respond settings files' job))
        (jobsOf request settings book).length)) :
    Course files environment request respond ending asked runs where
  prepared := hasked.not_isRendering
  stopped hnone := absurd ⟨settings, book, files', h⟩ hnone
  combineOnly := honly
  rendered _ _ _ h' := by
    obtain ⟨rfl, rfl, rfl⟩ := h.unique h'
    exact hrendered
  once := by
    cases hrequest : request.combineOnly with
    | true =>
      rw [honly hrequest, List.append_nil]
      exact hasked.nodup
    | false =>
      rw [List.map_append, List.nodup_append, hrendered hrequest, List.map_map]
      refine ⟨hasked.nodup, nodup_commands request settings book settings.renderer.executable, ?_⟩
      rintro _ hbefore _ hjob rfl
      obtain ⟨entry, hentry, rfl⟩ := List.mem_map.1 hbefore
      obtain ⟨job, hjob, hcommand⟩ := List.mem_map.1 hjob
      exact hasked.not_isRendering entry hentry (hcommand ▸ isRendering_of_mem_jobsOf hjob _)
  saved _ _ _ h' := by
    obtain ⟨rfl, rfl, rfl⟩ := h.unique h'
    obtain ⟨_, hcompletes⟩ := h.completes
    exact ⟨hcompletes.saved hw, hfiles⟩
  code_eq_zero_iff := by
    rw [hzero]
    constructor
    · exact fun hwell => ⟨settings, book, files', h, hwell⟩
    · rintro ⟨_, _, _, h', hwell⟩
      obtain ⟨rfl, rfl, rfl⟩ := h.unique h'
      exact hwell
  code := hcode
  failed _ _ _ h' := by
    obtain ⟨rfl, rfl, rfl⟩ := h.unique h'
    exact hfailed

/-- A request whose arguments were understood takes a course: nothing is rendered unless the
combined document was written in this run. Then each job is run once, in order and whatever comes of
the others, none of them changes the combined document, and the command ends well exactly if all ran
well. -/
theorem run_of_parse {arguments : List Text} (hparse : parse environment arguments = .ok request)
    (hw : files.HasWorkingFolder) (respond : Workspace → Command → Outcome) :
    ∃ ending asked runs,
      (run files environment arguments).run respond = (ending, asked ++ runs) ∧
        Course files environment request respond ending asked runs := by
  rw [run, hparse]
  by_cases hcombines : ∃ settings book files',
      Combines files environment request respond settings book files'
  · obtain ⟨settings, book, files', h⟩ := hcombines
    obtain ⟨asked, hasked, hrun⟩ := h.run_execute
    refine ⟨_, asked, _, hrun, ?_⟩
    cases hrequest : request.combineOnly with
    | true =>
      rw [run_render_combineOnly hrequest]
      refine h.course hw hasked (fun _ => rfl) ?_ rfl ?_ (.inl rfl) ?_
      · simp [hrequest]
      · simp [hrequest]
      · simp
    | false =>
      rw [run_render hrequest]
      have honly : ¬ request.combineOnly = true := by
        simp [hrequest]
      by_cases hwell : ∀ job ∈ jobsOf request settings book,
          ranWell (outcomeOf respond settings files' job) = true
      · obtain ⟨_, _, hending⟩ := endRender_of_ranWell (tellCombined request.book book) hwell
        rw [hending]
        exact h.course hw hasked (fun hrequest => absurd hrequest honly) (fun _ => rfl) rfl
          ⟨fun _ => .inr hwell, fun _ => rfl⟩ (.inl rfl) (by simp)
      · obtain ⟨_, told, hending⟩ :=
          endRender_of_not_ranWell (tellCombined request.book book) hwell
        rw [hending]
        exact h.course hw hasked (fun hrequest => absurd hrequest honly) (fun _ => rfl) rfl
          ⟨by simp [fail], fun hall => absurd hall (not_or.2 ⟨honly, hwell⟩)⟩ (.inr rfl)
          fun _ => ⟨told, congrArg (told ++ Utf8.encode ·) (failureReport_eq _ _).symm⟩
  · obtain ⟨asked, files', e, hasked, hrun⟩ := run_execute_of_not_combines hcombines
    refine ⟨_, asked, [], by rw [hrun, List.append_nil], ?_⟩
    exact course_of_not_combines hcombines hasked

/-! ### A book of which only one format is rendered -/

/-- A directory with a book that has no chapters. -/
def bareFiles : Workspace :=
  ⟨.folder "b".toList true (.folder "TSPL.docc".toList true
    (.file "The-Swift-Programming-Language.md".toList (Utf8.encode "# Book".toList) .empty) .empty)
    .empty, []⟩

/-- The revision control program knows a version, the converter moves no heading and renders no
PDF. -/
def withoutPdf : Workspace → Command → Outcome := fun _ command =>
  if command.program = Git.defaultExecutable then .ok ⟨.code 0, Utf8.encode "v1".toList, []⟩
  else if command.arguments.contains "pdf".toList then .ok ⟨.code 43, [], []⟩
  else .ok ⟨.code 0, command.input, []⟩

/-- The request for the book. -/
def bareRequest : Request := ⟨"b".toList, none, {}, false, false⟩

/-- The documents of the book, read. -/
def bareManuscript : Manuscript where
  index := ⟨[⟨"The-Swift-Programming-Language".toList,
    "b/TSPL.docc/The-Swift-Programming-Language.md".toList, some "Book".toList⟩]⟩
  rootPath := "b/TSPL.docc/The-Swift-Programming-Language.md".toList
  root := "# Book".toList
  title := "Book".toList

theorem exists_combines_bare :
    ∃ document files', Combines bareFiles [] bareRequest withoutPdf {}
      ⟨"swiftbook-combined.md".toList, document, ⟨"v1".toList, "v1".toList⟩⟩ files' := by
  have hread : bareManuscript.IsRead bareFiles {} "b".toList :=
    ⟨by cbv, by cbv, by cbv, by cbv⟩
  have hversion : (((Git.source bareFiles Git.defaultExecutable).version "b".toList).run
      withoutPdf).1 = .ok ⟨"v1".toList, "v1".toList⟩ := by
    cbv
  have hshift : ((HeadingShifter.ofEngine bareFiles "pandoc".toList .converter "# Book".toList
      (-2)).run withoutPdf).1 = .ok "# Book".toList := by
    cbv
  have hassembled : bareManuscript.assembled bareFiles {} "b".toList ⟨"v1".toList, "v1".toList⟩
      "# Book".toList = .ok ⟨_, []⟩ := rfl
  have hwrite : ∀ content,
      (bareFiles.writeBelow "swiftbook-combined.md".toList content).1 = .ok () := by
    intro content
    cbv
  exact ⟨_, _, by cbv, by cbv, _, .intro (.intro hread (Prod.ext hversion rfl)
    (Prod.ext hshift rfl)) hassembled (Prod.ext (hwrite _) rfl)⟩

theorem ranWell_bareJobs (document : CombinedDocument) (version : Version) (files' : Workspace) :
    (jobsOf bareRequest {} ⟨"swiftbook-combined.md".toList, document, version⟩).map
      (fun job => ranWell (withoutPdf files' (job.command "pandoc".toList))) = [true, false] := by
  rfl

/-- The EPUB is rendered, the PDF is not, and the command tells so. -/
theorem run_of_parse_withoutPdf :
    parse [] ["b".toList] = .ok bareRequest ∧ bareFiles.HasWorkingFolder ∧
      ∃ ending asked runs,
        (run bareFiles [] ["b".toList]).run withoutPdf = (ending, asked ++ runs) ∧
          runs.map (ranWell ·.2) = [true, false] ∧ ending.code = 1 ∧
          ∃ told, ending.errors = told ++ tell "Error: 1 of 2 pandoc runs failed".toList := by
  have hparse : parse [] ["b".toList] = .ok bareRequest := by
    cbv
  have hw : bareFiles.HasWorkingFolder := Folder.hasFolder_nil _
  obtain ⟨document, files', hcombines⟩ := exists_combines_bare
  obtain ⟨ending, asked, runs, hrun, hcourse⟩ := run_of_parse hparse hw withoutPdf
  have hjobs := ranWell_bareJobs document ⟨"v1".toList, "v1".toList⟩ files'
  have hwell : runs.map (ranWell ·.2) = [true, false] := by
    rw [hcourse.rendered _ _ _ hcombines rfl, List.map_map]
    exact hjobs
  have hcode : ending.code = 1 := by
    refine hcourse.code.resolve_left ?_
    intro hzero
    obtain ⟨_, _, _, hcombines', hall⟩ := hcourse.code_eq_zero_iff.1 hzero
    obtain ⟨rfl, rfl, rfl⟩ := hcombines.unique hcombines'
    obtain ⟨job, hjob, hbad⟩ := List.mem_map.1 (hjobs ▸ List.mem_cons_of_mem true
      (List.mem_singleton_self false))
    rcases hall with honly | hall
    · cases honly
    · exact Bool.false_ne_true (hbad.symm.trans (hall job hjob))
  have hmessage : ∀ failed total, failed = 1 → total = 2 →
      Utf8.encode (failureReport failed total) =
        tell "Error: 1 of 2 pandoc runs failed".toList := by
    rintro _ _ rfl rfl
    decide
  have hfailed := congrArg (List.countP (!·)) hjobs
  have htotal := congrArg List.length hjobs
  rw [List.countP_map] at hfailed
  rw [List.length_map] at htotal
  obtain ⟨told, herrors⟩ := hcourse.failed _ _ _ hcombines hcode
  refine ⟨hparse, hw, ending, asked, runs, hrun, hwell, hcode, told, herrors.trans ?_⟩
  exact congrArg (told ++ ·) (hmessage _ _ hfailed htotal)

end CommandLine

end Bindery
