import PageImages.Command.Run
import PageImages.Proofs.Events
import PageImages.Proofs.Flags
import PageImages.Proofs.ReportText
import PageImages.Proofs.Settings
import PageImages.Proofs.Sharing
import PageImages.Proofs.Tally

/-!
**How a run presents itself, and what it does.**

The options of presentation choose which notices are shown, whether there is a progress bar and in
which form the report is printed.  A run does the same without them: the same stages succeed or
fail, the file system is left the same, down to the log file, and the exit code is the same, unless
a report that is to be printed as JSON has a path that is no text.

Main definitions:

* `Command.Launch` — the stages before the batch have succeeded;
* `Command.Succeeds` — all stages have succeeded and no document has failed.

Main results:

* `Command.start_same` — **runs whose arguments differ in the presentation only end the same**;
* `Command.exitCode_start` — a run ends with zero exactly when it succeeds;
* `Command.run_presentation` — both, for command lines that ask for a run;
* `Command.run_presentation_refused` — an option of presentation can make a command line one that is
  refused, or one that is not.
-/

set_option autoImplicit false

namespace PageImages

/-! ### Batches that are observed -/

/-- Whether a batch is observed makes no difference to what it does. -/
theorem convertBatch_observed (fs : FileSystem) (settings : Settings) (engine : Engine)
    (observed observed' : Bool) :
    (convertBatch fs settings engine observed).outcome
        = (convertBatch fs settings engine observed').outcome ∧
      (convertBatch fs settings engine observed).course
        = (convertBatch fs settings engine observed').course := by
  obtain ⟨houtcome, hcourse, -, -⟩ := convertBatch_unobserved fs settings engine
  cases observed <;> cases observed'
  · exact ⟨rfl, rfl⟩
  · exact ⟨houtcome, hcourse⟩
  · exact ⟨houtcome.symm, hcourse.symm⟩
  · exact ⟨rfl, rfl⟩

namespace Command

/-! ### The stages before the batch -/

/-- The stages before the batch have succeeded: the settings `s` were loaded and changed, the log
file was opened, which left the file system `fs` and the file at `log`, and there is an engine. -/
structure Launch (ctx : Context) (a : Arguments) (s : Settings) (fs : FileSystem)
    (log : Option Location) (engine : Engine) : Prop where
  /-- The settings were loaded, and what is given on the command line keeps them valid. -/
  settings : ∃ loaded, (Settings.load ctx.fs (settingsPath ctx a.settings)).outcome = .ok loaded ∧
    applyOverrides a loaded = .ok s
  /-- The log file was opened, if there is one. -/
  logFile : (s.logFile = none ∧ fs = ctx.fs ∧ log = none) ∨
    ∃ path location effects, s.logFile = some path ∧
      ctx.fs.openLog path = .ok (location, effects) ∧ fs = ctx.fs.applyAll effects ∧
      log = some location
  /-- The engine was bound. -/
  engine : (ctx.loader.load fs a.library).2 = .ok engine

/-- The stages before the batch have succeeded, the output folder is there or can be made, unless
there is no input folder, and no document has failed. -/
def Succeeds (ctx : Context) (a : Arguments) : Prop :=
  ∃ s fs log engine, Launch ctx a s fs log engine ∧
    (fs.isDirectory s.inputFolder = true → (fs.createDirectories s.outputFolder).2 = .ok ()) ∧
    ∀ run ∈ batchRuns fs s engine (showsProgress a), run.report.status ≠ .failed

/-- The paths of the batch of a run are texts. -/
def TextPaths (ctx : Context) (a : Arguments) : Prop :=
  ∀ s fs log engine b, Launch ctx a s fs log engine →
    (convertBatch fs s engine (showsProgress a)).outcome = .ok b → ∀ p ∈ b.paths, p.IsText

/-- A run whose stages before the batch succeed converts the batch. -/
theorem Launch.start_eq {ctx : Context} {a : Arguments} {s : Settings} {fs : FileSystem}
    {log : Option Location} {engine : Engine} (h : Launch ctx a s fs log engine) :
    ∃ early spoken, start ctx a = convert ctx a s engine fs log early spoken := by
  obtain ⟨⟨loaded, hloaded, hoverrides⟩, hlog, hengine⟩ := h
  refine ⟨shown (loadingFilter a) (Settings.load ctx.fs (settingsPath ctx a.settings)).notices,
    banner ctx (settingsPath ctx a.settings) s ++ (ctx.loader.load fs a.library).1, ?_⟩
  simp only [start, hloaded, hoverrides, openLogs]
  rcases hlog with ⟨hnone, rfl, rfl⟩ | ⟨path, location, effects, hsome, hopen, rfl, rfl⟩
  · simp only [hnone, engage, hengine]
  · simp only [hsome, hopen, engage, hengine]

/-- A run of which a stage before the batch fails ends with one. -/
theorem exitCode_of_no_launch {ctx : Context} {a : Arguments}
    (h : ∀ s fs log engine, ¬ Launch ctx a s fs log engine) : (start ctx a).exitCode = 1 := by
  have hengage : ∀ {path s fs log early},
      (∀ engine, (ctx.loader.load fs a.library).2 ≠ .ok engine) →
      (engage ctx a path s fs log early).exitCode = 1 := by
    intro path s fs log early hengine
    cases hload : (ctx.loader.load fs a.library).2 with
    | error detail =>
        simp only [engage, hload]
        rfl
    | ok engine => exact absurd hload (hengine engine)
  rw [start]
  cases hloaded : (Settings.load ctx.fs (settingsPath ctx a.settings)).outcome with
  | error e => rfl
  | ok loaded =>
      simp only
      cases hoverrides : applyOverrides a loaded with
      | error fault => rfl
      | ok s =>
          simp only [openLogs]
          cases hlog : s.logFile with
          | none =>
              exact hengage fun engine hengine =>
                h s ctx.fs none engine ⟨⟨loaded, hloaded, hoverrides⟩, Or.inl ⟨hlog, rfl, rfl⟩,
                  hengine⟩
          | some path =>
              cases hopen : ctx.fs.openLog path with
              | error e => simp only [hopen]; rfl
              | ok opened =>
                  obtain ⟨location, effects⟩ := opened
                  simp only [hopen]
                  exact hengage fun engine hengine =>
                    h s _ _ engine ⟨⟨loaded, hloaded, hoverrides⟩,
                      Or.inr ⟨path, location, effects, hlog, hopen, rfl, rfl⟩, hengine⟩

/-! ### The batch and the end -/

/-- The two runs end with the same exit code and leave the same file system. -/
def Outcome.SameEnd (o o' : Outcome) : Prop :=
  o.exitCode = o'.exitCode ∧ o.fs = o'.fs

/-- A report whose paths are texts can be printed. -/
theorem report_of_text (a : Arguments) {b : BatchReport} (h : ∀ p ∈ b.paths, p.IsText) :
    ∃ text, report a b = .ok text := by
  rw [report]
  split
  · have hpretty : b.pretty?.isSome = true := by
      rw [BatchReport.pretty?, Option.isSome_map]
      exact b.isSome_toJson?.2 h
    obtain ⟨text, htext⟩ := Option.isSome_iff_exists.1 hpretty
    rw [htext]
    exact ⟨_, rfl⟩
  · exact ⟨_, rfl⟩

/-- **How a run ends when the batch has been converted**: as the batch does, unless its report is to
be printed as JSON and has a path that is no text. -/
theorem convert_end (ctx : Context) (a : Arguments) (s : Settings) (engine : Engine)
    (fs : FileSystem) (log : Option Location) (early : List Message) (spoken : List Notice)
    (htext : ∀ b, (convertBatch fs s engine (showsProgress a)).outcome = .ok b →
      ∀ p ∈ b.paths, p.IsText) :
    let o := convert ctx a s engine fs log early spoken
    let batch := convertBatch fs s engine (showsProgress a)
    o.fs = follow fs log (.ofNotices spoken ++ batch.course) ∧
      (∀ e, batch.outcome = .error e → o.exitCode = 1) ∧
      ∀ b, batch.outcome = .ok b → o.exitCode = b.exitCode := by
  intro o batch
  cases houtcome : (convertBatch fs s engine (showsProgress a)).outcome with
  | error e =>
      have hfs : o.fs = follow fs log (.ofNotices spoken ++ batch.course) := by
        simp only [o, convert, houtcome]
        rfl
      have hcode : o.exitCode = 1 := by
        simp only [o, convert, houtcome]
        rfl
      refine ⟨hfs, fun _ _ => hcode, fun b hb => ?_⟩
      cases hb
  | ok b =>
      obtain ⟨text, hreport⟩ := report_of_text a (htext b houtcome)
      have hfs : o.fs = follow fs log (.ofNotices spoken ++ batch.course) := by
        simp only [o, convert, houtcome, hreport]
        rfl
      have hcode : o.exitCode = b.exitCode := by
        simp only [o, convert, houtcome, hreport]
      refine ⟨hfs, fun e he => ?_, fun b' hb' => ?_⟩
      · cases he
      · cases hb'
        exact hcode

/-- The presentation has no part in how a batch ends. -/
theorem convert_same (ctx : Context) {a a' : Arguments} {s : Settings} {engine : Engine}
    {fs : FileSystem} (log : Option Location) (early early' : List Message) (spoken : List Notice)
    (htext : ∀ b, (convertBatch fs s engine (showsProgress a)).outcome = .ok b →
      ∀ p ∈ b.paths, p.IsText) :
    (convert ctx a s engine fs log early spoken).SameEnd
      (convert ctx a' s engine fs log early' spoken) := by
  obtain ⟨houtcome, hcourse⟩ :=
    convertBatch_observed fs s engine (showsProgress a) (showsProgress a')
  obtain ⟨hfs, herror, hok⟩ := convert_end ctx a s engine fs log early spoken htext
  obtain ⟨hfs', herror', hok'⟩ := convert_end ctx a' s engine fs log early' spoken
    fun b hb => htext b (houtcome.trans hb)
  rw [← houtcome] at herror' hok'
  refine ⟨?_, by rw [hfs, hfs', hcourse]⟩
  cases hbatch : (convertBatch fs s engine (showsProgress a)).outcome with
  | error e => rw [herror e hbatch, herror' e hbatch]
  | ok b => rw [hok b hbatch, hok' b hbatch]

section Same

variable {a a' : Arguments} (ha : a.essential = a'.essential)
include ha

/-- What a run does with its arguments before the batch. -/
theorem stages_same : a.settings = a'.settings ∧ a.library = a'.library ∧
    ∀ s, applyOverrides a s = applyOverrides a' s := by
  have hsettings := congrArg Arguments.settings ha
  have hlibrary := congrArg Arguments.library ha
  have hoverrides := congrArg applyOverrides ha
  exact ⟨hsettings, hlibrary, fun s => congrFun hoverrides s⟩

theorem engage_same {ctx : Context} (path : Path) {s : Settings} {fs : FileSystem}
    (log : Option Location) (early early' : List Message)
    (htext : ∀ engine b, (ctx.loader.load fs a.library).2 = .ok engine →
      (convertBatch fs s engine (showsProgress a)).outcome = .ok b → ∀ p ∈ b.paths, p.IsText) :
    (engage ctx a path s fs log early).SameEnd (engage ctx a' path s fs log early') := by
  simp only [engage, ← (stages_same ha).2.1]
  cases hload : (ctx.loader.load fs a.library).2 with
  | error detail => exact ⟨rfl, rfl⟩
  | ok engine => exact convert_same ctx log early early' _ fun b => htext engine b hload

/-- **Runs whose arguments differ in the presentation only end the same.** -/
theorem start_same {ctx : Context} (htext : TextPaths ctx a) :
    (start ctx a).SameEnd (start ctx a') := by
  obtain ⟨hsettings, -, hoverrides⟩ := stages_same ha
  simp only [start, ← hsettings, ← hoverrides]
  cases hloaded : (Settings.load ctx.fs (settingsPath ctx a.settings)).outcome with
  | error e => exact ⟨rfl, rfl⟩
  | ok loaded =>
      simp only
      cases hchanged : applyOverrides a loaded with
      | error fault => exact ⟨rfl, rfl⟩
      | ok s =>
          simp only [openLogs]
          cases hlog : s.logFile with
          | none =>
              refine engage_same ha _ none _ _ fun engine b hengine => ?_
              exact htext s ctx.fs none engine b ⟨⟨loaded, hloaded, hchanged⟩,
                Or.inl ⟨hlog, rfl, rfl⟩, hengine⟩
          | some path =>
              cases hopen : ctx.fs.openLog path with
              | error e =>
                  simp only [hopen]
                  exact ⟨rfl, rfl⟩
              | ok opened =>
                  obtain ⟨location, effects⟩ := opened
                  simp only [hopen]
                  refine engage_same ha _ (some location) _ _ fun engine b hengine => ?_
                  exact htext s _ (some location) engine b ⟨⟨loaded, hloaded, hchanged⟩,
                    Or.inr ⟨path, location, effects, hlog, hopen, rfl, rfl⟩, hengine⟩

end Same

/-- How a run ends whose stages before the batch succeed. -/
theorem Launch.exitCode_iff {ctx : Context} {a : Arguments} {s : Settings} {fs : FileSystem}
    {log : Option Location} {engine : Engine} (h : Launch ctx a s fs log engine)
    (htext : TextPaths ctx a) :
    ((start ctx a).exitCode = 0 ↔
      (fs.isDirectory s.inputFolder = true → (fs.createDirectories s.outputFolder).2 = .ok ()) ∧
        ∀ run ∈ batchRuns fs s engine (showsProgress a), run.report.status ≠ .failed) ∧
      ((start ctx a).exitCode = 0 ∨ (start ctx a).exitCode = 1) := by
  obtain ⟨early, spoken, hstart⟩ := h.start_eq
  obtain ⟨-, herror, hok⟩ := convert_end ctx a s engine fs log early spoken
    fun b => htext s fs log engine b h
  rw [hstart]
  rcases refused_or_free fs s with ⟨hinput, e, hmade⟩ | hfree
  · obtain ⟨houtcome, -⟩ := convertBatch_of_error engine (showsProgress a) hinput hmade
    rw [herror _ houtcome, hmade]
    refine ⟨⟨fun hzero => (by cases hzero), fun hsucceeds => ?_⟩, Or.inr rfl⟩
    cases hsucceeds.1 hinput
  · obtain ⟨houtcome, -⟩ := convertBatch_of_runs engine (showsProgress a) hfree
    obtain ⟨hzero, hrange⟩ := BatchReport.exitCode_ofResults
      ((batchRuns fs s engine (showsProgress a)).map DocumentRun.report)
    rw [hok _ houtcome]
    refine ⟨hzero.trans ⟨fun hall => ⟨hfree, fun run hrun => ?_⟩, fun hall r hr => ?_⟩, hrange⟩
    · exact hall run.report (List.mem_map_of_mem hrun)
    · obtain ⟨run, hrun, rfl⟩ := List.mem_map.1 hr
      exact hall.2 run hrun

/-- **A run ends with zero exactly when it succeeds**, and with one otherwise. -/
theorem exitCode_start {ctx : Context} {a : Arguments} (htext : TextPaths ctx a) :
    ((start ctx a).exitCode = 0 ↔ Succeeds ctx a) ∧
      ((start ctx a).exitCode = 0 ∨ (start ctx a).exitCode = 1) := by
  by_cases hlaunch : ∃ s fs log engine, Launch ctx a s fs log engine
  · obtain ⟨s, fs, log, engine, h⟩ := hlaunch
    obtain ⟨hzero, hrange⟩ := h.exitCode_iff htext
    refine ⟨⟨fun hcode => ⟨s, fs, log, engine, h, hzero.1 hcode⟩, ?_⟩, hrange⟩
    rintro ⟨s', fs', log', engine', h', hsucceeds⟩
    exact (h'.exitCode_iff htext).1.2 hsucceeds
  · have hcode : (start ctx a).exitCode = 1 := exitCode_of_no_launch fun s fs log engine h =>
      hlaunch ⟨s, fs, log, engine, h⟩
    rw [hcode]
    refine ⟨⟨fun hzero => (by cases hzero), ?_⟩, Or.inr rfl⟩
    rintro ⟨s, fs, log, engine, h, -⟩
    exact absurd ⟨s, fs, log, engine, h⟩ hlaunch

/-- **The options of presentation do not affect what a run does.**  Two command lines that ask for a
run, and differ in these options only, end with the same exit code and leave the same file system,
if the paths of the batch are texts.  The exit code is zero exactly when the settings, the log file,
the engine and the output folder are there and no document has failed, and one otherwise. -/
theorem run_presentation (ctx : Context) {arguments : List Octets} {a a' : Arguments}
    (hrun : parse ctx.arguments ctx.environment = .ok (.run a))
    (hrun' : parse arguments ctx.environment = .ok (.run a'))
    (hsame : essential ctx.arguments = essential arguments) (htext : TextPaths ctx a) :
    (run ctx).exitCode = (run { ctx with arguments := arguments }).exitCode ∧
      (run ctx).fs = (run { ctx with arguments := arguments }).fs ∧
      ((run ctx).exitCode = 0 ↔ Succeeds ctx a) ∧
      ((run ctx).exitCode = 0 ∨ (run ctx).exitCode = 1) := by
  have ha := parse_essential hsame hrun hrun'
  have hstart : run ctx = start ctx a := by simp only [run, hrun]
  have hstart' : run { ctx with arguments := arguments } = start ctx a' := by
    simp only [run, hrun']
    rfl
  obtain ⟨hcode, hfs⟩ := start_same ha htext
  rw [hstart, hstart']
  exact ⟨hcode, hfs, exitCode_start htext⟩

end Command

namespace Sample

/-- The command line `-i i -o o --verbose` in a folder with two documents. -/
def call : Command.Context where
  arguments := [[0x2D, 0x69], inputName, [0x2D, 0x6F], outputName, Utf8.encode "--verbose"]
  environment := fun _ => none
  fs := twins
  workingPath := ⟨[Path.slash]⟩
  programFolder := none
  loader := .resident engine
  terminal := false

/-- The command line `--json -qi i -o o`. -/
def quietCall : List Octets :=
  [Utf8.encode "--json", [0x2D, 0x71, 0x69], inputName, [0x2D, 0x6F], outputName]

/-- What the command lines say. -/
def callArguments : Command.Arguments :=
  { Command.Arguments.none with
    input := some ⟨inputName⟩
    output := some ⟨outputName⟩
    verbose := true }

theorem parse_call :
    Command.parse call.arguments call.environment = .ok (.run callArguments) := rfl

theorem parse_quietCall : Command.parse quietCall call.environment
    = .ok (.run { callArguments with verbose := false, quiet := true, json := true }) := rfl

/-- The settings of the run. -/
def callSettings : Settings :=
  { Settings.default with inputFolder := ⟨inputName⟩, outputFolder := ⟨outputName⟩ }

theorem valid_callSettings : callSettings.Valid :=
  Settings.valid_default.overriddenBy (Command.parse_inRange parse_call)

theorem load_call : (Settings.load call.fs
    (Command.settingsPath call callArguments.settings)).outcome = .ok Settings.default := by
  have hmissing : call.fs.hasEntry (Command.settingsPath call callArguments.settings) = false := by
    decide +kernel
  rw [Settings.load, hmissing, if_neg Bool.false_ne_true]
  simp only [Settings.build_of_valid Settings.valid_default]

theorem applyOverrides_call :
    Command.applyOverrides callArguments Settings.default = .ok callSettings := by
  rw [Settings.applyOverrides_eq]
  exact Settings.check_of_valid valid_callSettings

theorem launch : Command.Launch call callArguments callSettings twins none engine :=
  ⟨⟨_, load_call, applyOverrides_call⟩, Or.inl ⟨rfl, rfl, rfl⟩, rfl⟩

theorem launch_call {s : Settings} {fs : FileSystem} {log : Option Location} {engine' : Engine}
    (h : Command.Launch call callArguments s fs log engine') :
    s = callSettings ∧ fs = twins ∧ engine' = engine := by
  obtain ⟨⟨loaded, hloaded, hoverrides⟩, hlog, hengine⟩ := h
  cases load_call.symm.trans hloaded
  cases applyOverrides_call.symm.trans hoverrides
  rcases hlog with ⟨-, hfs, -⟩ | ⟨path, -, -, hpath, -⟩
  · exact ⟨rfl, hfs, (Except.ok.inj hengine).symm⟩
  · cases hpath

theorem foundDocuments_callSettings : foundDocuments twins callSettings
    = [capitals, letter].map fun name => settings.inputFolder.join ⟨name⟩ :=
  foundDocuments_twins

theorem textPaths_call : Command.TextPaths call callArguments := by
  intro s fs log engine' b hlaunch houtcome
  obtain ⟨rfl, rfl, rfl⟩ := launch_call hlaunch
  obtain ⟨hresults, -⟩ := @convertBatch_of_runs twins callSettings engine
    (Command.showsProgress callArguments) fun _ => rfl
  cases hresults.symm.trans houtcome
  rw [BatchReport.paths, BatchReport.results_ofResults, batchRuns, foundDocuments_callSettings]
  simp only [← Path.isSome_toJson?]
  decide +kernel

theorem succeeds_call : Command.Succeeds call callArguments := by
  refine ⟨_, _, _, _, launch, fun _ => rfl, ?_⟩
  rw [batchRuns, foundDocuments_callSettings]
  decide +kernel

/-- The command line `-i i -o o`. -/
def plainCall : List Octets := [[0x2D, 0x69], inputName, [0x2D, 0x6F], outputName]

/-- An environment in which the variable for JSON has a value that is none. -/
def unreadable : String → Option Octets :=
  fun name => if name = "PDF2IMG_JSON" then some [0x31] else none

end Sample

/-- Two documents that are converted in part are no failure, whether the run is quiet and prints
JSON or tells everything. -/
theorem Command.run_presentation_sample :
    let other := { Sample.call with arguments := Sample.quietCall }
    essential Sample.call.arguments = essential other.arguments ∧
      (run Sample.call).exitCode = 0 ∧ (run other).exitCode = 0 ∧
      (run Sample.call).fs = (run other).fs := by
  intro other
  have hsame : essential Sample.call.arguments = essential Sample.quietCall := by decide +kernel
  obtain ⟨hcode, hfs, hzero, -⟩ := run_presentation Sample.call Sample.parse_call
    Sample.parse_quietCall hsame Sample.textPaths_call
  have hsucceeds := hzero.2 Sample.succeeds_call
  exact ⟨hsame, hsucceeds, hcode ▸ hsucceeds, hfs⟩

/-- **A command line that differs in the options of presentation only may be refused.**  A run that
succeeds is refused with such an option given twice.  Where the variable for JSON cannot be read, a
command line that gives the option asks for a run, since the variable is not looked at, and the one
without it is refused. -/
theorem Command.run_presentation_refused :
    let twice := Utf8.encode "--json" :: Utf8.encode "--json" :: Sample.plainCall
    let once := Utf8.encode "--json" :: Sample.plainCall
    let call := { Sample.call with environment := Sample.unreadable, arguments := Sample.plainCall }
    (essential Sample.call.arguments = essential twice ∧
        parse Sample.call.arguments Sample.call.environment = .ok (.run Sample.callArguments) ∧
        TextPaths Sample.call Sample.callArguments ∧ (run Sample.call).exitCode = 0 ∧
        (run { Sample.call with arguments := twice }).exitCode = 2) ∧
      essential once = essential call.arguments ∧
      (∃ a, parse once call.environment = .ok (.run a)) ∧ (run call).exitCode = 2 := by
  intro twice once call
  have hzero : (run Sample.call).exitCode = 0 := by
    have hstart : run Sample.call = start Sample.call Sample.callArguments := by
      simp only [run, Sample.parse_call]
    rw [hstart]
    exact (exitCode_start Sample.textPaths_call).1.2 Sample.succeeds_call
  exact ⟨⟨by decide +kernel, Sample.parse_call, Sample.textPaths_call, hzero, rfl⟩,
    by decide +kernel, ⟨_, rfl⟩, rfl⟩

end PageImages
