import PageImages.Proofs.Batch

/-!
**A batch, run by run.**

An engine may remember every call that was made to it, so that what becomes of a page or of a
document depends on all that came before.  The runs of a batch can still be told one from the other:
each finds the file system and the calls that the runs before it left.

Main definitions:

* `pageReached` — the file system in which a page is reached;
* `outset` — the file system in which the first document of a batch is reached;
* `batchRuns` — the runs of the documents of a batch.

Main results:

* `pageRuns_append` — the runs of the first pages and those of the others;
* `documentRuns_split` — **each document is converted in what the documents before it left**;
* `convertBatch_of_error`, `convertBatch_of_runs` — a batch is refused, or it is the runs of its
  documents.
-/

set_option autoImplicit false

namespace PageImages

/-! ### The runs of pages -/

section Pages

variable (settings : Settings) (document : Document) (source : Path)

/-- The first pages are converted as if there were no others, and the others in what these left. -/
theorem pageRuns_append (m n index : Nat) (fs : FileSystem) (past : List Call) :
    let runs := pageRuns settings document source m index fs past
    pageRuns settings document source (m + n) index fs past
      = runs ++ pageRuns settings document source n (index + m)
          (fs.applyAll (runs.flatMap PageRun.effects)) (past ++ runs.flatMap PageRun.calls) := by
  induction m generalizing index fs past with
  | zero => simp [pageRuns]
  | succ m ih =>
      have hcount : m + 1 + n = m + n + 1 := by omega
      have hindex : index + 1 + m = index + (m + 1) := by omega
      intro runs
      simp only [runs, hcount, pageRuns, List.flatMap_cons, List.cons_append,
        FileSystem.applyAll_append, ih, hindex, List.append_assoc]

/-- The file system in which the page of an index is reached. -/
def pageReached (fs : FileSystem) (past : List Call) (index : Nat) : FileSystem :=
  fs.applyAll ((pageRuns settings document source index 0 fs past).flatMap PageRun.effects)

/-- The calls that have been made when the page of an index is reached. -/
def callsReached (fs : FileSystem) (past : List Call) (index : Nat) : List Call :=
  past ++ (pageRuns settings document source index 0 fs past).flatMap PageRun.calls

/-- **Each page is converted in the file system in which it is reached.** -/
theorem pageRuns_eq_map (count : Nat) (fs : FileSystem) (past : List Call) :
    pageRuns settings document source count 0 fs past
      = (List.range count).map fun index =>
          convertPage (pageReached settings document source fs past index)
            (callsReached settings document source fs past index) settings document source
            index := by
  induction count with
  | zero => rfl
  | succ count ih =>
      rw [pageRuns_append, List.range_succ, List.map_append, ← ih]
      simp only [pageRuns, List.map_cons, List.map_nil, pageReached, callsReached, Nat.zero_add]

end Pages

theorem convertPage_path {fs : FileSystem} {past : List Call} {settings : Settings}
    {document : Document} {source : Path} {index : Nat} {path : Path}
    (h : (convertPage fs past settings document source index).outcome = .ok path) :
    path = imagePath settings source index := by
  have hresult : (pageTask past settings document source index).result fs = .ok path := h
  rw [Task.result] at hresult
  cases hkept : pageKept fs settings source index with
  | true =>
      rw [pageTask_of_kept past document hkept] at hresult
      exact (Except.ok.inj hresult).symm
  | false =>
      cases himage : pageImage past settings document index with
      | error e =>
          rw [pageTask_of_no_image hkept himage] at hresult
          cases hresult
      | ok image =>
          rw [pageTask_of_image hkept himage] at hresult
          cases hsaved : (saveImage fs image (imagePath settings source index) settings.format
              settings.quality).outcome with
          | ok u =>
              simp only [hsaved] at hresult
              exact (Except.ok.inj hresult).symm
          | error e =>
              simp only [hsaved] at hresult
              cases hresult

/-! ### The run of a document -/

theorem convertDocument_path (fs : FileSystem) (past : List Call) (settings : Settings)
    (engine : Engine) (source : Path) (observed : Bool) :
    (convertDocument fs past settings engine source observed).report.path = source := by
  rcases convertDocument_ended_or_pages fs past settings engine source observed with
    ⟨report, notices, calls, hrun, hpath, -⟩ | ⟨document, hrun⟩
  · rw [hrun]
    exact hpath
  · rw [hrun]
    exact (convertPages_records _ _ _ _ _ observed).path

/-! ### The runs of documents -/

section Documents

variable {settings : Settings} {engine : Engine} {observed : Bool}

/-- **Each document is converted in what the documents before it left.** -/
theorem documentRuns_split {fs : FileSystem} {past : List Call} {sources : List Path}
    {earlier later : List DocumentRun} {run : DocumentRun}
    (h : documentRuns settings engine observed fs past sources = earlier ++ run :: later) :
    run = convertDocument (fs.applyAll (earlier.flatMap DocumentRun.effects))
      (past ++ earlier.flatMap DocumentRun.calls) settings engine run.report.path observed := by
  induction sources generalizing fs past earlier with
  | nil =>
      rw [documentRuns] at h
      cases List.append_ne_nil_of_right_ne_nil earlier (List.cons_ne_nil run later) h.symm
  | cons source sources ih =>
      rw [documentRuns] at h
      have hpath := convertDocument_path fs past settings engine source observed
      cases earlier with
      | nil =>
          -- the first run, whether or not others follow
          have hfirst : convertDocument fs past settings engine source observed = run := by
            split at h
            · exact (List.cons.inj h).1
            · exact (List.cons.inj h).1
          subst hfirst
          rw [hpath, List.flatMap_nil, List.flatMap_nil, List.append_nil, FileSystem.applyAll_nil]
      | cons first earlier =>
          split at h
          · have hnil := (List.cons.inj h).2
            cases List.append_ne_nil_of_right_ne_nil earlier (List.cons_ne_nil run later) hnil.symm
          · obtain ⟨hfirst, hrest⟩ := List.cons.inj h
            subst hfirst
            rw [List.flatMap_cons, List.flatMap_cons, FileSystem.applyAll_append,
              ← List.append_assoc]
            exact ih hrest

/-- The documents that are converted are the first ones, in their order. -/
theorem documentRuns_paths (fs : FileSystem) (past : List Call) (sources : List Path) :
    (documentRuns settings engine observed fs past sources).map (fun run => run.report.path)
      <+: sources := by
  induction sources generalizing fs past with
  | nil => exact List.prefix_rfl
  | cons source sources ih =>
      rw [documentRuns]
      split
      · rw [List.map_cons, convertDocument_path]
        exact ⟨sources, rfl⟩
      · rw [List.map_cons, convertDocument_path]
        exact (List.prefix_cons_inj source).2 (ih _ _)

end Documents

/-! ### The runs of a batch -/

/-- The steps of a batch before its documents. -/
def openingSteps (fs : FileSystem) (settings : Settings) : List Effect :=
  if fs.isDirectory settings.inputFolder then (fs.createDirectories settings.outputFolder).1 else []

/-- The file system in which the first document of a batch is reached. -/
def outset (fs : FileSystem) (settings : Settings) : FileSystem :=
  fs.applyAll (openingSteps fs settings)

/-- The runs of the documents of a batch. -/
def batchRuns (fs : FileSystem) (settings : Settings) (engine : Engine) (observed : Bool) :
    List DocumentRun :=
  documentRuns settings engine observed (outset fs settings) [] (foundDocuments fs settings)

/-- What an observer is told about a batch of `count` documents. -/
def batchEvents (observed : Bool) (count : Nat) (runs : List DocumentRun) : List Event :=
  if count = 0 then []
  else tell observed (.batchStarted count)
    ++ runs.zipIdx.flatMap fun item => item.1.allEvents observed item.2

section Batch

variable {fs : FileSystem} {settings : Settings}

theorem outset_of_missing (h : fs.isDirectory settings.inputFolder = false) :
    outset fs settings = fs := by
  rw [outset, openingSteps, h, if_neg Bool.false_ne_true, FileSystem.applyAll_nil]

theorem outset_eq (h : fs.isDirectory settings.inputFolder = true) :
    outset fs settings = prepared fs settings := by
  rw [outset, openingSteps, if_pos h, prepared]

/-- A batch whose output folder cannot be made ends before its first document. -/
theorem convertBatch_of_error (engine : Engine) (observed : Bool)
    (hinput : fs.isDirectory settings.inputFolder = true) {e : OsError}
    (hmade : (fs.createDirectories settings.outputFolder).2 = .error e) :
    let run := convertBatch fs settings engine observed
    run.outcome = .error (.outputFolder settings.outputFolder e) ∧
      run.effects = openingSteps fs settings ∧ run.calls = [] ∧ run.events = [] := by
  intro run
  cases hcreate : fs.createDirectories settings.outputFolder with
  | mk made outcome =>
      rw [hcreate] at hmade
      cases hmade
      simp only [run, convertBatch, hinput, Bool.not_true, Bool.false_eq_true, if_false, hcreate,
        BatchRun.ended, BatchRun.effects, Course.effects_append, Course.effects_ofEffects,
        Course.effects_ofNotices, List.append_nil, openingSteps, if_true, and_self]

/-- **Any other batch is the runs of its documents.** -/
theorem convertBatch_of_runs (engine : Engine) (observed : Bool)
    (h : fs.isDirectory settings.inputFolder = true →
      (fs.createDirectories settings.outputFolder).2 = .ok ()) :
    let run := convertBatch fs settings engine observed
    let runs := batchRuns fs settings engine observed
    run.outcome = .ok (.ofResults (runs.map DocumentRun.report)) ∧
      run.effects = openingSteps fs settings ++ runs.flatMap DocumentRun.effects ∧
      run.calls = runs.flatMap DocumentRun.calls ∧
      run.events = batchEvents observed (foundDocuments fs settings).length runs := by
  intro run runs
  cases hinput : fs.isDirectory settings.inputFolder with
  | false =>
      have hfound : foundDocuments fs settings = [] := by
        rw [foundDocuments, hinput, if_neg Bool.false_ne_true]
      have hruns : runs = [] := by simp only [runs, batchRuns, hfound, documentRuns]
      rw [hruns, hfound]
      simp only [run, convertBatch, hinput, Bool.not_false, if_true, BatchRun.ended,
        BatchRun.effects, Course.effects_append, Course.effects_ofEffects,
        Course.effects_ofNotices, openingSteps, Bool.false_eq_true, if_false]
      exact ⟨rfl, rfl, rfl, rfl⟩
  | true =>
      have hmade := h hinput
      cases hcreate : fs.createDirectories settings.outputFolder with
      | mk made outcome =>
          rw [hcreate] at hmade
          cases hmade
          have hsteps : openingSteps fs settings = made := by
            rw [openingSteps, hinput, if_pos rfl, hcreate]
          have houtset : outset fs settings = fs.applyAll made := by rw [outset, hsteps]
          have hfound : foundDocuments fs settings
              = (findDocuments (fs.applyAll made) settings.inputFolder).2 := by
            rw [foundDocuments_eq hinput, batchSources, prepared, hcreate]
          cases hfind : findDocuments (fs.applyAll made) settings.inputFolder with
          | mk unlistable documents =>
              rw [hfind] at hfound
              simp only [run, runs, batchRuns, houtset, hfound, convertBatch, hinput,
                Bool.not_true, Bool.false_eq_true, if_false, hcreate, hfind, hsteps]
              cases documents with
              | nil =>
                  simp only [List.isEmpty_nil, if_true, BatchRun.ended, BatchRun.effects,
                    Course.effects_append, Course.effects_ofEffects, Course.effects_ofNotices]
                  exact ⟨rfl, rfl, rfl, rfl⟩
              | cons source sources =>
                  simp only [List.isEmpty_cons, Bool.false_eq_true, if_false,
                    BatchRun.ofDocuments, BatchRun.effects, Course.effects_append,
                    Course.effects_ofEffects, Course.effects_ofNotices, Course.effects_flatMap,
                    List.append_nil]
                  exact ⟨trivial, rfl, trivial, rfl⟩

/-- A batch is refused, or the way to its documents is free. -/
theorem refused_or_free (fs : FileSystem) (settings : Settings) :
    (fs.isDirectory settings.inputFolder = true ∧
        ∃ e, (fs.createDirectories settings.outputFolder).2 = .error e) ∨
      (fs.isDirectory settings.inputFolder = true →
        (fs.createDirectories settings.outputFolder).2 = .ok ()) := by
  cases hmade : (fs.createDirectories settings.outputFolder).2 with
  | ok u => exact Or.inr fun _ => rfl
  | error e =>
      cases hinput : fs.isDirectory settings.inputFolder with
      | false => exact Or.inr fun h => absurd h Bool.false_ne_true
      | true => exact Or.inl ⟨rfl, e, rfl⟩

end Batch

end PageImages
