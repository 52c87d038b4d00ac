import PageImages.Proofs.Runs

/-!
**Ending a batch with the first document that fails.**

A batch that ends with the first failed document does what the same batch would do without that
setting, up to and including that document, and then nothing more.  Documents that fail in part or
are left out do not end it.

Main definitions:

* `UpToFailure` — the reports up to the first one on a document that failed;
* `batchReached` — the file system after the first documents of a batch.

Main results:

* `documentRuns_failFast` — the runs up to the first failure are those of the whole batch;
* `convertBatch_failFast` — **ending with the first failure cuts the batch short and changes nothing
  else**.
-/

set_option autoImplicit false

namespace PageImages

/-! ### Up to the first failure -/

/-- `short` is the shortest beginning of `results` that ends with the report on a document that
failed, or all of `results` if no document failed. -/
structure UpToFailure (results short : List DocumentReport) : Prop where
  /-- The reports are the first ones, in their order. -/
  first : short <+: results
  /-- No document before the last of them failed. -/
  earlier : ∀ report ∈ short.dropLast, report.status ≠ .failed
  /-- The last document failed, unless there are no others. -/
  last : short = results ∨ ∃ report, short.getLast? = some report ∧ report.status = .failed

theorem upToFailure_upTo (results : List DocumentReport) :
    UpToFailure results (Task.upTo (fun report => report.status = .failed) results) := by
  refine ⟨Task.upTo_prefix _ results, ?_, ?_⟩ <;>
    rcases Task.upTo_cases (fun report : DocumentReport => report.status = .failed) results with
      ⟨hall, hnone⟩ | ⟨earlier, last, hupTo, hlast, hnone⟩
  · intro report hreport
    rw [hall] at hreport
    exact of_decide_eq_false (hnone report (List.dropLast_subset _ hreport))
  · intro report hreport
    rw [hupTo, List.dropLast_concat] at hreport
    exact of_decide_eq_false (hnone report hreport)
  · exact Or.inl hall
  · refine Or.inr ⟨last, ?_, of_decide_eq_true hlast⟩
    rw [hupTo, List.getLast?_concat]

/-! ### Runs that do not look at the setting -/

section Runs

variable (settings : Settings) (on : Bool)

theorem pageRuns_failFast (document : Document) (source : Path) (count index : Nat)
    (fs : FileSystem) (past : List Call) :
    pageRuns { settings with failFast := on } document source count index fs past
      = pageRuns settings document source count index fs past := by
  induction count generalizing index fs past with
  | zero => rfl
  | succ count ih =>
      -- no page looks at the setting
      have hpage : convertPage fs past { settings with failFast := on } document source index
          = convertPage fs past settings document source index := rfl
      rw [pageRuns, pageRuns, ih, hpage]

theorem convertDocument_failFast (engine : Engine) (source : Path) (observed : Bool)
    (fs : FileSystem) (past : List Call) :
    convertDocument fs past { settings with failFast := on } engine source observed
      = convertDocument fs past settings engine source observed := by
  have hskip : shouldSkip fs { settings with failFast := on } source
      = shouldSkip fs settings source := rfl
  have hnotices : skipNotices fs { settings with failFast := on } source
      = skipNotices fs settings source := rfl
  have hpages : ∀ (document : Document) (past : List Call),
      convertPages fs past { settings with failFast := on } document source observed
        = convertPages fs past settings document source observed := by
    intro document past
    simp only [convertPages, pageRuns_failFast]
    rfl
  simp only [convertDocument, hskip, hnotices, hpages]

/-- **The runs up to the first failure are those of the whole batch.** -/
theorem documentRuns_failFast (engine : Engine) (observed : Bool) (fs : FileSystem)
    (past : List Call) (sources : List Path) :
    documentRuns { settings with failFast := true } engine observed fs past sources
      = Task.upTo (fun run => run.report.status = .failed)
          (documentRuns { settings with failFast := false } engine observed fs past sources) := by
  induction sources generalizing fs past with
  | nil => rfl
  | cons source sources ih =>
      rw [documentRuns, documentRuns]
      simp only [convertDocument_failFast, Bool.true_and, Bool.false_and, Bool.false_eq_true,
        if_false]
      rw [Task.upTo, ih]

end Runs

/-- A batch that goes on after failures has a run for each of its documents. -/
theorem documentRuns_all {settings : Settings} (h : settings.failFast = false) (engine : Engine)
    (observed : Bool) (fs : FileSystem) (past : List Call) (sources : List Path) :
    (documentRuns settings engine observed fs past sources).map (fun run => run.report.path)
      = sources := by
  induction sources generalizing fs past with
  | nil => rfl
  | cons source sources ih =>
      rw [documentRuns]
      simp only [h, Bool.false_and, Bool.false_eq_true, if_false, List.map_cons,
        convertDocument_path, ih]

/-! ### The batch -/

/-- The file system after the first `count` documents of a batch. -/
def batchReached (fs : FileSystem) (settings : Settings) (engine : Engine) (observed : Bool)
    (count : Nat) : FileSystem :=
  (outset fs settings).applyAll
    (((batchRuns fs settings engine observed).take count).flatMap DocumentRun.effects)

/-- What an observer is told about the first documents comes first. -/
theorem batchEvents_append (observed : Bool) (count : Nat) (first others : List DocumentRun) :
    batchEvents observed count first <+: batchEvents observed count (first ++ others) := by
  rw [batchEvents, batchEvents]
  split
  · exact List.prefix_rfl
  · rw [List.zipIdx_append, List.flatMap_append, ← List.append_assoc]
    exact List.prefix_append _ _

/-- **Ending with the first failure cuts the batch short and changes nothing else.**  With the
setting and without it the batch is refused for the same reason, or it is converted both times.
Then there is a report on each document without the setting; with it there are the first of those
reports, up to the first failure.  The file system is the one that so many documents leave, and the
calls to the engine and what an observer is told begin in the same way. -/
theorem convertBatch_failFast (fs : FileSystem) (settings : Settings) (engine : Engine)
    (observed : Bool) :
    let slow := { settings with failFast := false }
    let whole := convertBatch fs slow engine observed
    let cut := convertBatch fs { settings with failFast := true } engine observed
    (∃ e, whole.outcome = .error e ∧ cut.outcome = .error e) ∨
      ∃ results short, whole.outcome = .ok (.ofResults results) ∧
        cut.outcome = .ok (.ofResults short) ∧
        results.map DocumentReport.path = foundDocuments fs slow ∧ UpToFailure results short ∧
        fs.applyAll whole.effects = batchReached fs slow engine observed results.length ∧
        fs.applyAll cut.effects = batchReached fs slow engine observed short.length ∧
        cut.calls <+: whole.calls ∧ cut.events <+: whole.events := by
  intro slow whole cut
  let fast : Settings := { settings with failFast := true }
  rcases refused_or_free fs settings with ⟨hinput, e, hmade⟩ | hfree
  · left
    exact ⟨_, (@convertBatch_of_error fs slow engine observed hinput e hmade).1,
      (@convertBatch_of_error fs fast engine observed hinput e hmade).1⟩
  · right
    -- the runs with the setting are the first ones of those without it
    have hruns : batchRuns fs fast engine observed
        = Task.upTo (fun run => run.report.status = .failed) (batchRuns fs slow engine observed) :=
      documentRuns_failFast settings engine observed (outset fs settings) []
        (foundDocuments fs settings)
    obtain ⟨others, hothers⟩ := Task.upTo_prefix (fun run : DocumentRun =>
      decide (run.report.status = .failed)) (batchRuns fs slow engine observed)
    rw [← hruns] at hothers
    have hpaths := @documentRuns_all slow rfl engine observed (outset fs slow) []
      (foundDocuments fs slow)
    obtain ⟨houtcome, heffects, hcalls, hevents⟩ := @convertBatch_of_runs fs slow engine observed
      hfree
    obtain ⟨houtcome', heffects', hcalls', hevents'⟩ := @convertBatch_of_runs fs fast engine
      observed hfree
    refine ⟨_, _, houtcome, houtcome', ?_, ?_, ?_, ?_, ?_, ?_⟩
    · rw [List.map_map]
      exact hpaths
    · rw [hruns, Task.map_upTo DocumentRun.report fun report => decide (report.status = .failed)]
      exact upToFailure_upTo _
    · rw [heffects, FileSystem.applyAll_append, batchReached, List.length_map, List.take_length]
      rfl
    · rw [heffects', FileSystem.applyAll_append, batchReached, List.length_map, ← hothers,
        List.take_left]
      rfl
    · rw [hcalls, hcalls', ← hothers, List.flatMap_append]
      exact List.prefix_append _ _
    · rw [hevents, hevents', ← hothers]
      exact batchEvents_append observed _ _ others

end PageImages
