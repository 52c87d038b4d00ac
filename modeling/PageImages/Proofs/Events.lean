import PageImages.Proofs.Sharing

/-!
**What an observer of a batch is told.**

An observer is told about a batch only if there are documents.  Then it is told how many, and about
each one that it starts, what becomes of its pages, and that it is done.  All that can be told this
way stands in the reports too.  Whether anybody observes the batch makes no difference to it.

Main definitions:

* `PagesTold` — what is told about the pages of a document agrees with the report on it;
* `DocumentEvents` — what is told about a document between its start and its end.

Main results:

* `pageEvents_told` — the pages of a document are told one by one, as they stand in its report;
* `documentRuns_unobserved` — documents that nobody observes are converted in the same way;
* `convertBatch_events` — **what an observer is told is what the reports say, and telling it changes
  nothing**.
-/

set_option autoImplicit false

namespace PageImages

/-! ### What is told about pages -/

/-- The error of the page that an event is about, if the page failed. -/
def Event.pageError? : Event → Option PageError
  | .pageFailed _ e => some e
  | _ => none

/-- What an observer is told about the pages of a document agrees with the report on it. -/
structure PagesTold (settings : Settings) (report : DocumentReport) (events : List Event) :
    Prop where
  /-- There is one event for each page that is to be converted. -/
  count : events.length = settings.pageLimit report.pagesTotal
  /-- A page that has its image is done. -/
  done : ∀ index < settings.pageLimit report.pagesTotal,
    imagePath settings report.path index ∈ report.outputFiles →
      events[index]? = some (.pageDone (index + 1) (settings.pageLimit report.pagesTotal))
  /-- Any other page failed. -/
  failed : ∀ index < settings.pageLimit report.pagesTotal,
    imagePath settings report.path index ∉ report.outputFiles →
      ∃ e, events[index]? = some (.pageFailed (settings.pageLimit report.pagesTotal) e)
  /-- The errors are told in the order of the report, each of them once. -/
  errors : events.filterMap Event.pageError? = report.pageErrors

/-- What an observer is told about the runs of pages. -/
def pageEvents (limit : Nat) (runs : List PageRun) : List Event :=
  runs.zipIdx.map fun item => item.1.event limit item.2

theorem flatMap_tell (limit : Nat) (runs : List PageRun) :
    (runs.zipIdx.flatMap fun item => tell true (item.1.event limit item.2))
      = pageEvents limit runs :=
  List.map_eq_flatMap.symm

theorem length_pageEvents (limit : Nat) (runs : List PageRun) :
    (pageEvents limit runs).length = runs.length := by
  rw [pageEvents, List.length_map, List.length_zipIdx]

theorem getElem?_pageEvents (limit : Nat) (runs : List PageRun) (index : Nat) :
    (pageEvents limit runs)[index]? = runs[index]?.map fun run => run.event limit index := by
  rw [pageEvents, List.getElem?_map, List.getElem?_zipIdx, Option.map_map, Nat.zero_add]
  rfl

theorem PageRun.pageError?_event (limit : Nat) (run : PageRun) (index : Nat) :
    (run.event limit index).pageError? = outcomeError? run.outcome := by
  rw [event]
  cases run.outcome <;> rfl

/-- The errors that are told are those of the pages that failed. -/
theorem filterMap_pageEvents (limit : Nat) (runs : List PageRun) :
    (pageEvents limit runs).filterMap Event.pageError?
      = (runs.map PageRun.outcome).filterMap outcomeError? := by
  have hpages : runs.map PageRun.outcome = (runs.zipIdx.map Prod.fst).map PageRun.outcome := by
    rw [List.zipIdx_map_fst]
  rw [hpages, pageEvents, List.filterMap_map, List.filterMap_map, List.filterMap_map]
  exact congrArg (List.filterMap · _)
    (funext fun item => item.1.pageError?_event limit item.2)

/-- **The pages of a document are told one by one, as they stand in its report.** -/
theorem pageEvents_told (settings : Settings) (document : Document) (source : Path)
    (fs : FileSystem) (past : List Call) :
    let limit := settings.pageLimit document.pages
    let runs := pageRuns settings document source limit 0 fs past
    PagesTold settings (.ofOutcomes source document.pages (runs.map PageRun.outcome))
      (pageEvents limit runs) := by
  intro limit runs
  have hrecords := DocumentReport.records_ofOutcomes source document.pages
    (runs.map PageRun.outcome)
  -- the run of each page, and whether it is among those that have an image
  have hruns := pageRuns_eq_map settings document source limit fs past
  have hevent : ∀ index < limit, ∃ run, runs[index]? = some run ∧
      (∀ path, run.outcome = .ok path → path = imagePath settings source index) ∧
      (imagePath settings source index ∈ (DocumentReport.ofOutcomes source document.pages
          (runs.map PageRun.outcome)).outputFiles ↔
        run.outcome = .ok (imagePath settings source index)) := by
    intro index hindex
    refine ⟨convertPage (pageReached settings document source fs past index)
      (callsReached settings document source fs past index) settings document source index, ?_,
      fun path => convertPage_path, ?_⟩
    · simp only [runs, hruns, List.getElem?_map, List.getElem?_range hindex, Option.map_some]
    · rw [DocumentReport.mem_outputFiles_ofOutcomes]
      simp only [runs, hruns, List.map_map, List.mem_map, List.mem_range, Function.comp_apply]
      constructor
      · rintro ⟨other, -, hother⟩
        obtain ⟨-, rfl⟩ := imagePath_inj (convertPage_path hother)
        exact hother
      · exact fun houtcome => ⟨index, hindex, houtcome⟩
  refine ⟨?_, ?_, ?_, ?_⟩
  · rw [length_pageEvents, hrecords.total]
    simp only [runs, hruns, List.length_map, List.length_range, limit]
  · rw [hrecords.total, hrecords.path]
    intro index hindex hlisted
    obtain ⟨run, hrun, -, hmem⟩ := hevent index hindex
    rw [getElem?_pageEvents, hrun, Option.map_some, PageRun.event, hmem.1 hlisted]
  · rw [hrecords.total, hrecords.path]
    intro index hindex hunlisted
    obtain ⟨run, hrun, hpath, hmem⟩ := hevent index hindex
    rw [getElem?_pageEvents, hrun, Option.map_some, PageRun.event]
    cases houtcome : run.outcome with
    | ok path =>
        rw [hpath path houtcome] at houtcome
        exact absurd (hmem.2 houtcome) hunlisted
    | error e => exact ⟨e, rfl⟩
  · rw [filterMap_pageEvents, hrecords.errors]

/-! ### What is told about a document -/

/-- What an observer is told about the document at `source`, which finds the file system `fs` after
the calls `past`, between its start and its end, beside the report on it. -/
inductive DocumentEvents (fs : FileSystem) (past : List Call) (settings : Settings)
    (engine : Engine) (source : Path) : DocumentReport → List Event → Prop
  /-- Nothing is told about the pages of a document that is left out. -/
  | skipped (skip : shouldSkip fs settings source = true) :
      DocumentEvents fs past settings engine source (.skipped source) []
  /-- Nothing is told about the pages of a document that cannot be opened. -/
  | unopened {e : OpenError} (skip : shouldSkip fs settings source = false)
      (opens : engine.openDocument past source = .error e) :
      DocumentEvents fs past settings engine source (.failed source e.message) []
  /-- Nothing is told about the pages of a locked document. -/
  | locked {document : Document} (skip : shouldSkip fs settings source = false)
      (opens : engine.openDocument past source = .ok document)
      (encrypted : document.encrypted = true) :
      DocumentEvents fs past settings engine source
        (.failed source OpenError.passwordProtected.message) []
  /-- The pages of any other document are told one by one. -/
  | pagesGoneThrough {document : Document} {report : DocumentReport} {events : List Event}
      (skip : shouldSkip fs settings source = false)
      (opens : engine.openDocument past source = .ok document)
      (encrypted : document.encrypted = false) (path : report.path = source)
      (total : report.pagesTotal = document.pages) (told : PagesTold settings report events) :
      DocumentEvents fs past settings engine source report events

theorem convertDocument_events (fs : FileSystem) (past : List Call) (settings : Settings)
    (engine : Engine) (source : Path) :
    let run := convertDocument fs past settings engine source true
    DocumentEvents fs past settings engine source run.report run.events := by
  intro run
  rcases convertDocument_cases fs past settings engine source true with
    ⟨hskip, hrun⟩ | ⟨hskip, ⟨e, hopen, hrun⟩ | ⟨document, hopen, ⟨hlocked, hrun⟩ | ⟨hplain, hrun⟩⟩⟩
  · simp only [run, hrun]
    exact .skipped hskip
  · simp only [run, hrun]
    exact .unopened hskip hopen
  · simp only [run, hrun]
    exact .locked hskip hopen hlocked
  · have hrecords := convertPages_records fs (past ++ [.opened source]) settings document source
      true
    simp only [run, hrun]
    refine .pagesGoneThrough hskip hopen hplain hrecords.path hrecords.total ?_
    simp only [DocumentRun.enclosed, convertPages, flatMap_tell]
    exact pageEvents_told settings document source fs _

/-! ### Runs that nobody observes -/

/-- The run of a document about which nothing is told. -/
def DocumentRun.untold (run : DocumentRun) : DocumentRun := { run with events := [] }

theorem convertDocument_unobserved (fs : FileSystem) (past : List Call) (settings : Settings)
    (engine : Engine) (source : Path) :
    convertDocument fs past settings engine source false
      = (convertDocument fs past settings engine source true).untold := by
  have hsilent : ∀ (limit : Nat) (runs : List PageRun),
      (runs.zipIdx.flatMap fun item => tell false (item.1.event limit item.2)) = [] :=
    fun limit runs => List.flatMap_eq_nil_iff.2 fun item _ => rfl
  rcases convertDocument_cases fs past settings engine source true with
    ⟨hskip, hrun⟩ | ⟨hskip, ⟨e, hopen, hrun⟩ | ⟨document, hopen, ⟨hlocked, hrun⟩ | ⟨hplain, hrun⟩⟩⟩
  · rw [hrun, convertDocument_of_skip false hskip]
    rfl
  · rw [hrun, convertDocument_of_unopened false hskip hopen]
    rfl
  · rw [hrun, convertDocument_of_locked false hskip hopen hlocked]
    rfl
  · rw [hrun, convertDocument_of_plain false hskip hopen hplain]
    simp only [convertPages, hsilent, DocumentRun.enclosed, DocumentRun.untold]

/-- **Documents that nobody observes are converted in the same way.** -/
theorem documentRuns_unobserved (settings : Settings) (engine : Engine) (fs : FileSystem)
    (past : List Call) (sources : List Path) :
    documentRuns settings engine false fs past sources
      = (documentRuns settings engine true fs past sources).map DocumentRun.untold := by
  induction sources generalizing fs past with
  | nil => rfl
  | cons source sources ih =>
      rw [documentRuns, documentRuns, convertDocument_unobserved]
      -- what decides on the documents after this one does not look at the events
      by_cases hstop : (settings.failFast && decide
          ((convertDocument fs past settings engine source true).report.status = .failed)) = true
      · rw [if_pos hstop]
        exact if_pos hstop
      · rw [if_neg hstop, List.map_cons, ← ih]
        exact if_neg hstop

theorem allEvents_untold (runs : List DocumentRun) :
    ((runs.map DocumentRun.untold).zipIdx.flatMap fun item => item.1.allEvents false item.2)
      = [] := by
  refine List.flatMap_eq_nil_iff.2 fun item hitem => ?_
  obtain ⟨run, -, hrun⟩ := List.mem_map.1 (List.fst_mem_of_mem_zipIdx hitem)
  rw [← hrun]
  rfl

/-- A batch that nobody observes does the same. -/
theorem convertBatch_unobserved (fs : FileSystem) (settings : Settings) (engine : Engine) :
    let run := convertBatch fs settings engine true
    let silent := convertBatch fs settings engine false
    silent.outcome = run.outcome ∧ silent.course = run.course ∧ silent.calls = run.calls ∧
      silent.events = [] := by
  intro run silent
  simp only [run, silent, convertBatch]
  split
  · exact ⟨rfl, rfl, rfl, rfl⟩
  · split
    · exact ⟨rfl, rfl, rfl, rfl⟩
    · split
      · exact ⟨rfl, rfl, rfl, rfl⟩
      · simp only [BatchRun.ofDocuments, documentRuns_unobserved, allEvents_untold, stoppedEarly,
          List.map_map, List.flatMap_map, List.any_map, List.length_map]
        exact ⟨rfl, rfl, rfl, rfl⟩

/-! ### What is told about a batch -/

/-- What an observer is told about the document of an index. -/
theorem DocumentRun.allEvents_observed (run : DocumentRun) (index : Nat) :
    run.allEvents true index
      = .documentStarted index run.report.path :: (run.events ++ [.documentDone run.report]) := by
  rw [allEvents, List.append_assoc]
  rfl

/-- **What an observer is told is what the reports say, and telling it changes nothing.**  Nothing
is told about a batch that is refused, whose input folder is none, or that has no documents.  About
any other it is told how many documents there are, and then about each report in its order: that the
document starts, what becomes of its pages, and that it is done.  The same batch without an observer
has the same outcome, the same changes of the file system and the same notices in the same order,
and makes the same calls. -/
theorem convertBatch_events (fs : FileSystem) (settings : Settings) (engine : Engine) :
    let run := convertBatch fs settings engine true
    let silent := convertBatch fs settings engine false
    let found := foundDocuments fs settings
    let runs := batchRuns fs settings engine true
    ((run.outcome.isOk = false ∨ fs.isDirectory settings.inputFolder = false ∨ found = []) ∧
          run.events = [] ∨
        ((∃ batch, run.outcome = .ok batch ∧ batch.results = runs.map DocumentRun.report) ∧
          fs.isDirectory settings.inputFolder = true ∧ found ≠ [] ∧
          runs.map (fun run => run.report.path) <+: found ∧
          run.events = .batchStarted found.length :: (runs.zipIdx.flatMap fun item =>
            .documentStarted item.2 item.1.report.path ::
              (item.1.events ++ [.documentDone item.1.report])) ∧
          ∀ earlier document later, runs = earlier ++ document :: later →
            DocumentEvents ((outset fs settings).applyAll (earlier.flatMap DocumentRun.effects))
              (earlier.flatMap DocumentRun.calls) settings engine document.report.path
              document.report document.events)) ∧
      silent.outcome = run.outcome ∧
      fs.applyAll silent.effects = fs.applyAll run.effects ∧ silent.calls = run.calls ∧
      silent.notices = run.notices ∧ silent.events = [] := by
  intro run silent found runs
  obtain ⟨houtcome, hcourse, hcalls, hsilent⟩ := convertBatch_unobserved fs settings engine
  have heffects : silent.effects = run.effects := congrArg Course.effects hcourse
  have hnotices : silent.notices = run.notices := congrArg Course.notices hcourse
  rcases refused_or_free fs settings with ⟨hinput, e, hmade⟩ | hfree
  · obtain ⟨hrefused, -, -, hevents⟩ := convertBatch_of_error engine true hinput hmade
    have hfailed : run.outcome.isOk = false := by
      simp only [run, hrefused]
      rfl
    exact ⟨Or.inl ⟨Or.inl hfailed, hevents⟩, houtcome, by rw [heffects], hcalls, hnotices, hsilent⟩
  · obtain ⟨hdone, -, -, hevents⟩ := convertBatch_of_runs engine true hfree
    refine ⟨?_, houtcome, by rw [heffects], hcalls, hnotices, hsilent⟩
    by_cases hfound : found = []
    · refine Or.inl ⟨Or.inr (Or.inr hfound), ?_⟩
      simp only [run, hevents, batchEvents]
      exact if_pos (List.length_eq_zero_iff.2 hfound)
    · have hinput : fs.isDirectory settings.inputFolder = true := by
        cases hmissing : fs.isDirectory settings.inputFolder with
        | true => rfl
        | false => exact absurd (by simp only [found, foundDocuments, hmissing]; rfl) hfound
      refine Or.inr ⟨⟨_, hdone, BatchReport.results_ofResults _⟩, hinput, hfound,
        documentRuns_paths _ _ _, ?_, ?_⟩
      · simp only [run, hevents, batchEvents, DocumentRun.allEvents_observed]
        exact if_neg fun hlength => hfound (List.length_eq_zero_iff.1 hlength)
      · intro earlier document later hsplit
        have hrun := documentRuns_split hsplit
        rw [List.nil_append] at hrun
        have hdocument := convertDocument_events
          ((outset fs settings).applyAll (earlier.flatMap DocumentRun.effects))
          (earlier.flatMap DocumentRun.calls) settings engine document.report.path
        rw [← hrun] at hdocument
        exact hdocument

end PageImages
