import PageImages.Proofs.Runs

/-!
**Documents that share page images.**

The path of a page image tells the stem of a document and the page, and nothing else of where the
image comes from.  So two documents of a batch list the same path exactly when their stems are the
same and both have that page.  Within one folder that takes names that differ in their extensions
only, or in octets that are no text.

Main results:

* `convertDocument_outputFiles` — a document lists page images of its own pages only;
* `convertBatch_shared` — **documents share page images if and only if their stems are the same**,
  page by page;
* `convertBatch_shared_twins` — documents of one folder that share all their page images.
-/

set_option autoImplicit false

namespace PageImages

/-! ### The paths that a document lists -/

/-- The path of a page image tells the stem and the page. -/
theorem imagePath_inj {settings : Settings} {source source' : Path} {index index' : Nat}
    (h : imagePath settings source index = imagePath settings source' index') :
    source.stemText = source'.stemText ∧ index = index' := by
  have hname := (imagePath_endsIn settings source index).fileName?
  rw [h, (imagePath_endsIn settings source' index').fileName?, Option.some.injEq] at hname
  obtain ⟨hstem, hindex, -⟩ := pageFileName_injective hname
  exact ⟨hstem.symm, hindex.symm⟩

/-- **A document lists page images of its own pages only.** -/
theorem convertDocument_outputFiles {fs : FileSystem} {past : List Call} {settings : Settings}
    {engine : Engine} {source path : Path} {observed : Bool}
    (h : path ∈ (convertDocument fs past settings engine source observed).report.outputFiles) :
    ∃ index < settings.pageLimit
        (convertDocument fs past settings engine source observed).report.pagesTotal,
      path = imagePath settings source index := by
  rcases convertDocument_ended_or_pages fs past settings engine source observed with
    ⟨report, notices, calls, hrun, -, hnone⟩ | ⟨document, hrun⟩
  · have hfiles : (convertDocument fs past settings engine source observed).report.outputFiles
        = [] := by
      rw [hrun]
      exact hnone
    rw [hfiles] at h
    cases h
  · have hrecords := convertPages_records fs (past ++ [.opened source]) settings document source
      observed
    rw [hrun, DocumentRun.report_enclosed, hrecords.total]
    rw [hrun, DocumentRun.report_enclosed, convertPages, DocumentReport.mem_outputFiles_ofOutcomes,
      pageRuns_eq_map, List.map_map, List.mem_map] at h
    obtain ⟨index, hindex, houtcome⟩ := h
    exact ⟨index, List.mem_range.1 hindex, convertPage_path houtcome⟩

theorem batchRuns_outputFiles {fs : FileSystem} {settings : Settings} {engine : Engine}
    {observed : Bool} {run : DocumentRun} (hrun : run ∈ batchRuns fs settings engine observed)
    {path : Path} (h : path ∈ run.report.outputFiles) :
    ∃ index < settings.pageLimit run.report.pagesTotal,
      path = imagePath settings run.report.path index := by
  obtain ⟨earlier, later, hsplit⟩ := List.append_of_mem hrun
  have hconvert := documentRuns_split hsplit
  rw [hconvert] at h
  obtain ⟨index, hindex, hpath⟩ := convertDocument_outputFiles h
  rw [← hconvert] at hindex
  exact ⟨index, hindex, hpath⟩

/-! ### Paths that two documents list -/

/-- Two documents of a batch list the same path exactly when they have the same stem and both list
the image of the same page. -/
theorem batchRuns_common_iff {fs : FileSystem} {settings : Settings} {engine : Engine}
    {observed : Bool} {run run' : DocumentRun}
    (hrun : run ∈ batchRuns fs settings engine observed)
    (hrun' : run' ∈ batchRuns fs settings engine observed) :
    (∃ path, path ∈ run.report.outputFiles ∧ path ∈ run'.report.outputFiles) ↔
      run.report.path.stemText = run'.report.path.stemText ∧
        ∃ index, imagePath settings run.report.path index ∈ run.report.outputFiles ∧
          imagePath settings run'.report.path index ∈ run'.report.outputFiles := by
  constructor
  · rintro ⟨path, hpath, hpath'⟩
    obtain ⟨index, -, rfl⟩ := batchRuns_outputFiles hrun hpath
    obtain ⟨index', -, hsame⟩ := batchRuns_outputFiles hrun' hpath'
    obtain ⟨hstem, rfl⟩ := imagePath_inj hsame
    refine ⟨hstem, index, hpath, ?_⟩
    rw [← hsame]
    exact hpath'
  · rintro ⟨hstem, index, hpath, hpath'⟩
    refine ⟨_, hpath, ?_⟩
    rw [imagePath_congr hstem]
    exact hpath'

/-- **Documents share page images if and only if their stems are the same**, page by page.  So no
path is listed for two documents of a batch, if no two of them have the same stem. -/
theorem convertBatch_shared (fs : FileSystem) (settings : Settings) (engine : Engine)
    (observed : Bool) :
    let run := convertBatch fs settings engine observed
    let results := (batchRuns fs settings engine observed).map DocumentRun.report
    (run.outcome.isOk = false ∨ run.outcome = .ok (.ofResults results)) ∧
      (∀ r ∈ results, ∀ r' ∈ results,
        (∃ path, path ∈ r.outputFiles ∧ path ∈ r'.outputFiles) ↔
          r.path.stemText = r'.path.stemText ∧
            ∃ index, imagePath settings r.path index ∈ r.outputFiles ∧
              imagePath settings r'.path index ∈ r'.outputFiles) ∧
      ((results.map fun r => r.path.stemText).Nodup →
        results.Pairwise fun r r' => ∀ path ∈ r.outputFiles, path ∉ r'.outputFiles) := by
  intro run results
  have hcommon : ∀ r ∈ results, ∀ r' ∈ results,
      (∃ path, path ∈ r.outputFiles ∧ path ∈ r'.outputFiles) ↔
        r.path.stemText = r'.path.stemText ∧
          ∃ index, imagePath settings r.path index ∈ r.outputFiles ∧
            imagePath settings r'.path index ∈ r'.outputFiles := by
    intro r hr r' hr'
    obtain ⟨document, hdocument, rfl⟩ := List.mem_map.1 hr
    obtain ⟨document', hdocument', rfl⟩ := List.mem_map.1 hr'
    exact batchRuns_common_iff hdocument hdocument'
  refine ⟨?_, hcommon, ?_⟩
  · rcases refused_or_free fs settings with ⟨hinput, e, hmade⟩ | hfree
    · left
      simp only [run, (convertBatch_of_error engine observed hinput hmade).1]
      rfl
    · exact Or.inr (convertBatch_of_runs engine observed hfree).1
  · intro hstems
    refine (List.pairwise_map.1 hstems).imp_of_mem ?_
    intro r r' hr hr' hne path hpath hpath'
    exact hne ((hcommon r hr r' hr').1 ⟨path, hpath, hpath'⟩).1

/-! ### Documents that differ in their extensions only -/

namespace Sample

/-- The document `a.PDF`. -/
def capitals : Name := [0x61, 0x2E, 0x50, 0x44, 0x46]

/-- A folder with `a.PDF` and `a.pdf`, and an empty output folder. -/
def twins : FileSystem :=
  (((FileSystem.empty.insert [inputName] .directory).insert [letter, inputName] (.file [])).insert
    [capitals, inputName] (.file [])).insert [outputName] .directory

theorem foundDocuments_twins : foundDocuments twins settings
    = [capitals, letter].map fun name => settings.inputFolder.join ⟨name⟩ := by
  have hlist : (prepared twins settings).list settings.inputFolder = .ok [capitals, letter] := rfl
  rw [foundDocuments_eq (by decide +kernel)]
  exact findDocuments_of_list hlist (by decide +kernel) (by decide +kernel)

end Sample

/-- The two documents `a.PDF` and `a.pdf` of one folder list the same page images.  The pages of the
second one are never rendered: the images of the first one count as theirs. -/
theorem convertBatch_shared_twins :
    let run := convertBatch Sample.twins Sample.settings Sample.engine false
    ∃ first second, run.outcome = .ok (.ofResults [first, second]) ∧ first.path ≠ second.path ∧
      first.outputFiles = [imagePath Sample.settings first.path 0,
        imagePath Sample.settings first.path 1] ∧
      second.outputFiles = first.outputFiles ∧
      ∀ index < 2, run.calls.count (.rendered index Sample.settings.dpi
        Sample.settings.colorspace) = 1 := by
  intro run
  let documents := [Sample.capitals, Sample.letter].map fun name =>
    Sample.settings.inputFolder.join ⟨name⟩
  have hruns : batchRuns Sample.twins Sample.settings Sample.engine false
      = documentRuns Sample.settings Sample.engine false (outset Sample.twins Sample.settings) []
          documents := by
    rw [batchRuns, Sample.foundDocuments_twins]
  obtain ⟨houtcome, -, hcalls, -⟩ := @convertBatch_of_runs Sample.twins Sample.settings
    Sample.engine false fun _ => rfl
  rw [hruns] at houtcome hcalls
  refine ⟨_, _, houtcome, ?_, ?_, ?_, ?_⟩
  · decide +kernel
  · decide +kernel
  · decide +kernel
  · simp only [run, hcalls]
    decide +kernel

end PageImages
