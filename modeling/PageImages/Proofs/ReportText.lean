import PageImages.Report.Json
import PageImages.Proofs.Json.Pretty
import PageImages.Proofs.Json.Readers
import PageImages.Proofs.Utf8

/-!
**Reports are read back as they were written.**

A report can be written exactly if all its paths are texts, and its text is then read as the same
report.

Main definitions:

* `Path.IsText` — a path whose octets are those of a text;
* `BatchReport.paths`, `BatchReport.Fits` — the paths of a report, and that its numbers fit into
  their words.

Main result: `report_roundTrip`.
-/

set_option autoImplicit false

namespace PageImages

/-! ### Paths -/

/-- The octets of a path are those of a text. -/
def Path.IsText (p : Path) : Prop := ∃ s : String, p = Path.ofString s

theorem Path.text?_eq_some_iff (p : Path) (s : String) :
    p.text? = some s ↔ p = Path.ofString s := by
  rw [Path.text?, Utf8.decode?_eq_some_iff, Path.ofString, Path.mk.injEq]

theorem Path.toJson?_eq_some_iff (p : Path) (v : Json.Value) :
    p.toJson? = some v ↔ ∃ s, p = Path.ofString s ∧ v = .string s := by
  simp only [Path.toJson?, Option.map_eq_some_iff, Path.text?_eq_some_iff]
  constructor
  · rintro ⟨s, hs, rfl⟩
    exact ⟨s, hs, rfl⟩
  · rintro ⟨s, hs, rfl⟩
    exact ⟨s, hs, rfl⟩

theorem Path.isSome_toJson? (p : Path) : p.toJson?.isSome ↔ p.IsText := by
  simp only [Option.isSome_iff_exists, Path.toJson?_eq_some_iff, Path.IsText]
  constructor
  · rintro ⟨_, s, hs, _⟩
    exact ⟨s, hs⟩
  · rintro ⟨s, hs⟩
    exact ⟨_, s, hs, rfl⟩

/-- What is written for a path is read as the path. -/
theorem Path.reads_of_toJson? {p : Path} {v : Json.Value} (h : p.toJson? = some v) :
    Json.path.Reads v.tree p := by
  obtain ⟨s, rfl, rfl⟩ := (Path.toJson?_eq_some_iff p v).1 h
  rw [Json.Value.tree]
  exact Json.path_reads s

/-! ### Lists -/

namespace Json

variable {α : Type} {write : α → Option Value}

/-- A list can be written exactly if all its items can. -/
theorem isSome_mapM (items : List α) :
    (items.mapM write).isSome ↔ ∀ item ∈ items, (write item).isSome := by
  induction items with
  | nil => simp
  | cons item items ih =>
      rw [List.forall_mem_cons, ← ih, List.mapM_cons]
      cases write item with
      | none => simp
      | some value => cases items.mapM write <;> simp

/-- If items are read as they were written, so are their lists. -/
theorem list_reads_of_mapM {r : Reader α} {items : List α} {values : List Value}
    (h : items.mapM write = some values)
    (hitem : ∀ item ∈ items, ∀ value, write item = some value → r.Reads value.tree item) :
    (list r).Reads (Value.list values).tree items := by
  rw [Utf8.mapM_eq_some_iff] at h
  rw [Value.tree]
  refine list_reads ?_
  induction items generalizing values with
  | nil =>
      obtain rfl := List.map_eq_nil_iff.1 h.symm
      exact .nil
  | cons item items ih =>
      obtain ⟨value, values, rfl, hvalue, hvalues⟩ := List.map_eq_cons_iff.1 h.symm
      have hhead := hitem item List.mem_cons_self value hvalue.symm
      have htail := ih hvalues.symm fun item hmem => hitem item (List.mem_cons_of_mem _ hmem)
      exact .cons hhead htail

end Json

/-! ### Page errors -/

namespace PageError

/-- The path that a page error has. -/
def paths : PageError → List Path
  | .renderFailed _ _ => []
  | .emptyCrop _ _ _ => []
  | .encodeFailed _ path _ => [path]

/-- The numbers of a page error fit into their words. -/
def Fits : PageError → Prop
  | .renderFailed page _ => page < UInt64.size
  | .emptyCrop page width height =>
    page < UInt64.size ∧ width < UInt32.size ∧ height < UInt32.size
  | .encodeFailed page _ _ => page < UInt64.size

instance : DecidablePred Fits
  | .renderFailed page _ => inferInstanceAs (Decidable (page < UInt64.size))
  | .emptyCrop page width height => inferInstanceAs
      (Decidable (page < UInt64.size ∧ width < UInt32.size ∧ height < UInt32.size))
  | .encodeFailed page _ _ => inferInstanceAs (Decidable (page < UInt64.size))

theorem isSome_toJson? (e : PageError) : e.toJson?.isSome ↔ ∀ p ∈ e.paths, p.IsText := by
  cases e with
  | renderFailed page detail => simp [toJson?, paths]
  | emptyCrop page width height => simp [toJson?, paths]
  | encodeFailed page path detail =>
      rw [paths, List.forall_mem_singleton, ← Path.isSome_toJson?, toJson?]
      cases path.toJson? <;> simp

/-- **A page error is read as it was written.** -/
theorem reads_of_toJson? {e : PageError} (hfits : e.Fits) {v : Json.Value}
    (h : e.toJson? = some v) : reader.Reads v.tree e := by
  cases e with
  | renderFailed page detail =>
      rw [toJson?, Option.some.injEq] at h
      subst h
      refine Json.tagged_reads rfl (Json.record_reads ?_)
      exact .field rfl rfl ((Json.count_reads hfits).map _)
        (.field rfl rfl ((Json.text_reads detail).map _) (.done rfl))
  | emptyCrop page width height =>
      rw [toJson?, Option.some.injEq] at h
      subst h
      obtain ⟨hpage, hwidth, hheight⟩ := hfits
      refine Json.tagged_reads rfl (Json.record_reads ?_)
      exact .field rfl rfl ((Json.count_reads hpage).map _)
        (.field rfl rfl ((Json.word32_reads hwidth).map _)
          (.field rfl rfl ((Json.word32_reads hheight).map _) (.done rfl)))
  | encodeFailed page path detail =>
      rw [toJson?] at h
      obtain ⟨value, hvalue, h⟩ := Option.bind_eq_some_iff.1 h
      cases h
      refine Json.tagged_reads rfl (Json.record_reads ?_)
      exact .field rfl rfl ((Json.count_reads hfits).map _)
        (.field rfl rfl ((Path.reads_of_toJson? hvalue).map _)
          (.field rfl rfl ((Json.text_reads detail).map _) (.done rfl)))

end PageError

/-! ### Reports on documents -/

theorem Status.ofName?_name (s : Status) : Status.ofName? s.name = some s := by
  cases s <;> rfl

namespace DocumentReport

/-- The paths of a document's report. -/
def paths (r : DocumentReport) : List Path :=
  r.path :: (r.outputFiles ++ r.pageErrors.flatMap PageError.paths)

/-- The numbers of a document's report fit into their words. -/
structure Fits (r : DocumentReport) : Prop where
  total : r.pagesTotal < UInt64.size
  converted : r.pagesConverted < UInt64.size
  failed : r.pagesFailed < UInt64.size
  errors : ∀ e ∈ r.pageErrors, e.Fits

theorem isSome_toJson? (r : DocumentReport) : r.toJson?.isSome ↔ ∀ p ∈ r.paths, p.IsText := by
  have hfiles : (r.outputFiles.mapM Path.toJson?).isSome ↔ ∀ p ∈ r.outputFiles, p.IsText := by
    simp only [Json.isSome_mapM, Path.isSome_toJson?]
  have herrors : (r.pageErrors.mapM PageError.toJson?).isSome ↔
      ∀ p ∈ r.pageErrors.flatMap PageError.paths, p.IsText := by
    simp only [Json.isSome_mapM, PageError.isSome_toJson?, List.mem_flatMap]
    exact ⟨fun h p ⟨e, he, hp⟩ => h e he p hp, fun h e he p hp => h p ⟨e, he, hp⟩⟩
  rw [paths, List.forall_mem_cons, List.forall_mem_append, ← Path.isSome_toJson?, ← hfiles,
    ← herrors, toJson?]
  cases r.path.toJson? <;> cases r.outputFiles.mapM Path.toJson? <;>
    cases r.pageErrors.mapM PageError.toJson? <;> simp

/-- **A document's report is read as it was written.** -/
theorem reads_of_toJson? {r : DocumentReport} (hfits : r.Fits) {v : Json.Value}
    (h : r.toJson? = some v) : reader.Reads v.tree r := by
  rw [toJson?] at h
  obtain ⟨path, hpath, h⟩ := Option.bind_eq_some_iff.1 h
  obtain ⟨files, hfiles, h⟩ := Option.bind_eq_some_iff.1 h
  obtain ⟨errors, herrors, h⟩ := Option.bind_eq_some_iff.1 h
  cases h
  have hfilesRead := Json.list_reads_of_mapM hfiles fun _ _ _ => Path.reads_of_toJson?
  have herrorsRead := Json.list_reads_of_mapM herrors fun e he _ =>
    PageError.reads_of_toJson? (hfits.errors e he)
  refine Json.record_reads
    (.field rfl rfl ((Path.reads_of_toJson? hpath).map _)
    (.field rfl rfl ((Json.choice_reads (Status.ofName?_name r.status)).map _)
    (.field rfl rfl ((Json.count_reads hfits.total).map _)
    (.field rfl rfl ((Json.count_reads hfits.converted).map _)
    (.field rfl rfl ((Json.count_reads hfits.failed).map _)
    (.field rfl rfl (Json.Reader.Reads.map (a := r.errorMessage) ?message _)
    (.field rfl rfl (hfilesRead.map _)
    (.field rfl rfl (herrorsRead.map _) (.done rfl)))))))))
  case message =>
    cases r.errorMessage with
    | none => exact Json.optional_reads_null _
    | some m => exact Json.optional_reads_text (Json.text_reads m)

end DocumentReport

/-! ### Reports on batches -/

namespace BatchReport

/-- The paths of a batch's report. -/
def paths (b : BatchReport) : List Path := b.results.flatMap DocumentReport.paths

/-- The numbers of a batch's report fit into their words. -/
structure Fits (b : BatchReport) : Prop where
  total : b.totalFiles < UInt64.size
  success : b.successCount < UInt64.size
  partly : b.partialCount < UInt64.size
  failed : b.failedCount < UInt64.size
  skipped : b.skippedCount < UInt64.size
  results : ∀ r ∈ b.results, r.Fits

theorem isSome_toJson? (b : BatchReport) : b.toJson?.isSome ↔ ∀ p ∈ b.paths, p.IsText := by
  have hresults : (b.results.mapM DocumentReport.toJson?).isSome ↔ ∀ p ∈ b.paths, p.IsText := by
    simp only [Json.isSome_mapM, DocumentReport.isSome_toJson?, paths, List.mem_flatMap]
    exact ⟨fun h p ⟨r, hr, hp⟩ => h r hr p hp, fun h r hr p hp => h p ⟨r, hr, hp⟩⟩
  rw [← hresults, toJson?]
  cases b.results.mapM DocumentReport.toJson? <;> simp

/-- **A batch's report is read as it was written.** -/
theorem reads_of_toJson? {b : BatchReport} (hfits : b.Fits) {v : Json.Value}
    (h : b.toJson? = some v) : reader.Reads v.tree b := by
  rw [toJson?] at h
  obtain ⟨results, hresults, h⟩ := Option.bind_eq_some_iff.1 h
  cases h
  have hresultsRead := Json.list_reads_of_mapM hresults fun r hr _ =>
    DocumentReport.reads_of_toJson? (hfits.results r hr)
  exact Json.record_reads
    (.field rfl rfl ((Json.count_reads hfits.total).map _)
    (.field rfl rfl ((Json.count_reads hfits.success).map _)
    (.field rfl rfl ((Json.count_reads hfits.partly).map _)
    (.field rfl rfl ((Json.count_reads hfits.failed).map _)
    (.field rfl rfl ((Json.count_reads hfits.skipped).map _)
    (.field rfl rfl (hresultsRead.map _) (.done rfl)))))))

end BatchReport

/-! ### Whole texts -/

/-- What is printed is read as what was written. -/
theorem Json.decode_pretty {α : Type} {r : Json.Reader α} {v : Json.Value} {a : α}
    (h : r.Reads v.tree a) : Json.decode r v.pretty = .ok a := by
  have hdecode := Json.decode_written h Json.blank_nil (v.written 0) Json.blank_nil
  rwa [List.nil_append, List.append_nil] at hdecode

/-- **Reports and page errors are read back as they were written.**  They can be written exactly if
their paths are texts. -/
theorem report_roundTrip (b : BatchReport) (e : PageError) (hb : b.Fits) (he : e.Fits) :
    ((b.pretty?.isSome ↔ ∀ p ∈ b.paths, p.IsText) ∧
      ∀ text, b.pretty? = some text → Json.decode BatchReport.reader text = .ok b) ∧
    ((e.toJson?.map Json.Value.pretty).isSome ↔ ∀ p ∈ e.paths, p.IsText) ∧
      ∀ text, e.toJson?.map Json.Value.pretty = some text →
        Json.decode PageError.reader text = .ok e := by
  refine ⟨⟨?_, ?_⟩, ?_, ?_⟩
  · rw [BatchReport.pretty?, Option.isSome_map, BatchReport.isSome_toJson?]
  · intro text htext
    obtain ⟨v, hv, rfl⟩ := Option.map_eq_some_iff.1 htext
    exact Json.decode_pretty (BatchReport.reads_of_toJson? hb hv)
  · rw [Option.isSome_map, PageError.isSome_toJson?]
  · intro text htext
    obtain ⟨v, hv, rfl⟩ := Option.map_eq_some_iff.1 htext
    exact Json.decode_pretty (PageError.reads_of_toJson? he hv)

namespace Sample

/-- A page error whose texts need escapes. -/
def pageError : PageError :=
  .encodeFailed 3 (Path.ofString "./output/ä \"b\\_003.jpg") "disk\tfull\x01"

/-- A report with the greatest count, with page errors of all kinds, and with a document that could
not be read. -/
def report : BatchReport where
  totalFiles := 18446744073709551615
  successCount := 0
  partialCount := 1
  failedCount := 1
  skippedCount := 0
  results :=
    [{ path := Path.ofString "./input/ä \"b\\.pdf"
       status := .partly
       pagesTotal := 4
       pagesConverted := 1
       pagesFailed := 3
       errorMessage := none
       outputFiles := [Path.ofString "./output/ä \"b\\_004.jpg"]
       pageErrors := [.renderFailed 1 "", .emptyCrop 2 0 4294967295, pageError] },
      .failed (Path.ofString "./input/c.pdf") "cannot open\n"]

theorem pageError_fits : pageError.Fits := by decide

theorem report_fits : report.Fits := by
  refine ⟨by decide, by decide, by decide, by decide, by decide, ?_⟩
  intro r hr
  simp only [report, List.mem_cons, List.not_mem_nil, or_false] at hr
  rcases hr with rfl | rfl
  · refine ⟨by decide, by decide, by decide, ?_⟩
    intro e he
    simp only [List.mem_cons, List.not_mem_nil, or_false] at he
    rcases he with rfl | rfl | rfl <;> decide
  · exact ⟨by decide, by decide, by decide, fun _ he => absurd he List.not_mem_nil⟩

end Sample

/-- The sample can be written, and is read back. -/
theorem report_roundTrip_sample :
    Sample.report.Fits ∧ Sample.pageError.Fits ∧
      (∃ text, Sample.report.pretty? = some text ∧
        Json.decode BatchReport.reader text = .ok Sample.report) ∧
      ∃ text, Sample.pageError.toJson?.map Json.Value.pretty = some text ∧
        Json.decode PageError.reader text = .ok Sample.pageError := by
  obtain ⟨⟨hsome, hread⟩, hsomeError, hreadError⟩ :=
    report_roundTrip Sample.report Sample.pageError Sample.report_fits Sample.pageError_fits
  have htexts : ∀ p ∈ Sample.report.paths, p.IsText := by
    simp only [BatchReport.paths, DocumentReport.paths, PageError.paths, Sample.report,
      Sample.pageError, DocumentReport.failed, DocumentReport.new, List.flatMap_cons,
      List.flatMap_nil, List.append_nil, List.nil_append, List.cons_append, List.forall_mem_cons]
    exact ⟨⟨_, rfl⟩, ⟨_, rfl⟩, ⟨_, rfl⟩, ⟨_, rfl⟩, fun _ hp => absurd hp List.not_mem_nil⟩
  have htextsError : ∀ p ∈ Sample.pageError.paths, p.IsText := by
    simp only [PageError.paths, Sample.pageError, List.forall_mem_singleton]
    exact ⟨_, rfl⟩
  obtain ⟨text, htext⟩ := Option.isSome_iff_exists.1 (hsome.2 htexts)
  obtain ⟨textError, htextError⟩ := Option.isSome_iff_exists.1 (hsomeError.2 htextsError)
  exact ⟨Sample.report_fits, Sample.pageError_fits, ⟨text, htext, hread text htext⟩,
    textError, htextError, hreadError textError htextError⟩

end PageImages
