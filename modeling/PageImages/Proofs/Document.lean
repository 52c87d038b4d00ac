import PageImages.Convert.Document
import PageImages.Engine.Scripted
import PageImages.Proofs.Page

/-!
**What a document leaves behind.**

The pages of a document are converted one after the other, and the engine may remember the calls
that were made before.  Still, what becomes of a page can be told from the file system before the
first page: no other page touches its image, so that the image that was put in its place, or the
entry that was there, outlives all other pages.

Main definitions:

* `callsBefore` — the calls that are made before a page is rendered;
* `DocumentReport.Records` — a report counts what it lists;
* `PageRoom` — the pages have entries of their own;
* `PageFate` — what becomes of a page.

Main results:

* `DocumentReport.records_ofOutcomes` — the report on a document records each of its pages;
* `pageRuns_eq` — the runs of the pages are those of tasks one after the other;
* `convertDocument_cases` — a document is left out, or cannot be opened, or is locked, or its pages
  are gone through;
* `convertDocument_pages` — **the pages of a document are kept, made or left as they were**.
-/

set_option autoImplicit false

namespace PageImages

/-! ### Reports -/

theorem Status.classify_ne_skipped (converted failed : Nat) :
    classify converted failed ≠ .skipped := by
  rw [classify]
  split
  · exact fun h => by cases h
  · split <;> exact fun h => by cases h

/-- The error of a page that has no image. -/
def outcomeError? : Except PageError Path → Option PageError
  | .ok _ => none
  | .error e => some e

namespace DocumentReport

/-- The report on a document of `total` pages when the pages with some outcomes have been recorded:
it counts what it lists, and lists each of those pages once. -/
structure Records (r : DocumentReport) (source : Path) (total : Nat)
    (outcomes : List (Except PageError Path)) : Prop where
  /-- It is the report on that document. -/
  path : r.path = source
  /-- All pages of the document are counted. -/
  total : r.pagesTotal = total
  /-- Every page that was recorded has an image or has failed. -/
  sum : r.pagesConverted + r.pagesFailed = outcomes.length
  /-- The images are counted. -/
  converted : r.outputFiles.length = r.pagesConverted
  /-- The errors are counted. -/
  failed : r.pageErrors.length = r.pagesFailed
  /-- The images are those of the pages that have one, in their order. -/
  files : r.outputFiles = outcomes.filterMap Except.toOption
  /-- The errors are those of the pages that failed, in their order. -/
  errors : r.pageErrors = outcomes.filterMap outcomeError?

section Records

variable {r : DocumentReport} {source : Path} {total : Nat}
  {outcomes : List (Except PageError Path)}

/-- One more page is counted and listed. -/
theorem Records.record (h : r.Records source total outcomes) (outcome : Except PageError Path) :
    (r.record outcome).Records source total (outcomes ++ [outcome]) := by
  have hsum := h.sum
  cases outcome with
  | ok path =>
      refine ⟨h.path, h.total, ?_, ?_, h.failed, ?_, ?_⟩
      · simp only [DocumentReport.record, List.length_append, List.length_singleton]
        omega
      · simp only [DocumentReport.record, List.length_append, List.length_singleton, h.converted]
      · simp only [DocumentReport.record, List.filterMap_append, h.files]
        rfl
      · simp only [DocumentReport.record, List.filterMap_append, h.errors]
        exact (List.append_nil _).symm
  | error e =>
      refine ⟨h.path, h.total, ?_, h.converted, ?_, ?_, ?_⟩
      · simp only [DocumentReport.record, List.length_append, List.length_singleton]
        omega
      · simp only [DocumentReport.record, List.length_append, List.length_singleton, h.failed]
      · simp only [DocumentReport.record, List.filterMap_append, h.files]
        exact (List.append_nil _).symm
      · simp only [DocumentReport.record, List.filterMap_append, h.errors]
        rfl

/-- Any number of pages more are counted and listed. -/
theorem Records.foldl (h : r.Records source total outcomes)
    (more : List (Except PageError Path)) :
    (more.foldl DocumentReport.record r).Records source total (outcomes ++ more) := by
  induction more generalizing r outcomes with
  | nil => rwa [List.append_nil]
  | cons outcome more ih =>
      have hrest := ih (h.record outcome)
      rwa [List.append_assoc, List.singleton_append] at hrest

/-- **The report on a document records each of its pages.** -/
theorem records_ofOutcomes (source : Path) (total : Nat)
    (outcomes : List (Except PageError Path)) :
    (ofOutcomes source total outcomes).Records source total outcomes := by
  have hnone : ({ new source with pagesTotal := total } : DocumentReport).Records source total [] :=
    ⟨rfl, rfl, rfl, rfl, rfl, rfl, rfl⟩
  have hall := hnone.foldl outcomes
  exact ⟨hall.path, hall.total, hall.sum, hall.converted, hall.failed, hall.files, hall.errors⟩

end Records

theorem status_ofOutcomes (source : Path) (total : Nat) (outcomes : List (Except PageError Path)) :
    (ofOutcomes source total outcomes).status
      = .classify (ofOutcomes source total outcomes).pagesConverted
          (ofOutcomes source total outcomes).pagesFailed := rfl

theorem mem_outputFiles_ofOutcomes {source : Path} {total : Nat}
    {outcomes : List (Except PageError Path)} {path : Path} :
    path ∈ (ofOutcomes source total outcomes).outputFiles ↔ .ok path ∈ outcomes := by
  rw [(records_ofOutcomes source total outcomes).files, List.mem_filterMap]
  constructor
  · rintro ⟨outcome, hmem, hpath⟩
    cases outcome with
    | error e => cases hpath
    | ok p =>
        cases hpath
        exact hmem
  · exact fun hmem => ⟨_, hmem, rfl⟩

end DocumentReport

/-! ### The pages as tasks -/

/-- The calls that are made before the page of an index is rendered. -/
def callsBefore (fs : FileSystem) (past : List Call) (settings : Settings) (source : Path)
    (index : Nat) : List Call :=
  past ++ (List.range index).flatMap (pageCalls fs settings source)

theorem callsBefore_succ (fs : FileSystem) (past : List Call) (settings : Settings) (source : Path)
    (index : Nat) :
    callsBefore fs past settings source (index + 1)
      = callsBefore fs past settings source index ++ pageCalls fs settings source index := by
  simp [callsBefore, List.range_succ]

/-- Pages one after the other, each after calls of its own. -/
def pagesTask (pasts : Nat → List Call) (settings : Settings) (document : Document) (source : Path)
    (indices : List Nat) : Task (List (Except PageError Path)) :=
  .sequence (fun _ => false) (indices.map fun i => pageTask (pasts i) settings document source i)

/-- Where `inv` holds, each page looks at and changes a region of its own only. -/
structure PageRoom (inv : FileSystem → Prop) (regions : Nat → Location → Prop)
    (settings : Settings) (source : Path) (indices : List Nat) : Prop where
  /-- Each page keeps to its region. -/
  tasks : ∀ (past : List Call) (document : Document), ∀ i ∈ indices,
    (pageTask past settings document source i).Local inv (regions i)
  /-- The region tells whether the page is kept. -/
  kept : ∀ i ∈ indices, ∀ {a b : FileSystem}, inv a → inv b → FileSystem.AgreeOn (regions i) a b →
    pageKept a settings source i = pageKept b settings source i
  /-- The regions have nothing in common. -/
  apart : Task.Apart regions indices

theorem PageRoom.tail {inv : FileSystem → Prop} {regions : Nat → Location → Prop}
    {settings : Settings} {source : Path} {i : Nat} {indices : List Nat}
    (h : PageRoom inv regions settings source (i :: indices)) :
    PageRoom inv regions settings source indices :=
  ⟨fun past document j hj => h.tasks past document j (List.mem_cons_of_mem _ hj),
    fun j hj => h.kept j (List.mem_cons_of_mem _ hj), h.apart.tail⟩

/-- **The runs of the pages are those of tasks one after the other.**  The calls before each page
can be told from the file system before the first one. -/
theorem pageRuns_eq {inv : FileSystem → Prop} {regions : Nat → Location → Prop}
    {settings : Settings} {source : Path} (document : Document) (pasts : Nat → List Call)
    {count index : Nat} (room : PageRoom inv regions settings source (List.range' index count))
    {fs : FileSystem} (hfs : inv fs)
    (hnext : ∀ i ∈ List.range' index count,
      pasts (i + 1) = pasts i ++ pageCalls fs settings source i) :
    (pageRuns settings document source count index fs (pasts index)).map PageRun.outcome
        = (pagesTask pasts settings document source (List.range' index count)).result fs ∧
      (pageRuns settings document source count index fs (pasts index)).flatMap PageRun.effects
        = (pagesTask pasts settings document source (List.range' index count)).effects fs := by
  induction count generalizing index fs with
  | zero => exact ⟨rfl, rfl⟩
  | succ count ih =>
      rw [List.range'_succ] at room hnext ⊢
      have hlocal := room.tasks (pasts index) document index List.mem_cons_self
      have hafter := hlocal.keeps_after hfs
      -- the page leaves the entries of the later pages alone, and so the calls for them
      have hcalls : ∀ i ∈ List.range' (index + 1) count,
          pageCalls ((pageTask (pasts index) settings document source index).after fs) settings
              source i
            = pageCalls fs settings source i := by
        intro i hi
        have hkept := room.kept i (List.mem_cons_of_mem _ hi) hafter hfs fun l hl =>
          hlocal.node?_after hfs (room.apart.not_head hi hl)
        rw [pageCalls, pageCalls, hkept]
      have hpast : pasts index
            ++ (convertPage fs (pasts index) settings document source index).calls
          = pasts (index + 1) := by
        rw [convertPage_calls, hnext index List.mem_cons_self]
      obtain ⟨houtcomes, heffects⟩ := ih room.tail hafter fun i hi => by
        rw [hcalls i hi, hnext i (List.mem_cons_of_mem _ hi)]
      rw [pagesTask] at houtcomes heffects
      rw [pagesTask, List.map_cons, Task.result, Task.effects, Task.sequence_cons_of_go rfl,
        pageRuns]
      simp only [List.map_cons, List.flatMap_cons, hpast]
      rw [← houtcomes, ← heffects]
      exact ⟨rfl, rfl⟩

/-- Each page does what it would do alone. -/
theorem pagesTask_alone {inv : FileSystem → Prop} {regions : Nat → Location → Prop}
    {settings : Settings} {source : Path} (document : Document) (pasts : Nat → List Call)
    {count : Nat} (room : PageRoom inv regions settings source (List.range count))
    {fs : FileSystem} (hfs : inv fs) :
    let whole := pagesTask pasts settings document source (List.range count)
    let task := fun i => pageTask (pasts i) settings document source i
    whole.result fs = (List.range count).map (fun i => (task i).result fs) ∧
      inv (whole.after fs) ∧
      ∀ i < count, FileSystem.AgreeOn (regions i) (whole.after fs) ((task i).after fs) := by
  intro whole task
  have htasks : ∀ i ∈ List.range count, (task i).Local inv (regions i) := fun i hi =>
    room.tasks _ document i hi
  have hresult : whole.result fs = (List.range count).map fun i => (task i).result fs := by
    simp only [whole, pagesTask]
    rw [Task.sequence_result htasks room.apart hfs, Task.upTo_never]
  refine ⟨hresult, (Task.Local.sequence _ htasks).keeps_after hfs, ?_⟩
  intro i hi
  have hreached : i < (whole.result fs).length := by
    rw [hresult, List.length_map, List.length_range]
    exact hi
  exact Task.sequence_after htasks room.apart hfs hreached (List.getElem?_range hi)

/-- **What becomes of a page does not depend on the other pages**, but for the calls that were made
for them. -/
theorem pageRuns_outcomes {inv : FileSystem → Prop} {regions : Nat → Location → Prop}
    {settings : Settings} {source : Path} (document : Document) (past : List Call) {count : Nat}
    (room : PageRoom inv regions settings source (List.range count)) {fs : FileSystem}
    (hfs : inv fs) :
    let runs := pageRuns settings document source count 0 fs past
    let task := fun i =>
      pageTask (callsBefore fs past settings source i) settings document source i
    runs.map PageRun.outcome = (List.range count).map (fun i => (task i).result fs) ∧
      inv (fs.applyAll (runs.flatMap PageRun.effects)) ∧
      ∀ i < count, FileSystem.AgreeOn (regions i) (fs.applyAll (runs.flatMap PageRun.effects))
        ((task i).after fs) := by
  intro runs task
  have halone := pagesTask_alone document (callsBefore fs past settings source) room hfs
  have hstart : callsBefore fs past settings source 0 = past := by
    rw [callsBefore, List.range_zero, List.flatMap_nil, List.append_nil]
  rw [List.range_eq_range'] at room
  obtain ⟨houtcomes, heffects⟩ := pageRuns_eq document (callsBefore fs past settings source) room
    hfs fun i _ => callsBefore_succ fs past settings source i
  rw [hstart, ← List.range_eq_range'] at houtcomes heffects
  simp only [runs, houtcomes, heffects]
  exact halone

/-- Pages whose images have their places in one directory have room. -/
theorem PageRoom.of_berths {fs : FileSystem} {dir : Location} {settings : Settings} {source : Path}
    {indices : List Nat} (h : ∀ i ∈ indices, PageBerth fs dir settings source i)
    (hnodup : indices.Nodup) :
    PageRoom fs.SameFrame (pageRegion dir settings source) settings source indices := by
  refine ⟨fun past document i hi => pageTask_local (h i hi) past document, ?_, ?_⟩
  · intro i hi a b ha hb hab
    exact pageKept_congr ((h i hi).congr ha) ((h i hi).congr hb) (hab _ (Or.inr rfl))
  · exact hnodup.imp fun hne l hl => pageRegion_disjoint (Or.inr hne) hl

theorem pageBerth_of_isLink {fs : FileSystem} {dir : Location} {settings : Settings} {source : Path}
    {index : Nat}
    (hdir : fs.folder settings.outputFolder.isAbsolute settings.outputFolder.parts = .ok dir)
    (himage : fs.isLink (imagePath settings source index) = false)
    (htemporary : fs.isLink (temporaryPath (imagePath settings source index)) = false) :
    PageBerth fs dir settings source index := by
  have hends := outputPath_endsIn source index settings.outputFolder settings.format
  exact ⟨FileSystem.seat_of_isLink hends hdir himage,
    FileSystem.seat_of_isLink (temporaryPath_endsIn hends) hdir htemporary⟩

section NoFolder

variable {fs : FileSystem} {settings : Settings} {e : OsError}

theorem hasEntry_of_no_folder
    (h : fs.folder settings.outputFolder.isAbsolute settings.outputFolder.parts = .error e)
    (source : Path) (index : Nat) : fs.hasEntry (imagePath settings source index) = false :=
  (FileSystem.refused_of_no_folder (outputPath_endsIn source index _ settings.format) h).1

/-- Where the output folder is not there, no page is kept, and none is made. -/
theorem pageTask_of_no_folder
    (h : fs.folder settings.outputFolder.isAbsolute settings.outputFolder.parts = .error e)
    (past : List Call) (document : Document) (source : Path) (index : Nat) :
    ∃ e', (pageTask past settings document source index).perform fs = (.error e', []) := by
  have hkept : pageKept fs settings source index = false := by
    rw [pageKept, hasEntry_of_no_folder h]
    rfl
  cases himage : pageImage past settings document index with
  | error e' => exact ⟨e', pageTask_of_no_image hkept himage⟩
  | ok image =>
      obtain ⟨e', houtcome, heffects⟩ := saveImage_of_no_folder
        (outputPath_endsIn source index settings.outputFolder settings.format) h image
        settings.format settings.quality
      rw [pageTask_of_image hkept himage]
      simp only [imagePath, houtcome, heffects]
      exact ⟨_, rfl⟩

theorem PageRoom.of_no_folder
    (h : fs.folder settings.outputFolder.isAbsolute settings.outputFolder.parts = .error e)
    (source : Path) (indices : List Nat) :
    PageRoom (fun a => a = fs) (fun _ _ => False) settings source indices := by
  refine ⟨?_, ?_, ?_⟩
  · intro past document i _
    obtain ⟨e', hperform⟩ := pageTask_of_no_folder h past document source i
    have hnone : (pageTask past settings document source i).effects fs = [] :=
      congrArg Prod.snd hperform
    refine ⟨?_, ?_, ?_⟩
    · rintro a rfl effect he
      rw [hnone] at he
      cases he
    · rintro a rfl k
      rw [Task.cut, hnone, List.take_nil, FileSystem.applyAll_nil]
    · rintro a b rfl rfl -
      rfl
  · rintro i - a b rfl rfl -
    rfl
  · exact List.pairwise_iff_getElem.2 fun _ _ _ _ _ _ hl => hl.elim

end NoFolder

/-! ### What becomes of a page -/

/-- What becomes of the page of an index, when a document is converted that finds the file system
`before` and leaves the file system `after`. -/
structure PageFate (before after : FileSystem) (calls : List Call) (settings : Settings)
    (document : Document) (source : Path) (index : Nat) (outcome : Except PageError Path) :
    Prop where
  /-- A page whose image exists is kept, unless images are made again. -/
  kept : before.hasEntry (imagePath settings source index) = true → settings.overwrite = false →
    outcome = .ok (imagePath settings source index) ∧
      after.nodeAt? (imagePath settings source index)
        = before.nodeAt? (imagePath settings source index)
  /-- Any other page that gives an image has exactly that image in its place, encoded, if it can be
  saved. -/
  made : before.hasEntry (imagePath settings source index) = false ∨ settings.overwrite = true →
    ∀ image, pageImage calls settings document index = .ok image →
    (saveImage before image (imagePath settings source index) settings.format
      settings.quality).outcome = .ok () →
    outcome = .ok (imagePath settings source index) ∧
      ∃ encoded, Encodes image settings.quality settings.format encoded ∧
        after.nodeAt? (imagePath settings source index) = some (.file [.picture encoded])
  /-- A page that gives no image, or one that cannot be saved, fails, and what was in its place
  stays. -/
  failed : before.hasEntry (imagePath settings source index) = false ∨ settings.overwrite = true →
    (∀ image, pageImage calls settings document index = .ok image →
      (saveImage before image (imagePath settings source index) settings.format
        settings.quality).outcome ≠ .ok ()) →
    (∃ e, outcome = .error e) ∧
      after.nodeAt? (imagePath settings source index)
        = before.nodeAt? (imagePath settings source index)

theorem pageKept_eq_true {fs : FileSystem} {settings : Settings} {source : Path} {index : Nat}
    (hentry : fs.hasEntry (imagePath settings source index) = true)
    (hkeep : settings.overwrite = false) : pageKept fs settings source index = true := by
  rw [pageKept, hentry, hkeep]
  rfl

theorem pageKept_eq_false {fs : FileSystem} {settings : Settings} {source : Path} {index : Nat}
    (h : fs.hasEntry (imagePath settings source index) = false ∨ settings.overwrite = true) :
    pageKept fs settings source index = false := by
  rw [pageKept]
  rcases h with h | h
  · rw [h, Bool.false_and]
  · rw [h, Bool.not_true, Bool.and_false]

section Fate

variable {fs after : FileSystem} {dir : Location} {calls : List Call} {settings : Settings}
  {document : Document} {source : Path} {index : Nat}

theorem nodeAt?_imagePath (h : PageBerth fs dir settings source index) :
    fs.nodeAt? (imagePath settings source index)
      = if (FileSystem.spellingFault? (imagePath settings source index)
            (pageFileName source.stemText index settings.format)).isNone
        then fs.node? (imageAt dir settings source index) else none :=
  h.target.nodeAt?_eq

/-- A page leaves the entry of its image as it was, or gives it the encoded image. -/
theorem pageFate_of_berth (h : PageBerth fs dir settings source index)
    (hframe : fs.SameFrame after)
    (hafter : after.node? (imageAt dir settings source index)
      = ((pageTask calls settings document source index).after fs).node?
          (imageAt dir settings source index)) :
    PageFate fs after calls settings document source index
      ((pageTask calls settings document source index).result fs) := by
  have hne := temporaryAt_ne_imageAt dir settings source index
  -- where the entry of the image is the same, so is what the path stands for
  have hunchanged : ((pageTask calls settings document source index).after fs).node?
        (imageAt dir settings source index) = fs.node? (imageAt dir settings source index) →
      after.nodeAt? (imagePath settings source index)
        = fs.nodeAt? (imagePath settings source index) := by
    intro hnode
    rw [nodeAt?_imagePath h, nodeAt?_imagePath (h.congr hframe), hafter, hnode]
  refine ⟨?_, ?_, ?_⟩
  · intro hentry hkeep
    have hperform := pageTask_of_kept calls document (pageKept_eq_true hentry hkeep)
    refine ⟨congrArg Prod.fst hperform, hunchanged ?_⟩
    rw [Task.after, Task.effects, hperform, FileSystem.applyAll_nil]
  · intro hagain image himage hsaved
    obtain ⟨hresult, heffects⟩ := pageTask_of_saved (pageKept_eq_false hagain) himage hsaved
    rcases saveImage_attempt h image settings.format settings.quality with
      ⟨e, houtcome, -⟩ | ⟨encoded, -, hencoded, hfault, hattempt⟩
    · rw [hsaved] at houtcome
      cases houtcome
    · rw [← heffects] at hattempt
      refine ⟨hresult, encoded, Encoded.ofImage_eq_ok_iff.1 hencoded, ?_⟩
      rw [nodeAt?_imagePath (h.congr hframe), hfault, Option.isNone_none, if_pos rfl, hafter]
      exact hattempt.node?_target hne
  · intro hagain hunsaved
    have hkept := pageKept_eq_false hagain
    cases himage : pageImage calls settings document index with
    | error e =>
        have hperform := pageTask_of_no_image hkept himage
        refine ⟨⟨e, congrArg Prod.fst hperform⟩, hunchanged ?_⟩
        rw [Task.after, Task.effects, hperform, FileSystem.applyAll_nil]
    | ok image =>
        rcases saveImage_attempt h image settings.format settings.quality with
          ⟨e, houtcome, hattempt⟩ | ⟨encoded, houtcome, -⟩
        · obtain ⟨hresult, heffects⟩ := pageTask_of_unsaved hkept himage houtcome
          rw [← heffects] at hattempt
          exact ⟨⟨_, hresult⟩, hunchanged (hattempt.node?_target hne)⟩
        · exact absurd houtcome (hunsaved image himage)

/-- A page that was converted has an entry in its place. -/
theorem hasEntry_of_converted (h : PageBerth fs dir settings source index)
    (hframe : fs.SameFrame after)
    (hafter : after.node? (imageAt dir settings source index)
      = ((pageTask calls settings document source index).after fs).node?
          (imageAt dir settings source index)) {path : Path}
    (hpath : (pageTask calls settings document source index).result fs = .ok path) :
    path = imagePath settings source index ∧ after.hasEntry path = true := by
  have hne := temporaryAt_ne_imageAt dir settings source index
  rcases pageTask_cases calls document h with
    ⟨hkept, hperform⟩ | ⟨-, e, herror, -⟩ | ⟨-, image, encoded, -, -, hok, hfault, hattempt⟩
  · obtain rfl : imagePath settings source index = path :=
      Except.ok.inj ((congrArg Prod.fst hperform).symm.trans hpath)
    rw [Task.after, Task.effects, hperform, FileSystem.applyAll_nil] at hafter
    rw [pageKept, Bool.and_eq_true, hasEntry_imagePath h] at hkept
    refine ⟨rfl, ?_⟩
    rw [hasEntry_imagePath (h.congr hframe), hafter]
    exact hkept.1
  · rw [herror] at hpath
    cases hpath
  · obtain rfl : imagePath settings source index = path := Except.ok.inj (hok.symm.trans hpath)
    refine ⟨rfl, ?_⟩
    rw [hasEntry_imagePath (h.congr hframe), hafter, hfault, Task.after,
      hattempt.node?_target hne]
    rfl

theorem pageFate_of_no_folder {e : OsError}
    (h : fs.folder settings.outputFolder.isAbsolute settings.outputFolder.parts = .error e) :
    PageFate fs fs calls settings document source index
      ((pageTask calls settings document source index).result fs) := by
  obtain ⟨e', hperform⟩ := pageTask_of_no_folder h calls document source index
  refine ⟨?_, ?_, fun _ _ => ⟨⟨e', congrArg Prod.fst hperform⟩, rfl⟩⟩
  · intro hentry
    rw [hasEntry_of_no_folder h] at hentry
    cases hentry
  · intro _ image _ hsaved
    obtain ⟨e', houtcome, -⟩ := saveImage_of_no_folder
      (outputPath_endsIn source index settings.outputFolder settings.format) h image
      settings.format settings.quality
    rw [imagePath, houtcome] at hsaved
    cases hsaved

end Fate

/-! ### The document -/

@[simp] theorem DocumentRun.effects_ended (report : DocumentReport) (notices : List Notice)
    (calls : List Call) : (ended report notices calls).effects = [] :=
  Course.effects_ofNotices notices

@[simp] theorem DocumentRun.effects_enclosed (source : Path) (run : DocumentRun) :
    (run.enclosed source).effects = run.effects := rfl

@[simp] theorem DocumentRun.report_enclosed (source : Path) (run : DocumentRun) :
    (run.enclosed source).report = run.report := rfl

theorem convertPages_records (fs : FileSystem) (past : List Call) (settings : Settings)
    (document : Document) (source : Path) (observed : Bool) :
    (convertPages fs past settings document source observed).report.Records source document.pages
      ((pageRuns settings document source (settings.pageLimit document.pages) 0 fs past).map
        PageRun.outcome) :=
  DocumentReport.records_ofOutcomes _ _ _

theorem convertPages_effects (fs : FileSystem) (past : List Call) (settings : Settings)
    (document : Document) (source : Path) (observed : Bool) :
    (convertPages fs past settings document source observed).effects
      = (pageRuns settings document source (settings.pageLimit document.pages) 0 fs past).flatMap
          PageRun.effects := by
  have hcourse : ∀ page : PageRun,
      (page.wholeCourse source.displayName).effects = page.effects := by
    intro page
    rw [PageRun.wholeCourse, PageRun.effects]
    cases page.outcome <;> simp
  simp only [convertPages, DocumentRun.effects, Course.effects_append, Course.effects_ofNotices,
    Course.effects_flatMap, hcourse, List.nil_append, List.append_nil]

section Document

variable {fs : FileSystem} {past : List Call} {settings : Settings} {engine : Engine}
  {source : Path}

theorem convertDocument_of_skip (observed : Bool) (hskip : shouldSkip fs settings source = true) :
    convertDocument fs past settings engine source observed
      = .ended (.skipped source) (skipNotices fs settings source) [] := by
  simp only [convertDocument, hskip, if_true]

theorem convertDocument_of_unopened {e : OpenError} (observed : Bool)
    (hskip : shouldSkip fs settings source = false)
    (hopen : engine.openDocument past source = .error e) :
    convertDocument fs past settings engine source observed
      = .ended (.failed source e.message) [e.notice source.displayName] [.opened source] := by
  simp only [convertDocument, hskip, Bool.false_eq_true, if_false, hopen]

theorem convertDocument_of_locked {document : Document} (observed : Bool)
    (hskip : shouldSkip fs settings source = false)
    (hopen : engine.openDocument past source = .ok document)
    (hlocked : document.encrypted = true) :
    convertDocument fs past settings engine source observed
      = .ended (.failed source OpenError.passwordProtected.message)
          [.documentEncrypted source.displayName] [.opened source, .closed] := by
  simp only [convertDocument, hskip, Bool.false_eq_true, if_false, hopen, hlocked, if_true]

theorem convertDocument_of_plain {document : Document} (observed : Bool)
    (hskip : shouldSkip fs settings source = false)
    (hopen : engine.openDocument past source = .ok document)
    (hplain : document.encrypted = false) :
    convertDocument fs past settings engine source observed
      = (convertPages fs (past ++ [.opened source]) settings document source observed).enclosed
          source := by
  simp only [convertDocument, hskip, Bool.false_eq_true, if_false, hopen, hplain]

/-- **A document is left out, or cannot be opened, or is locked, or its pages are gone through.** -/
theorem convertDocument_cases (fs : FileSystem) (past : List Call) (settings : Settings)
    (engine : Engine) (source : Path) (observed : Bool) :
    let run := convertDocument fs past settings engine source observed
    (shouldSkip fs settings source = true ∧
        run = .ended (.skipped source) (skipNotices fs settings source) []) ∨
      (shouldSkip fs settings source = false ∧
        ((∃ e, engine.openDocument past source = .error e ∧
            run = .ended (.failed source e.message) [e.notice source.displayName]
              [.opened source]) ∨
          ∃ document, engine.openDocument past source = .ok document ∧
            ((document.encrypted = true ∧
                run = .ended (.failed source OpenError.passwordProtected.message)
                  [.documentEncrypted source.displayName] [.opened source, .closed]) ∨
              (document.encrypted = false ∧
                run = (convertPages fs (past ++ [.opened source]) settings document source
                  observed).enclosed source)))) := by
  intro run
  cases hskip : shouldSkip fs settings source with
  | true => exact Or.inl ⟨rfl, convertDocument_of_skip observed hskip⟩
  | false =>
      refine Or.inr ⟨rfl, ?_⟩
      cases hopen : engine.openDocument past source with
      | error e => exact Or.inl ⟨e, rfl, convertDocument_of_unopened observed hskip hopen⟩
      | ok document =>
          refine Or.inr ⟨document, rfl, ?_⟩
          cases hlocked : document.encrypted with
          | true => exact Or.inl ⟨rfl, convertDocument_of_locked observed hskip hopen hlocked⟩
          | false => exact Or.inr ⟨rfl, convertDocument_of_plain observed hskip hopen hlocked⟩

/-- A document whose pages are not gone through has no page images in its report. -/
theorem convertDocument_ended_or_pages (fs : FileSystem) (past : List Call) (settings : Settings)
    (engine : Engine) (source : Path) (observed : Bool) :
    let run := convertDocument fs past settings engine source observed
    (∃ report notices calls, run = .ended report notices calls ∧ report.path = source ∧
        report.outputFiles = []) ∨
      ∃ document, run = (convertPages fs (past ++ [.opened source]) settings document source
        observed).enclosed source := by
  intro run
  rcases convertDocument_cases fs past settings engine source observed with
    ⟨-, hrun⟩ | ⟨-, ⟨e, -, hrun⟩ | ⟨document, -, ⟨-, hrun⟩ | ⟨-, hrun⟩⟩⟩
  · exact Or.inl ⟨_, _, _, hrun, rfl, rfl⟩
  · exact Or.inl ⟨_, _, _, hrun, rfl, rfl⟩
  · exact Or.inl ⟨_, _, _, hrun, rfl, rfl⟩
  · exact Or.inr ⟨document, hrun⟩

/-- The report on a document whose pages are gone through, and the steps in the file system. -/
theorem convertDocument_of_pages {document : Document} (observed : Bool)
    (hskip : shouldSkip fs settings source = false)
    (hopen : engine.openDocument past source = .ok document)
    (hplain : document.encrypted = false) :
    let run := convertDocument fs past settings engine source observed
    let runs := pageRuns settings document source (settings.pageLimit document.pages) 0 fs
      (past ++ [.opened source])
    run.report = .ofOutcomes source document.pages (runs.map PageRun.outcome) ∧
      run.effects = runs.flatMap PageRun.effects := by
  intro run runs
  simp only [run, convertDocument_of_plain observed hskip hopen hplain]
  exact ⟨rfl, convertPages_effects _ _ _ _ _ observed⟩

end Document

/-! ### A folder for trying things out -/

namespace Sample

/-- The folder `i`, from which documents come. -/
def inputName : Name := [0x69]

/-- The folder `o`, into which page images go. -/
def outputName : Name := [0x6F]

/-- The document `a.pdf`. -/
def letter : Name := [0x61, 0x2E, 0x70, 0x64, 0x66]

/-- The document `b.pdf`. -/
def ledger : Name := [0x62, 0x2E, 0x70, 0x64, 0x66]

/-- Two documents, and an output folder with an image of the first page of one of them and with what
an earlier run left of its second page. -/
def store : FileSystem :=
  ((((FileSystem.empty.insert [inputName] .directory).insert [letter, inputName] (.file [])).insert
    [ledger, inputName] (.file [])).insert [outputName] .directory).insert
    [pageFileName ['a'] 0 .png, outputName] (.file [])
    |>.insert [pageFileName ['a'] 1 .png ++ temporarySuffix, outputName] (.file [.octets [0x00]])

/-- Settings that keep the page images that exist. -/
def settings : Settings :=
  { Settings.default with
    inputFolder := ⟨inputName⟩
    outputFolder := ⟨outputName⟩
    format := .png
    skipIfExists := false }

/-- A document of three pages, of which the last one cannot be rendered. -/
def script : Script := ⟨none, 3, false, [(2, .renderFailed 3 "damaged")], (2, 1), []⟩

/-- An engine for which every document but `b.pdf` is that document. -/
def engine : Engine where
  openDocument := fun _ path =>
    if path.octets.contains 0x62 then .error .passwordProtected else .ok script.document

/-- The path of `a.pdf`. -/
def source : Path := ⟨inputName ++ Path.slash :: letter⟩

end Sample

/-! ### All pages -/

/-- **The pages of a document are kept, made or left as they were.**  Each page of a document that
is neither left out nor locked is kept when its image exists and is not to be made again; any other
page that can be rendered, cropped and saved has exactly its encoded image in its place; any other
page fails, and leaves what was in its place.  Every path in the report leads to an entry. -/
theorem convertDocument_pages {fs : FileSystem} {past : List Call} {settings : Settings}
    {engine : Engine} {source : Path} {document : Document} (observed : Bool)
    (hskip : shouldSkip fs settings source = false)
    (hopen : engine.openDocument past source = .ok document)
    (hplain : document.encrypted = false)
    (hlinks : ∀ index < settings.pageLimit document.pages,
      fs.isLink (imagePath settings source index) = false ∧
        fs.isLink (temporaryPath (imagePath settings source index)) = false) :
    let run := convertDocument fs past settings engine source observed
    let after := fs.applyAll run.effects
    let limit := settings.pageLimit document.pages
    (∃ outcome : Nat → Except PageError Path,
      run.report = .ofOutcomes source document.pages ((List.range limit).map outcome) ∧
        ∀ index < limit, PageFate fs after
          (callsBefore fs (past ++ [.opened source]) settings source index) settings document source
          index (outcome index)) ∧
      ∀ path ∈ run.report.outputFiles, after.hasEntry path = true := by
  intro run after limit
  obtain ⟨hreport, heffects⟩ := convertDocument_of_pages observed hskip hopen hplain
  -- every listed path belongs to a page that was converted
  have hlisted : ∀ {outcome : Nat → Except PageError Path} {path : Path},
      run.report = .ofOutcomes source document.pages ((List.range limit).map outcome) →
      path ∈ run.report.outputFiles → ∃ index < limit, outcome index = .ok path := by
    intro outcome path hrun hpath
    rw [hrun, DocumentReport.mem_outputFiles_ofOutcomes, List.mem_map] at hpath
    obtain ⟨index, hindex, houtcome⟩ := hpath
    exact ⟨index, List.mem_range.1 hindex, houtcome⟩
  -- the pages have entries of their own in the output folder, or that folder is not there
  cases hdir : fs.folder settings.outputFolder.isAbsolute settings.outputFolder.parts with
  | error e =>
      obtain ⟨houtcomes, hafter, -⟩ := pageRuns_outcomes document (past ++ [.opened source])
        (PageRoom.of_no_folder hdir source (List.range limit)) rfl
      rw [houtcomes] at hreport
      have hsame : after = fs := by
        rw [← heffects] at hafter
        exact hafter
      refine ⟨⟨_, hreport, ?_⟩, ?_⟩
      · intro index _
        rw [hsame]
        exact pageFate_of_no_folder hdir
      · intro path hpath
        obtain ⟨index, -, houtcome⟩ := hlisted hreport hpath
        obtain ⟨e', hperform⟩ := pageTask_of_no_folder hdir
          (callsBefore fs (past ++ [.opened source]) settings source index) document source index
        cases (congrArg Prod.fst hperform).symm.trans houtcome
  | ok dir =>
      have hberth : ∀ index < limit, PageBerth fs dir settings source index := fun index hindex =>
        pageBerth_of_isLink hdir (hlinks index hindex).1 (hlinks index hindex).2
      obtain ⟨houtcomes, hframe, hafter⟩ := pageRuns_outcomes document (past ++ [.opened source])
        (PageRoom.of_berths (fun index hindex => hberth index (List.mem_range.1 hindex))
          List.nodup_range) (.refl fs)
      rw [houtcomes] at hreport
      rw [← heffects] at hframe hafter
      refine ⟨⟨_, hreport, ?_⟩, ?_⟩
      · intro index hindex
        exact pageFate_of_berth (hberth index hindex) hframe (hafter index hindex _ (Or.inr rfl))
      · intro path hpath
        obtain ⟨index, hindex, houtcome⟩ := hlisted hreport hpath
        exact (hasEntry_of_converted (hberth index hindex) hframe
          (hafter index hindex _ (Or.inr rfl)) houtcome).2

/-- The three fates in one document: the first page is kept, the second is made where an earlier run
left a temporary file, and the third fails. -/
theorem convertDocument_pages_sample :
    shouldSkip Sample.store Sample.settings Sample.source = false ∧
      Sample.engine.openDocument [] Sample.source = .ok Sample.script.document ∧
      (∀ index < Sample.settings.pageLimit Sample.script.document.pages,
        Sample.store.isLink (imagePath Sample.settings Sample.source index) = false ∧
          Sample.store.isLink (temporaryPath (imagePath Sample.settings Sample.source index))
            = false) ∧
      ∃ outcome : Nat → Except PageError Path,
        (convertDocument Sample.store [] Sample.settings Sample.engine Sample.source false).report
            = .ofOutcomes Sample.source 3 [outcome 0, outcome 1, outcome 2] ∧
          outcome 0 = .ok (imagePath Sample.settings Sample.source 0) ∧
          outcome 1 = .ok (imagePath Sample.settings Sample.source 1) ∧
          ∃ e, outcome 2 = .error e := by
  have hskip : shouldSkip Sample.store Sample.settings Sample.source = false := by decide +kernel
  have hlinks : ∀ index < Sample.settings.pageLimit Sample.script.document.pages,
      Sample.store.isLink (imagePath Sample.settings Sample.source index) = false ∧
        Sample.store.isLink (temporaryPath (imagePath Sample.settings Sample.source index))
          = false := by
    decide +kernel
  obtain ⟨⟨outcome, hreport, hfates⟩, -⟩ :=
    @convertDocument_pages Sample.store [] Sample.settings Sample.engine Sample.source
      Sample.script.document false hskip rfl rfl hlinks
  have hlimit : Sample.settings.pageLimit Sample.script.document.pages = 3 := by decide
  rw [hlimit] at hreport hfates
  have hkept : Sample.store.hasEntry (imagePath Sample.settings Sample.source 0) = true := by
    decide +kernel
  have hmissing : Sample.store.hasEntry (imagePath Sample.settings Sample.source 1) = false := by
    decide +kernel
  have hmissing' : Sample.store.hasEntry (imagePath Sample.settings Sample.source 2) = false := by
    decide +kernel
  have hsaved : (saveImage Sample.store (Sample.script.page 1 .rgb)
      (imagePath Sample.settings Sample.source 1) .png 90).outcome.isOk = true := by
    decide +kernel
  have hsaved : (saveImage Sample.store (Sample.script.page 1 .rgb)
      (imagePath Sample.settings Sample.source 1) .png 90).outcome = .ok () := by
    cases h : (saveImage Sample.store (Sample.script.page 1 .rgb)
      (imagePath Sample.settings Sample.source 1) .png 90).outcome with
    | ok u => rfl
    | error e =>
        rw [h] at hsaved
        cases hsaved
  refine ⟨hskip, rfl, hlinks, outcome, hreport, ?_, ?_, ?_⟩
  · have h := hfates 0 (by decide)
    exact (h.kept hkept rfl).1
  · have h := hfates 1 (by decide)
    exact (h.made (Or.inl hmissing) _ rfl hsaved).1
  · have h := hfates 2 (by decide)
    refine (h.failed (Or.inl hmissing') ?_).1
    intro image himage
    cases himage

end PageImages
