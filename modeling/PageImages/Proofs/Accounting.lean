import PageImages.Proofs.Sharing

/-!
**The account of a document.**

The report on a document counts its pages and lists their images and errors.  What it says about
each page is what became of that page when it was reached, in the file system and after the calls
that the pages before it left.

Main definitions:

* `pageRun` — the run of a page of a document, when it is reached;
* `DocumentReport.Unread`, `DocumentReport.Accounts` — the report on a document that could not be
  read, and on one whose pages were gone through.

Main results:

* `convertPage_error` — why a page has no image;
* `accounts_ofOutcomes` — the report on pages accounts for each of them;
* `convertDocument_accounts` — **the report on a document accounts for each of its pages**.
-/

set_option autoImplicit false

namespace PageImages

/-! ### The run of a page -/

section Page

variable (settings : Settings) (document : Document) (source : Path)

/-- The run of the page of an index, when it is reached. -/
def pageRun (fs : FileSystem) (past : List Call) (index : Nat) : PageRun :=
  convertPage (pageReached settings document source fs past index)
    (callsReached settings document source fs past index) settings document source index

end Page

/-- **Why a page has no image**: the error of the engine, or one that names the page. -/
theorem convertPage_error {fs : FileSystem} {past : List Call} {settings : Settings}
    {document : Document} {source : Path} {index : Nat} {e : PageError}
    (h : (convertPage fs past settings document source index).outcome = .error e) :
    document.render past index settings.dpi settings.colorspace = .error e ∨
      ∃ image, document.render past index settings.dpi settings.colorspace = .ok image ∧
        (e = .emptyCrop (index + 1) image.width image.height ∨
          ∃ detail, e = .encodeFailed (index + 1) (imagePath settings source index) detail) := by
  cases hkept : pageKept fs settings source index with
  | true =>
      rw [convertPage_of_kept hkept] at h
      cases h
  | false =>
      rw [convertPage_of_not_kept hkept] at h
      cases hrender : document.render past index settings.dpi settings.colorspace with
      | error e' =>
          rw [hrender] at h
          cases h
          exact Or.inl rfl
      | ok image =>
          refine Or.inr ⟨image, rfl, ?_⟩
          rw [hrender] at h
          cases hcrop : cropWindow? settings image with
          | none =>
              simp only [hcrop] at h
              cases h
              exact Or.inl rfl
          | some window =>
              simp only [hcrop] at h
              rw [(savePage_eq _ _ _ _ _ _ _).2.2] at h
              split at h
              · cases h
              · cases h
                exact Or.inr ⟨_, rfl⟩

/-! ### Reports -/

/-- The status of a document, from the numbers of its pages. -/
theorem Status.classify_iff (converted failed : Nat) :
    (classify converted failed = .success ↔ failed = 0) ∧
      (classify converted failed = .failed ↔ 0 < failed ∧ converted = 0) ∧
      (classify converted failed = .partly ↔ 0 < failed ∧ 0 < converted) := by
  rw [classify]
  split
  · simp_all
  · split
    · simp only [reduceCtorEq, false_iff, true_iff]
      omega
    · simp only [reduceCtorEq, false_iff, true_iff]
      omega

namespace DocumentReport

/-- The report on a document that could not be read. -/
structure Unread (r : DocumentReport) : Prop where
  /-- It has failed. -/
  status : r.status = .failed
  /-- No page is counted. -/
  counts : r.pagesTotal = 0 ∧ r.pagesConverted = 0 ∧ r.pagesFailed = 0
  /-- No page is listed. -/
  lists : r.outputFiles = [] ∧ r.pageErrors = []

/-- The report on a document of `total` pages, of which the first `limit` were gone through: `page`
tells the run of each of them, and `image` the path of its image. -/
structure Accounts (r : DocumentReport) (total limit : Nat) (image : Nat → Path)
    (page : Nat → PageRun) : Prop where
  /-- All pages of the document are counted. -/
  total : r.pagesTotal = total
  /-- Every page that was gone through has an image or has failed. -/
  sum : r.pagesConverted + r.pagesFailed = limit
  /-- The images are those of the pages that have one, in their order. -/
  files : r.outputFiles
    = ((List.range limit).filter fun index => (page index).outcome.isOk).map image
  /-- No image is listed twice. -/
  nodup : r.outputFiles.Nodup
  /-- The errors are those of the pages that failed, in their order. -/
  errors : r.pageErrors = (List.range limit).filterMap fun index =>
    outcomeError? (page index).outcome
  /-- The images are counted. -/
  converted : r.outputFiles.length = r.pagesConverted
  /-- The errors are counted. -/
  failed : r.pageErrors.length = r.pagesFailed
  /-- Success means that no page has failed. -/
  success : r.status = .success ↔ r.pagesFailed = 0
  /-- Failure means that all pages have failed. -/
  failure : r.status = .failed ↔ 0 < r.pagesFailed ∧ r.pagesConverted = 0
  /-- There is nothing else but a success in part. -/
  partly : r.status = .partly ↔ 0 < r.pagesFailed ∧ 0 < r.pagesConverted

/-- Recording pages leaves the message alone. -/
theorem errorMessage_foldl_record (r : DocumentReport) (outcomes : List (Except PageError Path)) :
    (outcomes.foldl record r).errorMessage = r.errorMessage := by
  induction outcomes generalizing r with
  | nil => rfl
  | cons outcome outcomes ih =>
      rw [List.foldl_cons, ih]
      cases outcome <;> rfl

theorem errorMessage_ofOutcomes (source : Path) (total : Nat)
    (outcomes : List (Except PageError Path)) :
    (ofOutcomes source total outcomes).errorMessage.isSome = true ↔
      (ofOutcomes source total outcomes).status = .failed := by
  rw [ofOutcomes, concluded, errorMessage_foldl_record]
  split
  · next h => exact ⟨fun _ => h, fun _ => rfl⟩
  · next h => exact ⟨fun hsome => (by cases hsome), fun hfailed => absurd hfailed h⟩

theorem Unread.of_failed {r : DocumentReport} {source : Path} {message : String}
    (h : r = failed source message) : r.Unread := by
  rw [h]
  exact ⟨rfl, ⟨rfl, rfl, rfl⟩, ⟨rfl, rfl⟩⟩

end DocumentReport

/-- The values of the elements of a list that have one are told by those elements. -/
theorem filterMap_toOption {ε α β : Type} {f : α → Except ε β} {g : α → β} {l : List α}
    (h : ∀ a ∈ l, ∀ b, f a = .ok b → b = g a) :
    l.filterMap (fun a => (f a).toOption) = (l.filter fun a => (f a).isOk).map g := by
  induction l with
  | nil => rfl
  | cons a l ih =>
      have hl := ih fun a' ha' => h a' (List.mem_cons_of_mem a ha')
      cases hf : f a with
      | error e =>
          rw [List.filterMap_cons_none (by rw [hf]; rfl), hl,
            List.filter_cons_of_neg (by simp [hf, Except.isOk, Except.toBool])]
      | ok b =>
          rw [List.filterMap_cons_some (by rw [hf]; rfl), hl,
            List.filter_cons_of_pos (by simp [hf, Except.isOk, Except.toBool]), List.map_cons,
            h a List.mem_cons_self b hf]

/-- **The report on pages accounts for each of them**, if the images have paths of their own. -/
theorem accounts_ofOutcomes (source : Path) (total limit : Nat) {image : Nat → Path}
    {page : Nat → PageRun} (himage : ∀ i j, image i = image j → i = j)
    (hpage : ∀ index path, (page index).outcome = .ok path → path = image index) :
    (DocumentReport.ofOutcomes source total
      ((List.range limit).map fun index => (page index).outcome)).Accounts total limit image
        page := by
  have hrecords := DocumentReport.records_ofOutcomes source total
    ((List.range limit).map fun index => (page index).outcome)
  obtain ⟨-, htotal, hsum, hconverted, hfailed, hfiles, herrors⟩ := hrecords
  rw [List.length_map, List.length_range] at hsum
  rw [List.filterMap_map] at hfiles herrors
  replace hfiles := hfiles.trans (filterMap_toOption fun index _ => hpage index)
  obtain ⟨hsuccess, hfailure, hpartly⟩ := Status.classify_iff
    (DocumentReport.ofOutcomes source total
      ((List.range limit).map fun index => (page index).outcome)).pagesConverted
    (DocumentReport.ofOutcomes source total
      ((List.range limit).map fun index => (page index).outcome)).pagesFailed
  refine ⟨htotal, hsum, hfiles, ?_, herrors, hconverted, hfailed, hsuccess, hfailure, hpartly⟩
  rw [hfiles]
  exact List.Pairwise.map image (fun i j hne heq => hne (himage i j heq))
    (List.nodup_range.filter _)

/-! ### The report on a document -/

theorem Settings.pageLimit_le (settings : Settings) (total : Nat) :
    settings.pageLimit total ≤ total := by
  rw [pageLimit]
  split
  · exact Nat.min_le_left _ _
  · exact Nat.le_refl total

section Document

variable {fs : FileSystem} {past : List Call} {settings : Settings} {engine : Engine}
  {source : Path}

/-- The report on a document whose pages are gone through accounts for each of them. -/
theorem accounts_convertPages (document : Document) (observed : Bool) :
    (convertPages fs past settings document source observed).report.Accounts document.pages
      (settings.pageLimit document.pages) (imagePath settings source)
      (pageRun settings document source fs past) := by
  rw [convertPages, pageRuns_eq_map, List.map_map]
  exact accounts_ofOutcomes source document.pages _ (fun i j h => (imagePath_inj h).2)
    fun index path h => convertPage_path h

theorem shouldSkip_iff : shouldSkip fs settings source = true ↔
    settings.overwrite = false ∧ settings.skipIfExists = true ∧
      fs.hasEntry (imagePath settings source 0) = true := by
  rw [shouldSkip, Bool.and_eq_true, Bool.and_eq_true, Bool.not_eq_true', and_assoc]
  rfl

/-- A document that is not left out has no report that says so, and a message exactly when it has
failed. -/
theorem convertDocument_not_skipped (observed : Bool)
    (hskip : shouldSkip fs settings source = false) :
    let r := (convertDocument fs past settings engine source observed).report
    r.status ≠ .skipped ∧ (r.errorMessage.isSome = true ↔ r.status = .failed) := by
  intro r
  have hfailed : ∀ {message}, r = .failed source message →
      r.status ≠ .skipped ∧ (r.errorMessage.isSome = true ↔ r.status = .failed) := by
    intro message hr
    rw [hr]
    exact ⟨by simp [DocumentReport.failed], by simp [DocumentReport.failed]⟩
  rcases convertDocument_cases fs past settings engine source observed with
    ⟨hskip', -⟩ | ⟨-, ⟨e, -, hrun⟩ | ⟨document, -, ⟨-, hrun⟩ | ⟨-, hrun⟩⟩⟩
  · rw [hskip] at hskip'
    cases hskip'
  · exact hfailed (congrArg DocumentRun.report hrun)
  · exact hfailed (congrArg DocumentRun.report hrun)
  · simp only [r, hrun]
    exact ⟨Status.classify_ne_skipped _ _, DocumentReport.errorMessage_ofOutcomes _ _ _⟩

end Document

/-- **The report on a document accounts for each of its pages.**  A document is left out when its
first page image is there and is to be kept.  Any other one that cannot be read has failed, and no
page is counted.  Otherwise the report accounts for the pages that were gone through, and the error
of a page is that of the engine or names the page; no number in it is too great for a machine word.
There is a message exactly when the document has failed. -/
theorem convertDocument_accounts (fs : FileSystem) (past : List Call) (settings : Settings)
    (engine : Engine) (source : Path) (observed : Bool) :
    let r := (convertDocument fs past settings engine source observed).report
    (r.status = .skipped ↔ settings.overwrite = false ∧ settings.skipIfExists = true ∧
      fs.hasEntry (imagePath settings source 0) = true) ∧
    (r.status ≠ .skipped →
      (∀ e, engine.openDocument past source = .error e → r.Unread) ∧
      ∀ document, engine.openDocument past source = .ok document →
        (document.encrypted = true → r.Unread) ∧
        (document.encrypted = false →
          let limit := settings.pageLimit document.pages
          let opened := past ++ [.opened source]
          let page := pageRun settings document source fs opened
          r.Accounts document.pages limit (imagePath settings source) page ∧
          (∀ index < limit, ∀ e, (page index).outcome = .error e →
            let render := document.render (callsReached settings document source fs opened index)
              index settings.dpi settings.colorspace
            render = .error e ∨ ∃ image, render = .ok image ∧
              (e = .emptyCrop (index + 1) image.width image.height ∨
                ∃ detail, e = .encodeFailed (index + 1) (imagePath settings source index) detail)) ∧
          (document.pages < UInt64.size → r.pagesConverted + r.pagesFailed < UInt64.size ∧
            ∀ index < limit, index + 1 < UInt64.size))) ∧
    (r.errorMessage.isSome = true ↔ r.status = .failed) := by
  intro r
  cases hskip : shouldSkip fs settings source with
  | true =>
      have hr : r = .skipped source :=
        congrArg DocumentRun.report (convertDocument_of_skip observed hskip)
      rw [hr]
      exact ⟨⟨fun _ => shouldSkip_iff.1 hskip, fun _ => rfl⟩, fun h => absurd rfl h,
        by simp [DocumentReport.skipped, DocumentReport.new]⟩
  | false =>
      obtain ⟨hstatus, hmessage⟩ : r.status ≠ .skipped ∧ _ :=
        convertDocument_not_skipped observed hskip
      refine ⟨⟨fun h => absurd h hstatus, fun h => ?_⟩, fun _ => ⟨fun e hopen => ?_,
        fun document hopen => ⟨fun hlocked => ?_, fun hplain => ?_⟩⟩, hmessage⟩
      · rw [shouldSkip_iff.2 h] at hskip
        cases hskip
      · exact .of_failed
          (congrArg DocumentRun.report (convertDocument_of_unopened observed hskip hopen))
      · exact .of_failed
          (congrArg DocumentRun.report (convertDocument_of_locked observed hskip hopen hlocked))
      · intro limit opened page
        have haccounts : r.Accounts document.pages limit (imagePath settings source) page := by
          have hr : r = _ :=
            congrArg DocumentRun.report (convertDocument_of_plain observed hskip hopen hplain)
          rw [hr]
          exact accounts_convertPages document observed
        have hlimit : limit ≤ document.pages := settings.pageLimit_le document.pages
        refine ⟨haccounts, fun index _ e he => convertPage_error he, fun hword => ⟨?_, ?_⟩⟩
        · rw [haccounts.sum]
          omega
        · intro index hindex
          omega

end PageImages
