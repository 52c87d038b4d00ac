import PageImages.Proofs.Batch

/-!
**A batch that is run once more.**

A page that was made or kept has its image, and a page that failed fails again, for nothing that
other pages do can help it.  So a batch that keeps the images that exist, and leaves out documents
whose first page has one, has nothing to do when it is run once more.  This needs no assumption on
the stems of documents: it is enough that page images, once there, stay, and that temporary files,
once gone, stay away.

Main definitions:

* `Progress` — page images stay and temporary files stay away.

Main results:

* `pageTask_lasting`, `documentTask_lasting` — what a page, or a document, does lasts;
* `hasEntry_firstImage` — when the first page image of a document exists after its conversion;
* `convertBatch_second_run` — **a second run changes nothing, and leaves out exactly the documents
  whose first page image exists**.
-/

set_option autoImplicit false

namespace PageImages

/-! ### Progress -/

theorem FileSystem.erase_of_none {fs : FileSystem} {l : Location} (h : fs.node? l = none) :
    fs.erase l = fs := by
  refine ext_node? (fun l' => ?_) rfl
  rw [node?_erase]
  split
  case isTrue hl => rw [← hl, h]
  case isFalse => rfl

/-- In the second file system there are at least the page images and at most the temporary files of
the first one. -/
structure Progress (dir : Location) (settings : Settings) (a b : FileSystem) : Prop where
  /-- Directories and links are the same. -/
  frame : a.SameFrame b
  /-- Page images stay. -/
  images : ∀ source index, (a.node? (imageAt dir settings source index)).isSome = true →
    (b.node? (imageAt dir settings source index)).isSome = true
  /-- Temporary files stay away. -/
  temporaries : ∀ source index, a.node? (temporaryAt dir settings source index) = none →
    b.node? (temporaryAt dir settings source index) = none

section Page

variable {dir : Location} {settings : Settings} {source : Path} {index : Nat}

theorem Progress.refl (a : FileSystem) : Progress dir settings a a :=
  ⟨.refl a, fun _ _ h => h, fun _ _ h => h⟩

theorem Progress.trans {a b c : FileSystem} (h : Progress dir settings a b)
    (h' : Progress dir settings b c) : Progress dir settings a c :=
  ⟨h.frame.trans h'.frame, fun source index ha => h'.images _ _ (h.images source index ha),
    fun source index ha => h'.temporaries _ _ (h.temporaries source index ha)⟩

theorem Progress.hasEntry {a b : FileSystem} (hab : Progress dir settings a b)
    (ha : PageBerth a dir settings source index)
    (h : a.hasEntry (imagePath settings source index) = true) :
    b.hasEntry (imagePath settings source index) = true := by
  rw [hasEntry_imagePath ha, Bool.and_eq_true] at h
  rw [hasEntry_imagePath (ha.congr hab.frame), h.1, hab.images source index h.2]
  rfl

/-- An attempt to write a page image is progress. -/
theorem Progress.of_attempt {a : FileSystem} {placed : Option Content} {effects : List Effect}
    (h : a.Attempt (temporaryAt dir settings source index) (imageAt dir settings source index)
      placed effects) : Progress dir settings a (a.applyAll effects) := by
  have hframe := h.sameFrame
  have herase : ∀ source' index', ((a.erase (temporaryAt dir settings source index)).node?
      (imageAt dir settings source' index')) = a.node? (imageAt dir settings source' index') := by
    intro source' index'
    rw [FileSystem.node?_erase, if_neg (Ne.symm (imageAt_ne_temporaryAt _ _ _ _ _ _))]
  have hgone : ∀ source' index', a.node? (temporaryAt dir settings source' index') = none →
      (a.erase (temporaryAt dir settings source index)).node?
        (temporaryAt dir settings source' index') = none := by
    intro source' index' hnone
    rw [FileSystem.node?_erase]
    split
    · rfl
    · exact hnone
  refine ⟨hframe, ?_, ?_⟩
  · intro source' index' hsome
    rcases h.after_cases with ⟨-, rfl⟩ | ⟨-, -, hall⟩ | ⟨content, -, -, -, -, hall⟩
    · exact hsome
    · rwa [hall, herase]
    · rw [hall, FileSystem.node?_insert]
      split
      · rfl
      · rwa [herase]
  · intro source' index' hnone
    rcases h.after_cases with ⟨-, rfl⟩ | ⟨-, -, hall⟩ | ⟨content, -, -, -, -, hall⟩
    · exact hnone
    · rw [hall]
      exact hgone source' index' hnone
    · rw [hall, FileSystem.node?_insert_of_ne (imageAt_ne_temporaryAt _ _ _ _ _ _)]
      exact hgone source' index' hnone

theorem Progress.of_page {a : FileSystem} (h : PageBerth a dir settings source index)
    (past : List Call) (document : Document) :
    Progress dir settings a ((pageTask past settings document source index).after a) := by
  obtain ⟨placed, hattempt⟩ := pageTask_attempt past document h
  exact .of_attempt hattempt

/-- A page that failed and is not kept later fails again, and leaves nothing behind. -/
theorem pageTask_idle_of_failed {a b : FileSystem} (hab : a.SameFrame b)
    (h : PageBerth a dir settings source index) (past : List Call) (document : Document)
    (hlater : Progress dir settings ((pageTask past settings document source index).after a) b)
    (hkept : pageKept a settings source index = pageKept b settings source index)
    (hattempt : a.Attempt (temporaryAt dir settings source index)
      (imageAt dir settings source index) none
      ((pageTask past settings document source index).effects a)) :
    (pageTask past settings document source index).after b = b := by
  have heffects : (pageTask past settings document source index).effects b
      = (pageTask past settings document source index).effects a :=
    (congrArg Prod.snd (pageTask_congr past document hab h hkept)).symm
  rw [Task.after, heffects]
  rcases hattempt.after_cases with ⟨-, hnil⟩ | ⟨-, -, hall⟩ | ⟨content, hplaced, -⟩
  · rw [hnil, FileSystem.applyAll_nil]
  · -- the temporary file that would be removed is gone already
    have hgone : b.node? (temporaryAt dir settings source index) = none := by
      refine hlater.temporaries source index ?_
      rw [Task.after, hall, FileSystem.node?_erase, if_pos rfl]
    rw [hall]
    exact FileSystem.erase_of_none hgone
  · cases hplaced

/-- **What a page does lasts**: later it is kept, or fails again and leaves nothing behind. -/
theorem pageTask_lasting {fs : FileSystem} (h : PageBerth fs dir settings source index)
    (hkeep : settings.overwrite = false) (past : List Call) (document : Document) :
    (pageTask past settings document source index).Lasting fs.SameFrame
      (Progress dir settings) := by
  have hleads : ∀ {a : FileSystem}, fs.SameFrame a →
      Progress dir settings a ((pageTask past settings document source index).after a) :=
    fun ha => .of_page (h.congr ha) past document
  refine ⟨fun ha => ha.trans (hleads ha).frame, hleads, ?_⟩
  intro a b ha hb
  have hberth := h.congr ha
  have hframe := (hleads ha).frame
  cases hkept : pageKept b settings source index with
  | true =>
      rw [Task.after, Task.effects, pageTask_of_kept past document hkept]
      rfl
  | false =>
      -- the image is missing later, so the page did not make or keep it
      have hnever : ∀ path, (pageTask past settings document source index).result a ≠ .ok path := by
        intro path hpath
        obtain ⟨rfl, hentry⟩ := hasEntry_of_converted hberth hframe rfl hpath
        rw [pageKept, hb.hasEntry (hberth.congr hframe) hentry, hkeep] at hkept
        cases hkept
      rcases pageTask_cases past document hberth with
        ⟨-, hperform⟩ | ⟨hkept', e, -, hattempt⟩ | ⟨-, image, encoded, -, -, hresult, -, -⟩
      · exact absurd (congrArg Prod.fst hperform) (hnever _)
      · exact pageTask_idle_of_failed (hframe.trans hb.frame) hberth past document hb
          (hkept'.trans hkept.symm) hattempt
      · exact absurd hresult (hnever _)

end Page

/-! ### Reports -/

/-- A document whose pages have all failed lists no images. -/
theorem DocumentReport.outputFiles_of_failed {source : Path} {total : Nat}
    {outcomes : List (Except PageError Path)}
    (h : (ofOutcomes source total outcomes).status = .failed) :
    (ofOutcomes source total outcomes).outputFiles = [] := by
  have hconverted := (records_ofOutcomes source total outcomes).converted
  rw [status_ofOutcomes, Status.classify] at h
  split at h
  · cases h
  · split at h
    · cases h
    · exact List.eq_nil_of_length_eq_zero (by omega)

/-! ### Documents -/

section Document

variable {fs : FileSystem} {dir : Location} {settings : Settings} {engine : Engine} {source : Path}

theorem bodyTask_lasting (h : DocumentBerth fs dir settings engine source)
    (hkeep : settings.overwrite = false) :
    (bodyTask settings engine source).Lasting fs.SameFrame (Progress dir settings) := by
  rcases bodyTask_cases settings engine source with
    ⟨message, hbody⟩ | ⟨document, -, hcount, hbody⟩
  · rw [hbody]
    exact .constant Progress.refl _
  · have hle := pageCount_le_imageCount settings engine source
    rw [hcount] at hle
    rw [hbody]
    refine (Task.Lasting.sequence Progress.refl Progress.trans fun index hindex => ?_).map _
    exact pageTask_lasting (h index (Nat.lt_of_lt_of_le (List.mem_range.1 hindex) hle)) hkeep []
      document

theorem documentTask_cases (fs : FileSystem) (settings : Settings) (engine : Engine)
    (source : Path) :
    (shouldSkip fs settings source = true ∧
        (documentTask settings engine source).result fs = .skipped source ∧
        (documentTask settings engine source).after fs = fs) ∨
      (shouldSkip fs settings source = false ∧
        (documentTask settings engine source).result fs
          = (bodyTask settings engine source).result fs ∧
        (documentTask settings engine source).after fs
          = (bodyTask settings engine source).after fs) := by
  rw [Task.result, Task.after, Task.effects]
  cases hskip : shouldSkip fs settings source with
  | true =>
      rw [documentTask_of_skip hskip]
      exact Or.inl ⟨rfl, rfl, rfl⟩
  | false =>
      rw [documentTask_of_body hskip]
      exact Or.inr ⟨rfl, rfl, rfl⟩

theorem path_documentTask (fs : FileSystem) (settings : Settings) (engine : Engine)
    (source : Path) : ((documentTask settings engine source).result fs).path = source := by
  rcases documentTask_cases fs settings engine source with ⟨-, hresult, -⟩ | ⟨-, hresult, -⟩
  · rw [hresult]
    rfl
  · rw [hresult]
    rcases bodyTask_cases settings engine source with ⟨message, hbody⟩ | ⟨document, -, -, hbody⟩
    · rw [hbody]
      rfl
    · rw [hbody]
      exact (DocumentReport.records_ofOutcomes _ _ _).path

/-- Each page of a document does what it would do alone. -/
theorem pagesOf_alone (h : DocumentBerth fs dir settings engine source) {document : Document}
    (hle : settings.pageLimit document.pages ≤ imageCount settings engine source)
    {a : FileSystem} (ha : fs.SameFrame a) :
    (pagesOf settings document source).result a
        = (List.range (settings.pageLimit document.pages)).map (fun index =>
          (pageTask [] settings document source index).result a) ∧
      fs.SameFrame ((pagesOf settings document source).after a) ∧
      ∀ index < settings.pageLimit document.pages,
        FileSystem.AgreeOn (pageRegion dir settings source index)
          ((pagesOf settings document source).after a)
          ((pageTask [] settings document source index).after a) :=
  pagesTask_alone document (fun _ => []) (pages_room h hle) ha

/-- Where the first page image of a document is missing, it exists after the pages have been gone
through exactly when a page says that it has made it. -/
theorem hasEntry_pagesOf (h : DocumentBerth fs dir settings engine source) {document : Document}
    (hle : settings.pageLimit document.pages ≤ imageCount settings engine source)
    {a : FileSystem} (ha : fs.SameFrame a) (hfirst : PageBerth a dir settings source 0)
    (hmissing : a.hasEntry (imagePath settings source 0) = false) :
    ((pagesOf settings document source).after a).hasEntry (imagePath settings source 0) = true ↔
      .ok (imagePath settings source 0) ∈ (pagesOf settings document source).result a := by
  obtain ⟨hresult, hframe, hagree⟩ := pagesOf_alone h hle ha
  rw [hresult, List.mem_map]
  constructor
  · intro hentry
    -- without a first page to go through, nothing would have changed
    have hpage : 0 < settings.pageLimit document.pages := by
      rcases Nat.eq_zero_or_pos (settings.pageLimit document.pages) with hnone | hpos
      · have hafter : (pagesOf settings document source).after a = a := by
          rw [pagesOf, hnone]
          rfl
        rw [hafter, hmissing] at hentry
        cases hentry
      · exact hpos
    refine ⟨0, List.mem_range.2 hpage, ?_⟩
    rcases pageTask_cases [] document hfirst with
      ⟨-, hperform⟩ | ⟨-, e, -, hattempt⟩ | ⟨-, image, encoded, -, -, hok, -, -⟩
    · exact congrArg Prod.fst hperform
    · -- a page that failed has left the entry of its image as it was
      have hnode := (hagree 0 hpage _ (Or.inr rfl)).trans
        (hattempt.node?_target (temporaryAt_ne_imageAt _ _ _ _))
      rw [hasEntry_imagePath (hfirst.congr (ha.symm.trans hframe)), hnode, Option.elim_none,
        ← hasEntry_imagePath hfirst, hmissing] at hentry
      cases hentry
    · exact hok
  · rintro ⟨index, hindex, hpath⟩
    have hindex := List.mem_range.1 hindex
    have hberth := (h index (Nat.lt_of_lt_of_le hindex hle)).congr ha
    exact (hasEntry_of_converted hberth (ha.symm.trans hframe) (hagree index hindex _ (Or.inr rfl))
      hpath).2

/-- Where the first page image of a document is missing, it exists after the conversion exactly when
it is listed in the report. -/
theorem hasEntry_bodyTask (h : DocumentBerth fs dir settings engine source) {a : FileSystem}
    (ha : fs.SameFrame a) (hfirst : PageBerth a dir settings source 0)
    (hmissing : a.hasEntry (imagePath settings source 0) = false) :
    ((bodyTask settings engine source).after a).hasEntry (imagePath settings source 0) = true ↔
      imagePath settings source 0 ∈ ((bodyTask settings engine source).result a).outputFiles := by
  rcases bodyTask_cases settings engine source with
    ⟨message, hbody⟩ | ⟨document, -, hcount, hbody⟩
  · have hafter : (bodyTask settings engine source).after a = a := by
      rw [hbody]
      rfl
    have hfiles : ((bodyTask settings engine source).result a).outputFiles = [] := by
      rw [hbody]
      rfl
    rw [hafter, hfiles, hmissing]
    simp
  · have hle := pageCount_le_imageCount settings engine source
    rw [hcount] at hle
    rw [hbody]
    exact (hasEntry_pagesOf h hle ha hfirst hmissing).trans
      DocumentReport.mem_outputFiles_ofOutcomes.symm

theorem status_bodyTask (fs : FileSystem) (settings : Settings) (engine : Engine) (source : Path) :
    ((bodyTask settings engine source).result fs).status ≠ .skipped ∧
      (((bodyTask settings engine source).result fs).status = .failed →
        ((bodyTask settings engine source).result fs).outputFiles = []) := by
  rcases bodyTask_cases settings engine source with ⟨message, hbody⟩ | ⟨document, -, -, hbody⟩
  · rw [hbody]
    exact ⟨fun h => (by cases h), fun _ => rfl⟩
  · rw [hbody]
    exact ⟨Status.classify_ne_skipped _ _, DocumentReport.outputFiles_of_failed⟩

section Leaving

variable (hkeep : settings.overwrite = false) (hleave : settings.skipIfExists = true)

include hkeep hleave in
/-- A document is left out exactly when its first page image exists. -/
theorem shouldSkip_eq_hasEntry (fs : FileSystem) (source : Path) :
    shouldSkip fs settings source = fs.hasEntry (imagePath settings source 0) := by
  rw [shouldSkip_eq, hkeep, hleave, Bool.not_false, Bool.true_and, Bool.true_and]

include hkeep hleave in
theorem imageCount_pos : 0 < imageCount settings engine source := by
  rw [imageCount, hkeep, hleave, Bool.not_false, Bool.true_and, if_pos rfl]
  omega

include hkeep hleave in
/-- **What a document does lasts.** -/
theorem documentTask_lasting (h : DocumentBerth fs dir settings engine source) :
    (documentTask settings engine source).Lasting fs.SameFrame (Progress dir settings) := by
  have hbody := bodyTask_lasting h hkeep
  have hleads : ∀ {a : FileSystem}, fs.SameFrame a →
      Progress dir settings a ((documentTask settings engine source).after a) := by
    intro a ha
    rcases documentTask_cases a settings engine source with ⟨-, -, hafter⟩ | ⟨-, -, hafter⟩
    · rw [hafter]
      exact .refl a
    · rw [hafter]
      exact hbody.leads ha
  refine ⟨fun ha => ha.trans (hleads ha).frame, hleads, ?_⟩
  intro a b ha hb
  rcases documentTask_cases b settings engine source with ⟨-, -, hagain⟩ | ⟨hskip, -, hagain⟩
  · exact hagain
  · rcases documentTask_cases a settings engine source with ⟨hskip', -, hafter⟩ | ⟨-, -, hafter⟩
    · -- the image for which the document was left out is still there
      rw [hafter] at hb
      rw [shouldSkip_eq_hasEntry hkeep hleave] at hskip hskip'
      have hberth := (h 0 (imageCount_pos hkeep hleave)).congr ha
      rw [hb.hasEntry hberth hskip'] at hskip
      cases hskip
    · rw [hafter] at hb
      rw [hagain]
      exact hbody.idle ha hb

include hkeep hleave in
/-- **The first page image of a document exists after its conversion** exactly when the document was
left out or the image is listed in the report. -/
theorem hasEntry_firstImage (h : DocumentBerth fs dir settings engine source) {a : FileSystem}
    (ha : fs.SameFrame a) :
    ((documentTask settings engine source).after a).hasEntry (imagePath settings source 0) = true ↔
      ((documentTask settings engine source).result a).status = .skipped ∨
        imagePath settings source 0 ∈
          ((documentTask settings engine source).result a).outputFiles := by
  rcases documentTask_cases a settings engine source with
    ⟨hskip, hresult, hafter⟩ | ⟨hskip, hresult, hafter⟩
  · rw [hafter, hresult, ← shouldSkip_eq_hasEntry hkeep hleave, hskip]
    exact ⟨fun _ => Or.inl rfl, fun _ => rfl⟩
  · rw [shouldSkip_eq_hasEntry hkeep hleave] at hskip
    have hfirst := (h 0 (imageCount_pos hkeep hleave)).congr ha
    rw [hafter, hresult, hasEntry_bodyTask h ha hfirst hskip]
    exact ⟨Or.inr, fun hor => hor.resolve_left (status_bodyTask a settings engine source).1⟩

include hkeep hleave in
/-- **A document that is converted once more is left out**, if its first page image exists by then,
and has the same report as before, if not. -/
theorem documentTask_again (h : DocumentBerth fs dir settings engine source) {a : FileSystem}
    (ha : fs.SameFrame a) :
    let task := documentTask settings engine source
    task.result (task.after a)
      = if (task.after a).hasEntry (imagePath settings source 0) then .skipped source
        else task.result a := by
  intro task
  rcases documentTask_cases (task.after a) settings engine source with
    ⟨hskip, hresult, -⟩ | ⟨hskip, hresult, -⟩
  · rw [shouldSkip_eq_hasEntry hkeep hleave] at hskip
    rw [if_pos hskip]
    exact hresult
  · rw [shouldSkip_eq_hasEntry hkeep hleave] at hskip
    rw [hskip, if_neg Bool.false_ne_true]
    refine hresult.trans ?_
    -- the first time it was not left out either, for its first page image would be there
    rcases documentTask_cases a settings engine source with ⟨hskip', -, -⟩ | ⟨-, hbefore, hafter⟩
    · have hentry := (hasEntry_firstImage hkeep hleave h ha).2 (Or.inl ?_)
      · rw [hskip] at hentry
        cases hentry
      · rw [Task.result, documentTask_of_skip hskip']
        rfl
    · rw [hafter, (bodyTask_restartable h).result_after ha]
      exact hbefore.symm

include hkeep hleave in
/-- A document that ends the batch has no first page image. -/
theorem hasEntry_of_endsBatch (h : DocumentBerth fs dir settings engine source) {a : FileSystem}
    (ha : fs.SameFrame a)
    (hend : endsBatch settings ((documentTask settings engine source).result a) = true) :
    ((documentTask settings engine source).after a).hasEntry (imagePath settings source 0)
      = false := by
  rw [endsBatch, Bool.and_eq_true, decide_eq_true_eq] at hend
  obtain ⟨-, hfailed⟩ := hend
  rcases documentTask_cases a settings engine source with ⟨-, hresult, -⟩ | ⟨-, hresult, -⟩
  · rw [hresult] at hfailed
    cases hfailed
  · have hnone : ¬ ((documentTask settings engine source).result a).status = .skipped ∧
        ((documentTask settings engine source).result a).outputFiles = [] := by
      rw [hresult] at hfailed ⊢
      exact ⟨(status_bodyTask a settings engine source).1,
        (status_bodyTask a settings engine source).2 hfailed⟩
    cases hentry : ((documentTask settings engine source).after a).hasEntry
        (imagePath settings source 0) with
    | false => rfl
    | true =>
        rcases (hasEntry_firstImage hkeep hleave h ha).1 hentry with hskipped | hlisted
        · exact absurd hskipped hnone.1
        · rw [hnone.2] at hlisted
          cases hlisted

end Leaving

end Document

/-! ### Batches -/

section Batch

variable {fs : FileSystem} {settings : Settings} {engine : Engine}
  (hkeep : settings.overwrite = false) (hleave : settings.skipIfExists = true)

section Tasks

variable {ready : FileSystem} {dir : Location} {sources : List Path}
  (h : ∀ source ∈ sources, DocumentBerth ready dir settings engine source)

include hkeep hleave h in
/-- **Documents that are converted once more change nothing**, whatever their stems are. -/
theorem batchTask_again :
    let task := batchTask settings engine sources
    task.after (task.after ready) = task.after ready := by
  refine Task.Lasting.sequence_again Progress.refl Progress.trans
    (fun source hsource => documentTask_lasting hkeep hleave (h source hsource)) ?_ (.refl ready)
  intro source hsource a ha hend
  rw [documentTask_again hkeep hleave (h source hsource) ha,
    hasEntry_of_endsBatch hkeep hleave (h source hsource) ha hend, if_neg Bool.false_ne_true]
  exact hend

include hkeep hleave h in
/-- What is known about a document when other documents have followed it. -/
theorem documentTask_later {source : Path} (hsource : source ∈ sources) {c : FileSystem}
    (hc : ready.SameFrame c)
    (hagree : FileSystem.AgreeOn (documentRegion dir settings engine source) c
      ((documentTask settings engine source).after ready)) :
    (documentTask settings engine source).result c
        = (if c.hasEntry (imagePath settings source 0) then .skipped source
          else (documentTask settings engine source).result ready) ∧
      (c.hasEntry (imagePath settings source 0) = true ↔
        ((documentTask settings engine source).result ready).status = .skipped ∨
          imagePath settings source 0 ∈
            ((documentTask settings engine source).result ready).outputFiles) ∧
      (endsBatch settings ((documentTask settings engine source).result ready) = true →
        c.hasEntry (imagePath settings source 0) = false) := by
  have hberth := h source hsource
  have hzero : 0 < imageCount settings engine source := imageCount_pos hkeep hleave
  have hready := FileSystem.SameFrame.refl ready
  have hafter := (documentTask_local hberth).keeps_after hready
  -- what the document looks at is as it left it
  have hentry : c.hasEntry (imagePath settings source 0)
      = ((documentTask settings engine source).after ready).hasEntry
          (imagePath settings source 0) := by
    rw [hasEntry_imagePath ((hberth 0 hzero).congr hc),
      hasEntry_imagePath ((hberth 0 hzero).congr hafter), hagree _ ⟨0, hzero, Or.inr rfl⟩]
  have hresult : (documentTask settings engine source).result c
      = (documentTask settings engine source).result
          ((documentTask settings engine source).after ready) :=
    congrArg Prod.fst ((documentTask_local hberth).congr hc hafter hagree)
  rw [hentry, hresult]
  exact ⟨documentTask_again hkeep hleave hberth hready,
    hasEntry_firstImage hkeep hleave hberth hready,
    hasEntry_of_endsBatch hkeep hleave hberth hready⟩

/-- The report on a document in the second run. -/
def secondReport (after : FileSystem) (settings : Settings) (report : DocumentReport) :
    DocumentReport :=
  if after.hasEntry (imagePath settings report.path 0) then .skipped report.path else report

include hkeep hleave h in
/-- **Documents that are converted once more** are left out, if their first page images exist, and
have the same reports as before, if not. -/
theorem batchTask_second_run (hstems : (sources.map Path.stemText).Nodup) :
    let task := batchTask settings engine sources
    let after := task.after ready
    task.result after = (task.result ready).map (secondReport after settings) ∧
      ∀ report ∈ task.result ready,
        after.hasEntry (imagePath settings report.path 0) = true ↔
          report.status = .skipped ∨ imagePath settings report.path 0 ∈ report.outputFiles := by
  intro task after
  have hlocal : ∀ source ∈ sources, (documentTask settings engine source).Local ready.SameFrame
      (documentRegion dir settings engine source) := fun source hsource =>
    documentTask_local (h source hsource)
  have hready := FileSystem.SameFrame.refl ready
  have hapart : Task.Apart (documentRegion dir settings engine) sources := apart_of_stems hstems
  have hframe : ready.SameFrame after := (batchTask_local h).keeps_after hready
  have hfirst : task.result ready = Task.upTo (endsBatch settings)
      (sources.map fun source => (documentTask settings engine source).result ready) :=
    Task.sequence_result hlocal hapart hready
  have hlater : ∀ (k : Nat) (source : Path), k < (task.result ready).length →
      sources[k]? = some source → FileSystem.AgreeOn (documentRegion dir settings engine source)
        after ((documentTask settings engine source).after ready) := fun k source hk hsource =>
    Task.sequence_after hlocal hapart hready hk hsource
  refine ⟨?_, ?_⟩
  · have hsecond : task.result after = Task.upTo (endsBatch settings)
        (sources.map fun source => (documentTask settings engine source).result after) :=
      Task.sequence_result hlocal hapart hframe
    rw [hsecond, hfirst]
    refine Task.upTo_map fun k source hk hsource => ?_
    rw [← hfirst] at hk
    obtain ⟨hresult, -, hends⟩ := documentTask_later hkeep hleave h (List.mem_of_getElem? hsource)
      hframe (hlater k source hk hsource)
    rw [secondReport, path_documentTask]
    refine ⟨hresult, ?_⟩
    -- a document that is left out does not end the batch, and did not end it before
    split
    case isFalse => rfl
    case isTrue hentry =>
        cases hend : endsBatch settings ((documentTask settings engine source).result ready) with
        | true =>
            rw [hends hend] at hentry
            cases hentry
        | false => simp [endsBatch, DocumentReport.skipped]
  · intro report hreport
    rw [hfirst] at hreport
    obtain ⟨k, source, hk, hsource, rfl⟩ := Task.exists_of_mem_upTo hreport
    rw [← hfirst] at hk
    rw [path_documentTask]
    exact (documentTask_later hkeep hleave h (List.mem_of_getElem? hsource) hframe
      (hlater k source hk hsource)).2.1

end Tasks

theorem made_of_ok {observed : Bool} {report : BatchReport}
    (hfolder : fs.isDirectory settings.inputFolder = true)
    (hok : (convertBatch fs settings engine observed).outcome = .ok report) :
    (fs.createDirectories settings.outputFolder).2 = .ok () := by
  cases hmade : (fs.createDirectories settings.outputFolder).2 with
  | ok u => rfl
  | error e =>
      have hnone := (convertBatch_of_refused engine observed hfolder hmade).1
      rw [hok] at hnone
      cases hnone

/-- **A second run changes nothing.**  The engine does not look back, images that exist are kept
and documents whose first page has one are left out, and once the output folder has been made no
link stands in the input folder or in the way of a page image (`ImagesUnlinked.prepared` says when
that can be told before).  After a batch that has a report, a second one leaves the file system as
it is.  If the stems of the documents differ, the second report leaves out exactly the documents
whose first page image exists by then, which are those that were left out before or have that image
in their report, and says about all others what the first one said. -/
theorem convertBatch_second_run (hengine : engine.Memoryless)
    (hkeep : settings.overwrite = false) (hleave : settings.skipIfExists = true)
    (hplain : (prepared fs settings).PlainFolder settings.inputFolder)
    (hlinks : ImagesUnlinked (prepared fs settings) settings engine (foundDocuments fs settings))
    (observed observed' : Bool) {report : BatchReport}
    (hok : (convertBatch fs settings engine observed).outcome = .ok report) :
    let after := fs.applyAll (convertBatch fs settings engine observed).effects
    let second := convertBatch after settings engine observed'
    after.applyAll second.effects = after ∧
      ∃ report', second.outcome = .ok report' ∧
        (((foundDocuments fs settings).map Path.stemText).Nodup →
          report'.results = report.results.map (secondReport after settings) ∧
            ∀ r ∈ report.results, after.hasEntry (imagePath settings r.path 0) = true ↔
              r.status = .skipped ∨ imagePath settings r.path 0 ∈ r.outputFiles) := by
  intro after second
  cases hfolder : fs.isDirectory settings.inputFolder with
  | false =>
      obtain ⟨houtcome, heffects⟩ := convertBatch_of_missing engine observed hfolder
      obtain rfl : report = .empty := Except.ok.inj (hok.symm.trans houtcome)
      have hafter : after = fs := by
        simp only [after, heffects, FileSystem.applyAll_nil]
      obtain ⟨houtcome', heffects'⟩ := convertBatch_of_missing engine observed' hfolder
      simp only [second, hafter, heffects']
      refine ⟨rfl, .empty, houtcome', fun _ => ⟨rfl, ?_⟩⟩
      intro r hr
      cases hr
  | true =>
      rw [foundDocuments_eq hfolder] at hlinks ⊢
      have hmade := made_of_ok hfolder hok
      obtain ⟨dir, -, hberths⟩ := exists_berths hmade hlinks
      obtain ⟨houtcome, heffects⟩ := convertBatch_of_prepared hengine observed hfolder hmade
      obtain rfl := Except.ok.inj (hok.symm.trans houtcome)
      have hafter : after = (batchTask settings engine (batchSources fs settings)).after
          (prepared fs settings) := by
        simp only [after, heffects, FileSystem.applyAll_append]
        rfl
      have hlocal := batchTask_local hberths
      have hready := FileSystem.SameFrame.refl (prepared fs settings)
      obtain ⟨houtcome', heffects'⟩ := convertBatch_of_later hengine observed' hfolder hmade hplain
        (hlocal.keeps_after hready) fun l hl => hlocal.node?_after hready hl
      rw [← hafter] at houtcome' heffects'
      refine ⟨?_, _, houtcome', fun hstems => ?_⟩
      · have hagain := batchTask_again hkeep hleave hberths
        dsimp only at hagain
        rw [← hafter] at hagain
        simp only [second, heffects']
        exact hagain
      · have hsecond := batchTask_second_run hkeep hleave hberths hstems
        dsimp only at hsecond
        rw [← hafter] at hsecond
        simp only [BatchReport.results_ofResults]
        exact hsecond

end Batch

/-- Settings that leave out documents whose first page image exists. -/
def Sample.leaving : Settings := { Sample.nested with skipIfExists := true }

theorem Sample.imagesUnlinked_leaving :
    ImagesUnlinked (prepared Sample.store Sample.leaving) Sample.leaving Sample.engine
      (foundDocuments Sample.store Sample.leaving) := by
  have hfound : foundDocuments Sample.store Sample.leaving
      = [Sample.letter, Sample.ledger].map fun name => Sample.leaving.inputFolder.join ⟨name⟩ :=
    Sample.foundDocuments_nested
  rw [hfound, ImagesUnlinked]
  decide +kernel

/-- Two runs over a document of which two pages can be converted and one that cannot be opened. -/
theorem convertBatch_second_run_sample :
    Sample.engine.Memoryless ∧ Sample.leaving.overwrite = false ∧
      Sample.leaving.skipIfExists = true ∧
      ((foundDocuments Sample.store Sample.leaving).map Path.stemText).Nodup ∧
      (prepared Sample.store Sample.leaving).PlainFolder Sample.leaving.inputFolder ∧
      ImagesUnlinked (prepared Sample.store Sample.leaving) Sample.leaving Sample.engine
        (foundDocuments Sample.store Sample.leaving) ∧
      ∃ report report',
        let run := convertBatch Sample.store Sample.leaving Sample.engine true
        let after := Sample.store.applyAll run.effects
        let second := convertBatch after Sample.leaving Sample.engine false
        run.outcome = .ok report ∧ second.outcome = .ok report' ∧
          after.applyAll second.effects = after ∧
          report'.results = report.results.map (secondReport after Sample.leaving) := by
  have hplain : (prepared Sample.store Sample.leaving).PlainFolder Sample.leaving.inputFolder :=
    Sample.plainFolder_nested
  have hfolder : Sample.store.isDirectory Sample.leaving.inputFolder = true := by decide +kernel
  have hmade : (Sample.store.createDirectories Sample.leaving.outputFolder).2 = .ok () := rfl
  obtain ⟨hok, -⟩ := convertBatch_of_prepared Sample.engine_memoryless true hfolder hmade
  obtain ⟨hafter, report', hsecond, hreports⟩ :=
    convertBatch_second_run Sample.engine_memoryless rfl rfl hplain Sample.imagesUnlinked_leaving
      true false hok
  exact ⟨Sample.engine_memoryless, rfl, rfl, Sample.stems_nested, hplain,
    Sample.imagesUnlinked_leaving, _, report', hok, hsecond, hafter,
    (hreports Sample.stems_nested).1⟩

end PageImages
