import PageImages.Convert.Page
import PageImages.Proofs.Save
import PageImages.Proofs.Task

/-!
**One page as a task.**

A page looks at and changes two entries: its image and the temporary file of that image.  The page
images of different documents, or of different pages, have different entries, so that no page
notices another.

Main definitions:

* `imageAt`, `temporaryAt`, `pageRegion` — the two entries of a page;
* `pageImage` — the image that a page gives;
* `pageTask` — converting a page, as a task.

Main results:

* `pageRegion_disjoint` — different pages have different entries;
* `pageTask_cases` — a page is kept, or its image is not made, or it is made and put in its place;
* `pageTask_local` — a page looks at and changes its two entries only;
* `pageTask_restartable` — **a page that was cut off can be converted again**.
-/

set_option autoImplicit false

namespace PageImages

/-! ### The entries of a page -/

/-- The entry of a page image in the directory `dir`. -/
def imageAt (dir : Location) (settings : Settings) (source : Path) (index : Nat) : Location :=
  pageFileName source.stemText index settings.format :: dir

/-- The entry of the temporary file of a page image. -/
def temporaryAt (dir : Location) (settings : Settings) (source : Path) (index : Nat) : Location :=
  (pageFileName source.stemText index settings.format ++ temporarySuffix) :: dir

/-- The entries that converting a page looks at and changes. -/
def pageRegion (dir : Location) (settings : Settings) (source : Path) (index : Nat) :
    Location → Prop :=
  fun l => l = temporaryAt dir settings source index ∨ l = imageAt dir settings source index

/-- The path of a page image, as the settings say. -/
def imagePath (settings : Settings) (source : Path) (index : Nat) : Path :=
  outputPath source index settings.outputFolder settings.format

theorem imagePath_endsIn (settings : Settings) (source : Path) (index : Nat) :
    (imagePath settings source index).EndsIn settings.outputFolder.isAbsolute
      settings.outputFolder.parts (pageFileName source.stemText index settings.format) :=
  outputPath_endsIn source index settings.outputFolder settings.format

theorem imagePath_congr {source source' : Path} (h : source.stemText = source'.stemText)
    (settings : Settings) (index : Nat) :
    imagePath settings source index = imagePath settings source' index := by
  rw [imagePath, imagePath, outputPath, outputPath, h]

theorem imageAt_ne_temporaryAt (dir : Location) (settings : Settings) (source source' : Path)
    (index index' : Nat) :
    imageAt dir settings source index ≠ temporaryAt dir settings source' index' := by
  intro h
  exact pageFileName_ne_temporary _ _ _ _ (List.cons.inj h).1

theorem imageAt_inj {dir : Location} {settings : Settings} {source source' : Path}
    {index index' : Nat}
    (h : imageAt dir settings source index = imageAt dir settings source' index') :
    source.stemText = source'.stemText ∧ index = index' := by
  obtain ⟨hstem, hindex, -⟩ := pageFileName_injective (List.cons.inj h).1
  exact ⟨hstem, hindex⟩

theorem temporaryAt_inj {dir : Location} {settings : Settings} {source source' : Path}
    {index index' : Nat}
    (h : temporaryAt dir settings source index = temporaryAt dir settings source' index') :
    source.stemText = source'.stemText ∧ index = index' := by
  have hname := List.append_cancel_right (List.cons.inj h).1
  obtain ⟨hstem, hindex, -⟩ := pageFileName_injective hname
  exact ⟨hstem, hindex⟩

/-- Different pages have different entries. -/
theorem pageRegion_disjoint {dir : Location} {settings : Settings} {source source' : Path}
    {index index' : Nat} (h : source.stemText ≠ source'.stemText ∨ index ≠ index') {l : Location}
    (hl : pageRegion dir settings source index l) :
    ¬ pageRegion dir settings source' index' l := by
  have hne : ¬ (source.stemText = source'.stemText ∧ index = index') := fun ⟨hs, hi⟩ =>
    h.elim (fun h => h hs) fun h => h hi
  rintro (hl' | hl') <;> rcases hl with hl | hl
  · exact hne (temporaryAt_inj (hl.symm.trans hl'))
  · exact imageAt_ne_temporaryAt _ _ _ _ _ _ (hl.symm.trans hl')
  · exact imageAt_ne_temporaryAt _ _ _ _ _ _ (hl'.symm.trans hl)
  · exact hne (imageAt_inj (hl.symm.trans hl'))

/-! ### What converting a page does -/

/-- The image that a page gives: it is rendered after earlier calls, and, if the settings ask for
it, cut to the window of the crop; there is no image if that window has no pixel. -/
def pageImage (past : List Call) (settings : Settings) (document : Document) (index : Nat) :
    Except PageError Image :=
  match document.render past index settings.dpi settings.colorspace with
  | .error e => .error e
  | .ok image =>
    if settings.crop.enabled then
      match settings.crop.window? image.width image.height with
      | none => .error (.emptyCrop (index + 1) image.width image.height)
      | some window => .ok (window.cut image)
    else .ok image

/-- Whether a page is kept as it is. -/
def pageKept (fs : FileSystem) (settings : Settings) (source : Path) (index : Nat) : Bool :=
  fs.hasEntry (imagePath settings source index) && !settings.overwrite

/-- The calls to the engine for a page. -/
def pageCalls (fs : FileSystem) (settings : Settings) (source : Path) (index : Nat) : List Call :=
  if pageKept fs settings source index then []
  else [.rendered index settings.dpi settings.colorspace]

/-- Converting a page, as a task. -/
def pageTask (past : List Call) (settings : Settings) (document : Document) (source : Path)
    (index : Nat) : Task (Except PageError Path) where
  perform := fun fs =>
    let run := convertPage fs past settings document source index
    (run.outcome, run.effects)

section Page

variable {fs : FileSystem} {past : List Call} {settings : Settings} {document : Document}
  {source : Path} {index : Nat}

theorem convertPage_of_kept (h : pageKept fs settings source index = true) :
    convertPage fs past settings document source index
      = ⟨.ok (imagePath settings source index),
        .ofNotices [.pageKept (imagePath settings source index)], []⟩ := by
  rw [pageKept, imagePath] at h
  simp only [convertPage, if_pos h, imagePath]

theorem convertPage_of_not_kept (h : pageKept fs settings source index = false) :
    convertPage fs past settings document source index =
      let call := Call.rendered index settings.dpi settings.colorspace
      match document.render past index settings.dpi settings.colorspace with
      | .error e => ⟨.error e, [], [call]⟩
      | .ok image =>
        match cropWindow? settings image with
        | none => ⟨.error (.emptyCrop (index + 1) image.width image.height), [], [call]⟩
        | some window =>
          savePage fs settings (imagePath settings source index) index image window [call] := by
  rw [pageKept, imagePath] at h
  cases hrender : document.render past index settings.dpi settings.colorspace with
  | error e => simp only [convertPage, h, Bool.false_eq_true, if_false, hrender]
  | ok image =>
      cases hcrop : cropWindow? settings image with
      | none => simp only [convertPage, h, Bool.false_eq_true, if_false, hrender, hcrop]
      | some window =>
          simp only [convertPage, h, Bool.false_eq_true, if_false, hrender, hcrop, imagePath]

/-- The image that a page gives, once it is rendered. -/
theorem pageImage_of_render {image : Image}
    (h : document.render past index settings.dpi settings.colorspace = .ok image) :
    pageImage past settings document index = match cropWindow? settings image with
      | none => .error (.emptyCrop (index + 1) image.width image.height)
      | some none => .ok image
      | some (some window) => .ok (window.cut image) := by
  simp only [pageImage, h, cropWindow?]
  split
  · cases settings.crop.window? image.width image.height <;> rfl
  · rfl

theorem savePage_eq (fs : FileSystem) (settings : Settings) (path : Path) (index : Nat)
    (image : Image) (window : Option Window) (calls : List Call) :
    let run := savePage fs settings path index image window calls
    let cut := match window with
      | some w => w.cut image
      | none => image
    let saved := saveImage fs cut path settings.format settings.quality
    run.calls = calls ∧ run.effects = saved.effects ∧
      run.outcome = match saved.outcome with
        | .ok () => .ok path
        | .error e => .error (.encodeFailed (index + 1) path e.message) := by
  intro run cut saved
  have hrun : run = match saved.outcome with
      | .ok () => ⟨.ok path, Course.ofNotices (window.map Notice.pageCropped).toList
          ++ saved.course ++ .ofNotices [.pageConverted path], calls⟩
      | .error e => ⟨.error (.encodeFailed (index + 1) path e.message),
          Course.ofNotices (window.map Notice.pageCropped).toList ++ saved.course, calls⟩ := by
    cases window <;> rfl
  rw [hrun]
  cases saved.outcome with
  | ok u => simp [PageRun.effects, SaveRun.effects]
  | error e => simp [PageRun.effects, SaveRun.effects]

theorem convertPage_calls (fs : FileSystem) (past : List Call) (settings : Settings)
    (document : Document) (source : Path) (index : Nat) :
    (convertPage fs past settings document source index).calls
      = pageCalls fs settings source index := by
  rw [pageCalls]
  cases hkept : pageKept fs settings source index with
  | true => rw [convertPage_of_kept hkept, if_pos rfl]
  | false =>
      rw [convertPage_of_not_kept hkept, if_neg Bool.false_ne_true]
      cases document.render past index settings.dpi settings.colorspace with
      | error e => rfl
      | ok image =>
          cases hcrop : cropWindow? settings image with
          | none => simp only [hcrop]
          | some window =>
              simp only [hcrop]
              exact (savePage_eq fs settings _ index image window _).1

theorem pageTask_of_kept (past : List Call) (document : Document)
    (h : pageKept fs settings source index = true) :
    (pageTask past settings document source index).perform fs
      = (.ok (imagePath settings source index), []) := by
  simp only [pageTask, convertPage_of_kept h]
  rfl

theorem pageTask_of_no_image {e : PageError} (h : pageKept fs settings source index = false)
    (himage : pageImage past settings document index = .error e) :
    (pageTask past settings document source index).perform fs = (.error e, []) := by
  simp only [pageTask, convertPage_of_not_kept h]
  cases hrender : document.render past index settings.dpi settings.colorspace with
  | error e' =>
      simp only [pageImage, hrender, Except.error.injEq] at himage
      rw [himage]
      rfl
  | ok image =>
      rw [pageImage_of_render hrender] at himage
      cases hcrop : cropWindow? settings image with
      | none =>
          simp only [hcrop, Except.error.injEq] at himage
          simp only [hcrop, himage]
          rfl
      | some window => cases window <;> simp [hcrop] at himage

theorem pageTask_of_image {image : Image} (h : pageKept fs settings source index = false)
    (himage : pageImage past settings document index = .ok image) :
    (pageTask past settings document source index).perform fs =
      let saved := saveImage fs image (imagePath settings source index) settings.format
        settings.quality
      (match saved.outcome with
        | .ok () => .ok (imagePath settings source index)
        | .error e =>
          .error (.encodeFailed (index + 1) (imagePath settings source index) e.message),
        saved.effects) := by
  simp only [pageTask, convertPage_of_not_kept h]
  cases hrender : document.render past index settings.dpi settings.colorspace with
  | error e => simp [pageImage, hrender] at himage
  | ok rendered =>
      rw [pageImage_of_render hrender] at himage
      cases hcrop : cropWindow? settings rendered with
      | none => simp [hcrop] at himage
      | some window =>
          obtain ⟨-, heffects, houtcome⟩ := savePage_eq fs settings
            (imagePath settings source index) index rendered window
            [.rendered index settings.dpi settings.colorspace]
          simp only [hcrop, heffects, houtcome]
          cases window with
          | none =>
              simp only [hcrop, Except.ok.injEq] at himage
              subst himage
              rfl
          | some w =>
              simp only [hcrop, Except.ok.injEq] at himage
              subst himage
              rfl

theorem pageTask_of_saved {image : Image} (h : pageKept fs settings source index = false)
    (himage : pageImage past settings document index = .ok image)
    (hsaved : (saveImage fs image (imagePath settings source index) settings.format
      settings.quality).outcome = .ok ()) :
    (pageTask past settings document source index).result fs
        = .ok (imagePath settings source index) ∧
      (pageTask past settings document source index).effects fs
        = (saveImage fs image (imagePath settings source index) settings.format
          settings.quality).effects := by
  rw [Task.result, Task.effects, pageTask_of_image h himage]
  simp only [hsaved, and_self]

theorem pageTask_of_unsaved {image : Image} {e : SaveError}
    (h : pageKept fs settings source index = false)
    (himage : pageImage past settings document index = .ok image)
    (hsaved : (saveImage fs image (imagePath settings source index) settings.format
      settings.quality).outcome = .error e) :
    (pageTask past settings document source index).result fs
        = .error (.encodeFailed (index + 1) (imagePath settings source index) e.message) ∧
      (pageTask past settings document source index).effects fs
        = (saveImage fs image (imagePath settings source index) settings.format
          settings.quality).effects := by
  rw [Task.result, Task.effects, pageTask_of_image h himage]
  simp only [hsaved, and_self]

/-! ### A page where there is room for it -/

/-- The path of a page image and its temporary path stand for names of the directory `dir`, and for
no links. -/
def PageBerth (fs : FileSystem) (dir : Location) (settings : Settings) (source : Path)
    (index : Nat) : Prop :=
  fs.Berth (imagePath settings source index) dir
    (pageFileName source.stemText index settings.format)

variable {dir : Location}

theorem temporaryAt_ne_imageAt (dir : Location) (settings : Settings) (source : Path)
    (index : Nat) : temporaryAt dir settings source index ≠ imageAt dir settings source index :=
  Ne.symm (imageAt_ne_temporaryAt dir settings source source index index)

theorem hasEntry_imagePath (h : PageBerth fs dir settings source index) :
    fs.hasEntry (imagePath settings source index)
      = ((FileSystem.spellingFault? (imagePath settings source index)
            (pageFileName source.stemText index settings.format)).isNone
          && (fs.node? (imageAt dir settings source index)).isSome) :=
  h.target.hasEntry_eq

/-- Whether a page is kept depends on the entry of its image. -/
theorem pageKept_congr {a b : FileSystem} (ha : PageBerth a dir settings source index)
    (hb : PageBerth b dir settings source index)
    (h : a.node? (imageAt dir settings source index)
      = b.node? (imageAt dir settings source index)) :
    pageKept a settings source index = pageKept b settings source index := by
  rw [pageKept, pageKept, hasEntry_imagePath ha, hasEntry_imagePath hb, h]

/-- A page that is kept in both file systems, or in none, is converted in the same way. -/
theorem pageTask_congr (past : List Call) (document : Document) {a b : FileSystem}
    (hab : a.SameFrame b) (ha : PageBerth a dir settings source index)
    (h : pageKept a settings source index = pageKept b settings source index) :
    (pageTask past settings document source index).perform a
      = (pageTask past settings document source index).perform b := by
  cases hkept : pageKept a settings source index with
  | true => rw [pageTask_of_kept _ _ hkept, pageTask_of_kept _ _ (h.symm.trans hkept)]
  | false =>
      have hkept' := h.symm.trans hkept
      cases himage : pageImage past settings document index with
      | error e => rw [pageTask_of_no_image hkept himage, pageTask_of_no_image hkept' himage]
      | ok image =>
          rw [pageTask_of_image hkept himage, pageTask_of_image hkept' himage,
            saveImage_congr hab ha]

/-- **A page is kept, or its image is not made, or it is made and put in its place.** -/
theorem pageTask_cases (past : List Call) (document : Document)
    (h : PageBerth fs dir settings source index) :
    let task := pageTask past settings document source index
    (pageKept fs settings source index = true ∧
        task.perform fs = (.ok (imagePath settings source index), [])) ∨
      (pageKept fs settings source index = false ∧ ∃ e, task.result fs = .error e ∧
        fs.Attempt (temporaryAt dir settings source index) (imageAt dir settings source index) none
          (task.effects fs)) ∨
      (pageKept fs settings source index = false ∧
        ∃ image encoded, pageImage past settings document index = .ok image ∧
          Encoded.ofImage settings.format settings.quality image = .ok encoded ∧
          task.result fs = .ok (imagePath settings source index) ∧
          FileSystem.spellingFault? (imagePath settings source index)
            (pageFileName source.stemText index settings.format) = none ∧
          fs.Attempt (temporaryAt dir settings source index) (imageAt dir settings source index)
            (some [.picture encoded]) (task.effects fs)) := by
  intro task
  cases hkept : pageKept fs settings source index with
  | true => exact Or.inl ⟨rfl, pageTask_of_kept past document hkept⟩
  | false =>
      right
      cases himage : pageImage past settings document index with
      | error e =>
          left
          rw [Task.result, Task.effects, pageTask_of_no_image hkept himage]
          exact ⟨rfl, e, rfl, .refused⟩
      | ok image =>
          rcases saveImage_attempt h image settings.format settings.quality with
            ⟨e, houtcome, hattempt⟩ | ⟨encoded, houtcome, hencoded, hfault, hattempt⟩
          · obtain ⟨hresult, heffects⟩ := pageTask_of_unsaved hkept himage houtcome
            rw [← heffects] at hattempt
            exact Or.inl ⟨rfl, _, hresult, hattempt⟩
          · obtain ⟨hresult, heffects⟩ := pageTask_of_saved hkept himage houtcome
            rw [← heffects] at hattempt
            exact Or.inr ⟨rfl, image, encoded, rfl, hencoded, hresult, hfault, hattempt⟩

theorem pageTask_attempt (past : List Call) (document : Document)
    (h : PageBerth fs dir settings source index) :
    ∃ placed, fs.Attempt (temporaryAt dir settings source index)
      (imageAt dir settings source index) placed
      ((pageTask past settings document source index).effects fs) := by
  rcases pageTask_cases past document h with
    ⟨-, hperform⟩ | ⟨-, e, -, hattempt⟩ | ⟨-, image, encoded, -, -, -, -, hattempt⟩
  · refine ⟨none, ?_⟩
    rw [Task.effects, hperform]
    exact .refused
  · exact ⟨none, hattempt⟩
  · exact ⟨_, hattempt⟩

/-- **A page looks at and changes its two entries only.** -/
theorem pageTask_local (h : PageBerth fs dir settings source index) (past : List Call)
    (document : Document) :
    (pageTask past settings document source index).Local fs.SameFrame
      (pageRegion dir settings source index) := by
  refine ⟨?_, ?_, ?_⟩
  · intro a ha
    obtain ⟨placed, hattempt⟩ := pageTask_attempt past document (h.congr ha)
    exact hattempt.within (Or.inl rfl) (Or.inr rfl)
  · intro a ha k
    obtain ⟨placed, hattempt⟩ := pageTask_attempt past document (h.congr ha)
    exact ha.trans (hattempt.sameFrame_cut k)
  · intro a b ha hb hab
    exact pageTask_congr past document (ha.symm.trans hb) (h.congr ha)
      (pageKept_congr (h.congr ha) (h.congr hb) (hab _ (Or.inr rfl)))

/-- A page whose image has been put in its place is kept, unless images are made again. -/
theorem pageKept_of_placed {b : FileSystem} {content : Content}
    (hb : PageBerth b dir settings source index)
    (hfault : FileSystem.spellingFault? (imagePath settings source index)
      (pageFileName source.stemText index settings.format) = none)
    (hnode : b.node? (imageAt dir settings source index) = some (.file content)) :
    pageKept b settings source index = !settings.overwrite := by
  rw [pageKept, hasEntry_imagePath hb, hfault, hnode]
  rfl

/-- **A page that was cut off can be converted again.** -/
theorem pageTask_restartable (h : PageBerth fs dir settings source index) (past : List Call)
    (document : Document) :
    (pageTask past settings document source index).Restartable fs.SameFrame := by
  have hboth : ∀ {a : FileSystem}, fs.SameFrame a → ∀ k,
      let task := pageTask past settings document source index
      task.result (task.cut a k) = task.result a ∧ task.after (task.cut a k) = task.after a := by
    intro a hbase k task
    have ha : PageBerth a dir settings source index := h.congr hbase
    obtain ⟨placed, hattempt⟩ := pageTask_attempt past document ha
    -- where the page does the same again, only the steps have to be compared
    have hsame : ∀ c, a.SameFrame c →
        pageKept a settings source index = pageKept c settings source index →
        c.applyAll (task.effects a) = a.applyAll (task.effects a) →
        task.result c = task.result a ∧ task.after c = task.after a := by
      intro c hac hkept hall
      have hperform := pageTask_congr past document hac ha hkept
      rw [Task.after, Task.effects, Task.result, ← hperform]
      exact ⟨rfl, hall⟩
    -- nothing was done, or the temporary file was being filled, or all was done
    rw [Task.cut]
    rcases hattempt.cut_cases k with hcut | ⟨loose, hbegun, content, hcut⟩ | hcut
    · rw [hcut]
      exact ⟨rfl, rfl⟩
    · rw [hcut]
      have hframe := FileSystem.sameFrame_insert loose content
      refine hsame _ hframe (pageKept_congr ha (ha.congr hframe) ?_)
        (hattempt.redo_cut hbegun content)
      rw [FileSystem.node?_insert_of_ne (temporaryAt_ne_imageAt _ _ _ _)]
    · rw [hcut]
      have hframe := hattempt.sameFrame
      rcases pageTask_cases past document ha with
        ⟨-, hperform⟩ | ⟨-, e, -, hfailed⟩ | ⟨hkept, image, encoded, -, -, hresult, hfault, hmade⟩
      · rw [Task.effects, hperform]
        exact ⟨rfl, rfl⟩
      · refine hsame _ hframe (pageKept_congr ha (ha.congr hframe) ?_) hattempt.redo
        exact (hfailed.node?_target (temporaryAt_ne_imageAt _ _ _ _)).symm
      · have hnode := hmade.node?_target (temporaryAt_ne_imageAt _ _ _ _)
        have hkept' := pageKept_of_placed (ha.congr hframe) hfault hnode
        -- an image that was put in its place is made again or kept
        cases hagain : settings.overwrite with
        | true =>
            refine hsame _ hframe ?_ hattempt.redo
            rw [hkept, hkept', hagain]
            rfl
        | false =>
            rw [hagain] at hkept'
            have hperform := pageTask_of_kept past document hkept'
            refine ⟨(congrArg Prod.fst hperform).trans hresult.symm, ?_⟩
            have hnone : task.effects (a.applyAll (task.effects a)) = [] :=
              congrArg Prod.snd hperform
            rw [Task.after, hnone]
            rfl
  exact ⟨fun ha k => (hboth ha k).1, fun ha k => (hboth ha k).2⟩

end Page

end PageImages
