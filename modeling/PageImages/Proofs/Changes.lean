import PageImages.Proofs.Follow
import PageImages.Proofs.Runs

/-!
**What pages change.**

Converting a page changes at most two entries: its temporary file goes, and its image may take the
place of a file, of a link or of nothing.  So links may go, but no directory and no link comes, and
a last name stands for the same location as before, or for none.  This holds for the pages of all
documents one after the other, whatever the engine answers.

Main definitions:

* `pageTemporary` — the path of the temporary file of a page image;
* `PageChange`, `PageChanges` — what one page, and what pages one after the other, may change.

Main results:

* `convertPage_change` — converting a page is such a change;
* `PageChanges.changed` — **only page images and temporary files change**;
* `PageChanges.temporary` — a temporary file is as it was, or gone;
* `PageChanges.kept` — **what leads to an entry is kept**, unless images are made again;
* `documentRuns_changes` — the documents of a batch make such changes only.
-/

set_option autoImplicit false

namespace PageImages

/-! ### The paths of a page -/

/-- The path of the temporary file of a page image. -/
def pageTemporary (settings : Settings) (source : Path) (index : Nat) : Path :=
  temporaryPath (imagePath settings source index)

theorem pageTemporary_endsIn (settings : Settings) (source : Path) (index : Nat) :
    (pageTemporary settings source index).EndsIn settings.outputFolder.isAbsolute
      settings.outputFolder.parts
      (pageFileName source.stemText index settings.format ++ temporarySuffix) :=
  temporaryPath_endsIn (imagePath_endsIn settings source index)

section Locations

variable {a b : FileSystem} {settings : Settings} {source source' : Path} {index index' : Nat}
  {l : Location}

theorem locationAt?_imagePath :
    a.locationAt? (imagePath settings source index) = some l ↔
      FileSystem.spellingFault? (imagePath settings source index)
          (pageFileName source.stemText index settings.format) = none ∧
        ∃ dir, a.folder settings.outputFolder.isAbsolute settings.outputFolder.parts = .ok dir ∧
          l = imageAt dir settings source index :=
  FileSystem.locationAt?_iff (imagePath_endsIn settings source index)

theorem locationAt?_pageTemporary :
    a.locationAt? (pageTemporary settings source index) = some l ↔
      FileSystem.spellingFault? (pageTemporary settings source index)
          (pageFileName source.stemText index settings.format ++ temporarySuffix) = none ∧
        ∃ dir, a.folder settings.outputFolder.isAbsolute settings.outputFolder.parts = .ok dir ∧
          l = temporaryAt dir settings source index :=
  FileSystem.locationAt?_iff (pageTemporary_endsIn settings source index)

/-- No page image has its place where a temporary file has its own. -/
theorem location_ne {l' : Location} (h : a.locationAt? (imagePath settings source index) = some l)
    (h' : b.locationAt? (pageTemporary settings source' index') = some l') : l ≠ l' := by
  obtain ⟨-, dir, -, rfl⟩ := locationAt?_imagePath.1 h
  obtain ⟨-, dir', -, rfl⟩ := locationAt?_pageTemporary.1 h'
  intro heq
  exact pageFileName_ne_temporary _ _ _ _ (List.cons.inj heq).1

end Locations

/-! ### One page -/

/-- What converting a page may change. -/
inductive PageChange (settings : Settings) (source : Path) (index : Nat) (a : FileSystem) :
    FileSystem → Prop
  /-- Nothing changes. -/
  | idle : PageChange settings source index a a
  /-- The temporary file goes. -/
  | cleared {temporary : Location}
      (entry : a.locationAt? (pageTemporary settings source index) = some temporary)
      (loose : a.Loose temporary) : PageChange settings source index a (a.erase temporary)
  /-- The temporary file goes, and the image of a page that is not kept takes its place. -/
  | placed {temporary image : Location} {content : Content}
      (entry : a.locationAt? (pageTemporary settings source index) = some temporary)
      (loose : a.Loose temporary)
      (entry' : a.locationAt? (imagePath settings source index) = some image)
      (bare : a.node? image ≠ some .directory)
      (fresh : pageKept a settings source index = false) :
      PageChange settings source index a ((a.erase temporary).insert image (.file content))

section Change

variable {a b : FileSystem} {settings : Settings} {source : Path} {index : Nat}

/-- A page brings no directory and no link. -/
theorem PageChange.frameLe (h : PageChange settings source index a b) : b.FrameLe a := by
  cases h with
  | idle => exact .refl a
  | cleared entry loose => exact (FileSystem.sameFrame_erase loose).ge
  | placed entry loose entry' bare fresh =>
      exact (FileSystem.frameLe_of_insert _ _ _).trans (FileSystem.sameFrame_erase loose).ge

/-- A page changes the entries of its two paths only. -/
theorem PageChange.changed (h : PageChange settings source index a b) {l : Location}
    (hl : b.node? l ≠ a.node? l) :
    a.locationAt? (imagePath settings source index) = some l ∨
      a.locationAt? (pageTemporary settings source index) = some l := by
  cases h with
  | idle => exact absurd rfl hl
  | @cleared temporary entry loose =>
      by_cases ht : temporary = l
      · exact Or.inr (ht ▸ entry)
      · rw [FileSystem.node?_erase, if_neg ht] at hl
        exact absurd rfl hl
  | @placed temporary image content entry loose entry' bare fresh =>
      by_cases hi : image = l
      · exact Or.inl (hi ▸ entry')
      · by_cases ht : temporary = l
        · exact Or.inr (ht ▸ entry)
        · rw [FileSystem.node?_insert_of_ne hi, FileSystem.node?_erase, if_neg ht] at hl
          exact absurd rfl hl

/-- An entry that is no page image is as it was, or gone. -/
theorem PageChange.gone (h : PageChange settings source index a b) {l : Location}
    (hl : a.locationAt? (imagePath settings source index) ≠ some l) :
    b.node? l = a.node? l ∨ b.node? l = none := by
  cases h with
  | idle => exact Or.inl rfl
  | @cleared temporary entry loose =>
      rw [FileSystem.node?_erase]
      split
      · exact Or.inr rfl
      · exact Or.inl rfl
  | @placed temporary image content entry loose entry' bare fresh =>
      have hne : image ≠ l := by
        rintro rfl
        exact hl entry'
      rw [FileSystem.node?_insert_of_ne hne, FileSystem.node?_erase]
      split
      · exact Or.inr rfl
      · exact Or.inl rfl

/-- **Converting a page is such a change**, in a file system that got no directory and no link since
there was no link at the path of the temporary file. -/
theorem convertPage_change {ready : FileSystem} (hready : a.FrameLe ready)
    (hlink : ready.isLink (pageTemporary settings source index) = false) (past : List Call)
    (document : Document) :
    PageChange settings source index a
      (a.applyAll (convertPage a past settings document source index).effects) := by
  change PageChange settings source index a
    (a.applyAll ((pageTask past settings document source index).effects a))
  rw [Task.effects]
  cases hkept : pageKept a settings source index with
  | true =>
      rw [pageTask_of_kept past document hkept]
      exact .idle
  | false =>
      cases himage : pageImage past settings document index with
      | error e =>
          rw [pageTask_of_no_image hkept himage]
          exact .idle
      | ok image =>
          rw [pageTask_of_image hkept himage]
          have hends := imagePath_endsIn settings source index
          have hends' := pageTemporary_endsIn settings source index
          cases hdir : a.folder settings.outputFolder.isAbsolute settings.outputFolder.parts with
          | error e =>
              obtain ⟨e', -, heffects⟩ := saveImage_of_no_folder hends hdir image settings.format
                settings.quality
              simp only [heffects]
              exact .idle
          | ok dir =>
              -- a link at the temporary path would have been there before
              have hseat := FileSystem.seat_of_isLink hends'
                (FileSystem.folder_mono hready hdir) hlink
              have hlanding : a.Landing (imagePath settings source index) dir
                  (pageFileName source.stemText index settings.format) :=
                ⟨⟨_, _, hends, hdir⟩, ⟨_, _, hends', hdir⟩, fun hfault target hnode =>
                  hseat.unlinked hfault target (hready.keeps rfl hnode)⟩
              rcases saveImage_after hlanding image settings.format settings.quality with
                hsame | ⟨hfault, loose, hgone | ⟨hfault', bare, content, hplaced⟩⟩
              · simp only [hsame]
                exact .idle
              · simp only [hgone]
                exact .cleared (locationAt?_pageTemporary.2 ⟨hfault, dir, hdir, rfl⟩) loose
              · simp only [hplaced]
                exact .placed (locationAt?_pageTemporary.2 ⟨hfault, dir, hdir, rfl⟩) loose
                  (locationAt?_imagePath.2 ⟨hfault', dir, hdir, rfl⟩) bare hkept

end Change

/-! ### Pages one after the other -/

/-- What pages may change, one after the other, and each of them any number of times. -/
inductive PageChanges (settings : Settings) (pages : Path → Nat → Prop) :
    FileSystem → FileSystem → Prop
  /-- Nothing changes. -/
  | refl (a : FileSystem) : PageChanges settings pages a a
  /-- A page makes a change, and then others do. -/
  | head {source : Path} {index : Nat} {a b c : FileSystem} (page : pages source index)
      (first : PageChange settings source index a b) (rest : PageChanges settings pages b c) :
      PageChanges settings pages a c

namespace PageChanges

variable {settings : Settings} {pages : Path → Nat → Prop} {ready a b c : FileSystem}

theorem trans (h : PageChanges settings pages a b) (h' : PageChanges settings pages b c) :
    PageChanges settings pages a c := by
  induction h with
  | refl a => exact h'
  | head page first _ ih => exact .head page first (ih h')

theorem frameLe (h : PageChanges settings pages a b) : b.FrameLe a := by
  induction h with
  | refl a => exact .refl a
  | head _ first _ ih => exact ih.trans first.frameLe

/-- **Only page images and temporary files change.**  Their locations are those that the paths stand
for in a file system that got no directory and no link since. -/
theorem changed (h : PageChanges settings pages a b) (hready : a.FrameLe ready) {l : Location}
    (hl : b.node? l ≠ a.node? l) :
    ∃ source index, pages source index ∧
      (ready.locationAt? (imagePath settings source index) = some l ∨
        ready.locationAt? (pageTemporary settings source index) = some l) := by
  induction h with
  | refl a => exact absurd rfl hl
  | @head source index a b c page first rest ih =>
      by_cases hfirst : b.node? l = a.node? l
      · rw [← hfirst] at hl
        exact ih (first.frameLe.trans hready) hl
      · refine ⟨source, index, page, ?_⟩
        rcases first.changed hfirst with himage | htemporary
        · exact Or.inl (FileSystem.locationAt?_mono hready (imagePath_endsIn ..) himage)
        · exact Or.inr (FileSystem.locationAt?_mono hready (pageTemporary_endsIn ..) htemporary)

/-- **A temporary file is as it was, or gone.** -/
theorem temporary (h : PageChanges settings pages a b) {source : Path} {index : Nat} {l : Location}
    (hl : ready.locationAt? (pageTemporary settings source index) = some l) :
    b.node? l = a.node? l ∨ b.node? l = none := by
  induction h with
  | refl a => exact Or.inl rfl
  | head _ first _ ih =>
      have hgone := first.gone fun himage => location_ne himage hl rfl
      rcases ih with hsame | hnone
      · rw [hsame]
        exact hgone
      · exact Or.inr hnone

end PageChanges

/-! ### Paths that lead to an entry -/

/-- The path of a page image leads to an entry, if there still is an output folder. -/
def StillLeads (fs : FileSystem) (settings : Settings) (source : Path) (index : Nat) (l : Location)
    (node : Node) : Prop :=
  (∃ e, fs.folder settings.outputFolder.isAbsolute settings.outputFolder.parts = .error e) ∨
    fs.stat (imagePath settings source index) = .ok (l, node)

theorem StillLeads.stat {fs : FileSystem} {settings : Settings} {source : Path} {index : Nat}
    {l : Location} {node : Node} (h : StillLeads fs settings source index l node) {dir : Location}
    (hdir : fs.folder settings.outputFolder.isAbsolute settings.outputFolder.parts = .ok dir) :
    fs.stat (imagePath settings source index) = .ok (l, node) := by
  rcases h with ⟨e, he⟩ | hstat
  · rw [hdir] at he
    cases he
  · exact hstat

section Kept

variable {ready a b : FileSystem} {settings : Settings} {source source' : Path} {index index' : Nat}
  {l : Location} {node : Node}

/-- An image that is missing is not the one that a path stands for which leads to an entry. -/
theorem ne_of_missing {image : Location}
    (hmissing : a.hasEntry (imagePath settings source' index') = false)
    (himage : a.locationAt? (imagePath settings source' index') = some image)
    (hstat : a.stat (imagePath settings source index) = .ok (l, node)) {l' : Location}
    (hl' : ready.locationAt? (imagePath settings source index) = some l') : l' ≠ image := by
  obtain ⟨-, dir, -, rfl⟩ := locationAt?_imagePath.1 himage
  obtain ⟨-, dir', -, rfl⟩ := locationAt?_imagePath.1 hl'
  intro hat
  obtain ⟨hstem, hindex, -⟩ := pageFileName_injective (List.cons.inj hat).1
  rw [← hindex, ← imagePath_congr hstem, FileSystem.hasEntry, hstat] at hmissing
  cases hmissing

/-- An image that is missing is no file to which a path leads. -/
theorem file_ne_of_missing {image : Location} {path : Path} {content : Content}
    (hmissing : a.hasEntry (imagePath settings source' index') = false)
    (himage : a.locationAt? (imagePath settings source' index') = some image)
    (hstat : a.stat path = .ok (l, .file content)) : l ≠ image := by
  obtain ⟨hfault, dir, hdir, rfl⟩ := locationAt?_imagePath.1 himage
  rintro rfl
  rw [FileSystem.hasEntry_of_file (imagePath_endsIn ..) hdir hfault
    (FileSystem.node?_of_stat hstat)] at hmissing
  cases hmissing

/-- **A page changes nothing that the path of a page image stands for and leads to**, unless images
are made again, or the path leads to the temporary file of the page. -/
theorem PageChange.kept (h : PageChange settings source' index' a b)
    (hkeep : settings.overwrite = false)
    (hl : a.locationAt? (pageTemporary settings source' index') ≠ some l)
    (hleads : StillLeads a settings source index l node) :
    StillLeads b settings source index l node ∧
      (∀ l', ready.locationAt? (imagePath settings source index) = some l' →
        b.node? l' = a.node? l') ∧
      ∀ content, node = .file content → b.node? l = a.node? l := by
  have hframe := h.frameLe
  cases h with
  | idle => exact ⟨hleads, fun _ _ => rfl, fun _ _ => rfl⟩
  | @cleared temporary entry loose =>
      obtain ⟨-, dir, hdir, -⟩ := locationAt?_pageTemporary.1 entry
      have hne : temporary ≠ l := fun hat => hl (hat ▸ entry)
      have hout : ∀ l', l' ≠ temporary → (a.erase temporary).node? l' = a.node? l' := by
        intro l' hl'
        rw [FileSystem.node?_erase, if_neg hl'.symm]
      refine ⟨Or.inr ?_, fun l' hl' => hout l' (location_ne hl' entry), fun _ _ => hout l hne.symm⟩
      exact @FileSystem.stat_outside a (a.erase temporary) rfl (· = temporary) hout
        (fun l' hl' => hl' ▸ loose) _ _ _ (hleads.stat hdir) fun hat => absurd hat.symm hne
  | @placed temporary image content entry loose entry' bare fresh =>
      obtain ⟨hfault, dir, hdir, himage⟩ := locationAt?_imagePath.1 entry'
      have hstat := hleads.stat hdir
      have hne : temporary ≠ l := fun hat => hl (hat ▸ entry)
      have hmissing : a.hasEntry (imagePath settings source' index') = false := by
        simpa [pageKept, hkeep] using fresh
      have hout : ∀ l', l' ≠ temporary → l' ≠ image →
          ((a.erase temporary).insert image (.file content)).node? l' = a.node? l' := by
        intro l' ht hi
        rw [FileSystem.node?_insert_of_ne hi.symm, FileSystem.node?_erase, if_neg ht.symm]
      refine ⟨?_, fun l' hl' => hout l' (location_ne hl' entry)
          (ne_of_missing hmissing entry' hstat hl'),
        fun content' hnode => hout l hne.symm (file_ne_of_missing hmissing entry' (hnode ▸ hstat))⟩
      rw [himage] at bare hout hframe ⊢
      cases hdir' : ((a.erase temporary).insert (imageAt dir settings source' index')
          (.file content)).folder settings.outputFolder.isAbsolute
            settings.outputFolder.parts with
      | error e => exact Or.inl ⟨e, hdir'⟩
      | ok dir' =>
          have hsame := FileSystem.folder_mono hframe hdir'
          rw [hdir] at hsame
          cases hsame
          exact Or.inr (FileSystem.stat_of_displaced hframe (imagePath_endsIn ..)
            (imagePath_endsIn settings source' index') hdir' loose hfault bare hmissing hout hstat
            hne.symm)

/-- **What the path of a page image stands for and leads to is kept**, unless images are made again,
or it leads to a temporary file. -/
theorem PageChanges.kept {pages : Path → Nat → Prop} (h : PageChanges settings pages a b)
    (hready : a.FrameLe ready) (hkeep : settings.overwrite = false)
    (hl : ∀ source index, pages source index →
      ready.locationAt? (pageTemporary settings source index) ≠ some l)
    (hleads : StillLeads a settings source index l node) :
    (∀ l', ready.locationAt? (imagePath settings source index) = some l' →
        b.node? l' = a.node? l') ∧
      ∀ content, node = .file content → b.node? l = a.node? l := by
  induction h with
  | refl a => exact ⟨fun _ _ => rfl, fun _ _ => rfl⟩
  | @head source' index' a b c page first rest ih =>
      have hne : a.locationAt? (pageTemporary settings source' index') ≠ some l := fun hat =>
        hl _ _ page (FileSystem.locationAt?_mono hready (pageTemporary_endsIn ..) hat)
      obtain ⟨hleads', himage, hfile⟩ := first.kept hkeep hne hleads
      obtain ⟨himage', hfile'⟩ := ih (first.frameLe.trans hready) hleads'
      exact ⟨fun l' hl' => (himage' l' hl').trans (himage l' hl'),
        fun content hnode => (hfile' content hnode).trans (hfile content hnode)⟩

end Kept

/-! ### The pages of documents -/

section Documents

variable {settings : Settings} {pages : Path → Nat → Prop} {ready : FileSystem}
  (hlink : ∀ source index, pages source index →
    ready.isLink (pageTemporary settings source index) = false)
include hlink

/-- The pages of a document make such changes only. -/
theorem pageRuns_changes (document : Document) {source : Path} {count index : Nat}
    {a : FileSystem} {past : List Call} (hready : a.FrameLe ready)
    (hpages : ∀ i, index ≤ i → i < index + count → pages source i) :
    PageChanges settings pages a
      (a.applyAll ((pageRuns settings document source count index a past).flatMap
        PageRun.effects)) := by
  induction count generalizing index a past with
  | zero => exact .refl a
  | succ count ih =>
      have hpage := hpages index (Nat.le_refl _) (by omega)
      have hfirst := convertPage_change hready (hlink source index hpage) past document
      rw [pageRuns, List.flatMap_cons, FileSystem.applyAll_append]
      exact .head hpage hfirst (ih (hfirst.frameLe.trans hready) fun i hi hlt =>
        hpages i (by omega) (by omega))

theorem convertDocument_changes {engine : Engine} {observed : Bool} {source : Path}
    {a : FileSystem} {past : List Call} (hready : a.FrameLe ready)
    (hpages : let report := (convertDocument a past settings engine source observed).report
      ∀ index < settings.pageLimit report.pagesTotal, pages report.path index) :
    PageChanges settings pages a
      (a.applyAll (convertDocument a past settings engine source observed).effects) := by
  rcases convertDocument_ended_or_pages a past settings engine source observed with
    ⟨report, notices, calls, hrun, -, -⟩ | ⟨document, hrun⟩
  · rw [hrun, DocumentRun.effects_ended]
    exact .refl a
  · have hrecords := convertPages_records a (past ++ [.opened source]) settings document source
      observed
    simp only [hrun, DocumentRun.report_enclosed, hrecords.path, hrecords.total] at hpages
    rw [hrun, DocumentRun.effects_enclosed, convertPages_effects]
    refine pageRuns_changes hlink document hready fun i _ hi => hpages i ?_
    rwa [Nat.zero_add] at hi

/-- **The documents of a batch make such changes only.** -/
theorem documentRuns_changes {engine : Engine} {observed : Bool} {sources : List Path}
    {a : FileSystem} {past : List Call} (hready : a.FrameLe ready)
    (hpages : ∀ run ∈ documentRuns settings engine observed a past sources,
      ∀ index < settings.pageLimit run.report.pagesTotal, pages run.report.path index) :
    PageChanges settings pages a
      (a.applyAll ((documentRuns settings engine observed a past sources).flatMap
        DocumentRun.effects)) := by
  induction sources generalizing a past with
  | nil => exact .refl a
  | cons source sources ih =>
      rw [documentRuns] at hpages ⊢
      split at hpages
      case isTrue hstop =>
        rw [if_pos hstop, List.flatMap_cons, List.flatMap_nil, List.append_nil]
        exact convertDocument_changes hlink hready (hpages _ List.mem_cons_self)
      case isFalse hstop =>
        have hfirst := convertDocument_changes hlink hready (hpages _ List.mem_cons_self)
        rw [if_neg hstop, List.flatMap_cons, FileSystem.applyAll_append]
        exact hfirst.trans (ih (hfirst.frameLe.trans hready) fun run hrun =>
          hpages run (List.mem_cons_of_mem _ hrun))

end Documents

end PageImages
