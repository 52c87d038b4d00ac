import PageImages.Proofs.Changes

/-!
**What a batch leaves alone.**

A batch makes the directories on the way to its output folder, and then the pages of its documents
are gone through.  Whatever the engine answers, the only entries that can change are these
directories, the page images and their temporary files.  A page image is looked for when its page is
reached; so one that leads to a temporary file can be found missing then, though it was there
before.

Main definitions:

* `BatchPage` — the pages that a batch goes through;
* `ImageEntry`, `TemporaryEntry`, `MadeDirectory` — the entries that may change;
* `BatchFrame` — what stays as it is, and what may become of the rest.

Main results:

* `node?_outset` — making the output folder changes nothing else;
* `isLink_outset` — links can be looked for before that, unless the path of the folder has a `..` in
  it;
* `convertBatch_changes` — after that a batch makes changes of its pages only;
* `convertBatch_frame` — **a batch changes its own entries only**;
* `convertBatch_frame_exceptions` — a page image that is replaced though it is to be kept, and a
  temporary file in whose place there is a directory.
-/

set_option autoImplicit false

namespace PageImages

/-! ### The entries of a batch -/

/-- A page that a batch goes through: the document was found, and the engine could open it and
counted the page. -/
structure BatchPage (fs : FileSystem) (settings : Settings) (engine : Engine) (run : BatchRun)
    (source : Path) (index : Nat) : Prop where
  /-- The document is one of those that were found. -/
  found : source ∈ foundDocuments fs settings
  /-- The page is one of those that were counted when the document was opened. -/
  counted : ∃ past later document, run.calls = past ++ .opened source :: later ∧
    engine.openDocument past source = .ok document ∧ document.encrypted = false ∧
    index < settings.pageLimit document.pages

/-- The entry of a page image of the batch. -/
def ImageEntry (fs : FileSystem) (settings : Settings) (engine : Engine) (run : BatchRun)
    (l : Location) : Prop :=
  ∃ source index, BatchPage fs settings engine run source index ∧
    (outset fs settings).locationAt? (imagePath settings source index) = some l

/-- The entry of the temporary file of a page image of the batch. -/
def TemporaryEntry (fs : FileSystem) (settings : Settings) (engine : Engine) (run : BatchRun)
    (l : Location) : Prop :=
  ∃ source index, BatchPage fs settings engine run source index ∧
    (outset fs settings).locationAt? (pageTemporary settings source index) = some l

/-- The entry is a directory that was made on the way to the output folder. -/
structure MadeDirectory (fs : FileSystem) (settings : Settings) (after : FileSystem)
    (l : Location) : Prop where
  /-- There was nothing. -/
  missing : fs.node? l = none
  /-- There is a directory. -/
  made : after.node? l = some .directory
  /-- It is on the way. -/
  way : (outset fs settings).OnTheWay settings.outputFolder l

/-- What a batch leaves as it is, and what may become of the rest. -/
structure BatchFrame (fs : FileSystem) (settings : Settings) (engine : Engine) (run : BatchRun)
    (after : FileSystem) : Prop where
  /-- Only directories on the way, page images and temporary files change. -/
  changed : ∀ l, after.node? l ≠ fs.node? l → MadeDirectory fs settings after l ∨
    ImageEntry fs settings engine run l ∨ TemporaryEntry fs settings engine run l
  /-- No document changes. -/
  documents : ∀ source ∈ foundDocuments fs settings,
    ∃ l, (outset fs settings).locationAt? source = some l ∧ after.node? l = fs.node? l
  /-- Unless images are made again, a page image that exists does not change, nor does the file that
  it leads to, unless that is a temporary file. -/
  kept : settings.overwrite = false → ∀ source index l node,
    fs.stat (imagePath settings source index) = .ok (l, node) →
    ¬ TemporaryEntry fs settings engine run l →
    (∃ l', fs.locationAt? (imagePath settings source index) = some l' ∧
        after.node? l' = fs.node? l') ∧
      ∀ content, node = .file content → after.node? l = fs.node? l
  /-- A temporary file is as it was, or gone, or there is a directory on the way. -/
  temporary : ∀ l, TemporaryEntry fs settings engine run l →
    after.node? l = fs.node? l ∨ after.node? l = none ∨ MadeDirectory fs settings after l
  /-- A batch that is refused calls nobody, and makes directories at most. -/
  refused : ∀ e, run.outcome = .error e → run.calls = [] ∧ run.events = [] ∧
    ∀ l, after.node? l = fs.node? l ∨ MadeDirectory fs settings after l

/-! ### Before the first document -/

section Outset

variable (fs : FileSystem) (settings : Settings)

/-- Making the output folder changes nothing else. -/
theorem node?_outset (l : Location) :
    (outset fs settings).node? l = fs.node? l ∨
      MadeDirectory fs settings (outset fs settings) l := by
  cases hinput : fs.isDirectory settings.inputFolder with
  | false =>
      left
      rw [outset_of_missing hinput]
  | true =>
      rcases fs.createDirectories_changed settings.outputFolder l with
        hsame | ⟨hmissing, hmade, hway⟩
      · left
        rw [outset_eq hinput, prepared, hsame]
      · refine Or.inr ⟨hmissing, ?_, ?_⟩ <;> rw [outset_eq hinput]
        · exact hmade
        · exact hway

theorem frameLe_outset : fs.FrameLe (outset fs settings) := by
  cases hinput : fs.isDirectory settings.inputFolder with
  | false =>
      rw [outset_of_missing hinput]
      exact .refl fs
  | true =>
      have hframe := fs.createDirectories_frameLe settings.outputFolder
        (fs.createDirectories settings.outputFolder).1.length
      rw [List.take_length] at hframe
      rw [outset_eq hinput]
      exact hframe

variable {fs settings}

/-- What a path leads to is the same after the output folder has been made. -/
theorem stat_outset {path : Path} {l : Location} {node : Node} (h : fs.stat path = .ok (l, node)) :
    (outset fs settings).stat path = .ok (l, node) := by
  have hmissing : ∀ l, (outset fs settings).node? l ≠ fs.node? l → fs.node? l = none := fun l hl =>
    ((node?_outset fs settings l).resolve_left hl).missing
  exact FileSystem.stat_outside (frameLe_outset fs settings).here.symm
    (fun l hl => Decidable.not_not.1 hl) (fun l hl => .of_none (hmissing l hl)) h (hmissing l)

/-- A link at the path of a temporary file was there before the output folder was made, unless the
path of that folder has a `..` in it or entries lie outside of all directories. -/
theorem isLink_outset (hattached : fs.Attached) (hup : Path.Part.up ∉ settings.outputFolder.parts)
    {source : Path} {index : Nat} (h : fs.isLink (pageTemporary settings source index) = false) :
    (outset fs settings).isLink (pageTemporary settings source index) = false := by
  cases hinput : fs.isDirectory settings.inputFolder with
  | false => rwa [outset_of_missing hinput]
  | true =>
      rw [outset_eq hinput]
      exact FileSystem.createDirectories_isLink hattached hup
        (pageTemporary_endsIn settings source index) h

end Outset

/-! ### Documents -/

/-- A document that was found leads to a file, and ends in the name of a document. -/
theorem foundDocuments_file {fs : FileSystem} {settings : Settings} {source : Path}
    (h : source ∈ foundDocuments fs settings) :
    (outset fs settings).isFile source = true ∧
      ∃ rooted above last b, source.EndsIn rooted above last ∧ last.getLast? = some b ∧
        lowerOctet b = 0x66 := by
  rw [foundDocuments] at h
  split at h
  case isFalse => cases h
  case isTrue hinput =>
    rw [batchSources, findDocuments] at h
    split at h
    · cases h
    · obtain ⟨name, hname, rfl⟩ := List.mem_map.1 h
      rw [selectDocuments, List.mem_mergeSort, List.mem_filter, Bool.and_eq_true] at hname
      rw [outset_eq hinput]
      exact ⟨hname.2.2, endsIn_document _ hname.2.1⟩

/-- The entry of a document that was found is none of those that pages change. -/
theorem foundDocuments_entry {fs : FileSystem} {settings : Settings} {source : Path}
    (h : source ∈ foundDocuments fs settings) :
    ∃ l, (outset fs settings).locationAt? source = some l ∧
      (outset fs settings).node? l = fs.node? l ∧
      ∀ (a : FileSystem) source' index, a.locationAt? (imagePath settings source' index) ≠ some l ∧
        a.locationAt? (pageTemporary settings source' index) ≠ some l := by
  obtain ⟨hfile, rooted, above, last, b, hends, hlast, hlow⟩ := foundDocuments_file h
  have hentry : (outset fs settings).hasEntry source = true := by
    rw [FileSystem.isFile] at hfile
    rw [FileSystem.hasEntry]
    split at hfile
    · next heq => rw [heq]
    · cases hfile
  obtain ⟨dir, hdir, hfault, hl, -⟩ := FileSystem.locationAt?_of_hasEntry hends hentry
  refine ⟨last :: dir, hl, ?_, fun a source' index => ⟨?_, ?_⟩⟩
  · refine (node?_outset fs settings (last :: dir)).resolve_right fun hmade => ?_
    -- a directory is no file
    have hseat : (outset fs settings).Seat source dir last :=
      ⟨⟨rooted, above, hends, hdir⟩, fun _ target hlink => by
        rw [hmade.made] at hlink
        cases hlink⟩
    rw [hseat.isFile_eq, hfault, hmade.made] at hfile
    cases hfile
  · intro hat
    obtain ⟨-, dir', -, hname⟩ := locationAt?_imagePath.1 hat
    rw [(List.cons.inj hname).1, getLast?_pageFileName] at hlast
    cases hlast
    exact absurd hlow (by decide)
  · intro hat
    obtain ⟨-, dir', -, hname⟩ := locationAt?_pageTemporary.1 hat
    rw [(List.cons.inj hname).1, getLast?_temporary] at hlast
    cases hlast
    exact absurd hlow (by decide)

/-! ### The pages of a batch -/

section Pages

variable {fs : FileSystem} {settings : Settings} {engine : Engine} {observed : Bool}

/-- The pages in the report of a document are pages that the engine counted. -/
theorem convertDocument_counted {past : List Call} {source : Path} {index : Nat}
    (h : index < settings.pageLimit
      (convertDocument fs past settings engine source observed).report.pagesTotal) :
    ∃ rest document,
      (convertDocument fs past settings engine source observed).calls = .opened source :: rest ∧
        engine.openDocument past source = .ok document ∧ document.encrypted = false ∧
        index < settings.pageLimit document.pages := by
  have hzero : ¬ index < settings.pageLimit 0 := by simp [Settings.pageLimit]
  rcases convertDocument_cases fs past settings engine source observed with
    ⟨-, hrun⟩ | ⟨-, ⟨e, -, hrun⟩ | ⟨document, hopen, ⟨-, hrun⟩ | ⟨hreadable, hrun⟩⟩⟩
  · rw [hrun] at h
    exact absurd h hzero
  · rw [hrun] at h
    exact absurd h hzero
  · rw [hrun] at h
    exact absurd h hzero
  · rw [hrun, DocumentRun.report_enclosed, (convertPages_records _ _ _ _ _ observed).total] at h
    exact ⟨_, document, congrArg DocumentRun.calls hrun, hopen, hreadable, h⟩

theorem batchRuns_page (hfree : fs.isDirectory settings.inputFolder = true →
      (fs.createDirectories settings.outputFolder).2 = .ok ())
    {run : DocumentRun} (hrun : run ∈ batchRuns fs settings engine observed) {index : Nat}
    (hindex : index < settings.pageLimit run.report.pagesTotal) :
    BatchPage fs settings engine (convertBatch fs settings engine observed) run.report.path
      index := by
  obtain ⟨earlier, later, hsplit⟩ := List.append_of_mem hrun
  have hconvert := documentRuns_split hsplit
  rw [hconvert] at hindex
  obtain ⟨rest, document, hcalls, hopen, hreadable, hindex⟩ := convertDocument_counted hindex
  rw [← hconvert] at hcalls
  refine ⟨(documentRuns_paths _ _ _).subset (List.mem_map_of_mem hrun), _,
    rest ++ later.flatMap DocumentRun.calls, document, ?_, hopen, hreadable, hindex⟩
  rw [(convertBatch_of_runs engine observed hfree).2.2.1, hsplit, List.flatMap_append,
    List.flatMap_cons, hcalls, List.nil_append, List.cons_append]

/-- **Once its output folder has been made, a batch makes changes of its pages only.** -/
theorem convertBatch_changes
    (hlink : ∀ source index, BatchPage fs settings engine
      (convertBatch fs settings engine observed) source index →
        (outset fs settings).isLink (pageTemporary settings source index) = false) :
    PageChanges settings
      (BatchPage fs settings engine (convertBatch fs settings engine observed)) (outset fs settings)
      (fs.applyAll (convertBatch fs settings engine observed).effects) := by
  rcases refused_or_free fs settings with ⟨hinput, e, hmade⟩ | hfree
  · rw [(convertBatch_of_error engine observed hinput hmade).2.1]
    exact .refl _
  · rw [(convertBatch_of_runs engine observed hfree).2.1, FileSystem.applyAll_append]
    exact documentRuns_changes hlink (.refl _) fun run hrun index hindex =>
      batchRuns_page hfree hrun hindex

end Pages

/-! ### What the pages of a batch change -/

section Changes

variable {fs : FileSystem} {settings : Settings} {engine : Engine} {run : BatchRun}
  {after : FileSystem}
  (h : PageChanges settings (BatchPage fs settings engine run) (outset fs settings) after)
include h

theorem changed_of_changes {l : Location} (hl : after.node? l ≠ fs.node? l) :
    MadeDirectory fs settings after l ∨ ImageEntry fs settings engine run l ∨
      TemporaryEntry fs settings engine run l := by
  by_cases hsame : after.node? l = (outset fs settings).node? l
  · rw [hsame] at hl
    have hmade := (node?_outset fs settings l).resolve_left hl
    exact Or.inl ⟨hmade.missing, hsame.trans hmade.made, hmade.way⟩
  · obtain ⟨source, index, hpage, himage | htemporary⟩ := h.changed (.refl _) hsame
    · exact Or.inr (Or.inl ⟨source, index, hpage, himage⟩)
    · exact Or.inr (Or.inr ⟨source, index, hpage, htemporary⟩)

theorem document_of_changes {source : Path} (hsource : source ∈ foundDocuments fs settings) :
    ∃ l, (outset fs settings).locationAt? source = some l ∧ after.node? l = fs.node? l := by
  obtain ⟨l, hl, hsame, hother⟩ := foundDocuments_entry hsource
  refine ⟨l, hl, Eq.trans (Decidable.not_not.1 fun hne => ?_) hsame⟩
  obtain ⟨source', index, -, himage | htemporary⟩ := h.changed (.refl _) hne
  · exact (hother _ source' index).1 himage
  · exact (hother _ source' index).2 htemporary

theorem kept_of_changes (hkeep : settings.overwrite = false) {source : Path} {index : Nat}
    {l : Location} {node : Node} (hstat : fs.stat (imagePath settings source index) = .ok (l, node))
    (htemporary : ¬ TemporaryEntry fs settings engine run l) :
    (∃ l', fs.locationAt? (imagePath settings source index) = some l' ∧
        after.node? l' = fs.node? l') ∧
      ∀ content, node = .file content → after.node? l = fs.node? l := by
  have hends := imagePath_endsIn settings source index
  have hleads : StillLeads (outset fs settings) settings source index l node :=
    Or.inr (stat_outset hstat)
  obtain ⟨himage, hfile⟩ := h.kept (.refl _) hkeep
    (fun source' index' hpage hat => htemporary ⟨source', index', hpage, hat⟩) hleads
  have hentry : fs.hasEntry (imagePath settings source index) = true := by
    rw [FileSystem.hasEntry, hstat]
  obtain ⟨dir, -, -, hl', hpresent⟩ := FileSystem.locationAt?_of_hasEntry hends hentry
  -- what is there was not made
  have houtset : ∀ l, fs.node? l ≠ none → (outset fs settings).node? l = fs.node? l := fun l hl =>
    (node?_outset fs settings l).resolve_right fun hmade => hl hmade.missing
  refine ⟨⟨_, hl', ?_⟩, ?_⟩
  · have hat := FileSystem.locationAt?_mono (frameLe_outset fs settings) hends hl'
    exact (himage _ hat).trans (houtset _ hpresent)
  · rintro content rfl
    refine (hfile content rfl).trans (houtset _ ?_)
    rw [FileSystem.node?_of_stat hstat]
    exact Option.some_ne_none _

theorem temporary_of_changes {l : Location} (hl : TemporaryEntry fs settings engine run l) :
    after.node? l = fs.node? l ∨ after.node? l = none ∨ MadeDirectory fs settings after l := by
  obtain ⟨source, index, -, hat⟩ := hl
  rcases h.temporary hat with hsame | hnone
  · rcases node?_outset fs settings l with hsame' | hmade
    · exact Or.inl (hsame.trans hsame')
    · exact Or.inr (Or.inr ⟨hmade.missing, hsame.trans hmade.made, hmade.way⟩)
  · exact Or.inr (Or.inl hnone)

end Changes

/-- A batch that is refused calls nobody, and makes directories at most. -/
theorem convertBatch_refused {fs : FileSystem} {settings : Settings} {engine : Engine}
    {observed : Bool} {e : Fatal}
    (h : (convertBatch fs settings engine observed).outcome = .error e) :
    let run := convertBatch fs settings engine observed
    run.calls = [] ∧ run.events = [] ∧
      fs.applyAll run.effects = outset fs settings := by
  intro run
  rcases refused_or_free fs settings with ⟨hinput, e', hmade⟩ | hfree
  · obtain ⟨-, heffects, hcalls, hevents⟩ := convertBatch_of_error engine observed hinput hmade
    exact ⟨hcalls, hevents, congrArg fs.applyAll heffects⟩
  · rw [(convertBatch_of_runs engine observed hfree).1] at h
    cases h

/-! ### A folder whose entries lead to each other -/

namespace Sample

/-- The document `a.pdf`, and an output folder in which there is what an earlier run left of its
first page, an image of its second page that leads to that, and an image of its third page. -/
def crossed : FileSystem :=
  ((((FileSystem.empty.insert [inputName] .directory).insert [letter, inputName] (.file [])).insert
    [outputName] .directory).insert
    [pageFileName ['a'] 0 .png ++ temporarySuffix, outputName] (.file [.octets [0x00]])).insert
    [pageFileName ['a'] 1 .png, outputName]
    (.link ⟨pageFileName ['a'] 0 .png ++ temporarySuffix⟩)
    |>.insert [pageFileName ['a'] 2 .png, outputName] (.file [])

/-- Settings for the folder `p`, by way of a folder inside of it that has the name of a temporary
file. -/
def roundabout : Settings :=
  { settings with
    outputFolder := ⟨0x70 :: Path.slash :: (pageFileName ['a'] 0 .png ++ temporarySuffix)
      ++ Path.slash :: [Path.dot, Path.dot]⟩ }

theorem foundDocuments_crossed : foundDocuments crossed settings = [source] := by
  have hlist : (prepared crossed settings).list settings.inputFolder = .ok [letter] := rfl
  rw [foundDocuments_eq (by decide +kernel)]
  exact @findDocuments_of_list _ _ [letter] [letter] hlist (by decide +kernel) (by decide +kernel)

theorem foundDocuments_roundabout : foundDocuments crossed roundabout = [source] := by
  have hlist : (prepared crossed roundabout).list roundabout.inputFolder = .ok [letter] := rfl
  rw [foundDocuments_eq (by decide +kernel)]
  exact @findDocuments_of_list _ _ [letter] [letter] hlist (by decide +kernel) (by decide +kernel)

/-- The engine counts three pages. -/
theorem batchPage_lt {fs : FileSystem} {settings : Settings} {run : BatchRun} {source : Path}
    {index : Nat} (h : BatchPage fs settings engine run source index) : index < 3 := by
  obtain ⟨past, later, document, -, hopen, -, hindex⟩ := h.counted
  have hpages : document.pages = 3 := by
    simp only [engine] at hopen
    split at hopen
    · cases hopen
    · cases hopen
      rfl
  rw [hpages, Settings.pageLimit] at hindex
  split at hindex <;> omega

/-- The three paths of temporary files tell whether there are links at such paths. -/
theorem unlinked_of_three {fs : FileSystem} {settings : Settings} {run : BatchRun}
    (hfound : foundDocuments fs settings = [source])
    (hthree : ∀ i < 3, (outset fs settings).isLink (pageTemporary settings source i) = false)
    (source' : Path) (index : Nat) (h : BatchPage fs settings engine run source' index) :
    (outset fs settings).isLink (pageTemporary settings source' index) = false := by
  have hsource := h.found
  rw [hfound, List.mem_singleton] at hsource
  rw [hsource]
  exact hthree index (batchPage_lt h)

end Sample

/-! ### The frame of a batch -/

/-- **A batch changes its own entries only**, where no link stands at the path of a temporary file
once the output folder has been made (`isLink_outset` says when that can be told before). -/
theorem convertBatch_frame (fs : FileSystem) (settings : Settings) (engine : Engine)
    (observed : Bool)
    (hlink : ∀ source index, BatchPage fs settings engine
      (convertBatch fs settings engine observed) source index →
        (outset fs settings).isLink (pageTemporary settings source index) = false) :
    let run := convertBatch fs settings engine observed
    BatchFrame fs settings engine run (fs.applyAll run.effects) := by
  intro run
  have hchanges := convertBatch_changes hlink
  refine ⟨fun l hl => changed_of_changes hchanges hl,
    fun source hsource => document_of_changes hchanges hsource,
    fun hkeep source index l node hstat htemporary =>
      kept_of_changes hchanges hkeep hstat htemporary,
    fun l hl => temporary_of_changes hchanges hl, fun e he => ?_⟩
  obtain ⟨hcalls, hevents, hafter⟩ := convertBatch_refused he
  refine ⟨hcalls, hevents, fun l => ?_⟩
  simp only [run, hafter]
  exact node?_outset fs settings l

/-- A batch whose output folder holds what an earlier run left, an image that leads to it, and an
image that is kept. -/
theorem convertBatch_frame_sample :
    let run := convertBatch Sample.crossed Sample.settings Sample.engine true;
    (∀ source index, BatchPage Sample.crossed Sample.settings Sample.engine run source index →
        (outset Sample.crossed Sample.settings).isLink
          (pageTemporary Sample.settings source index) = false) ∧
      BatchFrame Sample.crossed Sample.settings Sample.engine run
        (Sample.crossed.applyAll run.effects) := by
  have hthree : ∀ i < 3,
      Sample.crossed.isLink (pageTemporary Sample.settings Sample.source i) = false := by
    decide +kernel
  have hlink := @Sample.unlinked_of_three Sample.crossed Sample.settings
    (convertBatch Sample.crossed Sample.settings Sample.engine true)
    Sample.foundDocuments_crossed
    fun i hi => isLink_outset (by decide +kernel) (by decide) (hthree i hi)
  exact ⟨hlink, convertBatch_frame Sample.crossed Sample.settings Sample.engine true hlink⟩

/-- An image that leads to a temporary file is replaced though images are not made again, since that
file is gone when its page is reached.  And where the way to the output folder leads through the
name of a temporary file, there is a directory of that name afterwards. -/
theorem convertBatch_frame_exceptions :
    (let run := convertBatch Sample.crossed Sample.settings Sample.engine false;
      (∀ source index, BatchPage Sample.crossed Sample.settings Sample.engine run source index →
          (outset Sample.crossed Sample.settings).isLink
            (pageTemporary Sample.settings source index) = false) ∧
        Sample.settings.overwrite = false ∧
        Sample.crossed.hasEntry (imagePath Sample.settings Sample.source 1) = true ∧
        ∃ l, Sample.crossed.locationAt? (imagePath Sample.settings Sample.source 1) = some l ∧
          (Sample.crossed.applyAll run.effects).node? l ≠ Sample.crossed.node? l) ∧
      (let run := convertBatch Sample.crossed Sample.roundabout Sample.engine false;
        (∀ source index, BatchPage Sample.crossed Sample.roundabout Sample.engine run source index →
            (outset Sample.crossed Sample.roundabout).isLink
              (pageTemporary Sample.roundabout source index) = false) ∧
          ∃ l, TemporaryEntry Sample.crossed Sample.roundabout Sample.engine run l ∧
            Sample.crossed.node? l = none ∧
            (Sample.crossed.applyAll run.effects).node? l = some .directory) := by
  constructor
  · obtain ⟨-, heffects, -, -⟩ := @convertBatch_of_runs Sample.crossed Sample.settings
      Sample.engine false fun _ => rfl
    refine ⟨Sample.unlinked_of_three Sample.foundDocuments_crossed (by decide +kernel), rfl,
      by decide +kernel, [pageFileName ['a'] 1 .png, Sample.outputName], by decide +kernel, ?_⟩
    rw [heffects, batchRuns, Sample.foundDocuments_crossed]
    decide +kernel
  · obtain ⟨-, heffects, hcalls, -⟩ := @convertBatch_of_runs Sample.crossed Sample.roundabout
      Sample.engine false fun _ => rfl
    rw [batchRuns, Sample.foundDocuments_roundabout] at heffects hcalls
    refine ⟨Sample.unlinked_of_three Sample.foundDocuments_roundabout (by decide +kernel),
      [pageFileName ['a'] 0 .png ++ temporarySuffix, [0x70]],
      ⟨Sample.source, 0, ⟨?_, [], _, Sample.script.document, hcalls, rfl, rfl, by decide +kernel⟩,
        by decide +kernel⟩, by decide +kernel, ?_⟩
    · rw [Sample.foundDocuments_roundabout]
      exact List.mem_cons_self
    · rw [heffects]
      decide +kernel

end PageImages
