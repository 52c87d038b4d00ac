import PageImages.Proofs.Batch

/-!
**A batch that was interrupted.**

A batch may be cut off after any step in the file system: while its output folder is made, in the
middle of a page, with a part of an image in a temporary file, or between two documents.  Where
documents are not left out because of images that exist, running the batch again with the same
settings leaves the file system, and gives the report, of a batch that was never cut off.

Main results:

* `batchTask_restartable` — the documents of a batch can be cut off and started again;
* `convertBatch_resume` — **an interrupted batch that is run again ends like one that was not
  interrupted**.
-/

set_option autoImplicit false

namespace PageImages

variable {fs : FileSystem} {settings : Settings} {engine : Engine}

/-- The documents of a batch can be cut off and started again. -/
theorem batchTask_restartable {ready : FileSystem} {dir : Location} {sources : List Path}
    (h : ∀ source ∈ sources, DocumentBerth ready dir settings engine source)
    (hstems : (sources.map Path.stemText).Nodup)
    (hnever : settings.skipIfExists = false ∨ settings.overwrite = true) :
    (batchTask settings engine sources).Restartable ready.SameFrame :=
  Task.Restartable.sequence _ (fun source hsource => documentTask_local (h source hsource))
    (fun source hsource => documentTask_restartable (h source hsource) hnever)
    (apart_of_stems hstems)

/-- A batch that was cut off while its output folder was made, which cannot be made in full. -/
theorem convertBatch_cut_refused (engine : Engine) (observed : Bool)
    (hfolder : fs.isDirectory settings.inputFolder = true) {e : OsError}
    (hmade : (fs.createDirectories settings.outputFolder).2 = .error e) (cut : Nat) :
    let left := fs.applyAll ((fs.createDirectories settings.outputFolder).1.take cut)
    (convertBatch left settings engine observed).outcome.toOption = none ∧
      left.applyAll (convertBatch left settings engine observed).effects
        = fs.applyAll (fs.createDirectories settings.outputFolder).1 := by
  intro left
  have hfolder' : left.isDirectory settings.inputFolder = true :=
    FileSystem.isDirectory_mono (fs.createDirectories_frameLe settings.outputFolder cut) hfolder
  obtain ⟨outcome, hagain, hopt⟩ := fs.createDirectories_resume settings.outputFolder cut
  have hagain : left.createDirectories settings.outputFolder
      = ((fs.createDirectories settings.outputFolder).1.drop cut, outcome) := hagain
  rw [hmade] at hopt
  cases outcome with
  | ok u => cases hopt
  | error e' =>
      obtain ⟨houtcome, heffects⟩ := convertBatch_of_refused engine observed hfolder'
        (congrArg Prod.snd hagain)
      refine ⟨houtcome, ?_⟩
      rw [heffects, hagain]
      exact FileSystem.applyAll_take_drop fs _ cut

/-- A batch that was cut off before its output folder was there, or when it just was. -/
theorem convertBatch_cut_folder (hengine : engine.Memoryless) (observed : Bool)
    (hfolder : fs.isDirectory settings.inputFolder = true)
    (hmade : (fs.createDirectories settings.outputFolder).2 = .ok ()) (cut : Nat) :
    let left := fs.applyAll ((fs.createDirectories settings.outputFolder).1.take cut)
    let task := batchTask settings engine (batchSources fs settings)
    (convertBatch left settings engine observed).outcome
        = .ok (.ofResults (task.result (prepared fs settings))) ∧
      left.applyAll (convertBatch left settings engine observed).effects
        = task.after (prepared fs settings) := by
  intro left task
  have hfolder' : left.isDirectory settings.inputFolder = true :=
    FileSystem.isDirectory_mono (fs.createDirectories_frameLe settings.outputFolder cut) hfolder
  obtain ⟨outcome, hagain, hopt⟩ := fs.createDirectories_resume settings.outputFolder cut
  have hagain : left.createDirectories settings.outputFolder
      = ((fs.createDirectories settings.outputFolder).1.drop cut, outcome) := hagain
  have hmade' : (left.createDirectories settings.outputFolder).2 = .ok () := by
    rw [hagain]
    rw [hmade] at hopt
    cases outcome with
    | ok u => rfl
    | error e => cases hopt
  -- the steps that are left lead to the same file system
  have hprepared : prepared left settings = prepared fs settings := by
    rw [prepared, hagain]
    exact FileSystem.applyAll_take_drop fs _ cut
  have hsources : batchSources left settings = batchSources fs settings := by
    rw [batchSources, hprepared, batchSources]
  obtain ⟨houtcome, heffects⟩ := convertBatch_of_prepared hengine observed hfolder' hmade'
  rw [hsources, hprepared] at houtcome heffects
  refine ⟨houtcome, ?_⟩
  rw [heffects, FileSystem.applyAll_append]
  exact congrArg (FileSystem.applyAll · (task.effects (prepared fs settings))) hprepared

/-- A batch that was cut off while its documents were converted. -/
theorem convertBatch_cut_documents (hengine : engine.Memoryless) (observed : Bool)
    (hfolder : fs.isDirectory settings.inputFolder = true)
    (hmade : (fs.createDirectories settings.outputFolder).2 = .ok ())
    (hnever : settings.skipIfExists = false ∨ settings.overwrite = true)
    (hstems : ((batchSources fs settings).map Path.stemText).Nodup)
    (hplain : (prepared fs settings).PlainFolder settings.inputFolder)
    (hlinks : ImagesUnlinked (prepared fs settings) settings engine (batchSources fs settings))
    (cut : Nat) :
    let task := batchTask settings engine (batchSources fs settings)
    let left := task.cut (prepared fs settings) cut
    (convertBatch left settings engine observed).outcome
        = .ok (.ofResults (task.result (prepared fs settings))) ∧
      left.applyAll (convertBatch left settings engine observed).effects
        = task.after (prepared fs settings) := by
  intro task left
  obtain ⟨dir, -, hberths⟩ := exists_berths hmade hlinks
  have hlocal := batchTask_local hberths
  have hrestart := batchTask_restartable hberths hstems hnever
  have hready := FileSystem.SameFrame.refl (prepared fs settings)
  obtain ⟨houtcome, heffects⟩ := convertBatch_of_later hengine observed hfolder hmade hplain
    (hlocal.keeps hready cut) fun l hl => hlocal.node?_cut hready cut hl
  refine ⟨?_, ?_⟩
  · rw [houtcome]
    exact congrArg (fun results => Except.ok (BatchReport.ofResults results))
      (hrestart.result hready cut)
  · rw [heffects]
    exact hrestart.after hready cut

/-- **An interrupted batch that is run again ends like one that was not interrupted.**  The batch is
cut off after any number of its steps.  The engine does not look back, documents are not left out,
their stems differ, and once the output folder has been made no link stands in the input folder or
in the way of a page image (`ImagesUnlinked.prepared` says when that can be told before).  Both
batches have the same report, or none if the output folder cannot be made. -/
theorem convertBatch_resume (hengine : engine.Memoryless)
    (hnever : settings.skipIfExists = false ∨ settings.overwrite = true)
    (hstems : ((foundDocuments fs settings).map Path.stemText).Nodup)
    (hplain : (prepared fs settings).PlainFolder settings.inputFolder)
    (hlinks : ImagesUnlinked (prepared fs settings) settings engine (foundDocuments fs settings))
    (observed observed' : Bool) (cut : Nat) :
    let run := convertBatch fs settings engine observed
    let left := fs.applyAll (run.effects.take cut)
    let again := convertBatch left settings engine observed'
    left.applyAll again.effects = fs.applyAll run.effects ∧
      again.outcome.toOption = run.outcome.toOption := by
  intro run left again
  cases hfolder : fs.isDirectory settings.inputFolder with
  | false =>
      obtain ⟨houtcome, heffects⟩ := convertBatch_of_missing engine observed hfolder
      obtain ⟨houtcome', heffects'⟩ := convertBatch_of_missing engine observed' hfolder
      have hleft : left = fs := by
        simp only [left, run, heffects, List.take_nil, FileSystem.applyAll_nil]
      simp only [again, hleft, run, houtcome, houtcome', heffects, heffects', and_self]
  | true =>
      rw [foundDocuments_eq hfolder] at hstems hlinks
      cases hmade : (fs.createDirectories settings.outputFolder).2 with
      | error e =>
          obtain ⟨houtcome, heffects⟩ := convertBatch_of_refused engine observed hfolder hmade
          have hleft : left = fs.applyAll
              ((fs.createDirectories settings.outputFolder).1.take cut) := by
            simp only [left, run, heffects]
          obtain ⟨hresult, hafter⟩ := convertBatch_cut_refused engine observed' hfolder hmade cut
          rw [← hleft] at hresult hafter
          rw [heffects]
          exact ⟨hafter, hresult.trans houtcome.symm⟩
      | ok u =>
          obtain ⟨houtcome, heffects⟩ := convertBatch_of_prepared hengine observed hfolder hmade
          have hwhole : fs.applyAll run.effects = (batchTask settings engine
              (batchSources fs settings)).after (prepared fs settings) := by
            simp only [run, heffects, FileSystem.applyAll_append]
            rfl
          rw [hwhole]
          -- the batch was cut off while it made its folder, or while it converted documents
          rcases Nat.le_total cut (fs.createDirectories settings.outputFolder).1.length with
            hcut | hcut
          · have hleft : left = fs.applyAll
                ((fs.createDirectories settings.outputFolder).1.take cut) := by
              simp only [left, run, heffects, List.take_append_of_le_length hcut]
            obtain ⟨hresult, hafter⟩ := convertBatch_cut_folder hengine observed' hfolder hmade cut
            rw [← hleft] at hresult hafter
            exact ⟨hafter, by rw [hresult, houtcome]⟩
          · have hleft : left = (batchTask settings engine (batchSources fs settings)).cut
                (prepared fs settings)
                (cut - (fs.createDirectories settings.outputFolder).1.length) := by
              simp only [left, run, heffects, List.take_append, List.take_of_length_le hcut,
                FileSystem.applyAll_append]
              rfl
            obtain ⟨hresult, hafter⟩ := convertBatch_cut_documents hengine observed' hfolder hmade
              hnever hstems hplain hlinks
              (cut - (fs.createDirectories settings.outputFolder).1.length)
            rw [← hleft] at hresult hafter
            exact ⟨hafter, by rw [hresult, houtcome]⟩

/-- A batch of two documents that is cut off with a part of the first image in its temporary file,
in a folder that the batch has made. -/
theorem convertBatch_resume_sample :
    Sample.engine.Memoryless ∧ Sample.nested.skipIfExists = false ∧
      ((foundDocuments Sample.store Sample.nested).map Path.stemText).Nodup ∧
      (prepared Sample.store Sample.nested).PlainFolder Sample.nested.inputFolder ∧
      ImagesUnlinked (prepared Sample.store Sample.nested) Sample.nested Sample.engine
        (foundDocuments Sample.store Sample.nested) ∧
      let run := convertBatch Sample.store Sample.nested Sample.engine true
      let left := Sample.store.applyAll (run.effects.take 3)
      let again := convertBatch left Sample.nested Sample.engine false
      left.applyAll again.effects = Sample.store.applyAll run.effects ∧
        again.outcome.toOption = run.outcome.toOption :=
  ⟨Sample.engine_memoryless, rfl, Sample.stems_nested, Sample.plainFolder_nested,
    Sample.imagesUnlinked_nested,
    convertBatch_resume Sample.engine_memoryless (Or.inl rfl) Sample.stems_nested
      Sample.plainFolder_nested Sample.imagesUnlinked_nested true false 3⟩

end PageImages
