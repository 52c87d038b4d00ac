import PageImages.Proofs.Batch

/-!
**Documents do not notice each other.**

Documents whose stems differ have different page images.  With an engine that does not look back,
and when no document ends the batch, each document of a batch has the report and leaves the page
images that it has and leaves alone.  So the order of the documents, and whatever becomes of the
others, makes no difference to it.

Main results:

* `batchTask_result`, `batchTask_entry` — each document of a batch does what it does alone;
* `batchTask_perm` — documents leave the same file system in any order;
* `convertBatch_isolated` — **neither the other documents nor their order matter to a document**.
-/

set_option autoImplicit false

namespace PageImages

/-! ### Documents in any order -/

section Tasks

variable {ready : FileSystem} {dir : Location} {settings : Settings} {engine : Engine}
  {sources : List Path}

theorem endsBatch_of_slow (h : settings.failFast = false) :
    endsBatch settings = fun _ => false := by
  funext report
  rw [endsBatch, h, Bool.false_and]

/-- Each document of a batch has the report that it has alone. -/
theorem batchTask_result (hslow : settings.failFast = false)
    (h : ∀ source ∈ sources, DocumentBerth ready dir settings engine source)
    (hstems : (sources.map Path.stemText).Nodup) :
    (batchTask settings engine sources).result ready
      = sources.map fun source => (documentTask settings engine source).result ready := by
  rw [batchTask, Task.sequence_result (fun source hsource => documentTask_local (h source hsource))
    (apart_of_stems hstems) (.refl ready), endsBatch_of_slow hslow, Task.upTo_never]

/-- Each document of a batch leaves its page images as it leaves them alone. -/
theorem batchTask_agreeOn (hslow : settings.failFast = false)
    (h : ∀ source ∈ sources, DocumentBerth ready dir settings engine source)
    (hstems : (sources.map Path.stemText).Nodup) {source : Path} (hsource : source ∈ sources) :
    FileSystem.AgreeOn (documentRegion dir settings engine source)
      ((batchTask settings engine sources).after ready)
      ((documentTask settings engine source).after ready) := by
  obtain ⟨k, hk, hget⟩ := List.getElem_of_mem hsource
  have hlength : k < ((batchTask settings engine sources).result ready).length := by
    rw [batchTask_result hslow h hstems, List.length_map]
    exact hk
  exact Task.sequence_after (fun source hsource => documentTask_local (h source hsource))
    (apart_of_stems hstems) (.refl ready) hlength (hget ▸ List.getElem?_eq_getElem hk)

theorem eq_of_stemText (hstems : (sources.map Path.stemText).Nodup) {source other : Path}
    (hsource : source ∈ sources) (hother : other ∈ sources)
    (h : source.stemText = other.stemText) : source = other := by
  induction sources with
  | nil => cases hsource
  | cons first rest ih =>
      obtain ⟨hfirst, hrest⟩ := List.nodup_cons.1 hstems
      rcases List.mem_cons.1 hsource with hhead | htail <;>
        rcases List.mem_cons.1 hother with hhead' | htail'
      · rw [hhead, hhead']
      · exact absurd (hhead ▸ h ▸ List.mem_map_of_mem htail') hfirst
      · exact absurd (hhead' ▸ h ▸ List.mem_map_of_mem htail) hfirst
      · exact ih hrest htail htail'

/-- A document is the only one of a batch that has to do with the page images of its stem. -/
theorem documentRegion_of_pageRegion (hstems : (sources.map Path.stemText).Nodup) {source : Path}
    (hsource : source ∈ sources) {index : Nat} {l : Location}
    (hl : pageRegion dir settings source index l)
    (hbatch : batchRegion dir settings engine sources l) :
    documentRegion dir settings engine source l := by
  obtain ⟨other, hother, index', hindex', hl'⟩ := hbatch
  have hstem : source.stemText = other.stemText := by
    by_cases hne : source.stemText = other.stemText
    · exact hne
    · exact absurd hl' (pageRegion_disjoint (Or.inl hne) hl)
  rw [eq_of_stemText hstems hsource hother hstem]
  exact ⟨index', hindex', hl'⟩

/-- Every entry of a page image, or of its temporary file, is left as the document leaves it alone,
whether the page is gone through or not. -/
theorem batchTask_entry (hslow : settings.failFast = false)
    (h : ∀ source ∈ sources, DocumentBerth ready dir settings engine source)
    (hstems : (sources.map Path.stemText).Nodup) {source : Path} (hsource : source ∈ sources)
    {index : Nat} {l : Location} (hl : pageRegion dir settings source index l) :
    ((batchTask settings engine sources).after ready).node? l
      = ((documentTask settings engine source).after ready).node? l := by
  by_cases hregion : documentRegion dir settings engine source l
  · exact batchTask_agreeOn hslow h hstems hsource l hregion
  · -- a page that is not gone through is left alone by all documents
    have hbatch : ¬ batchRegion dir settings engine sources l := fun hbatch =>
      hregion (documentRegion_of_pageRegion hstems hsource hl hbatch)
    rw [(batchTask_local h).node?_after (.refl ready) hbatch,
      (documentTask_local (h source hsource)).node?_after (.refl ready) hregion]

/-- **Documents leave the same file system in any order.** -/
theorem batchTask_perm (hslow : settings.failFast = false)
    (h : ∀ source ∈ sources, DocumentBerth ready dir settings engine source)
    (hstems : (sources.map Path.stemText).Nodup) {order : List Path} (horder : order.Perm sources) :
    (batchTask settings engine order).after ready
      = (batchTask settings engine sources).after ready := by
  have h' : ∀ source ∈ order, DocumentBerth ready dir settings engine source :=
    fun source hsource => h source (horder.mem_iff.1 hsource)
  have hstems' : (order.map Path.stemText).Nodup := (horder.map _).nodup_iff.2 hstems
  have hframe := FileSystem.SameFrame.refl ready
  have hinside : FileSystem.AgreeOn (batchRegion dir settings engine sources)
      ((batchTask settings engine order).after ready)
      ((batchTask settings engine sources).after ready) := by
    rintro l ⟨source, hsource, hl⟩
    rw [batchTask_agreeOn hslow h' hstems' (horder.mem_iff.2 hsource) l hl,
      batchTask_agreeOn hslow h hstems hsource l hl]
  -- outside of the page images nothing changes in either order
  refine FileSystem.eq_of_agreeOn hinside ?_ ?_
  · intro l hl
    have hl' : ¬ batchRegion dir settings engine order l := by
      rintro ⟨source, hsource, hregion⟩
      exact hl ⟨source, horder.mem_iff.1 hsource, hregion⟩
    rw [(batchTask_local h').node?_after hframe hl', (batchTask_local h).node?_after hframe hl]
  · rw [(batchTask_local h').here_after hframe, (batchTask_local h).here_after hframe]

/-- Documents that are converted in another order have the reports that they have alone, and leave
the same file system. -/
theorem documentRuns_perm (hengine : engine.Memoryless) (observed : Bool)
    (hslow : settings.failFast = false)
    (h : ∀ source ∈ sources, DocumentBerth ready dir settings engine source)
    (hstems : (sources.map Path.stemText).Nodup) {order : List Path} (horder : order.Perm sources) :
    let runs := fun order => documentRuns settings engine observed ready [] order
    (runs order).map DocumentRun.report
        = order.map (fun source => (documentTask settings engine source).result ready) ∧
      ready.applyAll ((runs order).flatMap DocumentRun.effects)
        = ready.applyAll ((runs sources).flatMap DocumentRun.effects) := by
  intro runs
  obtain ⟨hreports, hsteps⟩ := documentRuns_eq hengine settings observed ready [] order
  obtain ⟨-, hsteps'⟩ := documentRuns_eq hengine settings observed ready [] sources
  refine ⟨?_, ?_⟩
  · exact hreports.trans (batchTask_result hslow
      (fun source hsource => h source (horder.mem_iff.1 hsource))
      ((horder.map _).nodup_iff.2 hstems))
  · simp only [runs, hsteps, hsteps']
    exact batchTask_perm hslow h hstems horder

end Tasks

/-! ### Paths of page images -/

/-- Where the entries of a page are the same, its paths stand for the same. -/
theorem nodeAt?_congr {a b : FileSystem} (hab : a.SameFrame b) {dir : Location}
    {settings : Settings}
    (hdir : a.folder settings.outputFolder.isAbsolute settings.outputFolder.parts = .ok dir)
    {source : Path} {index : Nat}
    (h : ∀ l, pageRegion dir settings source index l → a.node? l = b.node? l) :
    a.nodeAt? (imagePath settings source index) = b.nodeAt? (imagePath settings source index) ∧
      a.nodeAt? (temporaryPath (imagePath settings source index))
        = b.nodeAt? (temporaryPath (imagePath settings source index)) := by
  have hends := outputPath_endsIn source index settings.outputFolder settings.format
  have hdir' := FileSystem.folder_mono hab.le hdir
  constructor
  · rw [imagePath, FileSystem.nodeAt?_of_folder hends hdir,
      FileSystem.nodeAt?_of_folder hends hdir']
    exact congrArg (ite _ · none) (h _ (Or.inr rfl))
  · rw [imagePath, FileSystem.nodeAt?_of_folder (temporaryPath_endsIn hends) hdir,
      FileSystem.nodeAt?_of_folder (temporaryPath_endsIn hends) hdir']
    exact congrArg (ite _ · none) (h _ (Or.inl rfl))

/-! ### The batch -/

/-- The page images of a document stand for the same in both file systems, and so do their temporary
files. -/
def SameImages (settings : Settings) (source : Path) (a b : FileSystem) : Prop :=
  ∀ index,
    a.nodeAt? (imagePath settings source index) = b.nodeAt? (imagePath settings source index) ∧
    a.nodeAt? (temporaryPath (imagePath settings source index))
      = b.nodeAt? (temporaryPath (imagePath settings source index))

section Batch

variable {fs : FileSystem} {settings : Settings} {engine : Engine}

/-- A document of a batch has the report and leaves the page images that it has and leaves alone. -/
theorem convertBatch_lone (hengine : engine.Memoryless) (hslow : settings.failFast = false)
    (hstems : ((batchSources fs settings).map Path.stemText).Nodup)
    (hlinks : ImagesUnlinked (prepared fs settings) settings engine (batchSources fs settings))
    (observed : Bool) (hfolder : fs.isDirectory settings.inputFolder = true)
    (hmade : (fs.createDirectories settings.outputFolder).2 = .ok ()) :
    (convertBatch fs settings engine observed).outcome
        = .ok (.ofResults ((batchSources fs settings).map fun source =>
          (documentTask settings engine source).result (prepared fs settings))) ∧
      ∀ source ∈ batchSources fs settings, SameImages settings source
        (fs.applyAll (convertBatch fs settings engine observed).effects)
        ((documentTask settings engine source).after (prepared fs settings)) := by
  obtain ⟨dir, hdir, hberths⟩ := exists_berths hmade hlinks
  obtain ⟨houtcome, heffects⟩ := convertBatch_of_prepared hengine observed hfolder hmade
  refine ⟨?_, ?_⟩
  · rw [houtcome, batchTask_result hslow hberths hstems]
  · intro source hsource index
    rw [heffects, FileSystem.applyAll_append]
    have hready := FileSystem.SameFrame.refl (prepared fs settings)
    have hbatch := (batchTask_local hberths).keeps_after hready
    have hlone := (documentTask_local (hberths source hsource)).keeps_after hready
    exact nodeAt?_congr (hbatch.symm.trans hlone) (FileSystem.folder_mono hbatch.le hdir)
      fun l hl => batchTask_entry hslow hberths hstems hsource hl

theorem documentTask_congr {other : Engine} {source : Path}
    (h : other.openDocument [] source = engine.openDocument [] source) :
    documentTask settings other source = documentTask settings engine source := by
  have hbody : bodyTask settings other source = bodyTask settings engine source := by
    rw [bodyTask, h, bodyTask]
  rw [documentTask, hbody, documentTask]

/-- **Neither the other documents nor their order matter to a document.**  The engine does not look
back, no document ends the batch, the stems of the documents differ and, once the output folder has
been made, no link stands in the way of a page image (`ImagesUnlinked.prepared` says when that can
be told before).  Then each document of a batch has the report and leaves the page images of a lone
run that starts when the output folder has been made; in any other order each has the same report
and all leave the same file system; and with an engine that knows the other documents differently,
a document still has the same report and leaves the same page images. -/
theorem convertBatch_isolated (hengine : engine.Memoryless) (hslow : settings.failFast = false)
    (hmade : (fs.createDirectories settings.outputFolder).2 = .ok ())
    (hstems : ((foundDocuments fs settings).map Path.stemText).Nodup)
    (hlinks : ImagesUnlinked (prepared fs settings) settings engine (foundDocuments fs settings))
    (observed observed' : Bool) :
    let ready := prepared fs settings
    let after := fs.applyAll (convertBatch fs settings engine observed).effects
    let sources := foundDocuments fs settings
    let lone := fun source => convertDocument ready [] settings engine source observed'
    let runs := fun order => documentRuns settings engine observed' ready [] order
    (convertBatch fs settings engine observed).outcome
        = .ok (.ofResults (sources.map fun source => (lone source).report)) ∧
      (∀ source ∈ sources,
        SameImages settings source after (ready.applyAll (lone source).effects)) ∧
      (∀ order : List Path, order.Perm sources →
        (runs order).map DocumentRun.report = order.map (fun source => (lone source).report) ∧
          ready.applyAll ((runs order).flatMap DocumentRun.effects)
            = ready.applyAll ((runs sources).flatMap DocumentRun.effects)) ∧
      ∀ other : Engine, other.Memoryless → ImagesUnlinked ready settings other sources →
        ∃ report, (convertBatch fs settings other observed').outcome = .ok report ∧
          ∀ (k : Nat) (source : Path), sources[k]? = some source →
            other.openDocument [] source = engine.openDocument [] source →
            report.results[k]? = some (lone source).report ∧
              SameImages settings source
                (fs.applyAll (convertBatch fs settings other observed').effects) after := by
  intro ready after sources lone runs
  cases hfolder : fs.isDirectory settings.inputFolder with
  | false =>
      have hnone : sources = [] := by
        simp only [sources, foundDocuments, hfolder, Bool.false_eq_true, if_false]
      rw [hnone]
      refine ⟨(convertBatch_of_missing engine observed hfolder).1, ?_, ?_, ?_⟩
      · intro source hsource
        cases hsource
      · intro order horder
        rw [horder.eq_nil]
        exact ⟨rfl, rfl⟩
      · intro other _ _
        refine ⟨_, (convertBatch_of_missing other observed' hfolder).1, ?_⟩
        intro k source hk
        cases hk
  | true =>
      have hfound : sources = batchSources fs settings := foundDocuments_eq hfolder
      rw [foundDocuments_eq hfolder] at hstems hlinks
      obtain ⟨dir, -, hberths⟩ := exists_berths hmade hlinks
      obtain ⟨houtcome, himages⟩ :=
        convertBatch_lone hengine hslow hstems hlinks observed hfolder hmade
      have hreport : ∀ source, (lone source).report
          = (documentTask settings engine source).result ready := fun source =>
        (convertDocument_eq hengine ready [] settings source observed').1
      have heffects : ∀ source, (lone source).effects
          = (documentTask settings engine source).effects ready := fun source =>
        (convertDocument_eq hengine ready [] settings source observed').2
      rw [hfound]
      simp only [hreport, heffects]
      refine ⟨houtcome, himages, ?_, ?_⟩
      · intro order horder
        exact documentRuns_perm hengine observed' hslow hberths hstems horder
      · intro other hother hlinks'
        obtain ⟨houtcome', himages'⟩ :=
          convertBatch_lone hother hslow hstems hlinks' observed' hfolder hmade
        refine ⟨_, houtcome', fun k source hk hsame => ?_⟩
        have htask : documentTask settings other source = documentTask settings engine source :=
          documentTask_congr hsame
        have hmem := List.mem_of_getElem? hk
        refine ⟨?_, fun index => ?_⟩
        · simp only [BatchReport.results_ofResults, List.getElem?_map, hk, Option.map_some, htask]
          rfl
        · have hleft := himages' source hmem index
          rw [htask] at hleft
          have hright := himages source hmem index
          exact ⟨hleft.1.trans hright.1.symm, hleft.2.trans hright.2.symm⟩

end Batch

/-- A batch of two documents, of which one cannot be opened. -/
theorem convertBatch_isolated_sample :
    Sample.engine.Memoryless ∧ Sample.nested.failFast = false ∧
      (Sample.store.createDirectories Sample.nested.outputFolder).2 = .ok () ∧
      ((foundDocuments Sample.store Sample.nested).map Path.stemText).Nodup ∧
      ImagesUnlinked (prepared Sample.store Sample.nested) Sample.nested Sample.engine
        (foundDocuments Sample.store Sample.nested) ∧
      foundDocuments Sample.store Sample.nested
        = [Sample.letter, Sample.ledger].map (fun name => Sample.nested.inputFolder.join ⟨name⟩) ∧
      ∀ source ∈ foundDocuments Sample.store Sample.nested,
        SameImages Sample.nested source
          (Sample.store.applyAll
            (convertBatch Sample.store Sample.nested Sample.engine true).effects)
          ((prepared Sample.store Sample.nested).applyAll
            (convertDocument (prepared Sample.store Sample.nested) [] Sample.nested Sample.engine
              source false).effects) :=
  ⟨Sample.engine_memoryless, rfl, rfl, Sample.stems_nested, Sample.imagesUnlinked_nested,
    Sample.foundDocuments_nested,
    (convertBatch_isolated Sample.engine_memoryless rfl rfl Sample.stems_nested
      Sample.imagesUnlinked_nested true false).2.1⟩

end PageImages
