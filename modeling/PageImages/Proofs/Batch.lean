import PageImages.Convert.Batch
import PageImages.Proofs.Directories
import PageImages.Proofs.Document

/-!
**A batch as a sequence of tasks.**

With an engine that does not look back, converting a document is a task that looks at and changes
the entries of its page images only, and a batch is those tasks one after the other, after the
output folder has been made.

Main definitions:

* `documentTask`, `batchTask` — converting a document, and all documents, as tasks;
* `imageCount`, `documentRegion` — the page images of a document, and their entries;
* `prepared`, `foundDocuments` — the file system in which the documents of a batch are converted,
  and those documents.

Main results:

* `documentTask_local` — a document looks at and changes the entries of its page images only;
* `documentTask_restartable` — a document that was cut off can be converted again;
* `ImagesUnlinked.prepared` — links can be looked for before the output folder is made, unless its
  path has a `..` in it;
* `findDocuments_of_batchRegion` — converting documents does not change which documents there are;
* `convertBatch_of_prepared` — **a batch makes its output folder and then is its task**.
-/

set_option autoImplicit false

namespace PageImages

/-! ### The pages of a document -/

/-- The pages are rendered in the same way after any calls. -/
def Document.Memoryless (document : Document) : Prop :=
  ∀ past past' index dpi space,
    document.render past index dpi space = document.render past' index dpi space

theorem Sample.engine_memoryless : Sample.engine.Memoryless := by
  refine ⟨fun _ _ _ => rfl, ?_⟩
  intro past path document hopen
  simp only [Sample.engine] at hopen
  split at hopen
  · cases hopen
  · cases hopen
    exact fun _ _ _ _ _ => rfl

theorem convertPage_memoryless {document : Document} (h : document.Memoryless) (fs : FileSystem)
    (past past' : List Call) (settings : Settings) (source : Path) (index : Nat) :
    convertPage fs past settings document source index
      = convertPage fs past' settings document source index := by
  simp only [convertPage, h past past']

/-- The pages of a document whose engine does not look back, as a task. -/
def pagesOf (settings : Settings) (document : Document) (source : Path) :
    Task (List (Except PageError Path)) :=
  pagesTask (fun _ => []) settings document source
    (List.range (settings.pageLimit document.pages))

theorem pageRuns_memoryless {document : Document} (h : document.Memoryless) (settings : Settings)
    (source : Path) (count index : Nat) (fs : FileSystem) (past : List Call) :
    let task := pagesTask (fun _ => []) settings document source (List.range' index count)
    (pageRuns settings document source count index fs past).map PageRun.outcome = task.result fs ∧
      (pageRuns settings document source count index fs past).flatMap PageRun.effects
        = task.effects fs := by
  induction count generalizing index fs past with
  | zero => exact ⟨rfl, rfl⟩
  | succ count ih =>
      intro task
      have hrun := convertPage_memoryless h fs past [] settings source index
      obtain ⟨houtcomes, heffects⟩ := ih (index + 1)
        ((pageTask [] settings document source index).after fs)
        (past ++ (convertPage fs past settings document source index).calls)
      rw [pagesTask] at houtcomes heffects
      simp only [task, pagesTask, List.range'_succ, List.map_cons, Task.result, Task.effects]
      rw [Task.sequence_cons_of_go rfl, pageRuns]
      simp only [List.map_cons, List.flatMap_cons]
      rw [← houtcomes, ← heffects]
      simp only [hrun]
      exact ⟨rfl, rfl⟩

/-! ### A document as a task -/

/-- What becomes of a document that is not left out. -/
def bodyTask (settings : Settings) (engine : Engine) (source : Path) : Task DocumentReport :=
  match engine.openDocument [] source with
  | .error e => .constant (.failed source e.message)
  | .ok document =>
    if document.encrypted then .constant (.failed source OpenError.passwordProtected.message)
    else (pagesOf settings document source).map (.ofOutcomes source document.pages)

/-- Converting a document, as a task. -/
def documentTask (settings : Settings) (engine : Engine) (source : Path) : Task DocumentReport where
  perform := fun fs =>
    if shouldSkip fs settings source then (.skipped source, [])
    else (bodyTask settings engine source).perform fs

section Task

variable {fs : FileSystem} {settings : Settings} {engine : Engine} {source : Path}

theorem documentTask_of_skip (h : shouldSkip fs settings source = true) :
    (documentTask settings engine source).perform fs = (.skipped source, []) := by
  simp only [documentTask, h, if_true]

theorem documentTask_of_body (h : shouldSkip fs settings source = false) :
    (documentTask settings engine source).perform fs
      = (bodyTask settings engine source).perform fs := by
  simp only [documentTask, h, Bool.false_eq_true, if_false]

end Task

/-- **A document is its task**, whatever calls were made before. -/
theorem convertDocument_eq {engine : Engine} (h : engine.Memoryless) (fs : FileSystem)
    (past : List Call) (settings : Settings) (source : Path) (observed : Bool) :
    (convertDocument fs past settings engine source observed).report
        = (documentTask settings engine source).result fs ∧
      (convertDocument fs past settings engine source observed).effects
        = (documentTask settings engine source).effects fs := by
  rw [Task.result, Task.effects]
  rcases convertDocument_cases fs past settings engine source observed with
    ⟨hskip, hrun⟩ | ⟨hskip, ⟨e, hopen, hrun⟩ | ⟨document, hopen, ⟨hlocked, hrun⟩ | ⟨hplain, hrun⟩⟩⟩
  · rw [hrun, documentTask_of_skip hskip]
    exact ⟨rfl, DocumentRun.effects_ended _ _ _⟩
  · rw [hrun, documentTask_of_body hskip, bodyTask, h.opens [] past, hopen]
    exact ⟨rfl, DocumentRun.effects_ended _ _ _⟩
  · rw [hrun, documentTask_of_body hskip, bodyTask, h.opens [] past, hopen]
    simp only [hlocked, if_true]
    exact ⟨rfl, DocumentRun.effects_ended _ _ _⟩
  · rw [hrun, documentTask_of_body hskip, bodyTask, h.opens [] past, hopen]
    have hrenders := h.renders past source document hopen
    obtain ⟨houtcomes, hsteps⟩ := pageRuns_memoryless hrenders settings source
      (settings.pageLimit document.pages) 0 fs (past ++ [.opened source])
    rw [← List.range_eq_range'] at houtcomes hsteps
    simp only [hplain, Bool.false_eq_true, if_false, DocumentRun.effects_enclosed,
      convertPages_effects, hsteps]
    exact ⟨congrArg (DocumentReport.ofOutcomes source document.pages) houtcomes, rfl⟩

/-! ### The entries of a document -/

/-- The number of pages of a document that are gone through. -/
def pageCount (settings : Settings) (engine : Engine) (source : Path) : Nat :=
  match engine.openDocument [] source with
  | .error _ => 0
  | .ok document => if document.encrypted then 0 else settings.pageLimit document.pages

/-- The number of page images that are looked at for a document: one at least, if documents may be
left out. -/
def imageCount (settings : Settings) (engine : Engine) (source : Path) : Nat :=
  if !settings.overwrite && settings.skipIfExists then max 1 (pageCount settings engine source)
  else pageCount settings engine source

/-- The entries that converting a document looks at and changes. -/
def documentRegion (dir : Location) (settings : Settings) (engine : Engine) (source : Path) :
    Location → Prop :=
  fun l => ∃ index < imageCount settings engine source, pageRegion dir settings source index l

/-- The page images of a document have their places in the directory `dir`. -/
def DocumentBerth (fs : FileSystem) (dir : Location) (settings : Settings) (engine : Engine)
    (source : Path) : Prop :=
  ∀ index < imageCount settings engine source, PageBerth fs dir settings source index

theorem DocumentBerth.congr {a b : FileSystem} (hab : a.SameFrame b) {dir : Location}
    {settings : Settings} {engine : Engine} {source : Path}
    (h : DocumentBerth a dir settings engine source) :
    DocumentBerth b dir settings engine source :=
  fun index hindex => (h index hindex).congr hab

theorem pageCount_le_imageCount (settings : Settings) (engine : Engine) (source : Path) :
    pageCount settings engine source ≤ imageCount settings engine source := by
  rw [imageCount]
  split <;> omega

theorem documentRegion_disjoint {dir : Location} {settings : Settings} {engine engine' : Engine}
    {source source' : Path} (h : source.stemText ≠ source'.stemText) {l : Location}
    (hl : documentRegion dir settings engine source l) :
    ¬ documentRegion dir settings engine' source' l := by
  obtain ⟨index, -, hl⟩ := hl
  rintro ⟨index', -, hl'⟩
  exact pageRegion_disjoint (Or.inl h) hl hl'

section Document

variable {fs : FileSystem} {dir : Location} {settings : Settings} {engine : Engine} {source : Path}

/-- A document fails as a whole, or its pages are gone through. -/
theorem bodyTask_cases (settings : Settings) (engine : Engine) (source : Path) :
    (∃ message, bodyTask settings engine source = .constant (.failed source message)) ∨
      ∃ document, engine.openDocument [] source = .ok document ∧
        pageCount settings engine source = settings.pageLimit document.pages ∧
        bodyTask settings engine source
          = (pagesOf settings document source).map (.ofOutcomes source document.pages) := by
  rw [bodyTask, pageCount]
  cases engine.openDocument [] source with
  | error e => exact Or.inl ⟨_, rfl⟩
  | ok document =>
      cases hencrypted : document.encrypted with
      | true => exact Or.inl ⟨_, if_pos hencrypted⟩
      | false =>
          refine Or.inr ⟨document, rfl, ?_, ?_⟩
          · simp only [hencrypted, Bool.false_eq_true, if_false]
          · simp only [hencrypted, Bool.false_eq_true, if_false]

/-- The pages of a document, each with a region of its own. -/
theorem pages_room (h : DocumentBerth fs dir settings engine source) {count : Nat}
    (hcount : count ≤ imageCount settings engine source) :
    PageRoom fs.SameFrame (pageRegion dir settings source) settings source (List.range count) :=
  .of_berths (fun index hindex => h index (Nat.lt_of_lt_of_le (List.mem_range.1 hindex) hcount))
    List.nodup_range

theorem bodyTask_local (h : DocumentBerth fs dir settings engine source) :
    (bodyTask settings engine source).Local fs.SameFrame
      (documentRegion dir settings engine source) := by
  rcases bodyTask_cases settings engine source with
    ⟨message, hbody⟩ | ⟨document, -, hcount, hbody⟩
  · rw [hbody]
    exact .constant _
  · have hle := pageCount_le_imageCount settings engine source
    rw [hcount] at hle
    have room := pages_room h hle
    rw [hbody]
    refine ((Task.Local.sequence _ (room.tasks [] document)).mono ?_).map _
    rintro l ⟨index, hindex, hl⟩
    exact ⟨index, Nat.lt_of_lt_of_le (List.mem_range.1 hindex) hle, hl⟩

/-- **A document that was cut off can be converted again**, if it is not left out. -/
theorem bodyTask_restartable (h : DocumentBerth fs dir settings engine source) :
    (bodyTask settings engine source).Restartable fs.SameFrame := by
  rcases bodyTask_cases settings engine source with
    ⟨message, hbody⟩ | ⟨document, -, hcount, hbody⟩
  · rw [hbody]
    exact .constant _
  · have hle := pageCount_le_imageCount settings engine source
    rw [hcount] at hle
    have room := pages_room h hle
    rw [hbody]
    refine (Task.Restartable.sequence _ (room.tasks [] document) ?_ room.apart).map _
    intro index hindex
    exact pageTask_restartable (h index (Nat.lt_of_lt_of_le (List.mem_range.1 hindex) hle)) []
      document

theorem shouldSkip_eq (fs : FileSystem) (settings : Settings) (source : Path) :
    shouldSkip fs settings source = (!settings.overwrite && settings.skipIfExists
      && fs.hasEntry (imagePath settings source 0)) := rfl

theorem shouldSkip_congr {a b : FileSystem} (ha : DocumentBerth a dir settings engine source)
    (hb : DocumentBerth b dir settings engine source)
    (hab : FileSystem.AgreeOn (documentRegion dir settings engine source) a b) :
    shouldSkip a settings source = shouldSkip b settings source := by
  rw [shouldSkip_eq, shouldSkip_eq]
  cases hmay : !settings.overwrite && settings.skipIfExists with
  | false => rw [Bool.false_and, Bool.false_and]
  | true =>
      have hzero : 0 < imageCount settings engine source := by
        rw [imageCount, hmay, if_pos rfl]
        omega
      rw [hasEntry_imagePath (ha 0 hzero), hasEntry_imagePath (hb 0 hzero),
        hab _ ⟨0, hzero, Or.inr rfl⟩]

/-- **A document looks at and changes the entries of its page images only.** -/
theorem documentTask_local (h : DocumentBerth fs dir settings engine source) :
    (documentTask settings engine source).Local fs.SameFrame
      (documentRegion dir settings engine source) := by
  have hbody := bodyTask_local h
  refine ⟨?_, ?_, ?_⟩
  · intro a ha effect he
    cases hskip : shouldSkip a settings source with
    | true =>
        rw [Task.effects, documentTask_of_skip hskip] at he
        cases he
    | false =>
        rw [Task.effects, documentTask_of_body hskip] at he
        exact hbody.within ha effect he
  · intro a ha k
    cases hskip : shouldSkip a settings source with
    | true =>
        rw [Task.cut, Task.effects, documentTask_of_skip hskip, List.take_nil]
        exact ha
    | false =>
        rw [Task.cut, Task.effects, documentTask_of_body hskip]
        exact hbody.keeps ha k
  · intro a b ha hb hab
    have heq := shouldSkip_congr (h.congr ha) (h.congr hb) hab
    cases hskip : shouldSkip a settings source with
    | true => rw [documentTask_of_skip hskip, documentTask_of_skip (heq.symm.trans hskip)]
    | false =>
        rw [documentTask_of_body hskip, documentTask_of_body (heq.symm.trans hskip)]
        exact hbody.congr ha hb hab

/-- **A document that was cut off can be converted again**, where no document is left out. -/
theorem documentTask_restartable (h : DocumentBerth fs dir settings engine source)
    (hnever : settings.skipIfExists = false ∨ settings.overwrite = true) :
    (documentTask settings engine source).Restartable fs.SameFrame := by
  have hperform : documentTask settings engine source = bodyTask settings engine source := by
    have hskip : ∀ a, shouldSkip a settings source = false := by
      intro a
      rw [shouldSkip_eq]
      rcases hnever with hoff | hagain
      · rw [hoff, Bool.and_false, Bool.false_and]
      · rw [hagain, Bool.not_true, Bool.false_and, Bool.false_and]
    have heq : (documentTask settings engine source).perform
        = (bodyTask settings engine source).perform :=
      funext fun a => documentTask_of_body (hskip a)
    exact congrArg Task.mk heq
  rw [hperform]
  exact bodyTask_restartable h

end Document

/-! ### The documents as tasks -/

theorem BatchReport.results_ofResults (results : List DocumentReport) :
    (ofResults results).results = results := by
  have hfold : ∀ (report : BatchReport) (rest : List DocumentReport),
      (rest.foldl add report).results = report.results ++ rest := by
    intro report rest
    induction rest generalizing report with
    | nil => exact (List.append_nil _).symm
    | cons r rest ih =>
        rw [List.foldl_cons, ih, add, List.append_assoc]
        rfl
  exact hfold empty results

/-- Whether the batch ends with a document. -/
def endsBatch (settings : Settings) (report : DocumentReport) : Bool :=
  settings.failFast && report.status = .failed

/-- Documents one after the other, as a task. -/
def batchTask (settings : Settings) (engine : Engine) (sources : List Path) :
    Task (List DocumentReport) :=
  .sequence (endsBatch settings) (sources.map (documentTask settings engine))

/-- The documents of a batch are their tasks one after the other. -/
theorem documentRuns_eq {engine : Engine} (h : engine.Memoryless) (settings : Settings)
    (observed : Bool) (fs : FileSystem) (past : List Call) (sources : List Path) :
    (documentRuns settings engine observed fs past sources).map DocumentRun.report
        = (batchTask settings engine sources).result fs ∧
      (documentRuns settings engine observed fs past sources).flatMap DocumentRun.effects
        = (batchTask settings engine sources).effects fs := by
  induction sources generalizing fs past with
  | nil => exact ⟨rfl, rfl⟩
  | cons source sources ih =>
      obtain ⟨hreport, heffects⟩ := convertDocument_eq h fs past settings source observed
      rw [documentRuns, batchTask, List.map_cons, Task.result, Task.effects]
      cases hend : endsBatch settings ((documentTask settings engine source).result fs) with
      | true =>
          rw [Task.sequence_cons_of_stop hend]
          rw [endsBatch, ← hreport] at hend
          simp only [hend, if_true]
          simp only [List.map_cons, List.map_nil, List.flatMap_cons, List.flatMap_nil,
            List.append_nil, hreport, heffects, and_self]
      | false =>
          rw [Task.sequence_cons_of_go hend]
          rw [endsBatch, ← hreport] at hend
          obtain ⟨hreports, hsteps⟩ := ih ((documentTask settings engine source).after fs)
            (past ++ (convertDocument fs past settings engine source observed).calls)
          rw [Task.after] at hreports hsteps
          simp only [hend, Bool.false_eq_true, if_false]
          simp only [List.map_cons, List.flatMap_cons, hreport, heffects, hreports, hsteps]
          exact ⟨rfl, rfl⟩

/-! ### The documents of a folder -/

theorem Entries.find?_filter (keep : Location → Bool) (entries : Entries) (l : Location) :
    Entries.find? (entries.filter fun entry => keep entry.1) l
      = if keep l then entries.find? l else none := by
  induction entries with
  | nil => simp
  | cons head rest ih =>
      obtain ⟨key, node⟩ := head
      by_cases hkey : key = l
      · subst hkey
        cases hkeep : keep key <;> simp [Entries.find?_cons, hkeep, ih]
      · cases hkeep : keep key <;> simp [Entries.find?_cons, hkeep, hkey, ih]

/-- Whether a location is a name of some kind in a directory. -/
def ofKind (dir : Location) (kind : Name → Bool) : Location → Bool
  | [] => false
  | name :: parent => parent == dir && kind name

/-- The file system with some of its entries only. -/
def FileSystem.restrict (fs : FileSystem) (keep : Location → Bool) : FileSystem :=
  ⟨fs.entries.filter fun entry => keep entry.1, List.Pairwise.filter _ fs.sorted,
    fs.named.filter _, fs.here⟩

/-- The names of some kind are those of the entries of that kind. -/
theorem filter_children (fs : FileSystem) (dir : Location) (kind : Name → Bool) :
    (fs.children dir).filter kind = (fs.restrict (ofKind dir kind)).children dir := by
  rw [FileSystem.children, FileSystem.children, FileSystem.restrict, List.filter_filterMap,
    List.filterMap_filter]
  refine congrArg (List.filterMap · fs.entries) (funext fun entry => ?_)
  obtain ⟨key, node⟩ := entry
  cases key with
  | nil => rfl
  | cons name parent =>
      cases hparent : parent == dir <;> cases hname : kind name <;> simp [ofKind, hparent, hname]

/-- The names of a directory that are of some kind depend on the entries of that kind only. -/
theorem children_filter_congr {a b : FileSystem} {dir : Location} (kind : Name → Bool)
    (h : ∀ name, kind name = true → a.node? (name :: dir) = b.node? (name :: dir)) :
    (a.children dir).filter kind = (b.children dir).filter kind := by
  have hentries : (a.restrict (ofKind dir kind)).entries
      = (b.restrict (ofKind dir kind)).entries := by
    refine Entries.Sorted.ext (FileSystem.sorted _) (FileSystem.sorted _) ?_
    intro l
    rw [FileSystem.restrict, FileSystem.restrict, Entries.find?_filter, Entries.find?_filter]
    cases l with
    | nil => rfl
    | cons name parent =>
        cases hkind : ofKind dir kind (name :: parent) with
        | false => rfl
        | true =>
            have hname := Bool.and_eq_true_iff.1 hkind
            rw [eq_of_beq hname.1, if_pos rfl, if_pos rfl]
            exact h name hname.2
  rw [filter_children, filter_children, FileSystem.children, FileSystem.children, hentries]

namespace FileSystem

/-- No entry of a folder is a link. -/
def PlainFolder (fs : FileSystem) (folder : Path) : Prop :=
  ∀ names, fs.list folder = .ok names → ∀ name ∈ names, fs.isLink (folder.join ⟨name⟩) = false

theorem list_of_isDirectory {fs : FileSystem} {folder : Path} (h : fs.isDirectory folder = true) :
    ∃ dir, fs.folder folder.isAbsolute folder.parts = .ok dir ∧
      fs.list folder = .ok (fs.children dir) := by
  obtain ⟨place, hresolve, hnode⟩ := isDirectory_iff_resolve.1 h
  obtain ⟨-, hwalk⟩ := resolve_eq_ok_iff.1 hresolve
  obtain ⟨left, hdescend⟩ := descend_of_walk hwalk hnode
  rw [← Path.parts_eq] at hdescend
  refine ⟨place.location, folder_eq_ok_iff.2 ⟨left, hdescend⟩, ?_⟩
  obtain ⟨location, node?, slash⟩ := place
  cases hnode
  rw [list, stat, hresolve]
  rfl

end FileSystem

theorem proper_of_isDocumentName {name : Name} (h : isDocumentName name = true)
    (hslash : Path.slash ∉ name) : name.Proper := by
  obtain ⟨b, hlast, hlower⟩ := getLast?_of_isDocumentName h
  refine Name.proper_of_mem (List.mem_of_getLast? hlast) ?_ hslash
  rintro rfl
  exact absurd hlower (by decide)

/-- The documents of a folder are the same, where directories and links and the entries with names
of documents are the same. -/
theorem findDocuments_congr {a b : FileSystem} {folder : Path} (hab : a.SameFrame b)
    (hfolder : a.isDirectory folder = true) (hplain : a.PlainFolder folder)
    (h : ∀ name dir, isDocumentName name = true → a.node? (name :: dir) = b.node? (name :: dir)) :
    findDocuments a folder = findDocuments b folder := by
  obtain ⟨dir, hdir, hlist⟩ := FileSystem.list_of_isDirectory hfolder
  obtain ⟨dir', hdir', hlist'⟩ := FileSystem.list_of_isDirectory
    (FileSystem.isDirectory_mono hab.le hfolder)
  obtain rfl : dir = dir' := Except.ok.inj ((FileSystem.folder_mono hab.le hdir).symm.trans hdir')
  have hnames := children_filter_congr isDocumentName fun name hname => h name dir hname
  -- a document is a file in both file systems, or in none
  have hfile : ∀ name ∈ (a.children dir).filter isDocumentName,
      a.isFile (folder.join ⟨name⟩) = b.isFile (folder.join ⟨name⟩) := by
    intro name hmem
    obtain ⟨hchild, hname⟩ := List.mem_filter.1 hmem
    have hproper := proper_of_isDocumentName hname
      (FileSystem.slash_not_mem_of_mem_children hchild)
    have hseat := FileSystem.seat_of_isLink (Path.endsIn_join folder hproper) hdir
      (hplain _ hlist name hchild)
    rw [hseat.isFile_eq, (hseat.congr hab).isFile_eq, h name dir hname]
  have hselect : selectDocuments (fun name => a.isFile (folder.join ⟨name⟩)) (a.children dir)
      = selectDocuments (fun name => b.isFile (folder.join ⟨name⟩)) (b.children dir) := by
    have hsplit : ∀ (names : List Name) (isFile : Name → Bool),
        (names.filter fun name => isDocumentName name && isFile name)
          = (names.filter isDocumentName).filter isFile := by
      intro names isFile
      rw [List.filter_filter]
      exact List.filter_congr fun name _ => Bool.and_comm _ _
    rw [selectDocuments, selectDocuments, hsplit, hsplit, List.filter_congr hfile, hnames]
  rw [findDocuments, findDocuments, hlist, hlist']
  simp only [hselect]

/-- The documents of a folder in which they are listed in the order of their names. -/
theorem findDocuments_of_list {fs : FileSystem} {folder : Path} {names documents : List Name}
    (hlist : fs.list folder = .ok names)
    (hdocuments : (names.filter fun name => isDocumentName name && fs.isFile (folder.join ⟨name⟩))
      = documents) (hordered : documents.Pairwise fun a b => decide (a ≤ b) = true) :
    (findDocuments fs folder).2 = documents.map fun name => folder.join ⟨name⟩ := by
  rw [findDocuments, hlist]
  simp only [selectDocuments, hdocuments, List.mergeSort_of_pairwise hordered]

/-! ### The batch -/

/-- The file system in which the documents of a batch are converted: the output folder has been
made. -/
def prepared (fs : FileSystem) (settings : Settings) : FileSystem :=
  fs.applyAll (fs.createDirectories settings.outputFolder).1

/-- The documents of a batch. -/
def batchSources (fs : FileSystem) (settings : Settings) : List Path :=
  (findDocuments (prepared fs settings) settings.inputFolder).2

/-- The documents that a batch finds; there are none where there is no input folder. -/
def foundDocuments (fs : FileSystem) (settings : Settings) : List Path :=
  if fs.isDirectory settings.inputFolder then batchSources fs settings else []

section Batch

variable {fs : FileSystem} {settings : Settings} {engine : Engine}

theorem foundDocuments_eq (h : fs.isDirectory settings.inputFolder = true) :
    foundDocuments fs settings = batchSources fs settings := by
  rw [foundDocuments, if_pos h]

theorem isDirectory_prepared {path : Path} (h : fs.isDirectory path = true) :
    (prepared fs settings).isDirectory path = true := by
  have hgrown := fs.createDirectories_frameLe settings.outputFolder
    (fs.createDirectories settings.outputFolder).1.length
  rw [List.take_length] at hgrown
  exact FileSystem.isDirectory_mono hgrown h

theorem convertBatch_of_missing (engine : Engine) (observed : Bool)
    (h : fs.isDirectory settings.inputFolder = false) :
    (convertBatch fs settings engine observed).outcome = .ok .empty ∧
      (convertBatch fs settings engine observed).effects = [] := by
  simp only [convertBatch, h, Bool.not_false, if_true, BatchRun.ended, BatchRun.effects,
    Course.effects_append, Course.effects_ofEffects, Course.effects_ofNotices, List.append_nil,
    and_self]

theorem convertBatch_of_refused (engine : Engine) (observed : Bool)
    (h : fs.isDirectory settings.inputFolder = true) {e : OsError}
    (hmade : (fs.createDirectories settings.outputFolder).2 = .error e) :
    (convertBatch fs settings engine observed).outcome.toOption = none ∧
      (convertBatch fs settings engine observed).effects
        = (fs.createDirectories settings.outputFolder).1 := by
  cases hcreate : fs.createDirectories settings.outputFolder with
  | mk made outcome =>
      rw [hcreate] at hmade
      cases hmade
      simp only [convertBatch, h, Bool.not_true, Bool.false_eq_true, if_false, hcreate,
        BatchRun.ended, BatchRun.effects, Course.effects_append, Course.effects_ofEffects,
        Course.effects_ofNotices, List.append_nil]
      exact ⟨rfl, trivial⟩

/-- **A batch makes its output folder and then is its task.** -/
theorem convertBatch_of_prepared (hengine : engine.Memoryless) (observed : Bool)
    (h : fs.isDirectory settings.inputFolder = true)
    (hmade : (fs.createDirectories settings.outputFolder).2 = .ok ()) :
    let task := batchTask settings engine (batchSources fs settings)
    (convertBatch fs settings engine observed).outcome
        = .ok (.ofResults (task.result (prepared fs settings))) ∧
      (convertBatch fs settings engine observed).effects
        = (fs.createDirectories settings.outputFolder).1
          ++ task.effects (prepared fs settings) := by
  intro task
  cases hcreate : fs.createDirectories settings.outputFolder with
  | mk made outcome =>
      rw [hcreate] at hmade
      cases hmade
      have hready : prepared fs settings = fs.applyAll made := by rw [prepared, hcreate]
      cases hfind : findDocuments (fs.applyAll made) settings.inputFolder with
      | mk unlistable documents =>
          have hsources : batchSources fs settings = documents := by
            rw [batchSources, hready, hfind]
          -- a batch without documents ends early, with the report of no runs
          obtain ⟨hreports, heffects⟩ := documentRuns_eq hengine settings observed
            (fs.applyAll made) [] documents
          simp only [convertBatch, h, Bool.not_true, Bool.false_eq_true, if_false, hcreate, hfind,
            task, hready, hsources]
          cases documents with
          | nil =>
              simp only [List.isEmpty_nil, if_true, BatchRun.ended, BatchRun.effects,
                Course.effects_append, Course.effects_ofEffects, Course.effects_ofNotices]
              exact ⟨rfl, rfl⟩
          | cons source sources =>
              simp only [List.isEmpty_cons, Bool.false_eq_true, if_false, BatchRun.ofDocuments,
                BatchRun.effects, Course.effects_append, Course.effects_ofEffects,
                Course.effects_ofNotices, Course.effects_flatMap, hreports, List.append_nil]
              exact ⟨trivial, congrArg (made ++ ·) heffects⟩

/-! ### The entries of a batch -/

/-- No link stands at the path of a page image of the documents, nor at the path of its temporary
file. -/
def ImagesUnlinked (fs : FileSystem) (settings : Settings) (engine : Engine)
    (sources : List Path) : Prop :=
  ∀ source ∈ sources, ∀ index < imageCount settings engine source,
    fs.isLink (imagePath settings source index) = false ∧
      fs.isLink (temporaryPath (imagePath settings source index)) = false

/-- **Links may be looked for before the output folder is made**, unless its path has a `..` in it
or entries lie outside of all directories. -/
theorem ImagesUnlinked.prepared {sources : List Path}
    (h : ImagesUnlinked fs settings engine sources) (hattached : fs.Attached)
    (hup : Path.Part.up ∉ settings.outputFolder.parts) :
    ImagesUnlinked (prepared fs settings) settings engine sources := by
  intro source hsource index hindex
  obtain ⟨himage, htemporary⟩ := h source hsource index hindex
  have hends := imagePath_endsIn settings source index
  exact ⟨FileSystem.createDirectories_isLink hattached hup hends himage,
    FileSystem.createDirectories_isLink hattached hup (temporaryPath_endsIn hends) htemporary⟩

/-- Where the output folder has been made, the page images have their places in it. -/
theorem exists_berths {sources : List Path}
    (hmade : (fs.createDirectories settings.outputFolder).2 = .ok ())
    (h : ImagesUnlinked (prepared fs settings) settings engine sources) :
    ∃ dir, (prepared fs settings).folder settings.outputFolder.isAbsolute
        settings.outputFolder.parts = .ok dir ∧
      ∀ source ∈ sources, DocumentBerth (prepared fs settings) dir settings engine source := by
  obtain ⟨dir, hdir⟩ := FileSystem.createDirectories_folder hmade
  refine ⟨dir, hdir, fun source hsource index hindex => ?_⟩
  exact pageBerth_of_isLink hdir (h source hsource index hindex).1 (h source hsource index hindex).2

/-- The entries of the page images of some documents. -/
def batchRegion (dir : Location) (settings : Settings) (engine : Engine) (sources : List Path) :
    Location → Prop :=
  Task.union (documentRegion dir settings engine) sources

theorem batchTask_local {ready : FileSystem} {dir : Location} {sources : List Path}
    (h : ∀ source ∈ sources, DocumentBerth ready dir settings engine source) :
    (batchTask settings engine sources).Local ready.SameFrame
      (batchRegion dir settings engine sources) :=
  Task.Local.sequence _ fun source hsource => documentTask_local (h source hsource)

theorem apart_of_stems {dir : Location} {sources : List Path}
    (h : (sources.map Path.stemText).Nodup) :
    Task.Apart (documentRegion dir settings engine) sources :=
  (List.pairwise_map.1 h).imp fun hne _ => documentRegion_disjoint hne

/-- No document has its place where page images have theirs. -/
theorem not_batchRegion_of_isDocumentName {dir dir' : Location} {sources : List Path} {name : Name}
    (h : isDocumentName name = true) :
    ¬ batchRegion dir settings engine sources (name :: dir') := by
  rintro ⟨source, -, index, -, hl | hl⟩
  · rw [(List.cons.inj hl).1, not_isDocumentName_temporary] at h
    cases h
  · rw [(List.cons.inj hl).1, not_isDocumentName_pageFileName] at h
    cases h

/-- **Converting documents does not change which documents there are.** -/
theorem findDocuments_of_batchRegion {ready later : FileSystem} {dir : Location}
    {sources : List Path} (hframe : ready.SameFrame later)
    (hfolder : ready.isDirectory settings.inputFolder = true)
    (hplain : ready.PlainFolder settings.inputFolder)
    (h : ∀ l, ¬ batchRegion dir settings engine sources l → later.node? l = ready.node? l) :
    findDocuments later settings.inputFolder = findDocuments ready settings.inputFolder :=
  (findDocuments_congr hframe hfolder hplain fun name dir' hname =>
    (h (name :: dir') (not_batchRegion_of_isDocumentName hname)).symm).symm

/-- **A batch that is run once more converts the same documents**, where only page images of theirs
have changed since its output folder was made. -/
theorem convertBatch_of_later (hengine : engine.Memoryless) (observed : Bool)
    (hfolder : fs.isDirectory settings.inputFolder = true)
    (hmade : (fs.createDirectories settings.outputFolder).2 = .ok ())
    (hplain : (prepared fs settings).PlainFolder settings.inputFolder) {later : FileSystem}
    {dir : Location} (hframe : (prepared fs settings).SameFrame later)
    (h : ∀ l, ¬ batchRegion dir settings engine (batchSources fs settings) l →
      later.node? l = (prepared fs settings).node? l) :
    let task := batchTask settings engine (batchSources fs settings)
    (convertBatch later settings engine observed).outcome = .ok (.ofResults (task.result later)) ∧
      (convertBatch later settings engine observed).effects = task.effects later := by
  intro task
  have hfolder' : (prepared fs settings).isDirectory settings.inputFolder = true :=
    isDirectory_prepared hfolder
  have hagain := FileSystem.createDirectories_again hmade hframe.le
  have hprepared : prepared later settings = later := by
    rw [prepared, hagain]
    rfl
  have hsources : batchSources later settings = batchSources fs settings := by
    rw [batchSources, hprepared, batchSources]
    exact congrArg Prod.snd (findDocuments_of_batchRegion hframe hfolder' hplain h)
  obtain ⟨houtcome, heffects⟩ := convertBatch_of_prepared hengine observed
    (FileSystem.isDirectory_mono hframe.le hfolder') (congrArg Prod.snd hagain)
  rw [hsources, hprepared] at houtcome heffects
  rw [hagain, List.nil_append] at heffects
  exact ⟨houtcome, heffects⟩

end Batch

/-! ### An example -/

namespace Sample

/-- Settings for a new folder inside of the folder `o`. -/
def nested : Settings :=
  { settings with outputFolder := ⟨outputName ++ Path.slash :: [0x78]⟩ }

theorem foundDocuments_nested : foundDocuments store nested
    = [letter, ledger].map fun name => nested.inputFolder.join ⟨name⟩ := by
  have hlist : (prepared store nested).list nested.inputFolder = .ok [letter, ledger] := rfl
  rw [foundDocuments_eq (by decide +kernel)]
  exact findDocuments_of_list hlist (by decide +kernel) (by decide +kernel)

theorem stems_nested : ((foundDocuments store nested).map Path.stemText).Nodup := by
  rw [foundDocuments_nested]
  decide +kernel

theorem plainFolder_nested : (prepared store nested).PlainFolder nested.inputFolder := by
  intro names hnames name hname
  cases hnames
  revert name
  decide +kernel

theorem imagesUnlinked_nested :
    ImagesUnlinked (prepared store nested) nested engine (foundDocuments store nested) := by
  refine ImagesUnlinked.prepared ?_ (by decide +kernel) (by decide)
  rw [foundDocuments_nested, ImagesUnlinked]
  decide +kernel

end Sample

end PageImages
