import PageImages.Proofs.Batch
import PageImages.Proofs.Follow

/-!
**Which documents are found, and in which order.**

A directory lists its entries once each, in an order that nothing prescribes.  What is found does
not depend on that order: the names of documents among the entries are put in increasing order, and
since no two entries have the same name there is only one such order.

Main definitions:

* `Name.EndsInPdf` — the names of documents, by the octets that they end in;
* `FileSystem.Listing` — the entries of a directory, each once, in some order;
* `listedDocuments` — the documents of a folder, from its entries in the order of a listing.

Main results:

* `isDocumentName_iff` — the names that are taken for those of documents are exactly these;
* `FileSystem.listing_children`, `FileSystem.Listing.perm` — a directory can be listed, and two
  listings differ in their order only;
* `selectDocuments_perm`, `pairwise_selectDocuments` — the order of the listing does not matter, and
  that of the documents is strict;
* `findDocuments_exact` — **exactly the documents of a folder are found**, in the order of their
  names.
-/

set_option autoImplicit false

namespace PageImages

/-! ### Names of documents -/

/-- The name ends in a dot and the letters `pdf`, each in either case, behind something else. -/
def Name.EndsInPdf (name : Name) : Prop :=
  ∃ stem p d f, stem ≠ [] ∧ name = stem ++ [Path.dot, p, d, f] ∧
    (p = 0x50 ∨ p = 0x70) ∧ (d = 0x44 ∨ d = 0x64) ∧ (f = 0x46 ∨ f = 0x66)

/-- A name is cut at a dot that no other dot follows, unless it starts with that dot. -/
theorem Path.splitName_append {stem extension : Octets} (hstem : stem ≠ [])
    (hdot : dot ∉ extension) :
    splitName (stem ++ dot :: extension) = (stem, some extension) := by
  have hpieces : (pieces dot (stem ++ dot :: extension)).reverse
      = extension :: (pieces dot stem).reverse := by
    rw [pieces_append_mark, pieces_of_not_mem hdot, List.reverse_append]
    rfl
  obtain ⟨piece, before, hbefore⟩ :=
    List.exists_cons_of_ne_nil (List.reverse_ne_nil_iff.2 (pieces_ne_nil dot stem))
  have hglue : glue dot (piece :: before).reverse = stem := by
    rw [← hbefore, List.reverse_reverse, glue_pieces]
  rw [splitName, hpieces, hbefore]
  simp only [hglue, if_neg hstem]

/-- A letter in lower case comes from that letter in either case. -/
theorem lowerOctet_eq_iff {b small : UInt8} (hsmall : 0x61 ≤ small ∧ small ≤ 0x7A) :
    lowerOctet b = small ↔ b = small - 0x20 ∨ b = small := by
  obtain ⟨hlow, hhigh⟩ := hsmall
  rw [lowerOctet]
  grind

theorem map_lowerOctet_eq_iff (extension : Name) :
    extension.map lowerOctet = documentExtension ↔ ∃ p d f, extension = [p, d, f] ∧
      (p = 0x50 ∨ p = 0x70) ∧ (d = 0x44 ∨ d = 0x64) ∧ (f = 0x46 ∨ f = 0x66) := by
  have hp : ∀ b, lowerOctet b = 0x70 ↔ b = 0x50 ∨ b = 0x70 := fun b => lowerOctet_eq_iff (by decide)
  have hd : ∀ b, lowerOctet b = 0x64 ↔ b = 0x44 ∨ b = 0x64 := fun b => lowerOctet_eq_iff (by decide)
  have hf : ∀ b, lowerOctet b = 0x66 ↔ b = 0x46 ∨ b = 0x66 := fun b => lowerOctet_eq_iff (by decide)
  rw [documentExtension]
  constructor
  · intro h
    obtain ⟨p, rest, rfl, hp', hrest⟩ := List.map_eq_cons_iff.1 h
    obtain ⟨d, rest, rfl, hd', hrest⟩ := List.map_eq_cons_iff.1 hrest
    obtain ⟨f, rest, rfl, hf', hrest⟩ := List.map_eq_cons_iff.1 hrest
    rw [List.map_eq_nil_iff.1 hrest]
    exact ⟨p, d, f, rfl, (hp p).1 hp', (hd d).1 hd', (hf f).1 hf'⟩
  · rintro ⟨p, d, f, rfl, hp', hd', hf'⟩
    rw [List.map_cons, List.map_cons, List.map_cons, (hp p).2 hp', (hd d).2 hd', (hf f).2 hf']
    rfl

/-- **The names that are taken for those of documents** are those that end in `.pdf`, in letters of
any case, and have something before it. -/
theorem isDocumentName_iff (name : Name) : isDocumentName name = true ↔ name.EndsInPdf := by
  constructor
  · intro h
    rw [isDocumentName] at h
    rcases Path.splitName_eq name with ⟨hnone, -⟩ | ⟨extension, hextension, hname⟩
    · simp [hnone] at h
    · rw [hextension] at h
      obtain ⟨p, d, f, rfl, hletters⟩ := (map_lowerOctet_eq_iff extension).1 (by simpa using h)
      refine ⟨(Path.splitName name).1, p, d, f, ?_, hname, hletters⟩
      -- a name that starts with the dot has no extension
      intro hstem
      rw [hname, hstem] at hextension
      revert hextension
      rcases hletters with ⟨rfl | rfl, rfl | rfl, rfl | rfl⟩ <;> decide
  · rintro ⟨stem, p, d, f, hstem, rfl, hletters⟩
    have hdot : Path.dot ∉ [p, d, f] := by
      rcases hletters with ⟨rfl | rfl, rfl | rfl, rfl | rfl⟩ <;> decide
    have hmap := (map_lowerOctet_eq_iff [p, d, f]).2 ⟨p, d, f, rfl, hletters⟩
    rw [isDocumentName, Path.splitName_append hstem hdot]
    exact decide_eq_true hmap

/-- Nothing before the dot, and something behind the letters. -/
example : isDocumentName [0x2E, 0x70, 0x64, 0x66] = false ∧
    isDocumentName [0x78, 0x2E, 0x70, 0x64, 0x66, 0x2E, 0x62, 0x61, 0x6B] = false := by
  decide

/-! ### Listings of a directory -/

namespace FileSystem

/-- The entries of a directory, each once, in some order. -/
structure Listing (fs : FileSystem) (dir : Location) (listing : List Name) : Prop where
  /-- No entry is listed twice. -/
  once : listing.Nodup
  /-- What is listed is what is there. -/
  entries : ∀ name, name ∈ listing ↔ ∃ node, fs.node? (name :: dir) = some node

theorem exists_node?_iff (fs : FileSystem) (location : Location) :
    (∃ node, fs.node? location = some node) ↔ ∃ entry ∈ fs.entries, entry.1 = location := by
  rw [node?]
  induction fs.entries with
  | nil => simp
  | cons head rest ih =>
      obtain ⟨key, node⟩ := head
      rw [Entries.find?_cons]
      by_cases hkey : key = location
      · rw [if_pos hkey]
        exact ⟨fun _ => ⟨_, List.mem_cons_self, hkey⟩, fun _ => ⟨node, rfl⟩⟩
      · rw [if_neg hkey, ih]
        simp [hkey]

theorem children_eq (fs : FileSystem) (dir : Location) : fs.children dir
    = fs.entries.filterMap fun entry => if entry.1.tail == dir then entry.1.head? else none := by
  rw [children]
  refine congrArg (List.filterMap · fs.entries) (funext fun entry => ?_)
  obtain ⟨key, node⟩ := entry
  cases key with
  | nil => simp
  | cons name parent => rfl

/-- The names of a directory, in the order in which they are kept, are a listing of it. -/
theorem listing_children (fs : FileSystem) (dir : Location) : fs.Listing dir (fs.children dir) := by
  -- a name is taken from the location that it makes with the directory
  have hname : ∀ (location : Location) name,
      (if location.tail == dir then location.head? else none) = some name ↔
        location = name :: dir := by
    intro location name
    cases location with
    | nil => simp
    | cons first parent => by_cases hparent : parent = dir <;> simp [hparent]
  rw [children_eq]
  constructor
  · refine List.pairwise_filterMap.2 (fs.sorted.imp ?_)
    intro entry entry' hlt name h name' h' hsame
    rw [(hname _ name).1 h, (hname _ name').1 h', hsame] at hlt
    exact List.lt_irrefl _ hlt
  · intro name
    rw [exists_node?_iff, List.mem_filterMap]
    exact exists_congr fun entry => and_congr_right' (hname entry.1 name)

/-- Two listings of a directory differ in their order only. -/
theorem Listing.perm {fs : FileSystem} {dir : Location} {listing listing' : List Name}
    (h : fs.Listing dir listing) (h' : fs.Listing dir listing') : listing.Perm listing' :=
  (List.perm_ext_iff_of_nodup h.once h'.once).2 fun name =>
    (h.entries name).trans (h'.entries name).symm

end FileSystem

/-! ### Documents in order -/

section Order

variable {isFile : Name → Bool} {names : List Name}

theorem mem_selectDocuments {name : Name} : name ∈ selectDocuments isFile names ↔
    name ∈ names ∧ isDocumentName name = true ∧ isFile name = true := by
  rw [selectDocuments, List.mem_mergeSort, List.mem_filter, Bool.and_eq_true]

theorem selectDocuments_sorted : (selectDocuments isFile names).Pairwise (· ≤ ·) := by
  have hsorted : (selectDocuments isFile names).Pairwise fun a b => decide (a ≤ b) = true := by
    refine List.pairwise_mergeSort ?_ ?_ _
    · intro a b c hab hbc
      exact decide_eq_true (List.le_trans (of_decide_eq_true hab) (of_decide_eq_true hbc))
    · intro a b
      simpa using List.le_total a b
  exact hsorted.imp of_decide_eq_true

theorem nodup_selectDocuments (h : names.Nodup) : (selectDocuments isFile names).Nodup :=
  (List.mergeSort_perm _ _).nodup_iff.2 (h.filter _)

/-- The order in which names are listed does not matter. -/
theorem selectDocuments_perm {names' : List Name} (h : names.Perm names') :
    selectDocuments isFile names = selectDocuments isFile names' := by
  refine List.Perm.eq_of_pairwise (fun a b _ _ => List.le_antisymm) selectDocuments_sorted
    selectDocuments_sorted ?_
  exact ((List.mergeSort_perm _ _).trans (h.filter _)).trans (List.mergeSort_perm _ _).symm

/-- Names that are listed once are in strictly increasing order. -/
theorem pairwise_selectDocuments (h : names.Nodup) :
    (selectDocuments isFile names).Pairwise (· < ·) :=
  (selectDocuments_sorted.and (nodup_selectDocuments h)).imp fun hle =>
    Std.lt_of_le_of_ne hle.1 hle.2

end Order

/-! ### The documents of a folder -/

/-- The documents of a folder, from its entries in the order in which they are listed. -/
def listedDocuments (fs : FileSystem) (folder : Path) (listing : List Name) : List Path :=
  (selectDocuments (fun name => fs.isFile (folder.join ⟨name⟩)) listing).map
    fun name => folder.join ⟨name⟩

theorem mem_listedDocuments {fs : FileSystem} {folder path : Path} {listing : List Name} :
    path ∈ listedDocuments fs folder listing ↔
      ∃ name ∈ listing, path = folder.join ⟨name⟩ ∧ name.EndsInPdf ∧ fs.isFile path = true := by
  rw [listedDocuments, List.mem_map]
  constructor
  · rintro ⟨name, hname, rfl⟩
    obtain ⟨hlisted, hdocument, hfile⟩ := mem_selectDocuments.1 hname
    exact ⟨name, hlisted, rfl, (isDocumentName_iff name).1 hdocument, hfile⟩
  · rintro ⟨name, hlisted, rfl, hdocument, hfile⟩
    exact ⟨name, mem_selectDocuments.2 ⟨hlisted, (isDocumentName_iff name).2 hdocument, hfile⟩, rfl⟩

/-- The name of a document is the last name of its path. -/
theorem fileName?_document (folder : Path) {name : Name} (h : isDocumentName name = true)
    (hslash : Path.slash ∉ name) : (folder.join ⟨name⟩).fileName? = some name :=
  (Path.endsIn_join folder (proper_of_isDocumentName h hslash)).fileName?

theorem Path.isAbsolute_of_not_mem {name : Name} (h : slash ∉ name) :
    (⟨name⟩ : Path).isAbsolute = false := by
  rw [isAbsolute, decide_eq_false_iff_not]
  exact fun hhead => h (List.mem_of_head? hhead)

/-- Names in one piece can be told from the paths that they make with a folder. -/
theorem Path.join_inj {folder : Path} {a b : Name} (ha : slash ∉ a) (hb : slash ∉ b)
    (h : folder.join ⟨a⟩ = folder.join ⟨b⟩) : a = b := by
  rw [join, join, isAbsolute_of_not_mem ha, isAbsolute_of_not_mem hb] at h
  cases hlast : folder.octets.getLast? with
  | none => simpa [hlast] using h
  | some c => by_cases hc : c = slash <;> simpa [hlast, hc] using h

/-- Documents that are listed once come in the order of the last names of their paths. -/
theorem pairwise_listedDocuments (fs : FileSystem) (folder : Path) {listing : List Name}
    (honce : listing.Nodup) (hslash : ∀ name ∈ listing, Path.slash ∉ name) :
    (listedDocuments fs folder listing).Pairwise fun a b =>
      ∃ n m, a.fileName? = some n ∧ b.fileName? = some m ∧ n < m := by
  refine List.pairwise_map.2 ((pairwise_selectDocuments honce).imp_of_mem ?_)
  intro n m hn hm hlt
  obtain ⟨hlisted, hdocument, -⟩ := mem_selectDocuments.1 hn
  obtain ⟨hlisted', hdocument', -⟩ := mem_selectDocuments.1 hm
  exact ⟨n, m, fileName?_document folder hdocument (hslash n hlisted),
    fileName?_document folder hdocument' (hslash m hlisted'), hlt⟩

theorem findDocuments_of_directory {fs : FileSystem} {folder : Path} {dir : Location}
    (h : fs.stat folder = .ok (dir, .directory)) :
    (findDocuments fs folder).2 = listedDocuments fs folder (fs.children dir) := by
  have hlist : fs.list folder = .ok (fs.children dir) := by
    rw [FileSystem.list, h]
    rfl
  rw [findDocuments, hlist]
  rfl

theorem findDocuments_of_unlistable {fs : FileSystem} {folder : Path}
    (h : ∀ dir, fs.stat folder ≠ .ok (dir, .directory)) : (findDocuments fs folder).2 = [] := by
  obtain ⟨e, hlist⟩ : ∃ e, fs.list folder = .error e := by
    rw [FileSystem.list]
    cases hstat : fs.stat folder with
    | error e => exact ⟨e, rfl⟩
    | ok found =>
        obtain ⟨l, node⟩ := found
        cases node with
        | directory => exact absurd hstat (h l)
        | file content => exact ⟨_, rfl⟩
        | link target => exact ⟨_, rfl⟩
  rw [findDocuments, hlist]

/-- A document that is found has the name of one, in the folder in which it is looked for. -/
theorem exists_of_mem_findDocuments {fs : FileSystem} {folder path : Path}
    (h : path ∈ (findDocuments fs folder).2) :
    ∃ name, isDocumentName name = true ∧ path = folder.join ⟨name⟩ := by
  by_cases hfolder : ∃ dir, fs.stat folder = .ok (dir, .directory)
  · obtain ⟨dir, hdir⟩ := hfolder
    rw [findDocuments_of_directory hdir] at h
    obtain ⟨name, -, hpath, hdocument, -⟩ := mem_listedDocuments.1 h
    exact ⟨name, (isDocumentName_iff name).2 hdocument, hpath⟩
  · rw [findDocuments_of_unlistable (not_exists.1 hfolder)] at h
    cases h

/-- A directory is no document, whatever its name is. -/
theorem isFile_of_directory {fs : FileSystem} {folder : Path} {dir : Location} {name : Name}
    (hfolder : fs.stat folder = .ok (dir, .directory)) (hname : name.Proper)
    (hnode : fs.node? (name :: dir) = some .directory) :
    fs.isFile (folder.join ⟨name⟩) = false := by
  obtain ⟨place, hresolve, -, rfl, hdirectory⟩ := FileSystem.stat_eq_ok_iff.1 hfolder
  obtain ⟨-, hwalk⟩ := FileSystem.resolve_eq_ok_iff.1 hresolve
  obtain ⟨left, hdescend⟩ := FileSystem.descend_of_walk hwalk hdirectory
  rw [← Path.parts_eq] at hdescend
  have hseat : fs.Seat (folder.join ⟨name⟩) place.location name := by
    refine ⟨⟨_, _, Path.endsIn_join folder hname, ?_⟩, ?_⟩
    · exact FileSystem.folder_eq_ok_iff.2 ⟨left, hdescend⟩
    · intro _ target
      rw [hnode]
      simp
  rw [hseat.isFile_eq, hnode]
  exact Bool.and_false _

/-- **Exactly the documents of a folder are found.**  In whatever order the entries of the folder
are listed, the same paths are found: those of the entries with the name of a document whose path
leads to a file, links followed.  Each of them is found once, and they come in strictly increasing
order of their names.  A path that leads to no directory has no documents. -/
theorem findDocuments_exact (fs : FileSystem) (folder : Path) :
    ((∀ dir, fs.stat folder ≠ .ok (dir, .directory)) → (findDocuments fs folder).2 = []) ∧
    ∀ dir, fs.stat folder = .ok (dir, .directory) →
      ∀ listing, fs.Listing dir listing →
        let documents := listedDocuments fs folder listing
        (findDocuments fs folder).2 = documents ∧
        (∀ path, path ∈ documents ↔ ∃ name ∈ listing, path = folder.join ⟨name⟩ ∧
          name.EndsInPdf ∧ fs.isFile path = true) ∧
        (∀ name, fs.node? (name :: dir) = some .directory → folder.join ⟨name⟩ ∉ documents) ∧
        (∀ path ∈ documents, documents.count path = 1) ∧
        documents.Pairwise fun a b =>
          ∃ n m, a.fileName? = some n ∧ b.fileName? = some m ∧ n < m := by
  refine ⟨findDocuments_of_unlistable, ?_⟩
  intro dir hfolder listing hlisting documents
  have hslash : ∀ name ∈ listing, Path.slash ∉ name := fun name hname =>
    (hlisting.entries name).1 hname |>.elim fun _ => FileSystem.slash_not_mem_of_node?
  have hordered := pairwise_listedDocuments fs folder hlisting.once hslash
  refine ⟨?_, fun path => mem_listedDocuments, ?_, ?_, hordered⟩
  · rw [findDocuments_of_directory hfolder, listedDocuments,
      selectDocuments_perm ((fs.listing_children dir).perm hlisting)]
    rfl
  · intro name hnode hmem
    obtain ⟨name', hlisted, hpath, hdocument, hfile⟩ := mem_listedDocuments.1 hmem
    have hwhole := FileSystem.slash_not_mem_of_node? hnode
    obtain rfl := Path.join_inj hwhole (hslash name' hlisted) hpath
    have hproper := proper_of_isDocumentName ((isDocumentName_iff name).2 hdocument) hwhole
    rw [isFile_of_directory hfolder hproper hnode] at hfile
    cases hfile
  · intro path hpath
    have hnodup : documents.Nodup := hordered.imp fun hlt hsame => by
      obtain ⟨n, m, hn, hm, hlt⟩ := hlt
      rw [hsame, hm] at hn
      cases hn
      exact List.lt_irrefl _ hlt
    rw [hnodup.count, if_pos hpath]

/-! ### A folder of all sorts -/

namespace Sample

/-- The document `C.PDF`. -/
def contract : Name := [0x43, 0x2E, 0x50, 0x44, 0x46]

/-- The directory `d.pdf`. -/
def binder : Name := [0x64, 0x2E, 0x70, 0x64, 0x66]

/-- The file `.pdf`. -/
def hidden : Name := [0x2E, 0x70, 0x64, 0x66]

/-- The file `b.pdf.x`. -/
def backup : Name := ledger ++ [0x2E, 0x78]

/-- A folder with the documents `b.pdf` and `C.PDF`, the link `a.pdf` to `b.pdf`, a directory with
the name of a document, and two files with other names. -/
def drawer : FileSystem :=
  ((((((FileSystem.empty.insert [inputName] .directory).insert
    [ledger, inputName] (.file [])).insert
    [contract, inputName] (.file [])).insert
    [letter, inputName] (.link ⟨ledger⟩)).insert
    [binder, inputName] .directory).insert
    [hidden, inputName] (.file [])).insert
    [backup, inputName] (.file [])

/-- The entries of the folder, out of order. -/
def jumble : List Name := [ledger, hidden, backup, letter, binder, contract]

theorem listing_jumble : drawer.Listing [inputName] jumble := by
  have hperm : jumble.Perm (drawer.children [inputName]) := by decide +kernel
  have hlisting := drawer.listing_children [inputName]
  refine ⟨hperm.nodup_iff.2 hlisting.once, fun name => ?_⟩
  rw [hperm.mem_iff]
  exact hlisting.entries name

end Sample

/-- The link comes before the document that it leads to, and the capital letter before both. -/
theorem findDocuments_exact_sample :
    Sample.drawer.Listing [Sample.inputName] Sample.jumble ∧
      listedDocuments Sample.drawer ⟨Sample.inputName⟩ Sample.jumble
        = [Sample.contract, Sample.letter, Sample.ledger].map
          fun name => Path.join ⟨Sample.inputName⟩ ⟨name⟩ := by
  obtain ⟨-, hexact⟩ := findDocuments_exact Sample.drawer ⟨Sample.inputName⟩
  obtain ⟨hsame, -⟩ := hexact [Sample.inputName] rfl Sample.jumble Sample.listing_jumble
  have hlist : Sample.drawer.list ⟨Sample.inputName⟩
      = .ok (Sample.drawer.children [Sample.inputName]) := rfl
  refine ⟨Sample.listing_jumble, ?_⟩
  rw [← hsame]
  exact findDocuments_of_list hlist (by decide +kernel) (by decide +kernel)

end PageImages
