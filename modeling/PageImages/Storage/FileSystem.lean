import PageImages.Encoding
import PageImages.Journal
import PageImages.Path

/-!
**A file system as a value.**

A file system is a finite table of entries by location, kept in increasing order of the locations, so
that two file systems with the same entries are equal.  A location lists the names on the way from
the entry up to the root.  No entry has a name with a slash in it.

Main definitions:

* `Content`, `Node` — the content of a file, and what an entry is;
* `FileSystem`, `FileSystem.node?` — a file system, and its entry at a location;
* `FileSystem.insert`, `FileSystem.erase` — the file system with one entry changed;
* `Effect`, `FileSystem.apply` — a primitive step, and the file system after it.

Main results:

* `FileSystem.node?_insert`, `FileSystem.node?_erase` — what changing an entry does;
* `FileSystem.ext_node?` — a file system is determined by its entries;
* `FileSystem.slash_not_mem_of_node?` — the name of an entry is in one piece.
-/

set_option autoImplicit false

namespace PageImages

/-! ### Contents -/

/-- A part of the content of a file. -/
inductive Piece where
  /-- Plain octets. -/
  | octets (bytes : Octets)
  /-- A whole encoded image. -/
  | picture (encoded : Encoded)
  /-- The beginning of an encoded image. -/
  | fragment (encoded : Encoded)
  /-- A line of the journal. -/
  | logged (notice : Notice)
deriving DecidableEq

/-- The content of a file, from its start. -/
abbrev Content := List Piece

/-- A content of plain octets. -/
def Content.ofOctets (bytes : Octets) : Content := [.octets bytes]

/-- The octets of a content that has nothing else in it. -/
def Content.octets? (content : Content) : Option Octets :=
  content.foldr
    (fun piece rest =>
      match piece, rest with
      | .octets bytes, some tail => some (bytes ++ tail)
      | _, _ => none)
    (some [])

/-- What an entry of a file system is. -/
inductive Node where
  /-- A directory. -/
  | directory
  /-- A file with its content. -/
  | file (content : Content)
  /-- A symbolic link to a path. -/
  | link (target : Path)
deriving DecidableEq

/-! ### Locations -/

/-- The place of an entry: the names on the way from it up to the root, its own name first. -/
abbrev Location := List Name

/-- Whether one location is another one or lies below it. -/
def Location.isWithin (location ancestor : Location) : Bool :=
  ancestor.isSuffixOf location

/-- Whether a location can have an entry: its own name is in one piece. -/
def Location.isNamed : Location → Bool
  | [] => true
  | name :: _ => !name.contains Path.slash

theorem Location.isNamed_cons {name : Name} {dir : Location} :
    isNamed (name :: dir) = true ↔ Path.slash ∉ name := by
  simp [isNamed]

/-- Whether a name comes before another one. -/
def Name.before : Name → Name → Bool
  | _, [] => false
  | [], _ :: _ => true
  | a :: as, b :: bs => a < b || (a == b && before as bs)

theorem Name.before_iff (a b : Name) : a.before b = true ↔ a < b := by
  induction a generalizing b with
  | nil => cases b <;> simp [before]
  | cons x xs ih =>
      cases b with
      | nil => simp [before]
      | cons y ys => simp [before, ih, List.cons_lt_cons_iff]

/-- Whether a location comes before another one. -/
def Location.before : Location → Location → Bool
  | _, [] => false
  | [], _ :: _ => true
  | a :: as, b :: bs => Name.before a b || (a == b && before as bs)

theorem Location.before_iff (a b : Location) : a.before b = true ↔ a < b := by
  induction a generalizing b with
  | nil => cases b <;> simp [before]
  | cons x xs ih =>
      cases b with
      | nil => simp [before]
      | cons y ys => simp [before, Name.before_iff, ih, List.cons_lt_cons_iff]

/-! ### The table of entries -/

/-- Entries by location. -/
abbrev Entries := List (Location × Node)

namespace Entries

/-- The locations are strictly increasing. -/
def Sorted (entries : Entries) : Prop :=
  entries.Pairwise fun a b => a.1 < b.1

/-- The name of every entry is in one piece. -/
def Named (entries : Entries) : Prop :=
  ∀ entry ∈ entries, entry.1.isNamed = true

/-- The entry at a location. -/
def find? (entries : Entries) (location : Location) : Option Node :=
  match entries with
  | [] => none
  | (key, node) :: rest => if key == location then some node else find? rest location

/-- The table with an entry put in its place. -/
def insert (location : Location) (node : Node) : Entries → Entries
  | [] => [(location, node)]
  | (key, old) :: rest =>
    if location.before key then (location, node) :: (key, old) :: rest
    else if location == key then (location, node) :: rest
    else (key, old) :: insert location node rest

theorem insert_cons (location key : Location) (node old : Node) (rest : Entries) :
    insert location node ((key, old) :: rest) =
      if location < key then (location, node) :: (key, old) :: rest
      else if location = key then (location, node) :: rest
      else (key, old) :: insert location node rest := by
  simp only [insert, Location.before_iff, beq_iff_eq]

/-- The table without the entry at a location. -/
def erase (entries : Entries) (location : Location) : Entries :=
  entries.filter fun entry => entry.1 != location

theorem mem_insert {location : Location} {node : Node} {entries : Entries}
    {entry : Location × Node} (h : entry ∈ insert location node entries) :
    entry = (location, node) ∨ entry ∈ entries := by
  induction entries with
  | nil => exact Or.inl (List.mem_singleton.1 h)
  | cons head rest ih =>
      obtain ⟨key, old⟩ := head
      rw [insert_cons] at h
      split at h
      · exact List.mem_cons.1 h
      · split at h
        · rcases List.mem_cons.1 h with h | h
          · exact Or.inl h
          · exact Or.inr (List.mem_cons_of_mem _ h)
        · rcases List.mem_cons.1 h with h | h
          · exact Or.inr (h ▸ List.mem_cons_self)
          · exact (ih h).imp_right (List.mem_cons_of_mem _)

theorem Sorted.insert {entries : Entries} (h : entries.Sorted) (location : Location)
    (node : Node) : (Entries.insert location node entries).Sorted := by
  induction entries with
  | nil => exact List.pairwise_singleton _ _
  | cons head rest ih =>
      obtain ⟨key, old⟩ := head
      obtain ⟨hhead, hrest⟩ := List.pairwise_cons.1 h
      rw [insert_cons]
      split
      · next hlt =>
          refine List.pairwise_cons.2 ⟨?_, h⟩
          intro entry hentry
          rcases List.mem_cons.1 hentry with rfl | hentry
          · exact hlt
          · exact List.lt_trans hlt (hhead entry hentry)
      · next hge =>
          split
          · next heq =>
              refine List.pairwise_cons.2 ⟨?_, hrest⟩
              intro entry hentry
              exact heq ▸ hhead entry hentry
          · next hne =>
              refine List.pairwise_cons.2 ⟨?_, ih hrest⟩
              intro entry hentry
              rcases mem_insert hentry with rfl | hentry
              · exact Std.lt_of_le_of_ne (List.not_lt.1 hge) (Ne.symm hne)
              · exact hhead entry hentry

theorem Sorted.erase {entries : Entries} (h : entries.Sorted) (location : Location) :
    (entries.erase location).Sorted :=
  List.Pairwise.filter _ h

theorem Named.insert {entries : Entries} (h : entries.Named) {location : Location}
    (hlocation : location.isNamed = true) (node : Node) :
    (Entries.insert location node entries).Named := by
  intro entry hentry
  rcases mem_insert hentry with rfl | hentry
  · exact hlocation
  · exact h entry hentry

theorem Named.filter {entries : Entries} (h : entries.Named) (keep : Location × Node → Bool) :
    Named (entries.filter keep) :=
  fun entry hentry => h entry (List.mem_filter.1 hentry).1

@[simp] theorem find?_nil (location : Location) : find? [] location = none := rfl

theorem find?_cons (key : Location) (node : Node) (rest : Entries) (location : Location) :
    find? ((key, node) :: rest) location =
      if key = location then some node else find? rest location := by
  simp only [find?, beq_iff_eq]

theorem find?_insert (entries : Entries) (location at' : Location) (node : Node) :
    (insert location node entries).find? at' =
      if location = at' then some node else entries.find? at' := by
  induction entries with
  | nil => exact find?_cons _ _ _ _
  | cons head rest ih =>
      obtain ⟨key, old⟩ := head
      rw [insert_cons]
      split
      · exact find?_cons _ _ _ _
      · split
        · next heq =>
            subst heq
            simp only [find?_cons]
            split <;> rfl
        · next hne =>
            simp only [find?_cons, ih]
            by_cases hk : key = at'
            · simp only [hk, if_true]
              rw [if_neg (fun h => hne (h.trans hk.symm))]
            · simp only [hk, if_false]

theorem find?_erase (entries : Entries) (location at' : Location) :
    (entries.erase location).find? at' =
      if location = at' then none else entries.find? at' := by
  induction entries with
  | nil => simp [erase]
  | cons head rest ih =>
      obtain ⟨key, old⟩ := head
      rw [erase] at ih
      by_cases hk : key = location
      · subst hk
        rw [erase, List.filter_cons_of_neg (by simp), ih, find?_cons]
        split <;> rfl
      · rw [erase, List.filter_cons_of_pos (by simpa using hk), find?_cons, ih, find?_cons]
        by_cases ha : key = at'
        · rw [if_pos ha, if_pos ha, if_neg (fun h => hk (ha.trans h.symm))]
        · rw [if_neg ha, if_neg ha]

theorem mem_of_find? {entries : Entries} {location : Location} {node : Node}
    (h : entries.find? location = some node) : (location, node) ∈ entries := by
  induction entries with
  | nil => cases h
  | cons head rest ih =>
      obtain ⟨key, old⟩ := head
      rw [find?_cons] at h
      split at h
      · next hkey =>
          cases h
          exact hkey ▸ List.mem_cons_self
      · exact List.mem_cons_of_mem _ (ih h)

theorem find?_eq_none_of_lt {entries : Entries} {location : Location}
    (h : ∀ entry ∈ entries, location < entry.1) : entries.find? location = none := by
  induction entries with
  | nil => rfl
  | cons head rest ih =>
      obtain ⟨key, node⟩ := head
      have hlt : location < key := h _ List.mem_cons_self
      rw [find?_cons, if_neg (fun he => List.lt_irrefl _ (he ▸ hlt))]
      exact ih fun entry hentry => h entry (List.mem_cons_of_mem _ hentry)

/-- Sorted tables with the same entries are equal. -/
theorem Sorted.ext {a b : Entries} (ha : a.Sorted) (hb : b.Sorted)
    (h : ∀ location, a.find? location = b.find? location) : a = b := by
  induction a generalizing b with
  | nil =>
      cases b with
      | nil => rfl
      | cons head rest =>
          obtain ⟨key, node⟩ := head
          have := h key
          simp [find?_cons] at this
  | cons head rest ih =>
      obtain ⟨key, node⟩ := head
      obtain ⟨hhead, hrest⟩ := List.pairwise_cons.1 ha
      cases b with
      | nil =>
          have := h key
          simp [find?_cons] at this
      | cons head' rest' =>
          obtain ⟨key', node'⟩ := head'
          obtain ⟨hhead', hrest'⟩ := List.pairwise_cons.1 hb
          have hkey : key = key' := by
            by_cases hlt : key < key'
            · have := h key
              rw [find?_cons, if_pos rfl, find?_cons,
                if_neg (fun he => List.lt_irrefl _ (he ▸ hlt)),
                find?_eq_none_of_lt fun entry hentry => List.lt_trans hlt (hhead' entry hentry)]
                at this
              exact absurd this (by simp)
            · by_cases hne : key = key'
              · exact hne
              · have hgt : key' < key :=
                  Std.lt_of_le_of_ne (List.not_lt.1 hlt) (Ne.symm hne)
                have := h key'
                rw [find?_cons, if_neg (fun he => List.lt_irrefl _ (he ▸ hgt)),
                  find?_eq_none_of_lt fun entry hentry => List.lt_trans hgt (hhead entry hentry),
                  find?_cons, if_pos rfl] at this
                exact absurd this (by simp)
          subst hkey
          have hnode : node = node' := by
            have := h key
            simpa [find?_cons] using this
          subst hnode
          have : rest = rest' := by
            refine ih hrest hrest' fun location => ?_
            by_cases hl : key = location
            · subst hl
              rw [find?_eq_none_of_lt hhead, find?_eq_none_of_lt hhead']
            · have := h location
              rwa [find?_cons, if_neg hl, find?_cons, if_neg hl] at this
          rw [this]

end Entries

/-! ### File systems -/

/-- A file system, seen from a working directory. -/
structure FileSystem where
  /-- The entries below the root. -/
  entries : Entries
  /-- The entries are in order. -/
  sorted : entries.Sorted
  /-- The name of every entry is in one piece. -/
  named : entries.Named
  /-- The directory from which relative paths start. -/
  here : Location
deriving DecidableEq

namespace FileSystem

/-- The file system that has only the root, which is the working directory. -/
def empty : FileSystem := ⟨[], List.Pairwise.nil, nofun, []⟩

/-- The entry at a location below the root. -/
def node? (fs : FileSystem) (location : Location) : Option Node :=
  fs.entries.find? location

/-- The file system with an entry put at a location; there is no place for one whose name is not in
one piece. -/
def insert (fs : FileSystem) (location : Location) (node : Node) : FileSystem :=
  if h : location.isNamed = true then
    { fs with
      entries := fs.entries.insert location node
      sorted := fs.sorted.insert location node
      named := fs.named.insert h node }
  else fs

/-- The file system without the entry at a location. -/
def erase (fs : FileSystem) (location : Location) : FileSystem :=
  { fs with
    entries := fs.entries.erase location
    sorted := fs.sorted.erase location
    named := fs.named.filter _ }

theorem node?_insert (fs : FileSystem) (location at' : Location) (node : Node) :
    (fs.insert location node).node? at'
      = if location = at' ∧ location.isNamed = true then some node else fs.node? at' := by
  rw [insert]
  split
  · next h =>
      simp only [h, and_true]
      exact Entries.find?_insert fs.entries location at' node
  · next h => rw [if_neg fun hat => h hat.2]

theorem node?_insert_self {location : Location} (h : location.isNamed = true) (fs : FileSystem)
    (node : Node) : (fs.insert location node).node? location = some node := by
  rw [node?_insert, if_pos ⟨rfl, h⟩]

theorem node?_insert_of_ne {location at' : Location} (h : location ≠ at') (fs : FileSystem)
    (node : Node) : (fs.insert location node).node? at' = fs.node? at' := by
  rw [node?_insert, if_neg fun hat => h hat.1]

@[simp] theorem here_insert (fs : FileSystem) (location : Location) (node : Node) :
    (fs.insert location node).here = fs.here := by
  rw [insert]
  split <;> rfl

theorem node?_erase (fs : FileSystem) (location at' : Location) :
    (fs.erase location).node? at' = if location = at' then none else fs.node? at' :=
  Entries.find?_erase fs.entries location at'

/-- A file system is determined by its entries and its working directory. -/
theorem ext_node? {a b : FileSystem} (h : ∀ location, a.node? location = b.node? location)
    (here : a.here = b.here) : a = b := by
  cases a with
  | mk entries sorted named here_a =>
      cases b with
      | mk entries' sorted' named' here_b =>
          have : entries = entries' := sorted.ext sorted' h
          subst this
          cases here
          rfl

/-- **The name of an entry is in one piece.** -/
theorem slash_not_mem_of_node? {fs : FileSystem} {name : Name} {dir : Location} {node : Node}
    (h : fs.node? (name :: dir) = some node) : Path.slash ∉ name :=
  Location.isNamed_cons.1 (fs.named _ (Entries.mem_of_find? h))

/-- The names of the entries of a directory. -/
def children (fs : FileSystem) (location : Location) : List Name :=
  fs.entries.filterMap fun (key, _) =>
    match key with
    | name :: parent => if parent == location then some name else none
    | [] => none

theorem slash_not_mem_of_mem_children {fs : FileSystem} {name : Name} {location : Location}
    (h : name ∈ fs.children location) : Path.slash ∉ name := by
  obtain ⟨⟨key, node⟩, hentry, hname⟩ := List.mem_filterMap.1 h
  cases key with
  | nil => cases hname
  | cons first parent =>
      simp only at hname
      split at hname
      · cases hname
        exact Location.isNamed_cons.1 (fs.named _ hentry)
      · cases hname

/-- All entries below a location, without the names that they share with it. -/
def below (fs : FileSystem) (location : Location) : List (Location × Node) :=
  fs.entries.filterMap fun (key, node) =>
    if key.isWithin location && key != location then
      some (key.take (key.length - location.length), node)
    else none

/-- The file system without the entry at a location and all below it. -/
def eraseTree (fs : FileSystem) (location : Location) : FileSystem :=
  { fs with
    entries := fs.entries.filter fun entry => !entry.1.isWithin location
    sorted := List.Pairwise.filter _ fs.sorted
    named := fs.named.filter _ }

/-- The file system with the entries below one directory put below another one. -/
def moveTree (fs : FileSystem) (source target : Location) : FileSystem :=
  (fs.below source).foldl (fun fs (key, node) => fs.insert (key ++ target) node)
    ((fs.eraseTree source).insert target .directory)

/-! ### Effects -/

end FileSystem

/-- A primitive step that changes a file system. -/
inductive Effect where
  /-- A directory is made. -/
  | makeDirectory (location : Location)
  /-- A file is made, or cut off to nothing. -/
  | create (location : Location)
  /-- A file gets a content. -/
  | write (location : Location) (content : Content)
  /-- A symbolic link is made. -/
  | makeLink (location : Location) (target : Path)
  /-- A file or a link gets another location, in place of what is there. -/
  | move (source target : Location)
  /-- A directory gets another location with all below it. -/
  | moveTree (source target : Location)
  /-- A file or a link is removed. -/
  | remove (location : Location)
  /-- An entry is removed with all below it. -/
  | removeTree (location : Location)

namespace FileSystem

/-- The file system after a step. -/
def apply (fs : FileSystem) : Effect → FileSystem
  | .makeDirectory location => fs.insert location .directory
  | .create location => fs.insert location (.file [])
  | .write location content => fs.insert location (.file content)
  | .makeLink location target => fs.insert location (.link target)
  | .move source target =>
    match fs.node? source with
    | some node => (fs.erase source).insert target node
    | none => fs
  | .moveTree source target => fs.moveTree source target
  | .remove location => fs.erase location
  | .removeTree location => fs.eraseTree location

/-- The file system after a list of steps. -/
def applyAll (fs : FileSystem) (effects : List Effect) : FileSystem :=
  effects.foldl apply fs

end FileSystem

end PageImages
