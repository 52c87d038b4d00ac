import PageImages.Proofs.Directories
import PageImages.Proofs.Naming
import PageImages.Proofs.Seat

/-!
**Following a path after a change.**

A path that leads to an entry still leads there after the file system has changed at some locations,
unless its way met one of these: the entry itself, or a link.  A link that was met leads to an entry
itself, and through fewer links.

Main definitions:

* `FileSystem.locationAt?` — the location that the last name of a path stands for;
* `Place.Found` — a place at which a path ends that leads to an entry.

Main results:

* `FileSystem.walk_outside` — **a way that is not the same any more met a change**;
* `FileSystem.found_of_append` — a way that leads to an entry passes through entries;
* `FileSystem.stat_outside` — what a path leads to after a change elsewhere;
* `FileSystem.locationAt?_iff`, `FileSystem.locationAt?_mono` — the location of a last name.
-/

set_option autoImplicit false

namespace PageImages

open PageImages.Path (Part)

/-- There is something, and only a directory has a slash behind its name. -/
structure Place.Found (place : Place) : Prop where
  /-- There is something. -/
  present : place.node? ≠ none
  /-- It is a directory, or no slash follows. -/
  slash : place.node? = some .directory ∨ place.slash = false

namespace FileSystem

/-! ### The same way in two file systems -/

/-- A way that leads to an entry is the same in a file system that differs in some places, or `met`
holds, which is so when a file or a link in such a place was met. -/
theorem walkWith_outside {a b : FileSystem} {changed : Location → Prop}
    (hout : ∀ l, ¬ changed l → b.node? l = a.node? l)
    (hdirectory : ∀ l, changed l → a.node? l ≠ some .directory)
    {onLink onLink' : Location → List Octets → Except OsError Place} {place : Place} {met : Prop}
    (hplace : place.node? ≠ none)
    (hfile : ∀ content, changed place.location →
      a.node? place.location = some (.file content) → met)
    (hlink : ∀ dir pieces, onLink dir pieces = .ok place → onLink' dir pieces = .ok place ∨ met)
    (hmet : ∀ name dir target rest, changed (name :: dir) →
      a.node? (name :: dir) = some (.link target) →
      onLink (if target.isAbsolute then [] else dir)
        (Path.pieces Path.slash target.octets ++ rest) = .ok place → met)
    {here : Location} {pieces : List Octets}
    (h : a.walkWith false onLink here pieces = .ok place) :
    b.walkWith false onLink' here pieces = .ok place ∨ met := by
  induction pieces generalizing here with
  | nil => exact Or.inl h
  | cons piece rest ih =>
      rw [walkWith] at h ⊢
      by_cases hidle : Path.isIdle piece = true
      · rw [if_pos hidle] at h ⊢
        exact ih h
      · rw [if_neg hidle] at h ⊢
        by_cases hup : piece = [Path.dot, Path.dot]
        · rw [if_pos hup] at h ⊢
          exact ih h
        · rw [if_neg hup] at h ⊢
          simp only [Bool.false_and, Bool.false_eq_true, if_false] at h ⊢
          by_cases hlong : longestName < piece.length
          · rw [if_pos hlong] at h
            cases h
          · rw [if_neg hlong] at h ⊢
            by_cases hchanged : changed (piece :: here)
            · -- a place that changed: it holds no directory, and the way does not end at nothing
              right
              cases hnode : a.node? (piece :: here) with
              | none =>
                  simp only [hnode] at h
                  split at h
                  · cases h
                    exact absurd rfl hplace
                  · cases h
              | some node =>
                  cases node with
                  | directory => exact absurd hnode (hdirectory _ hchanged)
                  | file content =>
                      simp only [hnode] at h
                      split at h
                      · cases h
                        exact hfile content hchanged hnode
                      · cases h
                  | link target =>
                      simp only [hnode] at h
                      exact hmet piece here target rest hchanged hnode h
            · rw [hout _ hchanged]
              cases hnode : a.node? (piece :: here) with
              | none =>
                  simp only [hnode] at h ⊢
                  exact Or.inl h
              | some node =>
                  cases node with
                  | directory =>
                      simp only [hnode] at h ⊢
                      exact ih h
                  | file content =>
                      simp only [hnode] at h ⊢
                      exact Or.inl h
                  | link target =>
                      simp only [hnode] at h ⊢
                      exact hlink _ _ h

/-- **A way that is not the same any more met a change.**  A way that leads to an entry leads to it
in a file system that differs in some places, unless the entry is a file in such a place, or the way
went through a link in such a place; then it went on from there, with fewer links left. -/
theorem walk_outside {a b : FileSystem} {changed : Location → Prop}
    (hout : ∀ l, ¬ changed l → b.node? l = a.node? l)
    (hdirectory : ∀ l, changed l → a.node? l ≠ some .directory) {place : Place}
    (hplace : place.node? ≠ none) {links : Nat} {here : Location} {pieces : List Octets}
    (h : a.walk false links here pieces = .ok place) :
    b.walk false links here pieces = .ok place ∨
      (changed place.location ∧ ∃ content, a.node? place.location = some (.file content)) ∨
      ∃ name dir target rest left, changed (name :: dir) ∧
        a.node? (name :: dir) = some (.link target) ∧ left < links ∧
        a.walk false left (if target.isAbsolute then [] else dir)
          (Path.pieces Path.slash target.octets ++ rest) = .ok place := by
  induction links generalizing here pieces with
  | zero =>
      refine walkWith_outside hout hdirectory hplace ?_ ?_ ?_ h
      · exact fun content hchanged hnode => Or.inl ⟨hchanged, content, hnode⟩
      · exact fun _ _ hlink => by cases hlink
      · exact fun _ _ _ _ _ _ hlink => by cases hlink
  | succ links ih =>
      refine walkWith_outside hout hdirectory hplace ?_ ?_ ?_ h
      · exact fun content hchanged hnode => Or.inl ⟨hchanged, content, hnode⟩
      · intro dir pieces hlink
        rcases ih hlink with
          hsame | hfile | ⟨name, dir', target, rest, left, hmet, hnode, hleft, hon⟩
        · exact Or.inl hsame
        · exact Or.inr (Or.inl hfile)
        · exact Or.inr (Or.inr ⟨name, dir', target, rest, left, hmet, hnode, by omega, hon⟩)
      · intro name dir target rest hchanged hnode hon
        exact Or.inr ⟨name, dir, target, rest, links, hchanged, hnode, by omega, hon⟩

/-- A way that leads to an entry does so if more links may be followed. -/
theorem walk_mono_links {fs : FileSystem} {links links' : Nat} (hle : links ≤ links')
    {here : Location} {pieces : List Octets} {place : Place} (hplace : place.node? ≠ none)
    (h : fs.walk false links here pieces = .ok place) :
    fs.walk false links' here pieces = .ok place := by
  -- nothing has changed, so that no change can be met
  have hwith : ∀ {onLink onLink' : Location → List Octets → Except OsError Place},
      (∀ dir pieces, onLink dir pieces = .ok place → onLink' dir pieces = .ok place) →
      ∀ {here : Location} {pieces : List Octets},
        fs.walkWith false onLink here pieces = .ok place →
        fs.walkWith false onLink' here pieces = .ok place := by
    intro onLink onLink' hlink here pieces hwalk
    exact Or.resolve_right (@walkWith_outside fs fs (fun _ => False) (fun _ _ => rfl)
      (fun _ h => h.elim) onLink onLink' place False hplace (fun _ h => h.elim)
      (fun dir pieces h => Or.inl (hlink dir pieces h)) (fun _ _ _ _ h => h.elim) _ _ hwalk) id
  induction links generalizing links' here pieces with
  | zero =>
      cases links' with
      | zero => exact h
      | succ links' => exact hwith (fun _ _ hlink => by cases hlink) h
  | succ links ih =>
      cases links' with
      | zero => omega
      | succ links' => exact hwith (fun _ _ hlink => ih (by omega) hlink) h

/-! ### The first part of a way -/

theorem walkWith_of_empty (fs : FileSystem) (writing : Bool)
    (onLink : Location → List Octets → Except OsError Place) (here : Location)
    {tail : List Octets} (h : tail.all List.isEmpty = true) :
    fs.walkWith writing onLink here tail = .ok ⟨here, some .directory, false⟩ := by
  induction tail with
  | nil => rfl
  | cons piece rest ih =>
      rw [List.all_cons, Bool.and_eq_true, List.isEmpty_iff] at h
      obtain ⟨rfl, hrest⟩ := h
      rw [walkWith, if_pos (by rfl), ih hrest]

/-- A way that ends at a file with slashes behind its name says so. -/
theorem walkWith_slash {fs : FileSystem} {tail : List Octets} (htail : tail.all List.isEmpty = true)
    (hne : tail ≠ []) {onLink : Location → List Octets → Except OsError Place} {place : Place}
    (hplace : place.node? ≠ none) (hdirectory : place.node? ≠ some .directory)
    (hlink : ∀ dir pieces, onLink dir (pieces ++ tail) = .ok place → place.slash = true)
    {here : Location} {pieces : List Octets}
    (h : fs.walkWith false onLink here (pieces ++ tail) = .ok place) : place.slash = true := by
  induction pieces generalizing here with
  | nil =>
      rw [List.nil_append, walkWith_of_empty fs false onLink here htail] at h
      cases h
      exact absurd rfl hdirectory
  | cons piece rest ih =>
      rw [List.cons_append, walkWith] at h
      split at h
      · exact ih h
      · split at h
        · exact ih h
        · simp only [Bool.false_and, Bool.false_eq_true, if_false] at h
          split at h
          · cases h
          · cases hnode : fs.node? (piece :: here) with
            | none =>
                simp only [hnode] at h
                split at h
                · cases h
                  exact absurd rfl hplace
                · cases h
            | some node =>
                cases node with
                | directory =>
                    simp only [hnode] at h
                    exact ih h
                | file content =>
                    simp only [hnode] at h
                    split at h
                    · cases h
                      simp [hne]
                    · cases h
                | link target =>
                    simp only [hnode, ← List.append_assoc] at h
                    exact hlink _ _ h

theorem walk_slash {fs : FileSystem} {tail : List Octets} (htail : tail.all List.isEmpty = true)
    (hne : tail ≠ []) {links : Nat} {here : Location} {pieces : List Octets} {place : Place}
    (hplace : place.node? ≠ none) (hdirectory : place.node? ≠ some .directory)
    (h : fs.walk false links here (pieces ++ tail) = .ok place) : place.slash = true := by
  induction links generalizing here pieces with
  | zero => exact walkWith_slash htail hne hplace hdirectory (fun _ _ hlink => by cases hlink) h
  | succ links ih => exact walkWith_slash htail hne hplace hdirectory (fun _ _ hlink => ih hlink) h

/-- **A way that leads to an entry passes through entries.** -/
theorem found_of_append {fs : FileSystem} {links : Nat} {here : Location}
    {pieces tail : List Octets} {place : Place}
    (h : fs.walk false links here (pieces ++ tail) = .ok place) (hplace : place.Found) :
    ∃ place', fs.walk false links here pieces = .ok place' ∧ place'.Found := by
  cases htail : tail.all List.isEmpty with
  | false =>
      -- something follows, so that the first part leads to a directory
      rw [walk_append fs false htail] at h
      cases hdescend : fs.descend links here (pieces.filterMap Part.ofPiece?) with
      | error e =>
          rw [hdescend] at h
          cases h
      | ok result => exact ⟨_, walk_of_descend hdescend, by simp, Or.inl rfl⟩
  | true =>
      by_cases hnode : place.node? = some .directory
      · obtain ⟨left, hdescend⟩ := descend_of_walk h hnode
        have hsteps : tail.filterMap Part.ofPiece? = [] := by
          rw [List.filterMap_eq_nil_iff]
          intro piece hpiece
          rw [List.isEmpty_iff.1 (List.all_eq_true.1 htail piece hpiece)]
          rfl
        rw [List.filterMap_append, hsteps, List.append_nil] at hdescend
        exact ⟨_, walk_of_descend hdescend, by simp, Or.inl rfl⟩
      · by_cases hne : tail = []
        · rw [hne, List.append_nil] at h
          exact ⟨place, h, hplace⟩
        · have hslash := Or.resolve_left hplace.slash hnode
          rw [walk_slash htail hne hplace.present hnode h] at hslash
          cases hslash

/-! ### What a path leads to -/

theorem stat_eq_ok_iff {fs : FileSystem} {path : Path} {l : Location} {node : Node} :
    fs.stat path = .ok (l, node) ↔ ∃ place, fs.resolve path = .ok place ∧ place.Found ∧
      place.location = l ∧ place.node? = some node := by
  rw [stat]
  cases fs.resolve path with
  | error e =>
      constructor
      · intro h
        cases h
      · rintro ⟨place, h, -⟩
        cases h
  | ok place =>
      obtain ⟨location, node?, slash⟩ := place
      constructor
      · intro h
        refine ⟨_, rfl, ?_⟩
        cases node? with
        | none => cases h
        | some node' =>
            cases node' <;> cases slash <;> cases h <;> exact ⟨⟨by simp, by simp⟩, rfl, rfl⟩
      · rintro ⟨place, hplace, hfound, rfl, hnode⟩
        cases hplace
        cases hnode
        cases node with
        | directory => rfl
        | file content =>
            obtain rfl : slash = false := Or.resolve_left hfound.slash (by simp)
            rfl
        | link target =>
            obtain rfl : slash = false := Or.resolve_left hfound.slash (by simp)
            rfl

theorem hasEntry_iff {fs : FileSystem} {path : Path} :
    fs.hasEntry path = true ↔ ∃ place, fs.resolve path = .ok place ∧ place.Found := by
  have hstat : fs.hasEntry path = true ↔ ∃ l node, fs.stat path = .ok (l, node) := by
    rw [hasEntry]
    cases fs.stat path with
    | error e => simp
    | ok result =>
        obtain ⟨l, node⟩ := result
        simp
  rw [hstat]
  constructor
  · rintro ⟨l, node, h⟩
    obtain ⟨place, hresolve, hfound, -, -⟩ := stat_eq_ok_iff.1 h
    exact ⟨place, hresolve, hfound⟩
  · rintro ⟨place, hresolve, hfound⟩
    obtain ⟨node, hnode⟩ := Option.ne_none_iff_exists'.1 hfound.present
    exact ⟨place.location, node, stat_eq_ok_iff.2 ⟨place, hresolve, hfound, rfl, hnode⟩⟩

/-- A way that ends at a file ends at one that is there. -/
theorem walkWith_file {fs : FileSystem} {onLink : Location → List Octets → Except OsError Place}
    {place : Place} {content : Content} (hplace : place.node? = some (.file content))
    (hlink : ∀ dir pieces, onLink dir pieces = .ok place → fs.node? place.location = place.node?)
    {here : Location} {pieces : List Octets}
    (h : fs.walkWith false onLink here pieces = .ok place) :
    fs.node? place.location = place.node? := by
  induction pieces generalizing here with
  | nil =>
      cases h
      cases hplace
  | cons piece rest ih =>
      rw [walkWith] at h
      split at h
      · exact ih h
      · split at h
        · exact ih h
        · simp only [Bool.false_and, Bool.false_eq_true, if_false] at h
          split at h
          · cases h
          · cases hnode : fs.node? (piece :: here) with
            | none =>
                simp only [hnode] at h
                split at h
                · cases h
                  cases hplace
                · cases h
            | some node =>
                cases node with
                | directory =>
                    simp only [hnode] at h
                    exact ih h
                | file content' =>
                    simp only [hnode] at h
                    split at h
                    · cases h
                      exact hnode
                    · cases h
                | link target =>
                    simp only [hnode] at h
                    exact hlink _ _ h

theorem walk_file {fs : FileSystem} {links : Nat} {here : Location} {pieces : List Octets}
    {place : Place} {content : Content} (hplace : place.node? = some (.file content))
    (h : fs.walk false links here pieces = .ok place) :
    fs.node? place.location = place.node? := by
  induction links generalizing here pieces with
  | zero => exact walkWith_file hplace (fun _ _ hlink => by cases hlink) h
  | succ links ih => exact walkWith_file hplace (fun _ _ hlink => ih hlink) h

/-- A path that leads to a file leads to one that is there. -/
theorem node?_of_stat {fs : FileSystem} {path : Path} {l : Location} {content : Content}
    (h : fs.stat path = .ok (l, .file content)) : fs.node? l = some (.file content) := by
  obtain ⟨place, hresolve, -, rfl, hnode⟩ := stat_eq_ok_iff.1 h
  rw [walk_file hnode (resolve_eq_ok_iff.1 hresolve).2, hnode]

/-- **What a path leads to stays the same**, if the file system changes elsewhere, and where there
is no directory and no link. -/
theorem stat_outside {a b : FileSystem} (here : b.here = a.here) {changed : Location → Prop}
    (hout : ∀ l, ¬ changed l → b.node? l = a.node? l) (hloose : ∀ l, changed l → a.Loose l)
    {path : Path} {l : Location} {node : Node} (h : a.stat path = .ok (l, node))
    (hl : changed l → a.node? l = none) : b.stat path = .ok (l, node) := by
  obtain ⟨place, hresolve, hfound, rfl, hnode⟩ := stat_eq_ok_iff.1 h
  obtain ⟨hcheck, hwalk⟩ := resolve_eq_ok_iff.1 hresolve
  have hdirectory : ∀ l, changed l → a.node? l ≠ some .directory := by
    intro l hchanged hdir
    cases hloose l hchanged _ hdir
  rcases walk_outside hout hdirectory hfound.present hwalk with
    hsame | ⟨hchanged, content, hfile⟩ | ⟨name, dir, target, rest, left, hchanged, hlink, -⟩
  · refine stat_eq_ok_iff.2 ⟨place, resolve_eq_ok_iff.2 ⟨hcheck, ?_⟩, hfound, rfl, hnode⟩
    rw [start, here]
    exact hsame
  · rw [hl hchanged] at hfile
    cases hfile
  · cases hloose _ hchanged _ hlink

/-- A path is followed to the directory of its last name, and then one name more. -/
theorem resolve_of_endsIn {fs : FileSystem} {path : Path} {rooted : Bool} {above : List Part}
    {name : Name} (hends : path.EndsIn rooted above name) {place : Place} :
    fs.resolve path = .ok place ↔ checkPath path = .ok () ∧ ∃ dir left,
      fs.descend mostLinks (if rooted then [] else fs.here) above = .ok (dir, left) ∧
        fs.walk false left dir [name] = .ok place := by
  obtain ⟨before, hpieces, habove⟩ := hends.pieces
  have hlast : [name].all List.isEmpty = false := by simpa using hends.proper.ne_nil
  rw [resolve_eq_ok_iff, hpieces, walk_append fs false hlast, habove, start, hends.rooted]
  refine and_congr_right fun _ => ?_
  cases hdescend : fs.descend mostLinks (if rooted then [] else fs.here) above with
  | error e =>
      constructor
      · intro h
        cases h
      · rintro ⟨dir, left, h, -⟩
        cases h
  | ok result =>
      constructor
      · exact fun h => ⟨result.1, result.2, rfl, h⟩
      · rintro ⟨dir, left, h, hwalk⟩
        cases h
        exact hwalk

theorem walk_name_of_long {fs : FileSystem} (links : Nat) (dir : Location) {name : Name}
    (hname : name.Proper) (hlong : longestName < name.length) :
    fs.walk false links dir [name] = .error .nameTooLong := by
  rw [walk_name false links hname fun h => absurd hlong h, if_pos hlong]

/-- A link at the last name is followed, if that is allowed. -/
theorem walk_name_of_link {fs : FileSystem} (links : Nat) {dir : Location} {name : Name}
    (hname : name.Proper) (hlong : ¬ longestName < name.length) {target : Path}
    (hnode : fs.node? (name :: dir) = some (.link target)) :
    fs.walk false (links + 1) dir [name]
      = fs.walk false links (if target.isAbsolute then [] else dir)
          (Path.pieces Path.slash target.octets) := by
  rw [walk, walkWith, if_neg (by simp [hname.not_idle]), if_neg hname.ne_up]
  simp only [List.isEmpty_nil, Bool.not_true, Bool.and_false, Bool.false_eq_true, if_false,
    if_neg hlong, hnode, List.append_nil]

/-! ### The location of the last name -/

/-- The location that the last name of a path stands for; a link is not followed. -/
def locationAt? (fs : FileSystem) (path : Path) : Option Location :=
  match fs.slot path with
  | .ok (.named place) => some place.location
  | _ => none

theorem locationAt?_iff {fs : FileSystem} {path : Path} {rooted : Bool} {above : List Part}
    {name : Name} (hends : path.EndsIn rooted above name) {l : Location} :
    fs.locationAt? path = some l ↔
      spellingFault? path name = none ∧
        ∃ dir, fs.folder rooted above = .ok dir ∧ l = name :: dir := by
  rw [locationAt?]
  cases hdir : fs.folder rooted above with
  | error e =>
      obtain ⟨e', hslot⟩ := slot_of_no_folder hends hdir
      rw [hslot]
      simp
  | ok dir =>
      rw [slot_of_folder hends hdir]
      cases spellingFault? path name with
      | some e => simp
      | none => simp [eq_comm]

/-- A last name stands for the same location where there are more directories and links. -/
theorem locationAt?_mono {a b : FileSystem} (h : a.FrameLe b) {path : Path} {rooted : Bool}
    {above : List Part} {name : Name} (hends : path.EndsIn rooted above name) {l : Location}
    (hl : a.locationAt? path = some l) : b.locationAt? path = some l := by
  obtain ⟨hfault, dir, hdir, rfl⟩ := (locationAt?_iff hends).1 hl
  exact (locationAt?_iff hends).2 ⟨hfault, dir, folder_mono h hdir, rfl⟩

/-- A path that leads to an entry stands for one. -/
theorem locationAt?_of_hasEntry {fs : FileSystem} {path : Path} {rooted : Bool} {above : List Part}
    {name : Name} (hends : path.EndsIn rooted above name) (h : fs.hasEntry path = true) :
    ∃ dir, fs.folder rooted above = .ok dir ∧ spellingFault? path name = none ∧
      fs.locationAt? path = some (name :: dir) ∧ fs.node? (name :: dir) ≠ none := by
  cases hdir : fs.folder rooted above with
  | error e =>
      rw [(refused_of_no_folder hends hdir).1] at h
      cases h
  | ok dir =>
      obtain ⟨place, hresolve, hfound⟩ := hasEntry_iff.1 h
      obtain ⟨hcheck, dir', left, hdescend, hwalk⟩ := (resolve_of_endsIn hends).1 hresolve
      have hsame := folder_eq_ok_iff.2 ⟨left, hdescend⟩
      rw [hdir] at hsame
      cases hsame
      have hlong : ¬ longestName < name.length := by
        intro hlong
        rw [walk_name_of_long left dir hends.proper hlong] at hwalk
        cases hwalk
      have hfault : spellingFault? path name = none := by
        rw [spellingFault?, hcheck]
        exact if_neg hlong
      refine ⟨dir, rfl, hfault, (locationAt?_iff hends).2 ⟨hfault, dir, hdir, rfl⟩, ?_⟩
      intro hnode
      rw [walk_name false left hends.proper (fun _ target => by rw [hnode]; simp), if_neg hlong,
        hnode] at hwalk
      cases hwalk
      exact hfound.present rfl

/-! ### Names of one directory -/

section Siblings

variable {a : FileSystem} {rooted : Bool} {above : List Part} {path : Path} {name : Name}

/-- A path leads to an entry if it stands for a file. -/
theorem hasEntry_of_file (hends : path.EndsIn rooted above name) {dir : Location}
    (hdir : a.folder rooted above = .ok dir) (hfault : spellingFault? path name = none)
    {content : Content} (hnode : a.node? (name :: dir) = some (.file content)) :
    a.hasEntry path = true := by
  have hseat : a.Seat path dir name := ⟨⟨rooted, above, hends, hdir⟩, fun _ target h => by
    rw [hnode] at h
    cases h⟩
  rw [hseat.hasEntry_eq, hfault, hnode]
  rfl

/-- A path leads to an entry if it stands for a link that another way went through, when as many
links were left as there are in the directory of the path. -/
theorem hasEntry_of_link (hends : path.EndsIn rooted above name) {dir : Location} {left : Nat}
    (hdescend : a.descend mostLinks (if rooted then [] else a.here) above = .ok (dir, left))
    (hfault : spellingFault? path name = none) {target : Path}
    (hnode : a.node? (name :: dir) = some (.link target)) {links : Nat} (hlinks : links < left)
    {rest : List Octets} {place : Place}
    (hwalk : a.walk false links (if target.isAbsolute then [] else dir)
      (Path.pieces Path.slash target.octets ++ rest) = .ok place) (hfound : place.Found) :
    a.hasEntry path = true := by
  have hcheck : checkPath path = .ok () := by
    rw [spellingFault?] at hfault
    cases hcheck : checkPath path with
    | ok u => rfl
    | error e =>
        rw [hcheck] at hfault
        cases hfault
  have hlong : ¬ longestName < name.length := by
    intro hlong
    rw [spellingFault?, hcheck] at hfault
    simp [hlong] at hfault
  obtain ⟨place', hwalk', hfound'⟩ := found_of_append hwalk hfound
  -- as many links may be followed from here as from the directory of the path
  obtain ⟨left, rfl⟩ : ∃ n, left = n + 1 := ⟨left - 1, by omega⟩
  refine hasEntry_iff.2 ⟨place', (resolve_of_endsIn hends).2 ⟨hcheck, dir, left + 1, hdescend, ?_⟩,
    hfound'⟩
  rw [walk_name_of_link left hends.proper hlong hnode]
  exact walk_mono_links (by omega) hfound'.present hwalk'

/-- **A path that leads to an entry still does when a file takes the place of a name that leads
nowhere.**  Both are names of the same directory, which must still be there; a temporary file may
go, unless it is that entry. -/
theorem stat_of_displaced {b : FileSystem} (hframe : b.FrameLe a)
    (hends : path.EndsIn rooted above name) {path' : Path} {name' : Name}
    (hends' : path'.EndsIn rooted above name') {dir : Location}
    (hdir : b.folder rooted above = .ok dir) {temporary : Location} (hloose : a.Loose temporary)
    (hfault' : spellingFault? path' name' = none)
    (hbare : a.node? (name' :: dir) ≠ some .directory) (hmissing : a.hasEntry path' = false)
    (hout : ∀ l, l ≠ temporary → l ≠ name' :: dir → b.node? l = a.node? l) {l : Location}
    {node : Node} (h : a.stat path = .ok (l, node)) (hl : l ≠ temporary) :
    b.stat path = .ok (l, node) := by
  obtain ⟨place, hresolve, hfound, rfl, hnode⟩ := stat_eq_ok_iff.1 h
  obtain ⟨hcheck, dir', left, hdescend, hwalk⟩ := (resolve_of_endsIn hends).1 hresolve
  -- the directory is the same one
  obtain ⟨left', hdescend'⟩ := folder_eq_ok_iff.1 hdir
  have hsame := descend_mono hframe hdescend'
  rw [hframe.here, hdescend] at hsame
  cases hsame
  have hdirectory : ∀ l, (l = temporary ∨ l = name' :: dir) → a.node? l ≠ some .directory := by
    rintro l (rfl | rfl) hdirectory
    · cases hloose _ hdirectory
    · exact hbare hdirectory
  have hchanged : ∀ l, ¬ (l = temporary ∨ l = name' :: dir) → b.node? l = a.node? l :=
    fun l hl => hout l (fun h => hl (Or.inl h)) fun h => hl (Or.inr h)
  rcases walk_outside hchanged hdirectory hfound.present hwalk with
    hsame | ⟨hat | hat, content, hfile⟩ |
      ⟨name'', dir'', target, rest, links, hat | hat, hlink, hlinks, hon⟩
  · have hresolve' := (resolve_of_endsIn hends).2 ⟨hcheck, dir, left, hdescend', hsame⟩
    exact stat_eq_ok_iff.2 ⟨place, hresolve', hfound, rfl, hnode⟩
  · exact absurd hat hl
  · -- the way ended at the name that leads nowhere
    rw [hat] at hfile
    rw [hasEntry_of_file hends' (folder_eq_ok_iff.2 ⟨left, hdescend⟩) hfault' hfile] at hmissing
    cases hmissing
  · rw [hat] at hlink
    cases hloose _ hlink
  · -- the way went through the name that leads nowhere
    obtain ⟨rfl, rfl⟩ := List.cons.inj hat
    rw [hasEntry_of_link hends' hdescend hfault' hlink hlinks hon hfound] at hmissing
    cases hmissing

end Siblings

end FileSystem

end PageImages
