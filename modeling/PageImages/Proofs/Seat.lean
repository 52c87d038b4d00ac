import PageImages.Proofs.Descend

/-!
**The entry that a path stands for.**

Once the directory above the last name of a path is known, what an operation does depends on two
things only: whether the path can be used at all as it is spelled, and what the one entry is that
its last name stands for.

Main definitions:

* `FileSystem.isLink`, `FileSystem.nodeAt?` — the entry of the last name, links not followed;
* `FileSystem.Seat` — a path, the directory that holds its last name, and that name;
* `FileSystem.obstacle?` — why no file can be put at a path.

Main results:

* `FileSystem.Seat.hasEntry_eq`, `FileSystem.Seat.isFile_eq`, `FileSystem.Seat.createFile_eq`,
  `FileSystem.Seat.unlink_of_file`, `FileSystem.Seat.rename_of_file` — **what each operation does
  with a path that has a seat**;
* `FileSystem.Seat.congr` — the seat is the same wherever directories and links are.
-/

set_option autoImplicit false

namespace PageImages

open PageImages.Path (Part)

namespace FileSystem

/-! ### The entry of the last name -/

/-- Why a path that ends in a name cannot be used, whatever the file system holds. -/
def spellingFault? (path : Path) (name : Name) : Option OsError :=
  match checkPath path with
  | .error e => some e
  | .ok () => if longestName < name.length then some .nameTooLong else none

/-- The entry that the last name of a path stands for; a link is not followed. -/
def nodeAt? (fs : FileSystem) (path : Path) : Option Node :=
  match fs.slot path with
  | .ok (.named place) => place.node?
  | _ => none

/-- Whether a path stands for a symbolic link. -/
def isLink (fs : FileSystem) (path : Path) : Bool :=
  match fs.nodeAt? path with
  | some (.link _) => true
  | _ => false

/-- The path ends in `name`, and its other steps lead to the directory `dir`. -/
def Site (fs : FileSystem) (path : Path) (dir : Location) (name : Name) : Prop :=
  ∃ rooted above, path.EndsIn rooted above name ∧ fs.folder rooted above = .ok dir

/-- The path ends in `name`, its other steps lead to the directory `dir`, and it stands for no
link. -/
structure Seat (fs : FileSystem) (path : Path) (dir : Location) (name : Name) : Prop where
  /-- Where the path leads. -/
  ends : fs.Site path dir name
  /-- The entry is no link, if the path can be used at all. -/
  unlinked : spellingFault? path name = none → ∀ target,
    fs.node? (name :: dir) ≠ some (.link target)

theorem Site.mono {a b : FileSystem} (h : a.FrameLe b) {path : Path} {dir : Location}
    {name : Name} (hsite : a.Site path dir name) : b.Site path dir name := by
  obtain ⟨rooted, above, hends, hdir⟩ := hsite
  exact ⟨rooted, above, hends, folder_mono h hdir⟩

/-- The location to which a site leads can have an entry. -/
theorem Site.isNamed {fs : FileSystem} {path : Path} {dir : Location} {name : Name}
    (h : fs.Site path dir name) : Location.isNamed (name :: dir) = true := by
  obtain ⟨rooted, above, hends, -⟩ := h
  exact Location.isNamed_cons.2 hends.proper.whole

/-- A path has the same seat in file systems with the same directories and links. -/
theorem Seat.congr {a b : FileSystem} (h : a.SameFrame b) {path : Path} {dir : Location}
    {name : Name} (hseat : a.Seat path dir name) : b.Seat path dir name := by
  refine ⟨hseat.ends.mono h.le, ?_⟩
  intro hfault target hnode
  exact hseat.unlinked hfault target (h.ge.keeps rfl hnode)

/-- The entry of the last name is looked for in the directory to which the other steps lead. -/
theorem slot_of_endsIn (fs : FileSystem) {path : Path} {rooted : Bool} {above : List Part}
    {name : Name} (hends : path.EndsIn rooted above name) :
    fs.slot path = (do
      checkPath path
      let dir ← fs.folder rooted above
      if longestName < name.length then .error .nameTooLong
      else .ok (.named ⟨name :: dir, fs.node? (name :: dir), false⟩)) := by
  obtain ⟨before, hpieces, habove⟩ := hends.pieces
  -- the last name is not empty and is neither `.` nor `..`, so that it is the one that is looked up
  have hempty : name.isEmpty = false := by
    simpa using hends.proper.ne_nil
  have hdrop : (before ++ [name]).reverse.dropWhile List.isEmpty = name :: before.reverse := by
    rw [List.reverse_append, List.reverse_singleton, List.singleton_append,
      List.dropWhile_cons_of_neg (by simp [hempty])]
  have hname : (name = [Path.dot] || name = [Path.dot, Path.dot]) = false := by
    have hidle := hends.proper.not_idle
    have hup := hends.proper.ne_up
    simp only [Path.isIdle, Bool.or_eq_false_iff, decide_eq_false_iff_not] at hidle ⊢
    exact ⟨hidle.2, hup⟩
  have hstart : fs.directoryAt (fs.start path) before.reverse.reverse = fs.folder rooted above := by
    rw [directoryAt_eq, List.reverse_reverse, habove, start, hends.rooted]
    rfl
  rw [slot]
  cases hcheck : checkPath path with
  | error e => rfl
  | ok u =>
      simp only [hpieces, hdrop, hstart]
      cases fs.folder rooted above with
      | error e => rfl
      | ok dir =>
          change (if _ then _ else _) = _
          rw [hname, if_neg Bool.false_ne_true]
          by_cases hlong : longestName < name.length
          · rw [if_pos hlong]
            exact (if_pos hlong).symm
          · rw [if_neg hlong]
            refine Eq.trans ?_ (if_neg hlong).symm
            simp [hempty]

theorem slot_of_folder {fs : FileSystem} {path : Path} {rooted : Bool} {above : List Part}
    {name : Name} {dir : Location} (hends : path.EndsIn rooted above name)
    (hdir : fs.folder rooted above = .ok dir) :
    fs.slot path = match spellingFault? path name with
      | some e => .error e
      | none => .ok (.named ⟨name :: dir, fs.node? (name :: dir), false⟩) := by
  rw [slot_of_endsIn fs hends, hdir, spellingFault?]
  cases hcheck : checkPath path with
  | error e => rfl
  | ok u =>
      by_cases hlong : longestName < name.length
      · simp only [if_pos hlong]
        rfl
      · simp only [if_neg hlong]
        rfl

theorem slot_of_no_folder {fs : FileSystem} {path : Path} {rooted : Bool} {above : List Part}
    {name : Name} {e : OsError} (hends : path.EndsIn rooted above name)
    (hdir : fs.folder rooted above = .error e) : ∃ e', fs.slot path = .error e' := by
  rw [slot_of_endsIn fs hends, hdir]
  cases checkPath path with
  | error e' => exact ⟨e', rfl⟩
  | ok u => exact ⟨e, rfl⟩

/-- What the last name of a path stands for, below a directory. -/
theorem nodeAt?_of_folder {fs : FileSystem} {path : Path} {rooted : Bool} {above : List Part}
    {name : Name} {dir : Location} (hends : path.EndsIn rooted above name)
    (hdir : fs.folder rooted above = .ok dir) :
    fs.nodeAt? path
      = if (spellingFault? path name).isNone then fs.node? (name :: dir) else none := by
  rw [nodeAt?, slot_of_folder hends hdir]
  cases spellingFault? path name <;> rfl

theorem walk_of_no_folder {fs : FileSystem} {path : Path} {rooted : Bool} {above : List Part}
    {name : Name} {e : OsError} (hends : path.EndsIn rooted above name)
    (hdir : fs.folder rooted above = .error e) (writing : Bool) :
    ∃ e', (do
      checkPath path
      fs.walk writing mostLinks (fs.start path) (Path.pieces Path.slash path.octets))
        = .error e' := by
  obtain ⟨before, hpieces, habove⟩ := hends.pieces
  have hlast : [name].all List.isEmpty = false := by
    simpa using hends.proper.ne_nil
  cases hcheck : checkPath path with
  | error e => exact ⟨e, rfl⟩
  | ok u =>
      change ∃ e', fs.walk writing mostLinks (fs.start path)
        (Path.pieces Path.slash path.octets) = .error e'
      rw [folder] at hdir
      rw [hpieces, walk_append fs writing hlast, habove, start, hends.rooted]
      cases hdescend : fs.descend mostLinks (if rooted then [] else fs.here) above with
      | error e' => exact ⟨e', rfl⟩
      | ok result =>
          rw [hdescend] at hdir
          cases hdir

/-- Nothing can be found, made or removed below a directory that is not there. -/
theorem refused_of_no_folder {fs : FileSystem} {path : Path} {rooted : Bool} {above : List Part}
    {name : Name} {e : OsError} (hends : path.EndsIn rooted above name)
    (hdir : fs.folder rooted above = .error e) :
    fs.hasEntry path = false ∧ (∃ e', fs.createFile path = .error e') ∧
      ∃ e', fs.unlink path = .error e' := by
  refine ⟨?_, ?_, ?_⟩
  · obtain ⟨e', he'⟩ := walk_of_no_folder hends hdir false
    have hresolve : fs.resolve path = .error e' := he'
    rw [hasEntry, stat, hresolve]
    rfl
  · obtain ⟨e', he'⟩ := walk_of_no_folder hends hdir true
    have hresolve : fs.resolveForWriting path = .error e' := he'
    refine ⟨e', ?_⟩
    rw [createFile, openForWriting, hresolve]
    rfl
  · obtain ⟨e', he'⟩ := slot_of_no_folder hends hdir
    refine ⟨e', ?_⟩
    rw [unlink, he']
    rfl

/-- A path that ends in a name below a directory has a seat there, unless it stands for a link. -/
theorem seat_of_isLink {fs : FileSystem} {path : Path} {rooted : Bool} {above : List Part}
    {name : Name} {dir : Location} (hends : path.EndsIn rooted above name)
    (hdir : fs.folder rooted above = .ok dir) (hlink : fs.isLink path = false) :
    fs.Seat path dir name := by
  refine ⟨⟨rooted, above, hends, hdir⟩, ?_⟩
  intro hfault target hnode
  rw [isLink, nodeAt?_of_folder hends hdir, hfault, hnode] at hlink
  cases hlink

theorem walk_name {fs : FileSystem} (writing : Bool) (links : Nat) {dir : Location} {name : Name}
    (hname : name.Proper)
    (hunlinked : ¬ longestName < name.length →
      ∀ target, fs.node? (name :: dir) ≠ some (.link target)) :
    fs.walk writing links dir [name] =
      if longestName < name.length then .error .nameTooLong
      else .ok ⟨name :: dir, fs.node? (name :: dir), false⟩ := by
  have hwith : ∀ onLink, fs.walkWith writing onLink dir [name] =
      if longestName < name.length then .error .nameTooLong
      else .ok ⟨name :: dir, fs.node? (name :: dir), false⟩ := by
    intro onLink
    rw [walkWith, if_neg (by simp [hname.not_idle]), if_neg hname.ne_up]
    simp only [List.isEmpty_nil, Bool.not_true, Bool.and_false, Bool.false_eq_true, if_false]
    split
    · rfl
    · next hlong =>
        cases hnode : fs.node? (name :: dir) with
        | none => rfl
        | some node =>
            cases node with
            | directory => rfl
            | file content => rfl
            | link target => exact absurd hnode (hunlinked hlong target)
  cases links <;> exact hwith _

theorem Site.slot_eq {fs : FileSystem} {path : Path} {dir : Location} {name : Name}
    (h : fs.Site path dir name) :
    fs.slot path = match spellingFault? path name with
      | some e => .error e
      | none => .ok (.named ⟨name :: dir, fs.node? (name :: dir), false⟩) := by
  obtain ⟨rooted, above, hends, hdir⟩ := h
  exact slot_of_folder hends hdir

namespace Seat

variable {fs : FileSystem} {path : Path} {dir : Location} {name : Name}

theorem slot_eq (h : fs.Seat path dir name) :
    fs.slot path = match spellingFault? path name with
      | some e => .error e
      | none => .ok (.named ⟨name :: dir, fs.node? (name :: dir), false⟩) :=
  h.ends.slot_eq

theorem nodeAt?_eq (h : fs.Seat path dir name) :
    fs.nodeAt? path
      = if (spellingFault? path name).isNone then fs.node? (name :: dir) else none := by
  obtain ⟨rooted, above, hends, hdir⟩ := h.ends
  exact nodeAt?_of_folder hends hdir

/-- Following a path to the end, for reading or for writing. -/
theorem walk_eq (h : fs.Seat path dir name) (writing : Bool) :
    (do
      checkPath path
      fs.walk writing mostLinks (fs.start path) (Path.pieces Path.slash path.octets)) =
      match spellingFault? path name with
      | some e => .error e
      | none => .ok ⟨name :: dir, fs.node? (name :: dir), false⟩ := by
  obtain ⟨rooted, above, hends, hdir⟩ := h.ends
  obtain ⟨before, hpieces, habove⟩ := hends.pieces
  obtain ⟨left, hdescend⟩ := folder_eq_ok_iff.1 hdir
  have hlast : [name].all List.isEmpty = false := by
    simpa using hends.proper.ne_nil
  have hunlinked := h.unlinked
  rw [spellingFault?] at hunlinked ⊢
  cases hcheck : checkPath path with
  | error e => rfl
  | ok u =>
      simp only [hcheck] at hunlinked
      change fs.walk writing mostLinks (fs.start path) (Path.pieces Path.slash path.octets) = _
      -- first to the directory of the seat, then one name more
      rw [hpieces, walk_append fs writing hlast, habove, start, hends.rooted, hdescend]
      change fs.walk writing left dir [name] = _
      rw [walk_name writing left hends.proper fun hlong => hunlinked (if_neg hlong)]
      split <;> rfl

theorem resolve_eq (h : fs.Seat path dir name) :
    fs.resolve path = match spellingFault? path name with
      | some e => .error e
      | none => .ok ⟨name :: dir, fs.node? (name :: dir), false⟩ :=
  h.walk_eq false

theorem resolveForWriting_eq (h : fs.Seat path dir name) :
    fs.resolveForWriting path = match spellingFault? path name with
      | some e => .error e
      | none => .ok ⟨name :: dir, fs.node? (name :: dir), false⟩ :=
  h.walk_eq true

theorem stat_eq (h : fs.Seat path dir name) :
    fs.stat path = match spellingFault? path name with
      | some e => .error e
      | none =>
        match fs.node? (name :: dir) with
        | some node => .ok (name :: dir, node)
        | none => .error .notFound := by
  rw [stat, h.resolve_eq]
  cases spellingFault? path name with
  | some e => rfl
  | none =>
      cases fs.node? (name :: dir) with
      | none => rfl
      | some node => cases node <;> rfl

/-- A path leads to an entry if it can be used and the entry is there. -/
theorem hasEntry_eq (h : fs.Seat path dir name) :
    fs.hasEntry path
      = ((spellingFault? path name).isNone && (fs.node? (name :: dir)).isSome) := by
  rw [hasEntry, h.stat_eq]
  cases spellingFault? path name with
  | some e => rfl
  | none => cases fs.node? (name :: dir) <;> rfl

theorem isFile_eq (h : fs.Seat path dir name) :
    fs.isFile path
      = ((spellingFault? path name).isNone && (fs.node? (name :: dir)).any Node.isFile) := by
  rw [isFile, h.stat_eq]
  cases spellingFault? path name with
  | some e => rfl
  | none =>
      cases fs.node? (name :: dir) with
      | none => rfl
      | some node => cases node <;> rfl

end Seat

/-! ### Putting a file in its place -/

/-- Why no file can be put at the path of a seat. -/
def obstacle? (fs : FileSystem) (path : Path) (dir : Location) (name : Name) : Option OsError :=
  match spellingFault? path name with
  | some e => some e
  | none => if fs.node? (name :: dir) = some .directory then some .isDirectory else none

/-- What stands in the way of a file is the same wherever directories and links are. -/
theorem obstacle?_congr {a b : FileSystem} (h : a.SameFrame b) (path : Path) (dir : Location)
    (name : Name) : a.obstacle? path dir name = b.obstacle? path dir name := by
  rw [obstacle?, obstacle?]
  simp only [h.node?_eq_iff .directory rfl (name :: dir)]

namespace Seat

variable {fs : FileSystem} {path : Path} {dir : Location} {name : Name}

theorem createFile_eq (h : fs.Seat path dir name) :
    fs.createFile path = match fs.obstacle? path dir name with
      | some e => .error e
      | none => .ok (name :: dir) := by
  rw [createFile, openForWriting, h.resolveForWriting_eq, obstacle?]
  cases hfault : spellingFault? path name with
  | some e => rfl
  | none =>
      cases hnode : fs.node? (name :: dir) with
      | none => rfl
      | some node =>
          cases node with
          | directory => rfl
          | file content => rfl
          | link target => rfl

/-- A file is removed; a path with an obstacle in the way is left alone. -/
theorem unlink_of_file (h : fs.Seat path dir name) {content : Content}
    (hfault : spellingFault? path name = none)
    (hnode : fs.node? (name :: dir) = some (.file content)) :
    fs.unlink path = .ok (.remove (name :: dir)) := by
  rw [unlink, h.slot_eq, hfault, hnode]
  rfl

theorem unlink_of_obstacle (h : fs.Seat path dir name) {e : OsError}
    (hobstacle : fs.obstacle? path dir name = some e) : ∃ e', fs.unlink path = .error e' := by
  rw [unlink, h.slot_eq]
  rw [obstacle?] at hobstacle
  cases hfault : spellingFault? path name with
  | some e' => exact ⟨e', rfl⟩
  | none =>
      rw [hfault] at hobstacle
      simp only at hobstacle
      split at hobstacle
      · next hnode =>
          rw [hnode]
          exact ⟨.isDirectory, rfl⟩
      · cases hobstacle

/-- A file gets another path, unless there is an obstacle. -/
theorem rename_of_file (h : fs.Seat path dir name) {content : Content}
    (hfault : spellingFault? path name = none)
    (hnode : fs.node? (name :: dir) = some (.file content))
    {target : Path} {dir' : Location} {name' : Name} (h' : fs.Site target dir' name') :
    fs.rename path target = match fs.obstacle? target dir' name' with
      | some e => .error e
      | none => .ok (.move (name :: dir) (name' :: dir')) := by
  rw [rename, h.slot_eq, h'.slot_eq, hfault, obstacle?]
  cases hfault' : spellingFault? target name' with
  | some e => rfl
  | none =>
      rw [hnode]
      change renameEntry ⟨name :: dir, some (.file content), false⟩
        ⟨name' :: dir', fs.node? (name' :: dir'), false⟩ = _
      rw [renameEntry]
      by_cases hdir : fs.node? (name' :: dir') = some .directory
      · simp [hdir]
      · simp [hdir]

end Seat

end FileSystem

end PageImages
