import PageImages.Proofs.Path
import PageImages.Storage.Operations

/-!
**Following a path to its directory.**

A path is followed through directories and links up to the directory that holds its last name.  That
part of the way sees no files: it is the same in two file systems that have the same directories and
the same links.

Main definitions:

* `FileSystem.descend` — the directory to which steps lead, and the links that may still be
  followed;
* `FileSystem.FrameLe`, `FileSystem.SameFrame` — the directories and links of one file system are
  those of another;
* `FileSystem.folder` — the directory to which the steps of a path lead from where it starts.

Main results:

* `FileSystem.walk_append` — **a way is cut at any place** before its last name: first the
  directory, then the rest;
* `FileSystem.walk_of_descend`, `FileSystem.descend_of_walk` — a way ends at a directory exactly if
  it leads from directory to directory;
* `FileSystem.descend_mono` — a way stays the same when directories and links stay.
-/

set_option autoImplicit false

namespace PageImages

open PageImages.Path (Part)

namespace FileSystem

/-! ### The way to a directory -/

/-- Follows steps from directory to directory.  At a link, `onLink` goes on from where the link
starts; `left` is what is left of the links when no more are met. -/
def descendWith (fs : FileSystem) (left : Nat)
    (onLink : Location → List Part → Except OsError (Location × Nat)) :
    Location → List Part → Except OsError (Location × Nat)
  | here, [] => .ok (here, left)
  | here, .up :: rest => descendWith fs left onLink here.tail rest
  | here, .name n :: rest =>
    if longestName < n.length then .error .nameTooLong
    else
      match fs.node? (n :: here) with
      | some .directory => descendWith fs left onLink (n :: here) rest
      | some (.file _) => .error .notDirectory
      | some (.link target) =>
        onLink (if target.isAbsolute then [] else here) (target.parts ++ rest)
      | none => .error .notFound

/-- Follows steps from directory to directory, through at most `links` links.  The result is the
directory and the number of links that may still be followed. -/
def descend (fs : FileSystem) :
    (links : Nat) → Location → List Part → Except OsError (Location × Nat)
  | 0 => descendWith fs 0 fun _ _ => .error .tooManyLinks
  | links + 1 => descendWith fs (links + 1) (descend fs links)

/-- The step that a name is, or that it is none. -/
theorem ofPiece?_cases (piece : Octets) :
    (Path.isIdle piece = true ∧ Part.ofPiece? piece = none) ∨
    (Path.isIdle piece = false ∧ piece = [Path.dot, Path.dot] ∧ Part.ofPiece? piece = some .up) ∨
    (Path.isIdle piece = false ∧ piece ≠ [Path.dot, Path.dot] ∧
      Part.ofPiece? piece = some (.name piece)) := by
  rw [Part.ofPiece?]
  cases hidle : Path.isIdle piece with
  | true => exact Or.inl ⟨rfl, rfl⟩
  | false =>
      by_cases hup : piece = [Path.dot, Path.dot]
      · exact Or.inr (Or.inl ⟨rfl, hup, by simp [hup]⟩)
      · exact Or.inr (Or.inr ⟨rfl, hup, by simp [hup]⟩)

/-- Following pieces with something behind them: the pieces lead from directory to directory. -/
theorem walkWith_append {fs : FileSystem} {writing : Bool} {left : Nat} {tail : List Octets}
    {onLink : Location → List Octets → Except OsError Place}
    {onLink' : Location → List Part → Except OsError (Location × Nat)}
    {next : Location × Nat → Except OsError Place} (htail : tail.all List.isEmpty = false)
    (hend : ∀ dir, next (dir, left) = fs.walkWith writing onLink dir tail)
    (hlink : ∀ dir pieces, onLink dir (pieces ++ tail)
      = onLink' dir (pieces.filterMap Part.ofPiece?) >>= next)
    (here : Location) (pieces : List Octets) :
    fs.walkWith writing onLink here (pieces ++ tail)
      = fs.descendWith left onLink' here (pieces.filterMap Part.ofPiece?) >>= next := by
  induction pieces generalizing here with
  | nil => exact (hend here).symm
  | cons piece rest ih =>
      have hlast : (rest ++ tail).all List.isEmpty = false := by
        rw [List.all_append, htail, Bool.and_false]
      rw [List.cons_append, walkWith]
      rcases ofPiece?_cases piece with ⟨hidle, hpart⟩ | ⟨hidle, hup, hpart⟩ | ⟨hidle, hup, hpart⟩
      · rw [if_pos hidle, ih, List.filterMap_cons, hpart]
      · rw [if_neg (by simp [hidle]), if_pos hup, ih, List.filterMap_cons, hpart]
        rfl
      · rw [if_neg (by simp [hidle]), if_neg hup, List.filterMap_cons, hpart]
        simp only [hlast, Bool.and_false, Bool.false_and, Bool.false_eq_true, if_false]
        rw [descendWith]
        by_cases hlong : longestName < piece.length
        · rw [if_pos hlong, if_pos hlong]
          rfl
        · rw [if_neg hlong, if_neg hlong]
          cases hnode : fs.node? (piece :: here) with
          | none => rfl
          | some node =>
              cases node with
              | directory => exact ih (piece :: here)
              | file content => rfl
              | link target =>
                  have := hlink (if target.isAbsolute then [] else here)
                    (Path.pieces Path.slash target.octets ++ rest)
                  rw [List.append_assoc, List.filterMap_append, ← Path.parts_eq] at this
                  exact this

/-- **A way is cut at any place** before its last name: first the directory, then the rest. -/
theorem walk_append (fs : FileSystem) (writing : Bool) {tail : List Octets}
    (htail : tail.all List.isEmpty = false) (links : Nat) (here : Location)
    (pieces : List Octets) :
    fs.walk writing links here (pieces ++ tail)
      = fs.descend links here (pieces.filterMap Part.ofPiece?) >>= fun (dir, left) =>
        fs.walk writing left dir tail := by
  induction links generalizing here pieces with
  | zero => exact walkWith_append htail (fun _ => rfl) (fun _ _ => rfl) here pieces
  | succ links ih => exact walkWith_append htail (fun _ => rfl) ih here pieces

theorem descendWith_append {fs : FileSystem} {left : Nat} {tail : List Part}
    {onLink : Location → List Part → Except OsError (Location × Nat)}
    {next : Location × Nat → Except OsError (Location × Nat)}
    (hend : ∀ dir, next (dir, left) = fs.descendWith left onLink dir tail)
    (hlink : ∀ dir steps, onLink dir (steps ++ tail) = onLink dir steps >>= next)
    (here : Location) (steps : List Part) :
    fs.descendWith left onLink here (steps ++ tail)
      = fs.descendWith left onLink here steps >>= next := by
  induction steps generalizing here with
  | nil => exact (hend here).symm
  | cons step rest ih =>
      rw [List.cons_append]
      cases step with
      | up => exact ih here.tail
      | name n =>
          rw [descendWith, descendWith]
          split
          · rfl
          · split
            · exact ih (n :: here)
            · rfl
            · rw [← List.append_assoc]
              exact hlink _ _
            · rfl

/-- Following steps one part after the other. -/
theorem descend_append (fs : FileSystem) (links : Nat) (here : Location) (steps tail : List Part) :
    fs.descend links here (steps ++ tail)
      = fs.descend links here steps >>= fun (dir, left) => fs.descend left dir tail := by
  induction links generalizing here steps with
  | zero => exact descendWith_append (fun _ => rfl) (fun _ _ => rfl) here steps
  | succ links ih => exact descendWith_append (fun _ => rfl) ih here steps

/-- The way of pieces that lead from directory to directory. -/
theorem walkWith_of_descendWith {fs : FileSystem} {left : Nat}
    {onLink : Location → List Octets → Except OsError Place}
    {onLink' : Location → List Part → Except OsError (Location × Nat)} {result : Location × Nat}
    (hlink : ∀ dir pieces, onLink' dir (pieces.filterMap Part.ofPiece?) = .ok result →
      onLink dir pieces = .ok ⟨result.1, some .directory, false⟩)
    {here : Location} {pieces : List Octets}
    (h : fs.descendWith left onLink' here (pieces.filterMap Part.ofPiece?) = .ok result) :
    fs.walkWith false onLink here pieces = .ok ⟨result.1, some .directory, false⟩ := by
  induction pieces generalizing here with
  | nil =>
      cases h
      rfl
  | cons piece rest ih =>
      rw [walkWith]
      rcases ofPiece?_cases piece with ⟨hidle, hpart⟩ | ⟨hidle, hup, hpart⟩ | ⟨hidle, hup, hpart⟩
      · rw [List.filterMap_cons, hpart] at h
        rw [if_pos hidle, ih h]
      · rw [List.filterMap_cons, hpart] at h
        rw [if_neg (by simp [hidle]), if_pos hup, ih h]
      · -- a name: the steps lead on, so that it stands for a directory or for a link
        rw [List.filterMap_cons, hpart, descendWith] at h
        rw [if_neg (by simp [hidle]), if_neg hup]
        simp only [Bool.false_and, Bool.false_eq_true, if_false]
        by_cases hlong : longestName < piece.length
        · rw [if_pos hlong] at h
          cases h
        · rw [if_neg hlong] at h ⊢
          cases hnode : fs.node? (piece :: here) with
          | none =>
              simp only [hnode] at h
              cases h
          | some node =>
              cases node with
              | directory =>
                  simp only [hnode] at h ⊢
                  exact ih h
              | file content =>
                  simp only [hnode] at h
                  cases h
              | link target =>
                  simp only [hnode] at h ⊢
                  apply hlink
                  rwa [List.filterMap_append, ← Path.parts_eq]

theorem walk_of_descend {fs : FileSystem} {links left : Nat} {here dir : Location}
    {pieces : List Octets}
    (h : fs.descend links here (pieces.filterMap Part.ofPiece?) = .ok (dir, left)) :
    fs.walk false links here pieces = .ok ⟨dir, some .directory, false⟩ := by
  induction links generalizing here pieces with
  | zero => exact walkWith_of_descendWith (fun _ _ hlink => by cases hlink) h
  | succ links ih => exact walkWith_of_descendWith (fun _ _ hlink => ih hlink) h

/-- A way that ends at a directory leads from directory to directory. -/
theorem descendWith_of_walkWith {fs : FileSystem} {left : Nat}
    {onLink : Location → List Octets → Except OsError Place}
    {onLink' : Location → List Part → Except OsError (Location × Nat)} {place : Place}
    (hlink : ∀ dir pieces, onLink dir pieces = .ok place →
      ∃ left', onLink' dir (pieces.filterMap Part.ofPiece?) = .ok (place.location, left'))
    (hplace : place.node? = some .directory) {here : Location} {pieces : List Octets}
    (h : fs.walkWith false onLink here pieces = .ok place) :
    ∃ left', fs.descendWith left onLink' here (pieces.filterMap Part.ofPiece?)
      = .ok (place.location, left') := by
  induction pieces generalizing here with
  | nil =>
      cases h
      exact ⟨left, rfl⟩
  | cons piece rest ih =>
      rw [walkWith] at h
      rcases ofPiece?_cases piece with ⟨hidle, hpart⟩ | ⟨hidle, hup, hpart⟩ | ⟨hidle, hup, hpart⟩
      · rw [if_pos hidle] at h
        rw [List.filterMap_cons, hpart]
        exact ih h
      · rw [if_neg (by simp [hidle]), if_pos hup] at h
        rw [List.filterMap_cons, hpart]
        exact ih h
      · rw [if_neg (by simp [hidle]), if_neg hup] at h
        simp only [Bool.false_and, Bool.false_eq_true, if_false] at h
        rw [List.filterMap_cons, hpart]
        rw [descendWith]
        by_cases hlong : longestName < piece.length
        · rw [if_pos hlong] at h
          cases h
        · rw [if_neg hlong] at h ⊢
          cases hnode : fs.node? (piece :: here) with
          -- a way that ends at nothing or at a file does not end at a directory
          | none =>
              simp only [hnode] at h
              split at h
              · cases h
                cases hplace
              · cases h
          | some node =>
              cases node with
              | directory =>
                  simp only [hnode] at h ⊢
                  exact ih h
              | file content =>
                  simp only [hnode] at h
                  split at h
                  · cases h
                    cases hplace
                  · cases h
              | link target =>
                  simp only [hnode] at h ⊢
                  have hrest := hlink _ _ h
                  rwa [List.filterMap_append, ← Path.parts_eq] at hrest

theorem descend_of_walk {fs : FileSystem} {links : Nat} {here : Location} {pieces : List Octets}
    {place : Place} (h : fs.walk false links here pieces = .ok place)
    (hplace : place.node? = some .directory) :
    ∃ left, fs.descend links here (pieces.filterMap Part.ofPiece?)
      = .ok (place.location, left) := by
  induction links generalizing here pieces with
  | zero => exact descendWith_of_walkWith (fun _ _ hlink => by cases hlink) hplace h
  | succ links ih => exact descendWith_of_walkWith (fun _ _ hlink => ih hlink) hplace h

/-! ### Directories and links -/

end FileSystem

/-- Whether an entry is a file. -/
def Node.isFile : Node → Bool
  | .file _ => true
  | _ => false

namespace FileSystem

/-- Every directory and every link of `a` is one of `b`. -/
structure FrameLe (a b : FileSystem) : Prop where
  /-- Relative paths start at the same place. -/
  here : a.here = b.here
  /-- Directories and links stay where they are. -/
  keeps : ∀ {location : Location} {node : Node}, node.isFile = false →
    a.node? location = some node → b.node? location = some node

/-- The two file systems have the same directories and the same links. -/
structure SameFrame (a b : FileSystem) : Prop where
  le : a.FrameLe b
  ge : b.FrameLe a

theorem FrameLe.refl (fs : FileSystem) : fs.FrameLe fs := ⟨rfl, fun _ h => h⟩

theorem FrameLe.trans {a b c : FileSystem} (h : a.FrameLe b) (h' : b.FrameLe c) : a.FrameLe c :=
  ⟨h.here.trans h'.here, fun hnode hat => h'.keeps hnode (h.keeps hnode hat)⟩

theorem FrameLe.start {a b : FileSystem} (h : a.FrameLe b) (path : Path) :
    a.start path = b.start path := by
  rw [FileSystem.start, FileSystem.start, h.here]

theorem SameFrame.refl (fs : FileSystem) : fs.SameFrame fs := ⟨FrameLe.refl fs, FrameLe.refl fs⟩

theorem SameFrame.symm {a b : FileSystem} (h : a.SameFrame b) : b.SameFrame a := ⟨h.ge, h.le⟩

theorem SameFrame.trans {a b c : FileSystem} (h : a.SameFrame b) (h' : b.SameFrame c) :
    a.SameFrame c :=
  ⟨h.le.trans h'.le, h'.ge.trans h.ge⟩

theorem SameFrame.node?_eq_iff {a b : FileSystem} (h : a.SameFrame b) (node : Node)
    (hnode : node.isFile = false) (location : Location) :
    a.node? location = some node ↔ b.node? location = some node :=
  ⟨h.le.keeps hnode, h.ge.keeps hnode⟩

theorem descendWith_mono {a b : FileSystem} (h : a.FrameLe b) {left : Nat}
    {onLink onLink' : Location → List Part → Except OsError (Location × Nat)}
    {result : Location × Nat}
    (hlink : ∀ dir steps, onLink dir steps = .ok result → onLink' dir steps = .ok result)
    {here : Location} {steps : List Part}
    (hsteps : a.descendWith left onLink here steps = .ok result) :
    b.descendWith left onLink' here steps = .ok result := by
  induction steps generalizing here with
  | nil => exact hsteps
  | cons step rest ih =>
      cases step with
      | up => exact ih hsteps
      | name n =>
          rw [descendWith] at hsteps ⊢
          split at hsteps
          · cases hsteps
          · next hlong =>
              rw [if_neg hlong]
              split at hsteps
              · next hnode =>
                  simp only [h.keeps rfl hnode]
                  exact ih hsteps
              · cases hsteps
              · next target hnode =>
                  simp only [h.keeps rfl hnode]
                  exact hlink _ _ hsteps
              · cases hsteps

/-- A way from directory to directory stays the same when directories and links stay. -/
theorem descend_mono {a b : FileSystem} (h : a.FrameLe b) {links : Nat} {here : Location}
    {steps : List Part} {result : Location × Nat}
    (hsteps : a.descend links here steps = .ok result) :
    b.descend links here steps = .ok result := by
  induction links generalizing here steps with
  | zero => exact descendWith_mono h (fun _ _ hlink => hlink) hsteps
  | succ links ih => exact descendWith_mono h (fun _ _ hlink => ih hlink) hsteps

/-- The directory to which steps lead from the root or, unless `rooted`, from the working
directory. -/
def folder (fs : FileSystem) (rooted : Bool) (above : List Part) : Except OsError Location :=
  (fs.descend mostLinks (if rooted then [] else fs.here) above).map Prod.fst

theorem folder_eq_ok_iff {fs : FileSystem} {rooted : Bool} {above : List Part} {dir : Location} :
    fs.folder rooted above = .ok dir ↔
      ∃ left, fs.descend mostLinks (if rooted then [] else fs.here) above = .ok (dir, left) := by
  rw [folder]
  cases fs.descend mostLinks (if rooted then [] else fs.here) above with
  | error e => simp [Except.map]
  | ok result =>
      obtain ⟨dir', left⟩ := result
      simp [Except.map]

theorem folder_mono {a b : FileSystem} (h : a.FrameLe b) {rooted : Bool} {above : List Part}
    {dir : Location} (hdir : a.folder rooted above = .ok dir) :
    b.folder rooted above = .ok dir := by
  obtain ⟨left, hdescend⟩ := folder_eq_ok_iff.1 hdir
  rw [h.here] at hdescend
  exact folder_eq_ok_iff.2 ⟨left, descend_mono h hdescend⟩

theorem walk_dot (fs : FileSystem) (writing : Bool) (links : Nat) (dir : Location) :
    fs.walk writing links dir [[Path.dot]] = .ok ⟨dir, some .directory, false⟩ := by
  cases links <;> simp [walk, walkWith, Path.isIdle]

theorem directoryAt_eq (fs : FileSystem) (start : Location) (pieces : List Octets) :
    fs.directoryAt start pieces
      = (fs.descend mostLinks start (pieces.filterMap Part.ofPiece?)).map Prod.fst := by
  rw [directoryAt, walk_append fs false (by decide)]
  cases fs.descend mostLinks start (pieces.filterMap Part.ofPiece?) with
  | error e => rfl
  | ok result =>
      obtain ⟨dir, left⟩ := result
      change Except.map Place.location (fs.walk false left dir [[Path.dot]]) = _
      rw [walk_dot]
      rfl

end FileSystem

end PageImages
