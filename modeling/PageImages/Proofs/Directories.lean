import PageImages.Proofs.Effects

/-!
**Making a directory and those above it.**

A directory is made after the missing ones above it.  When that is cut off after some steps and
started again, the steps that were left are taken, and nothing else.

Main definitions:

* `FileSystem.makeStep` — making one directory in another one;
* `FileSystem.Grows` — steps that make directories where there is nothing;
* `FileSystem.OnTheWay` — directories on the way to a path;
* `FileSystem.Attached` — every entry lies in a directory.

Main results:

* `FileSystem.isDirectory_iff` — a path leads to a directory if its steps do;
* `FileSystem.createDirectories_folder`, `FileSystem.createDirectories_again` — directories that
  have been made are there, and need not be made again;
* `FileSystem.createDirectories_changed` — **making directories changes nothing but those on the
  way**;
* `FileSystem.createDirectories_isLink` — making the directories of a path without `..` brings no
  link into it;
* `FileSystem.createDirectories_resume` — **making directories can be cut off and started again**.
-/

set_option autoImplicit false

namespace PageImages

open PageImages.Path (Part)

namespace FileSystem

/-! ### Paths that lead to directories -/

theorem folder_eq (fs : FileSystem) (path : Path) :
    fs.folder path.isAbsolute path.parts
      = (fs.descend mostLinks (fs.start path) path.parts).map Prod.fst := rfl

theorem resolve_eq_ok_iff {fs : FileSystem} {path : Path} {place : Place} :
    fs.resolve path = .ok place ↔ checkPath path = .ok () ∧
      fs.walk false mostLinks (fs.start path) (Path.pieces Path.slash path.octets) = .ok place := by
  rw [resolve]
  cases checkPath path with
  | error e =>
      constructor
      · intro h
        cases h
      · rintro ⟨h, -⟩
        cases h
  | ok u => exact ⟨fun h => ⟨rfl, h⟩, fun h => h.2⟩

theorem isDirectory_iff_resolve {fs : FileSystem} {path : Path} :
    fs.isDirectory path = true ↔
      ∃ place, fs.resolve path = .ok place ∧ place.node? = some .directory := by
  rw [isDirectory, stat]
  cases fs.resolve path with
  | error e =>
      constructor
      · intro h
        cases h
      · rintro ⟨place, h, -⟩
        cases h
  | ok place =>
      obtain ⟨location, node?, slash⟩ := place
      constructor
      · intro h
        refine ⟨_, rfl, ?_⟩
        cases node? with
        | none => cases h
        | some node =>
            cases node with
            | directory => rfl
            | file content => cases slash <;> cases h
            | link target => cases slash <;> cases h
      · rintro ⟨place', hplace, hnode⟩
        cases hplace
        cases hnode
        rfl

/-- A path leads to a directory if it can be used and its steps lead to one. -/
theorem isDirectory_iff {fs : FileSystem} {path : Path} :
    fs.isDirectory path = true ↔
      checkPath path = .ok () ∧ ∃ dir, fs.folder path.isAbsolute path.parts = .ok dir := by
  rw [isDirectory_iff_resolve]
  constructor
  · rintro ⟨place, hresolve, hnode⟩
    obtain ⟨hcheck, hwalk⟩ := resolve_eq_ok_iff.1 hresolve
    obtain ⟨left, hdescend⟩ := descend_of_walk hwalk hnode
    rw [← Path.parts_eq] at hdescend
    exact ⟨hcheck, place.location, folder_eq_ok_iff.2 ⟨left, hdescend⟩⟩
  · rintro ⟨hcheck, dir, hdir⟩
    obtain ⟨left, hdescend⟩ := folder_eq_ok_iff.1 hdir
    rw [Path.parts_eq] at hdescend
    exact ⟨_, resolve_eq_ok_iff.2 ⟨hcheck, walk_of_descend hdescend⟩, rfl⟩

/-- A path that leads to a directory still does when directories and links stay. -/
theorem isDirectory_mono {a b : FileSystem} (h : a.FrameLe b) {path : Path}
    (hpath : a.isDirectory path = true) : b.isDirectory path = true := by
  obtain ⟨hcheck, dir, hdir⟩ := isDirectory_iff.1 hpath
  exact isDirectory_iff.2 ⟨hcheck, dir, folder_mono h hdir⟩

/-! ### Making one directory -/

/-- Makes the directory to which at most one more step leads. -/
def makeStep (fs : FileSystem) (dir : Location) : List Part → Except OsError Effect
  | [.name name] =>
    if longestName < name.length then .error .nameTooLong
    else
      match fs.node? (name :: dir) with
      | some _ => .error .alreadyExists
      | none => .ok (.makeDirectory (name :: dir))
  | _ => .error .alreadyExists

theorem parts_eq_dropWhile (path : Path) :
    path.parts = (((Path.pieces Path.slash path.octets).reverse.dropWhile List.isEmpty).filterMap
      Part.ofPiece?).reverse := by
  have hdrop : ∀ pieces : List Octets,
      (pieces.dropWhile List.isEmpty).filterMap Part.ofPiece? = pieces.filterMap Part.ofPiece? := by
    intro pieces
    induction pieces with
    | nil => rfl
    | cons piece rest ih =>
        cases piece with
        | nil => exact ih
        | cons b piece => rfl
  rw [hdrop, List.filterMap_reverse, List.reverse_reverse, Path.parts_eq]

theorem ne_nil_of_dropWhile {pieces before : List Octets} {last : Octets}
    (h : pieces.dropWhile List.isEmpty = last :: before) : last ≠ [] := by
  rintro rfl
  induction pieces with
  | nil => cases h
  | cons piece rest ih =>
      cases piece with
      | nil => exact ih h
      | cons b piece => cases h

/-- A directory is made from the directory to which all steps but at most one lead. -/
theorem makeDirectory_split {path : Path} (hcheck : checkPath path = .ok ()) :
    ∃ above tail, path.parts = above ++ tail ∧ tail.length ≤ 1 ∧ ∀ fs : FileSystem,
      fs.makeDirectory path
        = fs.descend mostLinks (fs.start path) above >>= fun (dir, _) => fs.makeStep dir tail := by
  have hparts := parts_eq_dropWhile path
  cases hpieces : (Path.pieces Path.slash path.octets).reverse.dropWhile List.isEmpty with
  | nil =>
      rw [hpieces] at hparts
      refine ⟨[], [], hparts, by decide, fun fs => ?_⟩
      rw [makeDirectory, slot, hcheck]
      simp only [hpieces]
      rfl
  | cons last before =>
      rw [hpieces] at hparts
      refine ⟨before.reverse.filterMap Part.ofPiece?, (Part.ofPiece? last).toList, ?_, ?_, ?_⟩
      · rw [hparts, List.filterMap_reverse]
        cases hlast : Part.ofPiece? last <;> simp [hlast]
      · cases Part.ofPiece? last <;> simp
      · intro fs
        rw [makeDirectory, slot, hcheck]
        simp only [hpieces, directoryAt_eq]
        change ((do
          let directory ← (fs.descend mostLinks (fs.start path)
            (before.reverse.filterMap Part.ofPiece?)).map Prod.fst
          _) >>= _) = _
        cases fs.descend mostLinks (fs.start path) (before.reverse.filterMap Part.ofPiece?) with
        | error e => rfl
        | ok result =>
            have hne := ne_nil_of_dropWhile hpieces
            -- the last piece is `.`, which is no step, or `..`, or the name of the new directory
            rcases ofPiece?_cases last with ⟨hidle, hpart⟩ | ⟨-, hup, hpart⟩ | ⟨hidle, hup, hpart⟩
            · have hdot : last = [Path.dot] := by
                simpa [Path.isIdle, hne] using hidle
              rw [hpart, hdot]
              rfl
            · rw [hpart, hup]
              rfl
            · have hdot : last ≠ [Path.dot] := fun h => by
                simp [Path.isIdle, h] at hidle
              rw [hpart]
              change ((if (last = [Path.dot] || last = [Path.dot, Path.dot]) = true then _ else _)
                >>= _) = _
              rw [if_neg (by simp [hdot, hup])]
              change _ = if longestName < last.length then _ else _
              by_cases hlong : longestName < last.length
              · rw [if_pos hlong, if_pos hlong]
                rfl
              · rw [if_neg hlong, if_neg hlong]
                rfl

theorem descend_nil (fs : FileSystem) (links : Nat) (dir : Location) :
    fs.descend links dir [] = .ok (dir, links) := by
  cases links <;> rfl

/-- A way that leads to a directory has its first steps lead to one. -/
theorem descend_append_ok {fs : FileSystem} {links : Nat} {here : Location}
    {steps tail : List Part} {result : Location × Nat}
    (h : fs.descend links here (steps ++ tail) = .ok result) :
    ∃ dir left, fs.descend links here steps = .ok (dir, left) ∧
      fs.descend left dir tail = .ok result := by
  rw [descend_append] at h
  cases hdescend : fs.descend links here steps with
  | error e =>
      rw [hdescend] at h
      cases h
  | ok found =>
      rw [hdescend] at h
      exact ⟨found.1, found.2, rfl, h⟩

theorem descend_name {fs : FileSystem} {links : Nat} {dir : Location} {name : Name}
    (hlong : ¬ longestName < name.length) :
    (fs.node? (name :: dir) = none → fs.descend links dir [.name name] = .error .notFound) ∧
      (fs.node? (name :: dir) = some .directory →
        fs.descend links dir [.name name] = .ok (name :: dir, links)) := by
  constructor <;> intro hnode <;>
    cases links <;> simp [descend, descendWith, hlong, hnode]

theorem frameLe_insert {fs : FileSystem} {l : Location} (h : fs.node? l = none) (node : Node) :
    fs.FrameLe (fs.insert l node) := by
  refine ⟨(here_insert fs l node).symm, ?_⟩
  intro l' node' _ hnode'
  rw [node?_insert_of_ne, hnode']
  rintro rfl
  rw [h] at hnode'
  cases hnode'

/-- Of the faults of a path, only emptiness is told as an entry that is missing. -/
theorem checkPath_ne_notFound {path : Path} (hne : path.octets ≠ []) :
    checkPath path ≠ .error .notFound := by
  have hempty : path.octets.isEmpty = false := by simpa using hne
  rw [checkPath, hempty]
  split
  · exact fun h => by cases h
  · split <;> exact fun h => by cases h

theorem checkPath_of_makeDirectory {fs : FileSystem} {path : Path} (hne : path.octets ≠ [])
    (h : (∃ effect, fs.makeDirectory path = .ok effect) ∨
      fs.makeDirectory path = .error .notFound) : checkPath path = .ok () := by
  cases hcheck : checkPath path with
  | ok u => rfl
  | error e =>
      have hmake : fs.makeDirectory path = .error e := by
        rw [makeDirectory, slot, hcheck]
        rfl
      rw [hmake] at h
      rcases h with ⟨effect, h⟩ | h
      · cases h
      · cases h
        exact absurd hcheck (checkPath_ne_notFound hne)

/-- The directory of a path, from the one to which its first steps lead. -/
theorem folder_of_descend {fs : FileSystem} {path : Path} {above tail : List Part}
    {dir : Location} {left : Nat} (hparts : path.parts = above ++ tail)
    (hdescend : fs.descend mostLinks (fs.start path) above = .ok (dir, left)) :
    fs.folder path.isAbsolute path.parts = (fs.descend left dir tail).map Prod.fst := by
  rw [folder_eq, hparts, descend_append, hdescend]
  rfl

theorem makeStep_ok {fs : FileSystem} {dir : Location} {tail : List Part} {effect : Effect}
    (h : fs.makeStep dir tail = .ok effect) :
    ∃ name, tail = [.name name] ∧ ¬ longestName < name.length ∧ fs.node? (name :: dir) = none ∧
      effect = .makeDirectory (name :: dir) := by
  unfold makeStep at h
  split at h
  · next name =>
      split at h
      · cases h
      · next hlong =>
          cases hnode : fs.node? (name :: dir) with
          | some node => simp [hnode] at h
          | none =>
              simp only [hnode, Except.ok.injEq] at h
              exact ⟨name, rfl, hlong, hnode, h.symm⟩
  · cases h

/-- A directory that was made is there, and was not there before. -/
theorem makeDirectory_ok {fs : FileSystem} {path : Path} {effect : Effect} (hne : path.octets ≠ [])
    (h : fs.makeDirectory path = .ok effect) :
    (∃ l, effect = .makeDirectory l ∧ l.isNamed = true ∧ l ≠ [] ∧ fs.node? l = none ∧
        (fs.apply effect).folder path.isAbsolute path.parts = .ok l) ∧
      fs.folder path.isAbsolute path.parts = .error .notFound ∧
      (fs.apply effect).isDirectory path = true := by
  have hcheck := checkPath_of_makeDirectory hne (Or.inl ⟨effect, h⟩)
  obtain ⟨above, tail, hparts, -, hmake⟩ := makeDirectory_split hcheck
  rw [hmake] at h
  cases hdescend : fs.descend mostLinks (fs.start path) above with
  | error e =>
      rw [hdescend] at h
      cases h
  | ok result =>
      obtain ⟨dir, left⟩ := result
      rw [hdescend] at h
      obtain ⟨name, rfl, hlong, hnode, rfl⟩ := makeStep_ok h
      have hframe : fs.FrameLe (fs.apply (.makeDirectory (name :: dir))) :=
        frameLe_insert hnode .directory
      have hnamed : Location.isNamed (name :: dir) = true := by
        refine Location.isNamed_cons.2 (Path.slash_not_mem_of_mem_parts path ?_)
        rw [hparts]
        exact List.mem_append_right _ List.mem_cons_self
      have hthere : (fs.apply (.makeDirectory (name :: dir))).node? (name :: dir)
          = some .directory := node?_insert_self hnamed fs _
      have hfolder : (fs.apply (.makeDirectory (name :: dir))).folder path.isAbsolute path.parts
          = .ok (name :: dir) := by
        have hdescend' := descend_mono hframe hdescend
        rw [hframe.start path] at hdescend'
        rw [folder_of_descend hparts hdescend', (descend_name hlong).2 hthere]
        rfl
      refine ⟨⟨name :: dir, rfl, hnamed, List.cons_ne_nil _ _, hnode, hfolder⟩, ?_,
        isDirectory_iff.2 ⟨hcheck, _, hfolder⟩⟩
      rw [folder_of_descend hparts hdescend, (descend_name hlong).1 hnode]
      rfl

/-- A directory that is there cannot be made. -/
theorem makeDirectory_of_isDirectory {fs : FileSystem} {path : Path}
    (h : fs.isDirectory path = true) : fs.makeDirectory path = .error .alreadyExists := by
  obtain ⟨hcheck, dir, hdir⟩ := isDirectory_iff.1 h
  obtain ⟨left, hparts'⟩ := folder_eq_ok_iff.1 hdir
  obtain ⟨above, tail, hparts, htail, hmake⟩ := makeDirectory_split hcheck
  rw [hparts] at hparts'
  obtain ⟨dir', left', hdescend, hlast⟩ := descend_append_ok hparts'
  change fs.descend mostLinks (fs.start path) above = _ at hdescend
  rw [hmake, hdescend]
  change fs.makeStep dir' tail = _
  unfold makeStep
  split
  · next name =>
      split
      · next hlong =>
          cases left' <;> simp [descend, descendWith, hlong] at hlast
      · next hlong =>
          cases hnode : fs.node? (name :: dir') with
          | some node => rfl
          | none =>
              rw [(descend_name hlong).1 hnode] at hlast
              cases hlast
  · rfl

theorem makeStep_ne_notFound (fs : FileSystem) (dir : Location) (tail : List Part) :
    fs.makeStep dir tail ≠ .error .notFound := by
  unfold makeStep
  split
  · split
    · simp
    · split <;> simp
  · simp

/-- A directory above is missing if and only if the directory cannot be found for that reason. -/
theorem makeDirectory_notFound {fs : FileSystem} {path : Path} (hne : path.octets ≠ [])
    (h : fs.makeDirectory path = .error .notFound) :
    path.parts ≠ [] ∧ fs.folder path.isAbsolute path.parts = .error .notFound := by
  have hcheck := checkPath_of_makeDirectory hne (Or.inr h)
  obtain ⟨above, tail, hparts, -, hmake⟩ := makeDirectory_split hcheck
  rw [hmake] at h
  cases hdescend : fs.descend mostLinks (fs.start path) above with
  | ok result =>
      rw [hdescend] at h
      exact absurd h (makeStep_ne_notFound fs result.1 tail)
  | error e =>
      rw [hdescend] at h
      cases h
      refine ⟨?_, ?_⟩
      · intro hnil
        rw [hparts] at hnil
        rw [(List.append_eq_nil_iff.1 hnil).1, descend_nil] at hdescend
        cases hdescend
      · rw [folder_eq, hparts, descend_append, hdescend]
        rfl

/-- The steps before the last one are those of the parent, or all steps of the path. -/
theorem above_eq_parent {above tail steps : List Part} {last : Part}
    (h : above ++ tail = steps ++ [last]) (htail : tail.length ≤ 1) :
    ∃ rest, above = steps ++ rest := by
  cases tail with
  | nil =>
      rw [List.append_nil] at h
      exact ⟨[last], h⟩
  | cons part others =>
      have hothers : others = [] := List.eq_nil_of_length_eq_zero (by
        rw [List.length_cons] at htail
        omega)
      rw [hothers] at h
      exact ⟨[], by rw [List.append_nil]; exact List.append_inj_left' h rfl⟩

theorem makeDirectory_of_parent {fs : FileSystem} {path parent : Path}
    (hcheck : checkPath path = .ok ()) (hparent : path.parent? = some parent)
    (hne : path.parts ≠ [])
    (h : fs.folder parent.isAbsolute parent.parts = .error .notFound) :
    fs.makeDirectory path = .error .notFound := by
  obtain ⟨habsolute, last, hlast⟩ := Path.parts_of_parent? hparent hne
  obtain ⟨above, tail, hparts, htail, hmake⟩ := makeDirectory_split hcheck
  have hstart : fs.start parent = fs.start path := by
    rw [start, start, habsolute]
  have hdescend : fs.descend mostLinks (fs.start path) parent.parts = .error .notFound := by
    rw [folder_eq, hstart] at h
    cases hd : fs.descend mostLinks (fs.start path) parent.parts with
    | error e =>
        rw [hd] at h
        cases h
        rfl
    | ok result =>
        rw [hd] at h
        cases h
  obtain ⟨rest, hrest⟩ := above_eq_parent (hparts.symm.trans hlast) htail
  rw [hmake, hrest, descend_append, hdescend]
  rfl

/-! ### Making a directory whose parents are there -/

theorem ensureDirectory_of_isDirectory {fs : FileSystem} {path : Path}
    (h : fs.isDirectory path = true) : fs.ensureDirectory path = ([], .ok ()) := by
  rw [ensureDirectory, makeDirectory_of_isDirectory h]
  simp only [h, if_true]

/-- A directory is made in one step, or nothing is done and the path is a directory or refused. -/
theorem ensureDirectory_cases (fs : FileSystem) {path : Path} (hne : path.octets ≠ []) :
    (∃ effect, fs.makeDirectory path = .ok effect ∧
        fs.ensureDirectory path = ([effect], .ok ()) ∧
        (fs.apply effect).isDirectory path = true) ∨
      ∃ outcome, fs.ensureDirectory path = ([], outcome) ∧
        (outcome = .ok () → fs.isDirectory path = true) := by
  cases hmake : fs.makeDirectory path with
  | ok effect =>
      left
      rw [ensureDirectory, hmake]
      exact ⟨effect, rfl, rfl, (makeDirectory_ok hne hmake).2.2⟩
  | error e =>
      right
      rw [ensureDirectory, hmake]
      refine ⟨_, rfl, ?_⟩
      cases hdir : fs.isDirectory path with
      | true => exact fun _ => rfl
      | false =>
          intro h
          cases h

/-! ### Making all directories -/

theorem createDirectoriesWith_of_found {fs : FileSystem} (depth : Nat) {path : Path}
    (hne : path.octets ≠ []) (h : fs.makeDirectory path ≠ .error .notFound) :
    fs.createDirectoriesWith (depth + 1) path = fs.ensureDirectory path := by
  rw [createDirectoriesWith, if_neg (by simpa using hne), ensureDirectory]
  cases hmake : fs.makeDirectory path with
  | ok effect => rfl
  | error e =>
      cases e with
      | notFound => exact absurd hmake h
      | _ => rfl

theorem createDirectoriesWith_of_missing {fs : FileSystem} (depth : Nat) {path parent : Path}
    (hne : path.octets ≠ []) (h : fs.makeDirectory path = .error .notFound)
    (hparent : path.parent? = some parent) :
    fs.createDirectoriesWith (depth + 1) path =
      match fs.createDirectoriesWith depth parent with
      | (effects, .error e) => (effects, .error e)
      | (effects, .ok ()) =>
        (effects ++ ((fs.applyAll effects).ensureDirectory path).1,
          ((fs.applyAll effects).ensureDirectory path).2) := by
  have hempty : path.octets.isEmpty = false := by simpa using hne
  cases hmake : fs.createDirectoriesWith depth parent with
  | mk effects outcome =>
      cases outcome with
      | error e =>
          simp only [createDirectoriesWith, hempty, Bool.false_eq_true, if_false, h, hparent, hmake]
      | ok u =>
          simp only [createDirectoriesWith, hempty, Bool.false_eq_true, if_false, h, hparent, hmake]

theorem createDirectoriesWith_of_isDirectory {fs : FileSystem} (depth : Nat) {path : Path}
    (h : fs.isDirectory path = true) :
    fs.createDirectoriesWith (depth + 1) path = ([], .ok ()) := by
  have hne : path.octets ≠ [] := by
    intro hnil
    have hcheck := (isDirectory_iff.1 h).1
    simp [checkPath, hnil, tooLongPath] at hcheck
  have hmake := makeDirectory_of_isDirectory h
  rw [createDirectoriesWith_of_found depth hne (by rw [hmake]; simp),
    ensureDirectory_of_isDirectory h]

/-- Directories are made only if the path leads nowhere. -/
theorem folder_of_made {fs : FileSystem} {depth : Nat} {path : Path}
    (h : (fs.createDirectoriesWith depth path).1 ≠ []) :
    checkPath path = .ok () ∧ fs.folder path.isAbsolute path.parts = .error .notFound := by
  cases depth with
  | zero => exact absurd rfl h
  | succ depth =>
      by_cases hne : path.octets = []
      · rw [createDirectoriesWith, if_pos (by simpa using hne)] at h
        exact absurd rfl h
      · by_cases hmake : fs.makeDirectory path = .error .notFound
        · exact ⟨checkPath_of_makeDirectory hne (Or.inr hmake),
            (makeDirectory_notFound hne hmake).2⟩
        · rw [createDirectoriesWith_of_found depth hne hmake] at h
          rcases ensureDirectory_cases fs hne with
            ⟨effect, hmade, -, -⟩ | ⟨outcome, hensure, -⟩
          · exact ⟨checkPath_of_makeDirectory hne (Or.inl ⟨effect, hmade⟩),
              (makeDirectory_ok hne hmade).2.1⟩
          · rw [hensure] at h
            exact absurd rfl h

/-- After directories have been made, the path is empty or leads to one. -/
theorem isDirectory_of_made {fs : FileSystem} {depth : Nat} {path : Path}
    (h : (fs.createDirectoriesWith depth path).2 = .ok ()) :
    path.octets = [] ∨
      (fs.applyAll (fs.createDirectoriesWith depth path).1).isDirectory path = true := by
  cases depth with
  | zero => cases h
  | succ depth =>
      by_cases hne : path.octets = []
      · exact Or.inl hne
      · right
        -- the last directory is made by `ensureDirectory`, in one file system or another
        have hensure : ∀ a : FileSystem, (a.ensureDirectory path).2 = .ok () →
            (a.applyAll (a.ensureDirectory path).1).isDirectory path = true := by
          intro a ha
          rcases ensureDirectory_cases a hne with ⟨effect, -, he, hdir⟩ | ⟨outcome, he, hdir⟩
          · rw [he]
            exact hdir
          · rw [he] at ha ⊢
            exact hdir ha
        by_cases hmake : fs.makeDirectory path = .error .notFound
        · obtain ⟨parent, hparent⟩ := Path.parent?_isSome (makeDirectory_notFound hne hmake).1
          rw [createDirectoriesWith_of_missing depth hne hmake hparent] at h ⊢
          cases hrec : fs.createDirectoriesWith depth parent with
          | mk effects outcome =>
              rw [hrec] at h
              cases outcome with
              | error e => cases h
              | ok u =>
                  simp only [applyAll_append]
                  exact hensure _ h
        · rw [createDirectoriesWith_of_found depth hne hmake] at h ⊢
          exact hensure fs h

/-! ### Directories that come -/

/-- The steps make directories where there is nothing. -/
inductive Grows : FileSystem → List Effect → Prop
  | nil (fs : FileSystem) : Grows fs []
  | cons {fs : FileSystem} {l : Location} {rest : List Effect} (named : l.isNamed = true)
      (missing : fs.node? l = none)
      (grows : Grows (fs.apply (.makeDirectory l)) rest) : Grows fs (.makeDirectory l :: rest)

theorem Grows.append {fs : FileSystem} {effects more : List Effect} (h : fs.Grows effects)
    (h' : (fs.applyAll effects).Grows more) : fs.Grows (effects ++ more) := by
  induction h with
  | nil fs => exact h'
  | cons named missing _ ih => exact .cons named missing (ih h')

/-- Directories and links stay while directories come. -/
theorem Grows.frameLe {fs : FileSystem} {effects : List Effect} (h : fs.Grows effects) (k : Nat) :
    fs.FrameLe (fs.applyAll (effects.take k)) := by
  induction h generalizing k with
  | nil fs =>
      rw [List.take_nil]
      exact .refl fs
  | cons _ missing _ ih =>
      cases k with
      | zero => exact .refl _
      | succ k => exact (frameLe_insert missing .directory).trans (ih k)

theorem grows_ensureDirectory (fs : FileSystem) {path : Path} (hne : path.octets ≠ []) :
    fs.Grows (fs.ensureDirectory path).1 := by
  rcases ensureDirectory_cases fs hne with ⟨effect, hmade, he, -⟩ | ⟨outcome, he, -⟩
  · obtain ⟨⟨l, rfl, hnamed, -, hmissing, -⟩, -⟩ := makeDirectory_ok hne hmade
    rw [he]
    exact .cons hnamed hmissing (.nil _)
  · rw [he]
    exact .nil fs

theorem grows_createDirectoriesWith (fs : FileSystem) (depth : Nat) (path : Path) :
    fs.Grows (fs.createDirectoriesWith depth path).1 := by
  induction depth generalizing path with
  | zero => exact .nil fs
  | succ depth ih =>
      by_cases hne : path.octets = []
      · rw [createDirectoriesWith, if_pos (by simpa using hne)]
        exact .nil fs
      · by_cases hmake : fs.makeDirectory path = .error .notFound
        · obtain ⟨parent, hparent⟩ := Path.parent?_isSome (makeDirectory_notFound hne hmake).1
          have hrec := ih parent
          rw [createDirectoriesWith_of_missing depth hne hmake hparent]
          cases hresult : fs.createDirectoriesWith depth parent with
          | mk effects outcome =>
              rw [hresult] at hrec
              cases outcome with
              | error e => exact hrec
              | ok u => exact hrec.append (grows_ensureDirectory _ hne)
        · rw [createDirectoriesWith_of_found depth hne hmake]
          exact grows_ensureDirectory fs hne

/-- An entry is the same as before, or it is one of the directories that came. -/
theorem Grows.changed {fs : FileSystem} {effects : List Effect} (h : fs.Grows effects)
    (l : Location) :
    (fs.applyAll effects).node? l = fs.node? l ∨
      (fs.node? l = none ∧ (fs.applyAll effects).node? l = some .directory ∧
        .makeDirectory l ∈ effects) := by
  induction h with
  | nil fs => exact Or.inl rfl
  | @cons fs l' rest named missing grows ih =>
      rw [applyAll_cons]
      by_cases hl : l' = l
      · subst hl
        have hmade : (fs.apply (.makeDirectory l')).node? l' = some .directory :=
          node?_insert_self named fs _
        refine Or.inr ⟨missing, ?_, List.mem_cons_self⟩
        have hkept := (grows.frameLe rest.length).keeps rfl hmade
        rwa [List.take_length] at hkept
      · have hsame : (fs.apply (.makeDirectory l')).node? l = fs.node? l :=
          node?_insert_of_ne hl fs _
        rw [hsame] at ih
        rcases ih with hkept | ⟨hmissing, hmade, hmem⟩
        · exact Or.inl hkept
        · exact Or.inr ⟨hmissing, hmade, List.mem_cons_of_mem _ hmem⟩

/-! ### Directories on the way -/

/-- First steps of the path lead to the directory. -/
def OnTheWay (fs : FileSystem) (path : Path) (l : Location) : Prop :=
  ∃ steps, steps <+: path.parts ∧ fs.folder path.isAbsolute steps = .ok l

theorem OnTheWay.mono {a b : FileSystem} (h : a.FrameLe b) {path : Path} {l : Location}
    (hl : a.OnTheWay path l) : b.OnTheWay path l := by
  obtain ⟨steps, hsteps, hfolder⟩ := hl
  exact ⟨steps, hsteps, folder_mono h hfolder⟩

theorem OnTheWay.of_parent {fs : FileSystem} {path parent : Path}
    (hparent : path.parent? = some parent) (hne : path.parts ≠ []) {l : Location}
    (h : fs.OnTheWay parent l) : fs.OnTheWay path l := by
  obtain ⟨steps, hsteps, hfolder⟩ := h
  obtain ⟨habsolute, last, hlast⟩ := Path.parts_of_parent? hparent hne
  rw [habsolute] at hfolder
  exact ⟨steps, hsteps.trans ⟨[last], hlast.symm⟩, hfolder⟩

theorem onTheWay_ensureDirectory {fs : FileSystem} {path : Path} (hne : path.octets ≠ [])
    {l : Location} (hl : .makeDirectory l ∈ (fs.ensureDirectory path).1) :
    (fs.applyAll (fs.ensureDirectory path).1).OnTheWay path l := by
  rcases ensureDirectory_cases fs hne with ⟨effect, hmade, he, -⟩ | ⟨outcome, he, -⟩
  · obtain ⟨⟨l', rfl, -, -, -, hfolder⟩, -⟩ := makeDirectory_ok hne hmade
    rw [he, List.mem_singleton] at hl
    cases hl
    rw [he]
    exact ⟨path.parts, List.prefix_rfl, hfolder⟩
  · rw [he] at hl
    cases hl

/-- **The directories that are made are those on the way.** -/
theorem onTheWay_createDirectoriesWith {fs : FileSystem} {depth : Nat} {path : Path} {l : Location}
    (hl : .makeDirectory l ∈ (fs.createDirectoriesWith depth path).1) :
    (fs.applyAll (fs.createDirectoriesWith depth path).1).OnTheWay path l := by
  induction depth generalizing path with
  | zero => cases hl
  | succ depth ih =>
      by_cases hne : path.octets = []
      · rw [createDirectoriesWith, if_pos (by simpa using hne)] at hl
        cases hl
      · by_cases hmake : fs.makeDirectory path = .error .notFound
        · have hparts := (makeDirectory_notFound hne hmake).1
          obtain ⟨parent, hparent⟩ := Path.parent?_isSome hparts
          have hrec := @ih parent
          rw [createDirectoriesWith_of_missing depth hne hmake hparent] at hl ⊢
          cases hresult : fs.createDirectoriesWith depth parent with
          | mk effects outcome =>
              rw [hresult] at hrec hl
              cases outcome with
              | error e => exact (hrec hl).of_parent hparent hparts
              | ok u =>
                  simp only [applyAll_append]
                  rcases List.mem_append.1 hl with hl | hl
                  · have hframe := (grows_ensureDirectory (fs.applyAll effects) hne).frameLe
                      ((fs.applyAll effects).ensureDirectory path).1.length
                    rw [List.take_length] at hframe
                    exact ((hrec hl).of_parent hparent hparts).mono hframe
                  · exact onTheWay_ensureDirectory hne hl
        · rw [createDirectoriesWith_of_found depth hne hmake] at hl ⊢
          exact onTheWay_ensureDirectory hne hl

/-! ### Where the new directories lead -/

/-- Every entry lies in a directory. -/
def Attached (fs : FileSystem) : Prop :=
  ∀ entry ∈ fs.entries, entry.1.tail = [] ∨ fs.node? entry.1.tail = some .directory

instance (fs : FileSystem) : Decidable fs.Attached :=
  inferInstanceAs (Decidable (∀ entry ∈ fs.entries, _))

/-- There is nothing at the location, which is not the root. -/
def Vacant (fs : FileSystem) (l : Location) : Prop := l ≠ [] ∧ fs.node? l = none

/-- Nothing lies below a location that has no entry. -/
theorem Attached.below {fs : FileSystem} (h : fs.Attached) {l : Location} (hl : fs.Vacant l)
    (name : Name) : fs.Vacant (name :: l) := by
  refine ⟨List.cons_ne_nil _ _, ?_⟩
  cases hnode : fs.node? (name :: l) with
  | none => rfl
  | some node =>
      rcases h _ (Entries.mem_of_find? hnode) with hroot | hdirectory
      · exact absurd hroot hl.1
      · rw [List.tail_cons, hl.2] at hdirectory
        cases hdirectory

/-- What has no entry after directories came had none before. -/
theorem Grows.vacant {fs : FileSystem} {effects : List Effect} (h : fs.Grows effects)
    {l : Location} (hl : (fs.applyAll effects).Vacant l) : fs.Vacant l := by
  rcases h.changed l with hsame | ⟨hmissing, -, -⟩
  · exact ⟨hl.1, hsame ▸ hl.2⟩
  · exact ⟨hl.1, hmissing⟩

/-- A step to a name that is a directory, if it is anything, leads there. -/
theorem descend_name_ok {fs : FileSystem} {links : Nat} {dir : Location} {name : Name}
    {result : Location × Nat} (h : fs.descend links dir [.name name] = .ok result)
    (hnode : fs.node? (name :: dir) = none ∨ fs.node? (name :: dir) = some .directory) :
    result.1 = name :: dir := by
  by_cases hlong : longestName < name.length
  · cases links <;> simp [descend, descendWith, hlong] at h
  · rcases hnode with hnone | hdirectory
    · rw [(descend_name hlong).1 hnone] at h
      cases h
    · rw [(descend_name hlong).2 hdirectory] at h
      cases h
      rfl

/-- A directory that is made where the ones above it are is new, or was there. -/
theorem folder_ensureDirectory {fs : FileSystem} {path : Path} (hne : path.octets ≠ [])
    {dir : Location}
    (h : (fs.applyAll (fs.ensureDirectory path).1).folder path.isAbsolute path.parts = .ok dir) :
    fs.folder path.isAbsolute path.parts = .ok dir ∨ fs.Vacant dir := by
  rcases ensureDirectory_cases fs hne with ⟨effect, hmade, he, -⟩ | ⟨outcome, he, -⟩
  · obtain ⟨⟨l, -, -, hroot, hmissing, hfolder⟩, -⟩ := makeDirectory_ok hne hmade
    rw [he] at h
    cases hfolder.symm.trans h
    exact Or.inr ⟨hroot, hmissing⟩
  · rw [he] at h
    exact Or.inl h

/-- While the directories above a path come, the path leads where it led before, or to a place that
had no entry. -/
theorem folder_of_parent {fs : FileSystem} (hattached : fs.Attached) {effects : List Effect}
    (hgrows : fs.Grows effects) {path parent : Path} (hparent : path.parent? = some parent)
    (hparts : path.parts ≠ []) (hup : Part.up ∉ path.parts)
    (hmissing : effects ≠ [] → fs.folder parent.isAbsolute parent.parts = .error .notFound)
    (hleads : ∀ {above : Location},
      (fs.applyAll effects).folder parent.isAbsolute parent.parts = .ok above →
        fs.folder parent.isAbsolute parent.parts = .ok above ∨ fs.Vacant above)
    {dir : Location} (h : (fs.applyAll effects).folder path.isAbsolute path.parts = .ok dir) :
    fs.folder path.isAbsolute path.parts = .ok dir ∨ fs.Vacant dir := by
  obtain ⟨habsolute, last, hlast⟩ := Path.parts_of_parent? hparent hparts
  rw [habsolute] at hmissing hleads
  obtain ⟨left, hdescend⟩ := folder_eq_ok_iff.1 h
  rw [hlast] at hdescend
  obtain ⟨above, left', habove, hstep⟩ := descend_append_ok hdescend
  rcases hleads (folder_eq_ok_iff.2 ⟨left', habove⟩) with hthere | hvacant
  · -- then no directory came
    by_cases hnone : effects = []
    · rw [hnone] at h
      exact Or.inl h
    · rw [hmissing hnone] at hthere
      cases hthere
  · cases last with
    | up =>
        rw [hlast] at hup
        exact absurd (List.mem_append_right _ List.mem_cons_self) hup
    | name name =>
        have hbelow := hattached.below hvacant name
        obtain rfl : dir = name :: above := by
          refine descend_name_ok hstep ?_
          rcases hgrows.changed (name :: above) with hsame | ⟨-, hmade, -⟩
          · exact Or.inl (hsame.trans hbelow.2)
          · exact Or.inr hmade
        exact Or.inr hbelow

/-- **The directories of a path without `..` lead where the path led before, or to a place that had
no entry.** -/
theorem folder_createDirectoriesWith {fs : FileSystem} (hattached : fs.Attached) {depth : Nat}
    {path : Path} (hup : Part.up ∉ path.parts) {dir : Location}
    (h : (fs.applyAll (fs.createDirectoriesWith depth path).1).folder path.isAbsolute path.parts
      = .ok dir) :
    fs.folder path.isAbsolute path.parts = .ok dir ∨ fs.Vacant dir := by
  induction depth generalizing path dir with
  | zero => exact Or.inl h
  | succ depth ih =>
      by_cases hne : path.octets = []
      · rw [createDirectoriesWith, if_pos (by simpa using hne)] at h
        exact Or.inl h
      · by_cases hmake : fs.makeDirectory path = .error .notFound
        · have hparts := (makeDirectory_notFound hne hmake).1
          obtain ⟨parent, hparent⟩ := Path.parent?_isSome hparts
          obtain ⟨-, last, hlast⟩ := Path.parts_of_parent? hparent hparts
          have hup' : Part.up ∉ parent.parts := by
            intro hmem
            rw [hlast] at hup
            exact hup (List.mem_append_left _ hmem)
          have hgrows := grows_createDirectoriesWith fs depth parent
          have habove := @folder_of_parent fs hattached _ hgrows path parent hparent hparts hup
            (fun hmade => (folder_of_made hmade).2) (ih hup')
          rw [createDirectoriesWith_of_missing depth hne hmake hparent] at h
          cases hresult : fs.createDirectoriesWith depth parent with
          | mk effects outcome =>
              rw [hresult] at h habove hgrows
              cases outcome with
              | error e => exact habove h
              | ok u =>
                  simp only [applyAll_append] at h
                  rcases folder_ensureDirectory hne h with hthere | hvacant
                  · exact habove hthere
                  · exact Or.inr (hgrows.vacant hvacant)
        · rw [createDirectoriesWith_of_found depth hne hmake] at h
          exact folder_ensureDirectory hne h

/-! ### Cut off and started again -/

theorem applyAll_take_drop (fs : FileSystem) (effects : List Effect) (k : Nat) :
    (fs.applyAll (effects.take k)).applyAll (effects.drop k) = fs.applyAll effects := by
  rw [← applyAll_append, List.take_append_drop]

/-- Cut off after `k` steps and started again, making directories takes the steps that are left, and
succeeds if it would have succeeded. -/
def Resumes (fs : FileSystem) (depth : Nat) (path : Path) (k : Nat) : Prop :=
  ∃ outcome, (fs.applyAll ((fs.createDirectoriesWith depth path).1.take k)).createDirectoriesWith
      depth path = ((fs.createDirectoriesWith depth path).1.drop k, outcome) ∧
    outcome.toOption = (fs.createDirectoriesWith depth path).2.toOption

theorem resumes_of_nil {fs : FileSystem} {depth : Nat} {path : Path}
    (h : (fs.createDirectoriesWith depth path).1 = []) (k : Nat) : fs.Resumes depth path k := by
  refine ⟨(fs.createDirectoriesWith depth path).2, ?_, rfl⟩
  rw [h, List.take_nil, List.drop_nil, applyAll_nil, ← h]

theorem resumes_of_found {fs : FileSystem} {depth : Nat} {path : Path} (hne : path.octets ≠ [])
    (h : fs.makeDirectory path ≠ .error .notFound) (k : Nat) : fs.Resumes (depth + 1) path k := by
  have hfound := createDirectoriesWith_of_found depth hne h
  rcases ensureDirectory_cases fs hne with ⟨effect, -, he, hdir⟩ | ⟨outcome, he, -⟩
  · rw [Resumes, hfound, he]
    cases k with
    | zero => exact ⟨.ok (), hfound.trans he, rfl⟩
    | succ k =>
        simp only [List.take_succ_cons, List.take_nil, List.drop_succ_cons, List.drop_nil]
        exact ⟨.ok (), createDirectoriesWith_of_isDirectory depth hdir, rfl⟩
  · exact resumes_of_nil (by rw [hfound, he]) k

section Missing

variable {fs : FileSystem} {depth : Nat} {path parent : Path} {made : List Effect}
  {outcome : Except OsError Unit}

/-- As long as a directory above is missing, the path leads nowhere. -/
theorem drop_eq_nil_of_found (hne : path.octets ≠ [])
    (hmake : fs.makeDirectory path = .error .notFound) (hparent : path.parent? = some parent)
    {left : FileSystem} (hleft : left.createDirectoriesWith depth parent = (made, outcome))
    (hfound : left.makeDirectory path ≠ .error .notFound) : made = [] := by
  cases hmade : made with
  | nil => rfl
  | cons effect rest =>
      have hsome : (left.createDirectoriesWith depth parent).1 ≠ [] := by
        rw [hleft, hmade]
        exact List.cons_ne_nil _ _
      exact absurd (makeDirectory_of_parent (checkPath_of_makeDirectory hne (Or.inr hmake)) hparent
        (makeDirectory_notFound hne hmake).1 (folder_of_made hsome).2) hfound

/-- The parent of a directory that is there, or can be made, is a directory. -/
theorem isDirectory_parent (hparent : path.parent? = some parent) (hparts : path.parts ≠ [])
    (hcheck : checkPath parent = .ok ()) (hne : path.octets ≠ [])
    (h : (∃ effect, fs.makeDirectory path = .ok effect) ∨ fs.isDirectory path = true) :
    fs.isDirectory parent = true := by
  obtain ⟨habsolute, last, hlast⟩ := Path.parts_of_parent? hparent hparts
  have hstart : fs.start parent = fs.start path := by
    rw [start, start, habsolute]
  -- it is enough that a way that begins with the steps of the parent leads somewhere
  have henough : ∀ {rest : List Part} {result : Location × Nat},
      fs.descend mostLinks (fs.start path) (parent.parts ++ rest) = .ok result →
      fs.isDirectory parent = true := by
    intro rest result hresult
    obtain ⟨dir, left, hdescend, -⟩ := descend_append_ok hresult
    refine isDirectory_iff.2 ⟨hcheck, dir, ?_⟩
    rw [folder_eq, hstart, hdescend]
    rfl
  rcases h with ⟨effect, hmake⟩ | hdir
  · have hcheck' := checkPath_of_makeDirectory hne (Or.inl ⟨effect, hmake⟩)
    obtain ⟨above, tail, hsplit, htail, heq⟩ := makeDirectory_split hcheck'
    rw [heq] at hmake
    cases hdescend : fs.descend mostLinks (fs.start path) above with
    | error e =>
        rw [hdescend] at hmake
        cases hmake
    | ok found =>
        obtain ⟨rest, hrest⟩ := above_eq_parent (hsplit.symm.trans hlast) htail
        rw [hrest] at hdescend
        exact henough hdescend
  · obtain ⟨-, dir, hdir⟩ := isDirectory_iff.1 hdir
    obtain ⟨left, hdescend⟩ := folder_eq_ok_iff.1 hdir
    rw [hlast] at hdescend
    exact henough hdescend

theorem resumes_of_parent_error (hne : path.octets ≠ [])
    (hmake : fs.makeDirectory path = .error .notFound) (hparent : path.parent? = some parent)
    {e : OsError} (hrec : fs.createDirectoriesWith depth parent = (made, .error e))
    (ih : ∀ k, fs.Resumes depth parent k) (k : Nat) : fs.Resumes (depth + 1) path k := by
  obtain ⟨outcome, hagain, houtcome⟩ := ih k
  rw [hrec] at hagain houtcome
  cases outcome with
  | ok u => cases houtcome
  | error e' =>
      rw [Resumes, createDirectoriesWith_of_missing depth hne hmake hparent, hrec]
      simp only at hagain ⊢
      by_cases hmissing : (fs.applyAll (made.take k)).makeDirectory path = .error .notFound
      · refine ⟨.error e', ?_, rfl⟩
        rw [createDirectoriesWith_of_missing depth hne hmissing hparent, hagain]
      · -- all of `made` is there, but it did not make the parent a directory
        have hdrop := drop_eq_nil_of_found hne hmake hparent hagain hmissing
        have hparts := (makeDirectory_notFound hne hmake).1
        have hbarren : ¬ ((∃ effect, (fs.applyAll (made.take k)).makeDirectory path = .ok effect) ∨
            (fs.applyAll (made.take k)).isDirectory path = true) := by
          intro h
          have hsome : (fs.createDirectoriesWith depth parent).1 ≠ [] := by
            rw [hrec]
            rintro rfl
            rw [List.take_nil] at hmissing
            exact hmissing hmake
          have hdir := isDirectory_parent hparent hparts (folder_of_made hsome).1 hne h
          cases depth with
          | zero => exact hsome rfl
          | succ depth =>
              rw [createDirectoriesWith_of_isDirectory depth hdir] at hagain
              cases congrArg Prod.snd hagain
        rw [createDirectoriesWith_of_found depth hne hmissing, hdrop]
        rcases ensureDirectory_cases (fs.applyAll (made.take k)) hne with
          ⟨effect, hok, -, -⟩ | ⟨outcome, he, hdir⟩
        · exact absurd (Or.inl ⟨effect, hok⟩) hbarren
        · refine ⟨outcome, he, ?_⟩
          cases outcome with
          | error e'' => rfl
          | ok u => exact absurd (Or.inr (hdir rfl)) hbarren

theorem resumes_of_parent_ok (hne : path.octets ≠ [])
    (hmake : fs.makeDirectory path = .error .notFound) (hparent : path.parent? = some parent)
    (hrec : fs.createDirectoriesWith depth parent = (made, .ok ()))
    (ih : ∀ k, fs.Resumes depth parent k) (k : Nat) : fs.Resumes (depth + 1) path k := by
  have hwhole := createDirectoriesWith_of_missing depth hne hmake hparent
  rw [hrec] at hwhole
  simp only at hwhole
  -- a cut among the steps for the directories above
  have habove : ∀ k ≤ made.length,
      (fs.applyAll (made.take k)).createDirectoriesWith (depth + 1) path
      = (made.drop k ++ ((fs.applyAll made).ensureDirectory path).1,
        ((fs.applyAll made).ensureDirectory path).2) := by
    intro k hk
    obtain ⟨outcome, hagain, houtcome⟩ := ih k
    rw [hrec] at hagain houtcome
    cases outcome with
    | error e => cases houtcome
    | ok u =>
        simp only at hagain
        by_cases hmissing : (fs.applyAll (made.take k)).makeDirectory path = .error .notFound
        · rw [createDirectoriesWith_of_missing depth hne hmissing hparent, hagain]
          simp only [applyAll_take_drop]
        · have hdrop := drop_eq_nil_of_found hne hmake hparent hagain hmissing
          have htake : made.take k = made := by
            rw [← List.take_append_drop k made, hdrop, List.append_nil, List.take_take,
              Nat.min_self]
          rw [createDirectoriesWith_of_found depth hne hmissing, hdrop, htake, List.nil_append]
  rw [Resumes, hwhole]
  rcases ensureDirectory_cases (fs.applyAll made) hne with ⟨effect, -, he, hdir⟩ | ⟨outcome, he, -⟩
  · rw [he] at habove ⊢
    rcases Nat.lt_or_ge made.length k with hk | hk
    · have hlength : (made ++ [effect]).length ≤ k := by
        rw [List.length_append, List.length_singleton]
        exact hk
      rw [List.take_of_length_le hlength, List.drop_of_length_le hlength, applyAll_append]
      exact ⟨.ok (), createDirectoriesWith_of_isDirectory depth hdir, rfl⟩
    · rw [List.take_append_of_le_length hk, List.drop_append_of_le_length hk]
      exact ⟨.ok (), habove k hk, rfl⟩
  · rw [he, List.append_nil]
    rw [he] at habove
    rcases Nat.lt_or_ge made.length k with hk | hk
    · have hlast := habove made.length (Nat.le_refl _)
      rw [List.take_length, List.drop_length] at hlast
      rw [List.take_of_length_le (Nat.le_of_lt hk), List.drop_of_length_le (Nat.le_of_lt hk)]
      exact ⟨outcome, hlast, rfl⟩
    · have hcut := habove k hk
      rw [List.append_nil] at hcut
      exact ⟨outcome, hcut, rfl⟩

end Missing

/-- **Making directories can be cut off and started again.** -/
theorem createDirectoriesWith_resumes (fs : FileSystem) (depth : Nat) (path : Path) (k : Nat) :
    fs.Resumes depth path k := by
  induction depth generalizing path k with
  | zero => exact resumes_of_nil rfl k
  | succ depth ih =>
      by_cases hne : path.octets = []
      · refine resumes_of_nil ?_ k
        rw [createDirectoriesWith, if_pos (by simpa using hne)]
      · by_cases hmake : fs.makeDirectory path = .error .notFound
        · obtain ⟨parent, hparent⟩ := Path.parent?_isSome (makeDirectory_notFound hne hmake).1
          cases hrec : fs.createDirectoriesWith depth parent with
          | mk made outcome =>
              cases outcome with
              | error e => exact resumes_of_parent_error hne hmake hparent hrec (ih parent) k
              | ok u => exact resumes_of_parent_ok hne hmake hparent hrec (ih parent) k
        · exact resumes_of_found hne hmake k

/-- Directories and links stay while the directories of a path are made. -/
theorem createDirectories_frameLe (fs : FileSystem) (path : Path) (k : Nat) :
    fs.FrameLe (fs.applyAll ((fs.createDirectories path).1.take k)) :=
  (grows_createDirectoriesWith fs _ path).frameLe k

/-- **Making the directories of a path changes nothing else.** -/
theorem createDirectories_changed (fs : FileSystem) (path : Path) (l : Location) :
    let after := fs.applyAll (fs.createDirectories path).1
    after.node? l = fs.node? l ∨
      (fs.node? l = none ∧ after.node? l = some .directory ∧ after.OnTheWay path l) := by
  intro after
  rcases (grows_createDirectoriesWith fs _ path).changed l with hsame | ⟨hmissing, hmade, hl⟩
  · exact Or.inl hsame
  · exact Or.inr ⟨hmissing, hmade, onTheWay_createDirectoriesWith hl⟩

/-- **Making the directories of a path without `..` brings no link into it**, where every entry lies
in a directory. -/
theorem createDirectories_isLink {fs : FileSystem} (hattached : fs.Attached) {folder path : Path}
    {name : Name} (hup : Part.up ∉ folder.parts)
    (hends : path.EndsIn folder.isAbsolute folder.parts name) (h : fs.isLink path = false) :
    (fs.applyAll (fs.createDirectories folder).1).isLink path = false := by
  cases hdir : (fs.applyAll (fs.createDirectories folder).1).folder folder.isAbsolute
      folder.parts with
  | error e =>
      obtain ⟨e', hslot⟩ := slot_of_no_folder hends hdir
      rw [isLink, nodeAt?, hslot]
  | ok dir =>
      rw [isLink, nodeAt?_of_folder hends hdir]
      rcases fs.createDirectories_changed folder (name :: dir) with hsame | ⟨-, hmade, -⟩
      · rw [hsame]
        rcases folder_createDirectoriesWith hattached hup hdir with hthere | hvacant
        · rw [← nodeAt?_of_folder hends hthere]
          exact h
        · rw [(hattached.below hvacant name).2, ite_self]
      · rw [hmade]
        cases (spellingFault? path name).isNone <;> rfl

/-- Where the directories of a path have been made, its steps lead to one. -/
theorem createDirectories_folder {fs : FileSystem} {path : Path}
    (h : (fs.createDirectories path).2 = .ok ()) :
    ∃ dir, (fs.applyAll (fs.createDirectories path).1).folder path.isAbsolute path.parts
      = .ok dir := by
  rcases isDirectory_of_made h with hnil | hdir
  · have hparts : path.parts = [] := by
      rw [Path.parts_eq, hnil]
      rfl
    rw [folder_eq, hparts, descend_nil]
    exact ⟨_, rfl⟩
  · exact (isDirectory_iff.1 hdir).2

/-- Once the directories of a path have been made, there is nothing more to make. -/
theorem createDirectories_again {fs later : FileSystem} {path : Path}
    (h : (fs.createDirectories path).2 = .ok ())
    (hlater : (fs.applyAll (fs.createDirectories path).1).FrameLe later) :
    later.createDirectories path = ([], .ok ()) := by
  rcases isDirectory_of_made h with hnil | hdir
  · rw [createDirectories, createDirectoriesWith, if_pos (by simpa using hnil)]
  · exact createDirectoriesWith_of_isDirectory _ (isDirectory_mono hlater hdir)

/-- **Making the directories of a path can be cut off and started again**: the steps that are left
are taken, and the second start succeeds if the first one would have. -/
theorem createDirectories_resume (fs : FileSystem) (path : Path) (k : Nat) :
    ∃ outcome, (fs.applyAll ((fs.createDirectories path).1.take k)).createDirectories path
        = ((fs.createDirectories path).1.drop k, outcome) ∧
      outcome.toOption = (fs.createDirectories path).2.toOption :=
  createDirectoriesWith_resumes fs _ path k

end FileSystem

end PageImages
