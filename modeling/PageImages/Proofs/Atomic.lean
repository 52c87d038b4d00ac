import PageImages.Proofs.Follow
import PageImages.Proofs.Save

/-!
**Saving an image is all or nothing.**

An image is saved under any path at all: one that ends in a slash or in no name, through links, or
one that is too long with the suffix of the temporary name.  Whatever the path, the entry that it
stands for is the old one until it is the whole image, and a save that fails leaves nothing new.

Main definitions:

* `temporaryName`, `FileSystem.siblingAt?` — the name of the temporary file, and its entry;
* `SaveCourse` — the ways a save can go: refused, abandoned or finished.

Main results:

* `saveImage_course` — every save goes in one of these ways;
* `saveImage_atomic` — **a save succeeds or leaves what was there, and the entry of its path is
  never a part of the image**.
-/

set_option autoImplicit false

namespace PageImages

open PageImages.Path (Part)

/-! ### The temporary file of any path -/

/-- The name of the temporary file for a path. -/
def temporaryName (path : Path) : Name := path.fileName?.getD [] ++ temporarySuffix

theorem proper_temporaryName (path : Path) : Name.Proper (temporaryName path) := by
  refine Name.proper_of_mem (List.mem_of_getLast? (getLast?_temporary _)) (by decide) ?_
  rw [temporaryName, List.mem_append]
  rintro (hmem | hmem)
  · cases hname : path.fileName? with
    | none =>
        rw [hname] at hmem
        cases hmem
    | some name =>
        rw [hname] at hmem
        exact Path.slash_not_mem_fileName hname hmem
  · exact absurd hmem (by decide)

/-- The temporary path ends in the temporary name, whatever the path ends in. -/
theorem endsIn_temporaryName (path : Path) :
    ∃ above, (temporaryPath path).EndsIn path.isAbsolute above (temporaryName path) := by
  have hproper := proper_temporaryName path
  rw [temporaryPath, Path.withFileName]
  cases hname : path.fileName? with
  | none =>
      simp only [temporaryName, hname] at hproper ⊢
      exact ⟨_, Path.endsIn_join path hproper⟩
  | some name =>
      have hne : path.parts ≠ [] := by
        intro hnil
        rw [Path.fileName?, hnil] at hname
        cases hname
      obtain ⟨folder, hfolder⟩ := Path.parent?_isSome hne
      obtain ⟨habsolute, -⟩ := Path.parts_of_parent? hfolder hne
      simp only [temporaryName, hname, hfolder] at hproper ⊢
      rw [← habsolute]
      exact ⟨_, Path.endsIn_join folder hproper⟩

namespace FileSystem

/-- The entry of the temporary file for a path, whether the path can be used as it is spelled or
not. -/
def siblingAt? (fs : FileSystem) (path : Path) : Option Location :=
  match fs.folder (temporaryPath path).isAbsolute (temporaryPath path).parts.dropLast with
  | .ok dir => some (temporaryName path :: dir)
  | .error _ => none

theorem isNamed_of_siblingAt? {fs : FileSystem} {path : Path} {l : Location}
    (h : fs.siblingAt? path = some l) : l.isNamed = true := by
  rw [siblingAt?] at h
  split at h
  · cases h
    exact Location.isNamed_cons.2 (proper_temporaryName path).whole
  · cases h

theorem siblingAt?_eq {fs : FileSystem} {path : Path} {rooted : Bool} {above : List Part}
    (hends : (temporaryPath path).EndsIn rooted above (temporaryName path)) :
    fs.siblingAt? path = match fs.folder rooted above with
      | .ok dir => some (temporaryName path :: dir)
      | .error _ => none := by
  rw [siblingAt?, hends.rooted, hends.parts, List.dropLast_concat]

/-! ### The entry that a path stands for -/

/-- The last piece of a path that is not empty, if it is neither `.` nor `..`, is the name in which
the path ends. -/
theorem proper_of_dropWhile {path : Path} {last : Octets} {before : List Octets}
    (h : (Path.pieces Path.slash path.octets).reverse.dropWhile List.isEmpty = last :: before)
    (hlast : (last = [Path.dot] || last = [Path.dot, Path.dot]) = false) :
    Name.Proper last ∧ path.fileName? = some last := by
  have hne := ne_nil_of_dropWhile h
  have hmem : last ∈ Path.pieces Path.slash path.octets := by
    refine List.mem_reverse.1 ((List.dropWhile_suffix List.isEmpty).subset ?_)
    rw [h]
    exact List.mem_cons_self
  rw [Bool.or_eq_false_iff, decide_eq_false_iff_not, decide_eq_false_iff_not] at hlast
  have hstep : Part.ofPiece? last = some (.name last) := by
    rw [Part.ofPiece?, if_neg (by simp [Path.isIdle, hne, hlast.1]), if_neg hlast.2]
  refine ⟨⟨hstep, Path.not_mem_of_mem_pieces hmem⟩, ?_⟩
  rw [Path.fileName?, parts_eq_dropWhile, h, List.filterMap_cons, hstep, List.reverse_cons,
    List.getLast?_concat]

theorem exists_of_slot {fs : FileSystem} {path : Path} {place : Place}
    (h : fs.slot path = .ok (.named place)) :
    ∃ last before dir,
      (Path.pieces Path.slash path.octets).reverse.dropWhile List.isEmpty = last :: before ∧
      (last = [Path.dot] || last = [Path.dot, Path.dot]) = false ∧
      place = ⟨last :: dir, fs.node? (last :: dir),
        ((Path.pieces Path.slash path.octets).getLast?.map List.isEmpty).getD false⟩ := by
  rw [slot] at h
  cases hcheck : checkPath path with
  | error e =>
      rw [hcheck] at h
      cases h
  | ok u =>
      simp only [hcheck] at h
      cases hdrop : (Path.pieces Path.slash path.octets).reverse.dropWhile List.isEmpty with
      | nil =>
          simp only [hdrop] at h
          cases h
      | cons last before =>
          simp only [hdrop] at h
          cases hdir : fs.directoryAt (fs.start path) before.reverse with
          | error e =>
              rw [hdir] at h
              cases h
          | ok dir =>
              rw [hdir] at h
              change (if _ then _ else if _ then _ else _) = _ at h
              split at h
              · cases h
              · next hlast =>
                  split at h
                  · cases h
                  · cases h
                    exact ⟨last, before, dir, rfl, Bool.not_eq_true _ ▸ hlast, rfl⟩

/-- A path that stands for an entry has the name of that entry, and ends in it unless a slash
follows. -/
theorem name_of_slot {fs : FileSystem} {path : Path} {place : Place}
    (h : fs.slot path = .ok (.named place)) :
    ∃ name dir, path.fileName? = some name ∧ place.location = name :: dir ∧
      (place.slash = false → ∃ above, path.EndsIn path.isAbsolute above name) := by
  obtain ⟨last, before, dir, hdrop, hlast, rfl⟩ := exists_of_slot h
  obtain ⟨hproper, hname⟩ := proper_of_dropWhile hdrop hlast
  refine ⟨last, dir, hname, rfl, fun hslash => ?_⟩
  -- without a slash at the end there is no empty piece behind the name
  obtain ⟨front, piece, hpieces⟩ : ∃ front piece,
      Path.pieces Path.slash path.octets = front ++ [piece] :=
    ⟨_, _, (List.dropLast_concat_getLast (Path.pieces_ne_nil Path.slash path.octets)).symm⟩
  rw [hpieces, List.getLast?_concat] at hslash
  rw [hpieces, List.reverse_append, List.reverse_singleton, List.singleton_append,
    List.dropWhile_cons_of_neg (by simpa using hslash)] at hdrop
  cases hdrop
  exact ⟨_, rfl, ⟨front, hpieces, rfl⟩, hproper⟩

/-- The entry that a path stands for has the name of the path. -/
theorem name_of_locationAt? {fs : FileSystem} {path : Path} {target : Location}
    (h : fs.locationAt? path = some target) :
    ∃ name dir, path.fileName? = some name ∧ target = name :: dir := by
  rw [locationAt?] at h
  cases hslot : fs.slot path with
  | error e =>
      rw [hslot] at h
      cases h
  | ok slot =>
      cases slot with
      | unnamed =>
          rw [hslot] at h
          cases h
      | named place =>
          rw [hslot] at h
          cases h
          obtain ⟨name, dir, hname, hplace, -⟩ := name_of_slot hslot
          exact ⟨name, dir, hname, hplace⟩

theorem isNamed_of_locationAt? {fs : FileSystem} {path : Path} {target : Location}
    (h : fs.locationAt? path = some target) : target.isNamed = true := by
  obtain ⟨name, dir, hname, rfl⟩ := name_of_locationAt? h
  exact Location.isNamed_cons.2 (Path.slash_not_mem_fileName hname)

/-- A path does not stand for its own temporary file. -/
theorem siblingAt?_ne {fs : FileSystem} {path : Path} {target : Location}
    (h : fs.locationAt? path = some target) : fs.siblingAt? path ≠ some target := by
  intro hsibling
  obtain ⟨name, dir, hname, rfl⟩ := name_of_locationAt? h
  rw [siblingAt?, temporaryName, hname] at hsibling
  split at hsibling
  · have hhead : name ++ temporarySuffix = name :=
      (List.cons.inj (Option.some.inj hsibling)).1
    have hlength := congrArg List.length hhead
    rw [List.length_append] at hlength
    exact absurd hlength (by simp [temporarySuffix])
  · cases hsibling

end FileSystem

/-! ### How a save goes -/

/-- How saving an image under a path goes: whether it succeeds, and its steps. -/
inductive SaveCourse (fs : FileSystem) (image : Image) (path : Path) (format : ImageFormat)
    (quality : Nat) : Except SaveError Unit → List Effect → Prop
  /-- There is no room for the temporary file, and what is in its place cannot be removed. -/
  | refused (e : SaveError)
      (stays : ∀ l, fs.siblingAt? path = some l → fs.node? l = some .directory ∨
        FileSystem.spellingFault? (temporaryPath path) (temporaryName path) ≠ none) :
      SaveCourse fs image path format quality (.error e) []
  /-- The temporary file is given up. -/
  | abandoned (e : SaveError) {temporary : Location} {steps : List Effect}
      (sibling : fs.siblingAt? path = some temporary)
      (fills : ∀ effect ∈ steps, effect.Fills temporary) :
      SaveCourse fs image path format quality (.error e) (steps ++ [.remove temporary])
  /-- The temporary file is written and gets the name of the path. -/
  | finished {temporary target : Location} {encoded : Encoded}
      (sibling : fs.siblingAt? path = some temporary) (place : fs.locationAt? path = some target)
      (encodes : Encodes image quality format encoded) :
      SaveCourse fs image path format quality (.ok ())
        (writeSteps temporary encoded ++ [.move temporary target])

/-- A complete temporary file is moved to where its path stands, or not at all. -/
theorem rename_temporary {fs : FileSystem} {path : Path} {dir : Location} {name : Name}
    (h : fs.Seat (temporaryPath path) dir name)
    (hfree : fs.obstacle? (temporaryPath path) dir name = none) {content : Content} {move : Effect}
    (hmove : (fs.insert (name :: dir) (.file content)).rename (temporaryPath path) path
      = .ok move) :
    ∃ target, fs.locationAt? path = some target ∧ move = .move (name :: dir) target := by
  obtain ⟨hfault, loose⟩ := h.loose hfree
  have hseat := h.congr (FileSystem.sameFrame_insert loose content)
  rw [FileSystem.rename, hseat.slot_eq, hfault, FileSystem.node?_insert_self h.ends.isNamed]
    at hmove
  cases hslot : (fs.insert (name :: dir) (.file content)).slot path with
  | error e =>
      rw [hslot] at hmove
      cases hmove
  | ok slot =>
      rw [hslot] at hmove
      cases slot with
      | unnamed => cases hmove
      | named place =>
          change FileSystem.renameEntry _ place = .ok move at hmove
          rw [FileSystem.renameEntry] at hmove
          cases hslash : place.slash with
          | true => simp [hslash] at hmove
          | false =>
              -- the path ends in a name, so that it stands for the same location from the start
              obtain ⟨_, _, _, _, hends⟩ := FileSystem.name_of_slot hslot
              obtain ⟨above, hends⟩ := hends hslash
              have hplace : (fs.insert (name :: dir) (.file content)).locationAt? path
                  = some place.location := by
                rw [FileSystem.locationAt?, hslot]
              refine ⟨place.location, ?_, ?_⟩
              · exact FileSystem.locationAt?_mono (FileSystem.frameLe_of_insert fs _ content) hends
                  hplace
              · simp only [hslash, Bool.or_self, Bool.false_eq_true, if_false] at hmove
                split at hmove
                · cases hmove
                · cases hmove
                  rfl

/-- **How saving an image goes**, under any path. -/
theorem saveImage_course (fs : FileSystem) (image : Image) (path : Path) (format : ImageFormat)
    (quality : Nat) (hlink : fs.isLink (temporaryPath path) = false) :
    SaveCourse fs image path format quality (saveImage fs image path format quality).outcome
      (saveImage fs image path format quality).effects := by
  obtain ⟨above, hends⟩ := endsIn_temporaryName path
  have hsibling := @FileSystem.siblingAt?_eq fs path _ above hends
  cases hdir : fs.folder path.isAbsolute above with
  | error e =>
      obtain ⟨-, ⟨e', hcreate⟩, e'', hunlink⟩ := FileSystem.refused_of_no_folder hends hdir
      rw [saveImage_refused hcreate hunlink]
      rw [hdir] at hsibling
      refine .refused _ fun l hl => ?_
      rw [hsibling] at hl
      cases hl
  | ok dir =>
      have hseat := FileSystem.seat_of_isLink hends hdir hlink
      rw [hdir] at hsibling
      cases hobstacle : fs.obstacle? (temporaryPath path) dir (temporaryName path) with
      | some e =>
          obtain ⟨e', hunlink⟩ := hseat.unlink_of_obstacle hobstacle
          rw [saveImage_refused (by rw [hseat.createFile_eq, hobstacle]) hunlink]
          refine .refused _ fun l hl => ?_
          rw [hsibling] at hl
          cases hl
          rw [FileSystem.obstacle?] at hobstacle
          cases hfault : FileSystem.spellingFault? (temporaryPath path) (temporaryName path) with
          | some e => exact Or.inr (by simp)
          | none =>
              rw [hfault] at hobstacle
              simp only at hobstacle
              split at hobstacle
              · next hnode => exact Or.inl hnode
              · cases hobstacle
      | none =>
          rw [saveImage_of_seat hseat hobstacle]
          cases hencode : Encoded.ofImage format quality image with
          | error e =>
              simp only [SaveRun.effects, Course.effects_ofEffects]
              exact .abandoned _ hsibling (fills_refusedSteps _ e)
          | ok encoded =>
              cases hmove : (fs.insert (temporaryName path :: dir)
                  (.file [.picture encoded])).rename (temporaryPath path) path with
              | error e =>
                  simp only [hmove, SaveRun.effects, Course.effects_ofEffects]
                  exact .abandoned _ hsibling (fills_writeSteps _ encoded)
              | ok move =>
                  obtain ⟨target, htarget, rfl⟩ := rename_temporary hseat hobstacle hmove
                  simp only [hmove, SaveRun.effects, Course.effects_append,
                    Course.effects_ofEffects, Course.effects_ofNotices, List.append_nil]
                  exact .finished hsibling htarget (Encoded.ofImage_eq_ok_iff.1 hencode)

namespace SaveCourse

variable {fs : FileSystem} {image : Image} {path : Path} {format : ImageFormat} {quality : Nat}
  {outcome : Except SaveError Unit} {effects : List Effect}

/-- After any of its steps, a save has changed no entry but that of the temporary file, or the path
stands for the whole image. -/
theorem cut (h : SaveCourse fs image path format quality outcome effects) (k : Nat) {l : Location}
    (hl : fs.siblingAt? path ≠ some l) :
    (fs.applyAll (effects.take k)).node? l = fs.node? l ∨
      outcome = .ok () ∧ fs.locationAt? path = some l ∧
        ∃ encoded, Encodes image quality format encoded ∧
          (fs.applyAll (effects.take k)).node? l = some (.file [.picture encoded]) := by
  -- steps that keep to the temporary file leave all other entries alone
  have hkeep : ∀ {temporary : Location} {steps : List Effect},
      fs.siblingAt? path = some temporary →
      (∀ effect ∈ steps, effect.Within (· = temporary)) →
      (fs.applyAll steps).node? l = fs.node? l := by
    intro temporary steps hsibling hsteps
    refine FileSystem.node?_applyAll_outside hsteps fs ?_
    rintro rfl
    exact hl hsibling
  cases h with
  | refused e stays => exact Or.inl (by rw [List.take_nil, FileSystem.applyAll_nil])
  | abandoned e sibling fills =>
      refine Or.inl (hkeep sibling fun effect he => ?_)
      rcases List.mem_append.1 (List.mem_of_mem_take he) with he | he
      · exact (fills effect he).within rfl
      · cases List.mem_singleton.1 he
        rfl
  | @finished temporary target encoded sibling place encodes =>
      rcases Nat.lt_or_ge (writeSteps temporary encoded).length k with hk | hk
      · rw [List.take_of_length_le (by rw [List.length_append, List.length_singleton]; exact hk),
          FileSystem.applyAll_writeSteps_move fs (FileSystem.isNamed_of_siblingAt? sibling)]
        by_cases htarget : target = l
        · subst htarget
          exact Or.inr ⟨rfl, place, encoded, encodes,
            FileSystem.node?_insert_self (FileSystem.isNamed_of_locationAt? place) _ _⟩
        · left
          rw [FileSystem.node?_insert_of_ne htarget, FileSystem.node?_erase, if_neg]
          rintro rfl
          exact hl sibling
      · rw [List.take_append_of_le_length hk]
        refine Or.inl (hkeep sibling fun effect he => ?_)
        exact (fills_writeSteps temporary encoded effect (List.mem_of_mem_take he)).within rfl

/-- A save that fails removes the temporary file, or leaves what it could not remove. -/
theorem sibling_of_error {e : SaveError}
    (h : SaveCourse fs image path format quality (.error e) effects) {l : Location}
    (hl : fs.siblingAt? path = some l) :
    (fs.applyAll effects).node? l = none ∨
      (fs.applyAll effects).node? l = fs.node? l ∧ (fs.node? l = some .directory ∨
        FileSystem.spellingFault? (temporaryPath path) (temporaryName path) ≠ none) := by
  cases h with
  | refused e stays => exact Or.inr ⟨rfl, stays l hl⟩
  | abandoned e sibling fills =>
      rw [sibling] at hl
      cases hl
      left
      rw [FileSystem.applyAll_append, FileSystem.applyAll_cons, FileSystem.applyAll_nil,
        FileSystem.apply, FileSystem.node?_erase, if_pos rfl]

/-- A save that succeeds leaves the whole image and no temporary file. -/
theorem saved_of_ok (h : SaveCourse fs image path format quality (.ok ()) effects) :
    ∃ target temporary encoded, fs.locationAt? path = some target ∧
      fs.siblingAt? path = some temporary ∧ Encodes image quality format encoded ∧
      fs.applyAll effects = (fs.erase temporary).insert target (.file [.picture encoded]) := by
  cases h with
  | @finished temporary target encoded sibling place encodes =>
      exact ⟨target, temporary, encoded, place, sibling, encodes,
        fs.applyAll_writeSteps_move (FileSystem.isNamed_of_siblingAt? sibling) target encoded⟩

end SaveCourse

/-! ### All or nothing -/

/-- **Saving an image is all or nothing.**  A save that succeeds puts the whole image where its path
stands, removes the temporary file and changes nothing else.  One that fails changes nothing but the
entry of the temporary file, which is gone, unless it is a directory or its path cannot be used as
it is spelled.  After any step, where the path stands there is what was there before, or the whole
image. -/
theorem saveImage_atomic (fs : FileSystem) (image : Image) (path : Path) (format : ImageFormat)
    (quality : Nat) (hlink : fs.isLink (temporaryPath path) = false) :
    let run := saveImage fs image path format quality
    let after := fs.applyAll run.effects
    (run.outcome = .ok () → ∃ target temporary encoded, fs.locationAt? path = some target ∧
      fs.siblingAt? path = some temporary ∧ Encodes image quality format encoded ∧
      after.node? target = some (.file [.picture encoded]) ∧ after.node? temporary = none ∧
      ∀ l, l ≠ target → l ≠ temporary → after.node? l = fs.node? l) ∧
    (∀ e, run.outcome = .error e →
      (∀ l, fs.siblingAt? path ≠ some l → after.node? l = fs.node? l) ∧
      ∀ l, fs.siblingAt? path = some l → after.node? l = none ∨
        after.node? l = fs.node? l ∧ (fs.node? l = some .directory ∨
          FileSystem.spellingFault? (temporaryPath path) (temporaryName path) ≠ none)) ∧
    (∀ target, fs.locationAt? path = some target → fs.siblingAt? path ≠ some target ∧
      ∀ k, let during := fs.applyAll (run.effects.take k)
        during.node? target = fs.node? target ∨
          ∃ encoded, Encodes image quality format encoded ∧
            during.node? target = some (.file [.picture encoded])) := by
  intro run after
  have hcourse : SaveCourse fs image path format quality run.outcome run.effects :=
    saveImage_course fs image path format quality hlink
  refine ⟨fun hok => ?_, fun e he => ⟨fun l hl => ?_, fun l hl => ?_⟩, fun target htarget => ?_⟩
  · rw [hok] at hcourse
    obtain ⟨target, temporary, encoded, htarget, hsibling, hencode, hafter⟩ := hcourse.saved_of_ok
    change after = _ at hafter
    have hne : target ≠ temporary := by
      rintro rfl
      exact FileSystem.siblingAt?_ne htarget hsibling
    refine ⟨target, temporary, encoded, htarget, hsibling, hencode, ?_, ?_, fun l hl hl' => ?_⟩
    · rw [hafter, FileSystem.node?_insert_self (FileSystem.isNamed_of_locationAt? htarget)]
    · rw [hafter, FileSystem.node?_insert_of_ne hne, FileSystem.node?_erase, if_pos rfl]
    · rw [hafter, FileSystem.node?_insert_of_ne hl.symm, FileSystem.node?_erase,
        if_neg hl'.symm]
  · rw [he] at hcourse
    rcases hcourse.cut run.effects.length hl with hkept | ⟨hok, -⟩
    · rwa [List.take_length] at hkept
    · cases hok
  · rw [he] at hcourse
    exact hcourse.sibling_of_error hl
  · have hne := FileSystem.siblingAt?_ne htarget
    refine ⟨hne, fun k => ?_⟩
    rcases hcourse.cut k hne with hkept | ⟨-, -, encoded, hencode, hnode⟩
    · exact Or.inl hkept
    · exact Or.inr ⟨encoded, hencode, hnode⟩

namespace Sample

/-- The name `a.jpg`. -/
def sketch : Name := [0x61, 0x2E, 0x6A, 0x70, 0x67]

/-- A folder `d`, a link `a.jpg` and what was left of an earlier save. -/
def desk : FileSystem :=
  ((FileSystem.empty.insert [[0x64]] .directory).insert [sketch] (.link ⟨[0x64]⟩)).insert
    [sketch ++ temporarySuffix] (.file [.octets [0x6F, 0x6C, 0x64]])

/-- A picture of one pixel. -/
def speck : Image := .rgb ⟨1, 1, [[⟨1, 2, 3⟩]], rfl, by simp⟩

/-- The path `d/../d/../…/a.jpg`, which is just not too long. -/
def longWay : Path :=
  ⟨(List.replicate 818 [0x64, 0x2F, 0x2E, 0x2E, 0x2F]).flatten ++ sketch⟩

end Sample

/-- A link gives way to an image, and what was left of an earlier save is gone. -/
theorem saveImage_atomic_sample :
    let run := saveImage Sample.desk Sample.speck ⟨Sample.sketch⟩ .jpg 90
    let after := Sample.desk.applyAll run.effects
    Sample.desk.isLink (temporaryPath ⟨Sample.sketch⟩) = false ∧ run.outcome = .ok () ∧
      after.node? [Sample.sketch] = some (.file [.picture (.jpeg 90 Sample.speck)]) ∧
      after.node? [Sample.sketch ++ temporarySuffix] = none := by
  intro run after
  have hlink : Sample.desk.isLink (temporaryPath ⟨Sample.sketch⟩) = false := by decide +kernel
  have hok : run.outcome = .ok () := rfl
  obtain ⟨target, temporary, encoded, htarget, hsibling, hencode, hnode, hnone, -⟩ :=
    (saveImage_atomic Sample.desk Sample.speck ⟨Sample.sketch⟩ .jpg 90 hlink).1 hok
  have hlocation : Sample.desk.locationAt? ⟨Sample.sketch⟩ = some [Sample.sketch] := by
    decide +kernel
  have hsibling' : Sample.desk.siblingAt? ⟨Sample.sketch⟩
      = some [Sample.sketch ++ temporarySuffix] := by
    decide +kernel
  cases hlocation.symm.trans htarget
  cases hsibling'.symm.trans hsibling
  cases hencode
  exact ⟨hlink, hok, hnode, hnone⟩

/-- **A file in the place of the temporary file stays there**, though the save fails and the file is
no directory, if its path is too long. -/
theorem saveImage_keeps_sibling :
    let run := saveImage Sample.desk Sample.speck Sample.longWay .jpg 90
    Sample.desk.isLink (temporaryPath Sample.longWay) = false ∧
      run.outcome = .error (.storage .nameTooLong) ∧
      ∃ temporary, Sample.desk.siblingAt? Sample.longWay = some temporary ∧
        (Sample.desk.applyAll run.effects).node? temporary
          = some (.file [.octets [0x6F, 0x6C, 0x64]]) := by
  have hrun : saveImage Sample.desk Sample.speck Sample.longWay .jpg 90
      = ⟨.error (.storage .nameTooLong), []⟩ := by
    have hcheck : FileSystem.checkPath (temporaryPath Sample.longWay) = .error .nameTooLong := by
      rw [FileSystem.checkPath, if_neg (by decide +kernel), if_pos (by decide +kernel)]
    have hcreate : Sample.desk.createFile (temporaryPath Sample.longWay)
        = .error .nameTooLong := by
      rw [FileSystem.createFile, FileSystem.openForWriting, FileSystem.resolveForWriting, hcheck]
      rfl
    have hunlink : Sample.desk.unlink (temporaryPath Sample.longWay) = .error .nameTooLong := by
      rw [FileSystem.unlink, FileSystem.slot, hcheck]
      rfl
    exact saveImage_refused hcreate hunlink Sample.speck .jpg 90
  rw [hrun]
  exact ⟨by decide +kernel, rfl, [Sample.sketch ++ temporarySuffix], by decide +kernel,
    by decide +kernel⟩

end PageImages
