import PageImages.Convert.Save
import PageImages.Proofs.Effects
import PageImages.Proofs.Naming

/-!
**Saving an image, step by step.**

Where the path of an image and its temporary path stand for names of the same directory, saving the
image is an attempt of one of three kinds: it is refused at once, it writes the temporary file and
removes it, or it writes the temporary file and moves it to its name.  Which one it is depends on
directories and links only, and an attempt that was cut off can be made again.

Main definitions:

* `Encodes` — an image in a format, encoded;
* `FileSystem.Landing`, `FileSystem.Berth` — a path and its temporary path in one directory;
* `FileSystem.Attempt` — the steps of an attempt to write a file.

Main results:

* `Encoded.ofImage_eq_ok_iff` — which images can be encoded, and as what;
* `saveImage_of_seat`, `saveImage_eq` — what saving an image does where there is room for its
  temporary file, and at a landing;
* `FileSystem.Attempt.cut_cases` — the file systems in which an attempt can be cut off;
* `FileSystem.Attempt.redo`, `FileSystem.Attempt.redo_cut` — **an attempt made again after any of
  its steps leaves what it would have left**.
-/

set_option autoImplicit false

namespace PageImages

/-! ### Encoded images -/

/-- An image in a format, encoded: with losses, in the quality and without its opacity, or without
losses and as it is. -/
inductive Encodes (image : Image) (quality : Nat) : ImageFormat → Encoded → Prop
  /-- With losses, an image has at least one pixel and no side that is too long. -/
  | jpeg (width : 1 ≤ image.width ∧ image.width ≤ 65535)
      (height : 1 ≤ image.height ∧ image.height ≤ 65535) :
      Encodes image quality .jpg (.jpeg quality image.withoutAlpha)
  /-- Without losses, an image has at least one pixel. -/
  | png (width : 1 ≤ image.width) (height : 1 ≤ image.height) :
      Encodes image quality .png (.png image)

theorem jpegSide_iff {n : Nat} : jpegSide n = true ↔ 1 ≤ n ∧ n ≤ 65535 := by
  rw [jpegSide, Bool.and_eq_true, decide_eq_true_iff, decide_eq_true_iff]

/-- **Which images can be encoded, and as what.** -/
theorem Encoded.ofImage_eq_ok_iff {format : ImageFormat} {quality : Nat} {image : Image}
    {encoded : Encoded} :
    ofImage format quality image = .ok encoded ↔ Encodes image quality format encoded := by
  constructor
  · intro h
    cases format with
    | jpg =>
        simp only [ofImage] at h
        split at h
        · next hsides =>
            rw [Bool.and_eq_true, jpegSide_iff, jpegSide_iff] at hsides
            cases h
            exact .jpeg hsides.1 hsides.2
        · cases h
    | png =>
        simp only [ofImage] at h
        split at h
        · cases h
        · next hwidth =>
            split at h
            · cases h
            · next hheight =>
                cases h
                exact .png (Nat.one_le_iff_ne_zero.2 hwidth) (Nat.one_le_iff_ne_zero.2 hheight)
  · intro h
    cases h with
    | jpeg width height =>
        simp only [ofImage, jpegSide_iff.2 width, jpegSide_iff.2 height, Bool.and_self, if_true]
    | png width height =>
        simp only [ofImage, Nat.one_le_iff_ne_zero.1 width, Nat.one_le_iff_ne_zero.1 height,
          if_false]

namespace FileSystem

/-! ### Entries changed twice -/

theorem insert_insert (fs : FileSystem) (l : Location) (a b : Node) :
    (fs.insert l a).insert l b = fs.insert l b := by
  refine ext_node? (fun l' => ?_) (by simp only [here_insert])
  simp only [node?_insert]
  split <;> rfl

theorem erase_insert (fs : FileSystem) (l : Location) (a : Node) :
    (fs.insert l a).erase l = fs.erase l := by
  refine ext_node? (fun l' => ?_) (here_insert fs l a)
  rw [node?_erase, node?_erase]
  split
  · rfl
  · next hne => rw [node?_insert_of_ne hne]

end FileSystem

/-! ### Filling a file -/

/-- The step makes a file at a location or gives it a content. -/
def Effect.Fills (l : Location) : Effect → Prop
  | .create l' => l' = l
  | .write l' _ => l' = l
  | _ => False

theorem Effect.Fills.within {l : Location} {effect : Effect} (h : effect.Fills l)
    {region : Location → Prop} (hl : region l) : effect.Within region := by
  cases effect with
  | create l' => exact h ▸ hl
  | write l' content => exact h ▸ hl
  | _ => cases h

theorem Effect.Fills.apply {l : Location} {effect : Effect} (h : effect.Fills l) :
    ∃ content, ∀ fs : FileSystem, fs.apply effect = fs.insert l (.file content) := by
  cases effect with
  | create l' => exact ⟨[], fun fs => by rw [FileSystem.apply, h]⟩
  | write l' content => exact ⟨content, fun fs => by rw [FileSystem.apply, h]⟩
  | _ => cases h

/-- Steps that fill a file leave it with a content that does not depend on what was there. -/
theorem FileSystem.applyAll_fills {l : Location} {steps : List Effect}
    (h : ∀ effect ∈ steps, effect.Fills l) (hne : steps ≠ []) :
    ∃ content, ∀ fs : FileSystem, fs.applyAll steps = fs.insert l (.file content) := by
  induction steps with
  | nil => exact absurd rfl hne
  | cons effect rest ih =>
      obtain ⟨first, hfirst⟩ := (h effect List.mem_cons_self).apply
      by_cases hrest : rest = []
      · refine ⟨first, fun fs => ?_⟩
        rw [applyAll_cons, hfirst, hrest, applyAll_nil]
      · obtain ⟨content, hcontent⟩ := ih (fun e he => h e (List.mem_cons_of_mem _ he)) hrest
        refine ⟨content, fun fs => ?_⟩
        rw [applyAll_cons, hfirst, hcontent, insert_insert]

theorem fills_writeSteps (l : Location) (encoded : Encoded) :
    ∀ effect ∈ writeSteps l encoded, effect.Fills l := by
  simp [writeSteps, Effect.Fills]

theorem fills_refusedSteps (l : Location) (e : EncodeError) :
    ∀ effect ∈ refusedSteps l e, effect.Fills l := by
  rw [refusedSteps]
  split <;> simp [Effect.Fills]

theorem FileSystem.applyAll_writeSteps (fs : FileSystem) (l : Location) (encoded : Encoded) :
    fs.applyAll (writeSteps l encoded) = fs.insert l (.file [.picture encoded]) := by
  simp [writeSteps, FileSystem.apply, insert_insert]

/-- An image that is written and moved is a file where it was moved to. -/
theorem FileSystem.applyAll_writeSteps_move (fs : FileSystem) {l : Location}
    (hl : l.isNamed = true) (target : Location) (encoded : Encoded) :
    fs.applyAll (writeSteps l encoded ++ [.move l target])
      = (fs.erase l).insert target (.file [.picture encoded]) := by
  rw [applyAll_append, applyAll_writeSteps, applyAll_cons, applyAll_nil, FileSystem.apply,
    node?_insert_self hl]
  simp only [erase_insert]

namespace FileSystem

/-! ### Attempts -/

/-- The steps of an attempt to write a file: it is written under a temporary name, and then removed
or moved to its name.  `placed` is the content that got its name. -/
inductive Attempt (fs : FileSystem) (temporary target : Location) :
    (placed : Option Content) → List Effect → Prop
  /-- Nothing could be written. -/
  | refused : Attempt fs temporary target none []
  /-- The temporary file was given up. -/
  | abandoned {steps : List Effect} (fills : ∀ effect ∈ steps, effect.Fills temporary)
      (begun : steps ≠ []) (loose : fs.Loose temporary) :
      Attempt fs temporary target none (steps ++ [.remove temporary])
  /-- The temporary file got its name. -/
  | finished {steps : List Effect} {content : Content}
      (fills : ∀ effect ∈ steps, effect.Fills temporary)
      (leaves : ∀ a : FileSystem, a.applyAll steps = a.insert temporary (.file content))
      (named : temporary.isNamed = true) (named' : target.isNamed = true)
      (loose : fs.Loose temporary) (loose' : fs.Loose target) :
      Attempt fs temporary target (some content) (steps ++ [.move temporary target])

namespace Attempt

variable {fs : FileSystem} {temporary target : Location} {placed : Option Content}
  {effects : List Effect}

theorem within (h : fs.Attempt temporary target placed effects) {region : Location → Prop}
    (htemporary : region temporary) (htarget : region target) :
    ∀ effect ∈ effects, effect.Within region := by
  intro effect he
  cases h with
  | refused => cases he
  | abandoned fills =>
      rcases List.mem_append.1 he with he | he
      · exact (fills effect he).within htemporary
      · cases List.mem_singleton.1 he
        exact htemporary
  | finished fills =>
      rcases List.mem_append.1 he with he | he
      · exact (fills effect he).within htemporary
      · cases List.mem_singleton.1 he
        exact ⟨htemporary, htarget⟩

/-- The file systems in which an attempt can be cut off. -/
theorem cut_cases (h : fs.Attempt temporary target placed effects) (k : Nat) :
    fs.applyAll (effects.take k) = fs ∨
      (fs.Loose temporary ∧ effects ≠ [] ∧
        ∃ content, fs.applyAll (effects.take k) = fs.insert temporary (.file content)) ∨
      fs.applyAll (effects.take k) = fs.applyAll effects := by
  -- a cut among the steps that fill the temporary file, or behind all steps
  have hcut : ∀ {steps : List Effect} {last : Effect},
      (∀ effect ∈ steps, effect.Fills temporary) → fs.Loose temporary →
      fs.applyAll ((steps ++ [last]).take k) = fs ∨
        (fs.Loose temporary ∧ steps ++ [last] ≠ [] ∧
          ∃ content, fs.applyAll ((steps ++ [last]).take k) = fs.insert temporary (.file content)) ∨
        fs.applyAll ((steps ++ [last]).take k) = fs.applyAll (steps ++ [last]) := by
    intro steps last fills loose
    rcases Nat.lt_or_ge steps.length k with hk | hk
    · refine Or.inr (Or.inr ?_)
      rw [List.take_of_length_le (by rw [List.length_append, List.length_singleton]; exact hk)]
    · rw [List.take_append_of_le_length hk]
      by_cases hempty : steps.take k = []
      · left
        rw [hempty, applyAll_nil]
      · obtain ⟨content, hcontent⟩ := applyAll_fills
          (fun effect he => fills effect (List.mem_of_mem_take he)) hempty
        exact Or.inr (Or.inl ⟨loose, by simp, content, hcontent fs⟩)
  cases h with
  | refused => exact Or.inl (by rw [List.take_nil, applyAll_nil])
  | abandoned fills _ loose => exact hcut fills loose
  | finished fills _ _ _ loose => exact hcut fills loose

/-- What an attempt leaves: nothing has changed, or the temporary file is gone, and in that case the
target is as it was or a file. -/
theorem after_cases (h : fs.Attempt temporary target placed effects) :
    (placed = none ∧ effects = []) ∨
      (placed = none ∧ fs.Loose temporary ∧
        ∀ a : FileSystem, a.applyAll effects = a.erase temporary) ∨
      ∃ content, placed = some content ∧ target.isNamed = true ∧ fs.Loose temporary ∧
        fs.Loose target ∧ ∀ a : FileSystem, a.applyAll effects
          = (a.erase temporary).insert target (.file content) := by
  cases h with
  | refused => exact Or.inl ⟨rfl, rfl⟩
  | abandoned fills begun loose =>
      obtain ⟨content, hcontent⟩ := applyAll_fills fills begun
      refine Or.inr (Or.inl ⟨rfl, loose, fun a => ?_⟩)
      rw [applyAll_append, hcontent]
      exact erase_insert _ _ _
  | @finished steps content fills leaves named named' loose loose' =>
      refine Or.inr (Or.inr ⟨content, rfl, named', loose, loose', fun a => ?_⟩)
      rw [applyAll_append, leaves, applyAll_cons, applyAll_nil, FileSystem.apply,
        node?_insert_self named]
      simp only [erase_insert]

/-- The target holds what got its name, or what it held before. -/
theorem node?_target (h : fs.Attempt temporary target placed effects) (hne : temporary ≠ target) :
    (fs.applyAll effects).node? target
      = placed.elim (fs.node? target) fun content => some (.file content) := by
  rcases h.after_cases with ⟨rfl, rfl⟩ | ⟨rfl, -, hall⟩ | ⟨content, rfl, named, -, -, hall⟩
  · rfl
  · rw [hall, node?_erase, if_neg hne, Option.elim_none]
  · rw [hall, node?_insert_self named, Option.elim_some]

/-- An attempt keeps directories and links in place. -/
theorem sameFrame (h : fs.Attempt temporary target placed effects) :
    fs.SameFrame (fs.applyAll effects) := by
  rcases h.after_cases with ⟨-, rfl⟩ | ⟨-, loose, hall⟩ | ⟨content, -, -, loose, loose', hall⟩
  · exact .refl fs
  · rw [hall]
    exact sameFrame_erase loose
  · rw [hall]
    have herase := sameFrame_erase loose
    exact herase.trans (sameFrame_insert ((herase.loose_iff target).1 loose') content)

theorem sameFrame_cut (h : fs.Attempt temporary target placed effects) (k : Nat) :
    fs.SameFrame (fs.applyAll (effects.take k)) := by
  rcases h.cut_cases k with hcut | ⟨loose, -, content, hcut⟩ | hcut
  · rw [hcut]
    exact .refl fs
  · rw [hcut]
    exact sameFrame_insert loose content
  · rw [hcut]
    exact h.sameFrame

/-- **An attempt made again leaves what the first one left.** -/
theorem redo (h : fs.Attempt temporary target placed effects) :
    (fs.applyAll effects).applyAll effects = fs.applyAll effects := by
  rcases h.after_cases with ⟨-, rfl⟩ | ⟨-, -, hall⟩ | ⟨content, -, -, -, -, hall⟩
  · rfl
  · rw [hall, hall]
    refine ext_node? (fun l => ?_) rfl
    simp only [node?_erase]
    split <;> rfl
  · rw [hall, hall]
    refine ext_node? (fun l => ?_) (by simp only [here_insert, erase])
    simp only [node?_erase, node?_insert]
    by_cases ht : target = l ∧ target.isNamed = true
    · rw [if_pos ht, if_pos ht]
    · simp only [if_neg ht]
      split <;> rfl

/-- **An attempt made again while the temporary file is there leaves what it would have left.** -/
theorem redo_cut (h : fs.Attempt temporary target placed effects) (hbegun : effects ≠ [])
    (content : Content) :
    (fs.insert temporary (.file content)).applyAll effects = fs.applyAll effects := by
  rcases h.after_cases with ⟨-, hnil⟩ | ⟨-, -, hall⟩ | ⟨content', -, -, -, -, hall⟩
  · exact absurd hnil hbegun
  · rw [hall, hall, erase_insert]
  · rw [hall, hall, erase_insert]

end Attempt

/-! ### Berths -/

/-- A path and its temporary path, which stand for names of the directory `dir` and for no links. -/
structure Berth (fs : FileSystem) (path : Path) (dir : Location) (name : Name) : Prop where
  /-- The seat of the path. -/
  target : fs.Seat path dir name
  /-- The seat of the temporary path. -/
  temporary : fs.Seat (temporaryPath path) dir (name ++ temporarySuffix)

theorem Berth.congr {a b : FileSystem} (h : a.SameFrame b) {path : Path} {dir : Location}
    {name : Name} (hberth : a.Berth path dir name) : b.Berth path dir name :=
  ⟨hberth.target.congr h, hberth.temporary.congr h⟩

/-- A path and its temporary path, which stand for names of the directory `dir`; only the path may
stand for a link. -/
structure Landing (fs : FileSystem) (path : Path) (dir : Location) (name : Name) : Prop where
  /-- The site of the path. -/
  target : fs.Site path dir name
  /-- The seat of the temporary path. -/
  temporary : fs.Seat (temporaryPath path) dir (name ++ temporarySuffix)

theorem Landing.congr {a b : FileSystem} (h : a.SameFrame b) {path : Path} {dir : Location}
    {name : Name} (hlanding : a.Landing path dir name) : b.Landing path dir name :=
  ⟨hlanding.target.mono h.le, hlanding.temporary.congr h⟩

theorem Berth.landing {fs : FileSystem} {path : Path} {dir : Location} {name : Name}
    (h : fs.Berth path dir name) : fs.Landing path dir name :=
  ⟨h.target.ends, h.temporary⟩

theorem Seat.loose {fs : FileSystem} {path : Path} {dir : Location} {name : Name}
    (h : fs.Seat path dir name) (hobstacle : fs.obstacle? path dir name = none) :
    spellingFault? path name = none ∧ fs.Loose (name :: dir) := by
  rw [obstacle?] at hobstacle
  cases hfault : spellingFault? path name with
  | some e =>
      rw [hfault] at hobstacle
      cases hobstacle
  | none =>
      refine ⟨rfl, ?_⟩
      rw [hfault] at hobstacle
      intro node hnode
      cases node with
      | file content => rfl
      | link target => exact absurd hnode (h.unlinked hfault target)
      | directory => simp [hnode] at hobstacle

end FileSystem

/-! ### Saving an image -/

/-- Where no temporary file can be made and none can be removed, nothing is done. -/
theorem saveImage_refused {fs : FileSystem} {path : Path} {e e' : OsError}
    (hcreate : fs.createFile (temporaryPath path) = .error e)
    (hunlink : fs.unlink (temporaryPath path) = .error e') (image : Image) (format : ImageFormat)
    (quality : Nat) : saveImage fs image path format quality = ⟨.error (.storage e), []⟩ := by
  simp only [saveImage, hcreate, SaveRun.abandoned, FileSystem.applyAll_nil, hunlink]
  rfl

/-- **What saving an image does where there is room for its temporary file.**  The image gets its
name if the file system allows it when the temporary file is complete. -/
theorem saveImage_of_seat {fs : FileSystem} {path : Path} {dir : Location} {name : Name}
    (h : fs.Seat (temporaryPath path) dir name)
    (hfree : fs.obstacle? (temporaryPath path) dir name = none) (image : Image)
    (format : ImageFormat) (quality : Nat) :
    saveImage fs image path format quality =
      match Encoded.ofImage format quality image with
      | .error e =>
        ⟨.error (.encoding e), .ofEffects (refusedSteps (name :: dir) e ++ [.remove (name :: dir)])⟩
      | .ok encoded =>
        match (fs.insert (name :: dir) (.file [.picture encoded])).rename (temporaryPath path) path
          with
        | .error e =>
          ⟨.error (.storage e),
            .ofEffects (writeSteps (name :: dir) encoded ++ [.remove (name :: dir)])⟩
        | .ok move =>
          ⟨.ok (), .ofEffects (writeSteps (name :: dir) encoded ++ [move])
            ++ .ofNotices [.pageEncoded image.width image.height path]⟩ := by
  obtain ⟨hfault, loose⟩ := h.loose hfree
  have hcreate : fs.createFile (temporaryPath path) = .ok (name :: dir) := by
    rw [h.createFile_eq, hfree]
  -- filling the temporary file keeps its seat, and leaves a file that can be removed
  have hunlink : ∀ content : Content,
      (fs.insert (name :: dir) (.file content)).unlink (temporaryPath path)
        = .ok (.remove (name :: dir)) := by
    intro content
    have hfile : (fs.insert (name :: dir) (.file content)).node? (name :: dir)
        = some (.file content) := FileSystem.node?_insert_self h.ends.isNamed fs _
    exact (h.congr (FileSystem.sameFrame_insert loose content)).unlink_of_file hfault hfile
  simp only [saveImage, hcreate]
  cases hencode : Encoded.ofImage format quality image with
  | error e =>
      obtain ⟨content, hcontent⟩ := FileSystem.applyAll_fills (fills_refusedSteps (name :: dir) e)
        (by simp [refusedSteps])
      simp only [SaveRun.abandoned, hcontent, hunlink]
      rfl
  | ok encoded =>
      simp only [FileSystem.applyAll_writeSteps]
      cases (fs.insert (name :: dir) (.file [.picture encoded])).rename
          (temporaryPath path) path with
      | error e =>
          simp only [SaveRun.abandoned, FileSystem.applyAll_writeSteps, hunlink]
          rfl
      | ok move => rfl

/-- **What saving an image does at a landing.**  A link at the path is replaced like a file. -/
theorem saveImage_eq {fs : FileSystem} {path : Path} {dir : Location} {name : Name}
    (h : fs.Landing path dir name) (image : Image) (format : ImageFormat) (quality : Nat) :
    saveImage fs image path format quality =
      let temporary := (name ++ temporarySuffix) :: dir
      match fs.obstacle? (temporaryPath path) dir (name ++ temporarySuffix) with
      | some e => ⟨.error (.storage e), []⟩
      | none =>
        match Encoded.ofImage format quality image with
        | .error e =>
          ⟨.error (.encoding e), .ofEffects (refusedSteps temporary e ++ [.remove temporary])⟩
        | .ok encoded =>
          match fs.obstacle? path dir name with
          | some e =>
            ⟨.error (.storage e), .ofEffects (writeSteps temporary encoded ++ [.remove temporary])⟩
          | none =>
            ⟨.ok (), .ofEffects (writeSteps temporary encoded ++ [.move temporary (name :: dir)])
              ++ .ofNotices [.pageEncoded image.width image.height path]⟩ := by
  cases hobstacle : fs.obstacle? (temporaryPath path) dir (name ++ temporarySuffix) with
  | some e =>
      obtain ⟨e', hunlink⟩ := h.temporary.unlink_of_obstacle hobstacle
      exact saveImage_refused (by rw [h.temporary.createFile_eq, hobstacle]) hunlink image format
        quality
  | none =>
      obtain ⟨hfault, loose⟩ := h.temporary.loose hobstacle
      rw [saveImage_of_seat h.temporary hobstacle]
      cases Encoded.ofImage format quality image with
      | error e => rfl
      | ok encoded =>
          -- the seats are those of the file system in which the temporary file is complete
          have hframe := FileSystem.sameFrame_insert loose [.picture encoded]
          have hseat := h.congr hframe
          have hrename := hseat.temporary.rename_of_file hfault
            (FileSystem.node?_insert_self h.temporary.ends.isNamed fs _) hseat.target
          rw [FileSystem.obstacle?_congr hframe.symm] at hrename
          simp only [hrename]
          cases hobstacle' : fs.obstacle? path dir name with
          | some e => rfl
          | none => rfl

/-- Saving an image does the same wherever directories and links are the same. -/
theorem saveImage_congr {a b : FileSystem} (hab : a.SameFrame b) {path : Path} {dir : Location}
    {name : Name} (h : a.Berth path dir name) (image : Image) (format : ImageFormat)
    (quality : Nat) :
    saveImage a image path format quality = saveImage b image path format quality := by
  rw [saveImage_eq h.landing, saveImage_eq (h.congr hab).landing]
  simp only [FileSystem.obstacle?_congr hab]

/-- **Saving an image is an attempt, and succeeds when the encoded image gets its name.** -/
theorem saveImage_attempt {fs : FileSystem} {path : Path} {dir : Location} {name : Name}
    (h : fs.Berth path dir name) (image : Image) (format : ImageFormat) (quality : Nat) :
    (∃ e, (saveImage fs image path format quality).outcome = .error e ∧
        fs.Attempt ((name ++ temporarySuffix) :: dir) (name :: dir) none
          (saveImage fs image path format quality).effects) ∨
      ∃ encoded, (saveImage fs image path format quality).outcome = .ok () ∧
        Encoded.ofImage format quality image = .ok encoded ∧
        FileSystem.spellingFault? path name = none ∧
        fs.Attempt ((name ++ temporarySuffix) :: dir) (name :: dir) (some [.picture encoded])
          (saveImage fs image path format quality).effects := by
  rw [saveImage_eq h.landing]
  cases hobstacle : fs.obstacle? (temporaryPath path) dir (name ++ temporarySuffix) with
  | some e => exact Or.inl ⟨_, rfl, .refused⟩
  | none =>
      obtain ⟨-, loose⟩ := h.temporary.loose hobstacle
      cases Encoded.ofImage format quality image with
      | error e =>
          refine Or.inl ⟨_, rfl, ?_⟩
          simp only [SaveRun.effects, Course.effects_ofEffects]
          exact .abandoned (fills_refusedSteps _ e) (by simp [refusedSteps]) loose
      | ok encoded =>
          cases hobstacle' : fs.obstacle? path dir name with
          | some e =>
              refine Or.inl ⟨_, rfl, ?_⟩
              simp only [SaveRun.effects, Course.effects_ofEffects]
              exact .abandoned (fills_writeSteps _ encoded) (by simp [writeSteps]) loose
          | none =>
              obtain ⟨hfault, loose'⟩ := h.target.loose hobstacle'
              refine Or.inr ⟨encoded, rfl, rfl, hfault, ?_⟩
              simp only [SaveRun.effects, Course.effects_append, Course.effects_ofEffects,
                Course.effects_ofNotices, List.append_nil]
              exact .finished (fills_writeSteps _ encoded)
                (fun a => a.applyAll_writeSteps _ encoded) h.temporary.ends.isNamed
                h.target.ends.isNamed loose loose'

/-- **What saving an image leaves at a landing.**  Nothing has changed, or the temporary file is
gone, and in that case the image may have its name. -/
theorem saveImage_after {fs : FileSystem} {path : Path} {dir : Location} {name : Name}
    (h : fs.Landing path dir name) (image : Image) (format : ImageFormat) (quality : Nat) :
    let after := fs.applyAll (saveImage fs image path format quality).effects
    let temporary := (name ++ temporarySuffix) :: dir
    after = fs ∨
      (FileSystem.spellingFault? (temporaryPath path) (name ++ temporarySuffix) = none ∧
        fs.Loose temporary ∧
        (after = fs.erase temporary ∨
          (FileSystem.spellingFault? path name = none ∧
            fs.node? (name :: dir) ≠ some .directory ∧
            ∃ content, after = (fs.erase temporary).insert (name :: dir) (.file content)))) := by
  rw [saveImage_eq h]
  cases hobstacle : fs.obstacle? (temporaryPath path) dir (name ++ temporarySuffix) with
  | some e => exact Or.inl rfl
  | none =>
      obtain ⟨hfault, loose⟩ := h.temporary.loose hobstacle
      refine Or.inr ⟨hfault, loose, ?_⟩
      cases Encoded.ofImage format quality image with
      | error e =>
          left
          obtain ⟨content, hcontent⟩ := FileSystem.applyAll_fills
            (fills_refusedSteps ((name ++ temporarySuffix) :: dir) e) (by simp [refusedSteps])
          simp only [SaveRun.effects, Course.effects_ofEffects, FileSystem.applyAll_append,
            hcontent]
          exact FileSystem.erase_insert _ _ _
      | ok encoded =>
          cases hobstacle' : fs.obstacle? path dir name with
          | some e =>
              left
              simp only [SaveRun.effects, Course.effects_ofEffects, FileSystem.applyAll_append,
                FileSystem.applyAll_writeSteps]
              exact FileSystem.erase_insert _ _ _
          | none =>
              right
              rw [FileSystem.obstacle?] at hobstacle'
              cases hfault' : FileSystem.spellingFault? path name with
              | some e =>
                  rw [hfault'] at hobstacle'
                  cases hobstacle'
              | none =>
                  refine ⟨rfl, ?_, [.picture encoded], ?_⟩
                  · intro hdirectory
                    simp [hfault', hdirectory] at hobstacle'
                  · simp only [SaveRun.effects, Course.effects_append, Course.effects_ofEffects,
                      Course.effects_ofNotices, List.append_nil,
                      FileSystem.applyAll_writeSteps_move fs h.temporary.ends.isNamed]

/-- Where the directory of the path is not there, nothing is written. -/
theorem saveImage_of_no_folder {fs : FileSystem} {path : Path} {rooted : Bool}
    {above : List Path.Part} {name : Name} {e : OsError} (hends : path.EndsIn rooted above name)
    (hdir : fs.folder rooted above = .error e) (image : Image) (format : ImageFormat)
    (quality : Nat) :
    ∃ e', (saveImage fs image path format quality).outcome = .error e' ∧
      (saveImage fs image path format quality).effects = [] := by
  obtain ⟨-, ⟨e', hcreate⟩, e'', hunlink⟩ :=
    FileSystem.refused_of_no_folder (temporaryPath_endsIn hends) hdir
  rw [saveImage_refused hcreate hunlink]
  exact ⟨_, rfl, rfl⟩

end PageImages
