import PageImages.Proofs.Seat

/-!
**What steps in the file system leave alone.**

A step changes the entries of a few locations, and what it puts there depends on the entries of
those locations only.

Main definitions:

* `Effect.Within` — the step reads and changes entries of a region only;
* `FileSystem.AgreeOn` — two file systems have the same entries in a region;
* `FileSystem.Loose` — there is a file or nothing at a location.

Main results:

* `FileSystem.node?_applyAll_outside` — **steps leave alone what lies outside their region**;
* `FileSystem.AgreeOn.applyAll` — steps do the same where the entries of their region are the same;
* `FileSystem.SameFrame.of_loose` — where files come and go, directories and links stay.
-/

set_option autoImplicit false

namespace PageImages

/-- The step reads and changes entries of a region only, and moves no directory. -/
def Effect.Within (region : Location → Prop) : Effect → Prop
  | .makeDirectory location => region location
  | .create location => region location
  | .write location _ => region location
  | .makeLink location _ => region location
  | .move source target => region source ∧ region target
  | .remove location => region location
  | .moveTree _ _ => False
  | .removeTree _ => False

theorem Effect.Within.mono {region region' : Location → Prop} (h : ∀ l, region l → region' l)
    {effect : Effect} (he : effect.Within region) : effect.Within region' := by
  cases effect with
  | makeDirectory l => exact h l he
  | create l => exact h l he
  | write l c => exact h l he
  | makeLink l t => exact h l he
  | move s t => exact ⟨h s he.1, h t he.2⟩
  | remove l => exact h l he
  | moveTree s t => exact he
  | removeTree l => exact he

namespace FileSystem

/-! ### Lists of steps -/

@[simp] theorem applyAll_nil (fs : FileSystem) : fs.applyAll [] = fs := rfl

@[simp] theorem applyAll_cons (fs : FileSystem) (effect : Effect) (effects : List Effect) :
    fs.applyAll (effect :: effects) = (fs.apply effect).applyAll effects := rfl

theorem applyAll_append (fs : FileSystem) (effects more : List Effect) :
    fs.applyAll (effects ++ more) = (fs.applyAll effects).applyAll more :=
  List.foldl_append

/-! ### The region of a step -/

/-- The two file systems have the same entries in a region. -/
def AgreeOn (region : Location → Prop) (a b : FileSystem) : Prop :=
  ∀ l, region l → a.node? l = b.node? l

theorem AgreeOn.symm {region : Location → Prop} {a b : FileSystem} (h : AgreeOn region a b) :
    AgreeOn region b a := fun l hl => (h l hl).symm

theorem AgreeOn.trans {region : Location → Prop} {a b c : FileSystem} (h : AgreeOn region a b)
    (h' : AgreeOn region b c) : AgreeOn region a c := fun l hl => (h l hl).trans (h' l hl)

theorem AgreeOn.mono {region region' : Location → Prop} {a b : FileSystem}
    (hle : ∀ l, region l → region' l) (h : AgreeOn region' a b) : AgreeOn region a b :=
  fun l hl => h l (hle l hl)

theorem here_apply (fs : FileSystem) {region : Location → Prop} {effect : Effect}
    (h : effect.Within region) : (fs.apply effect).here = fs.here := by
  cases effect with
  | move source target =>
      rw [apply]
      split
      · rw [here_insert, erase]
      · rfl
  | moveTree source target => cases h
  | _ => simp only [apply, here_insert, erase, eraseTree]

theorem here_applyAll {region : Location → Prop} {effects : List Effect}
    (h : ∀ effect ∈ effects, effect.Within region) (fs : FileSystem) :
    (fs.applyAll effects).here = fs.here := by
  induction effects generalizing fs with
  | nil => rfl
  | cons effect effects ih =>
      rw [applyAll_cons, ih fun e he => h e (List.mem_cons_of_mem _ he),
        here_apply fs (h effect List.mem_cons_self)]

theorem node?_apply_outside (fs : FileSystem) {region : Location → Prop} {effect : Effect}
    (h : effect.Within region) {l : Location} (hl : ¬ region l) :
    (fs.apply effect).node? l = fs.node? l := by
  have hne : ∀ {l' : Location}, region l' → l' ≠ l := fun hl' he => hl (he ▸ hl')
  cases effect with
  | makeDirectory l' => rw [apply, node?_insert_of_ne (hne h)]
  | create l' => rw [apply, node?_insert_of_ne (hne h)]
  | write l' c => rw [apply, node?_insert_of_ne (hne h)]
  | makeLink l' t => rw [apply, node?_insert_of_ne (hne h)]
  | move s t =>
      rw [apply]
      split
      · rw [node?_insert_of_ne (hne h.2), node?_erase, if_neg (hne h.1)]
      · rfl
  | remove l' => rw [apply, node?_erase, if_neg (hne h)]
  | moveTree s t => cases h
  | removeTree l' => cases h

/-- **Steps leave alone what lies outside their region.** -/
theorem node?_applyAll_outside {region : Location → Prop} {effects : List Effect}
    (h : ∀ effect ∈ effects, effect.Within region) (fs : FileSystem) {l : Location}
    (hl : ¬ region l) : (fs.applyAll effects).node? l = fs.node? l := by
  induction effects generalizing fs with
  | nil => rfl
  | cons effect effects ih =>
      rw [applyAll_cons, ih fun e he => h e (List.mem_cons_of_mem _ he),
        node?_apply_outside fs (h effect List.mem_cons_self) hl]

theorem AgreeOn.apply {region : Location → Prop} {a b : FileSystem} (hab : AgreeOn region a b)
    {effect : Effect} (h : effect.Within region) :
    AgreeOn region (a.apply effect) (b.apply effect) := by
  intro l hl
  cases effect with
  | makeDirectory l' => simp only [FileSystem.apply, node?_insert, hab l hl]
  | create l' => simp only [FileSystem.apply, node?_insert, hab l hl]
  | write l' c => simp only [FileSystem.apply, node?_insert, hab l hl]
  | makeLink l' t => simp only [FileSystem.apply, node?_insert, hab l hl]
  | move s t =>
      rw [FileSystem.apply, FileSystem.apply, hab s h.1]
      split
      · rw [node?_insert, node?_insert, node?_erase, node?_erase, hab l hl]
      · exact hab l hl
  | remove l' => simp only [FileSystem.apply, node?_erase, hab l hl]
  | moveTree s t => cases h
  | removeTree l' => cases h

/-- Steps do the same where the entries of their region are the same. -/
theorem AgreeOn.applyAll {region : Location → Prop} {a b : FileSystem} (hab : AgreeOn region a b)
    {effects : List Effect} (h : ∀ effect ∈ effects, effect.Within region) :
    AgreeOn region (a.applyAll effects) (b.applyAll effects) := by
  induction effects generalizing a b with
  | nil => exact hab
  | cons effect effects ih =>
      exact ih (hab.apply (h effect List.mem_cons_self))
        fun e he => h e (List.mem_cons_of_mem _ he)

/-- File systems that agree in a region and outside it are equal. -/
theorem eq_of_agreeOn {region : Location → Prop} {a b : FileSystem} (hin : AgreeOn region a b)
    (hout : ∀ l, ¬ region l → a.node? l = b.node? l) (here : a.here = b.here) : a = b := by
  refine ext_node? (fun l => ?_) here
  by_cases hl : region l
  · exact hin l hl
  · exact hout l hl

/-! ### Files that come and go -/

/-- There is a file or nothing at a location. -/
def Loose (fs : FileSystem) (l : Location) : Prop :=
  ∀ node, fs.node? l = some node → node.isFile = true

theorem Loose.of_none {fs : FileSystem} {l : Location} (h : fs.node? l = none) : fs.Loose l := by
  intro node hnode
  rw [h] at hnode
  cases hnode

/-- Where files come and go, directories and links stay. -/
theorem SameFrame.of_loose {a b : FileSystem} (here : a.here = b.here)
    (h : ∀ l, a.node? l = b.node? l ∨ (a.Loose l ∧ b.Loose l)) : a.SameFrame b := by
  refine ⟨⟨here, ?_⟩, ⟨here.symm, ?_⟩⟩
  · intro l node hfile hnode
    rcases h l with heq | ⟨hloose, -⟩
    · rwa [← heq]
    · rw [hloose node hnode] at hfile
      cases hfile
  · intro l node hfile hnode
    rcases h l with heq | ⟨-, hloose⟩
    · rwa [heq]
    · rw [hloose node hnode] at hfile
      cases hfile

theorem SameFrame.loose_iff {a b : FileSystem} (h : a.SameFrame b) (l : Location) :
    a.Loose l ↔ b.Loose l := by
  constructor
  · intro ha node hnode
    cases hfile : node.isFile with
    | true => rfl
    | false => rw [← hfile]; exact ha node (h.ge.keeps hfile hnode)
  · intro hb node hnode
    cases hfile : node.isFile with
    | true => rfl
    | false => rw [← hfile]; exact hb node (h.le.keeps hfile hnode)

/-- Putting a file where there is a file or nothing keeps the frame. -/
theorem sameFrame_insert {fs : FileSystem} {l : Location} (h : fs.Loose l) (content : Content) :
    fs.SameFrame (fs.insert l (.file content)) := by
  refine .of_loose (here_insert fs l _).symm fun l' => ?_
  rw [Loose, Loose, node?_insert]
  split
  · next hl =>
      obtain ⟨rfl, -⟩ := hl
      refine Or.inr ⟨h, fun node hnode => ?_⟩
      cases hnode
      rfl
  · exact Or.inl rfl

/-- A file brings no directory and no link, whatever it replaces. -/
theorem frameLe_of_insert (fs : FileSystem) (l : Location) (content : Content) :
    (fs.insert l (.file content)).FrameLe fs := by
  refine ⟨here_insert fs l _, ?_⟩
  intro l' node hfile hnode
  rw [node?_insert] at hnode
  split at hnode
  · cases hnode
    cases hfile
  · exact hnode

/-- Removing a file keeps the frame. -/
theorem sameFrame_erase {fs : FileSystem} {l : Location} (h : fs.Loose l) :
    fs.SameFrame (fs.erase l) := by
  refine .of_loose rfl fun l' => ?_
  by_cases hl : l = l'
  · subst hl
    exact Or.inr ⟨h, .of_none (by rw [node?_erase, if_pos rfl])⟩
  · exact Or.inl (by rw [node?_erase, if_neg hl])

end FileSystem

end PageImages
