import PageImages.Proofs.Effects

/-!
**Tasks that change the file system, one after the other.**

A task looks at a file system, gives a result and takes steps.  A local task looks at and changes a
region of its own.  A restartable task may be cut off after any step and started again: the second
start gives the result and leaves the file system that the first one would have given and left.  A
lasting task has nothing left to do once it has been done, even if other tasks follow it.

Main definitions:

* `Task`, `Task.after`, `Task.cut` — a task, the file system it leaves, and what is left when it is
  cut off after some steps;
* `Task.Local`, `Task.Restartable`, `Task.Lasting` — the three properties;
* `Task.sequence` — tasks one after the other, up to one with whose result they stop.

Main results:

* `Task.Local.sequence` — local tasks make a local sequence;
* `Task.sequence_result`, `Task.sequence_after` — **tasks with regions of their own do not notice
  each other**: each gives the result and leaves the entries that it would give and leave alone;
* `Task.Restartable.sequence` — **restartable tasks with regions of their own make a restartable
  sequence**;
* `Task.Lasting.sequence_again` — **lasting tasks that are done once more change nothing**, whether
  they have regions of their own or not.
-/

set_option autoImplicit false

namespace PageImages

/-- A task: what it gives and the steps it takes, in each file system. -/
structure Task (β : Type) where
  /-- The result and the steps. -/
  perform : FileSystem → β × List Effect

namespace Task

variable {β γ ι : Type}

/-- What a task gives. -/
def result (t : Task β) (fs : FileSystem) : β := (t.perform fs).1

/-- The steps that a task takes. -/
def effects (t : Task β) (fs : FileSystem) : List Effect := (t.perform fs).2

/-- The file system that a task leaves. -/
def after (t : Task β) (fs : FileSystem) : FileSystem := fs.applyAll (t.effects fs)

/-- The file system that a task leaves when it is cut off after `k` steps. -/
def cut (t : Task β) (fs : FileSystem) (k : Nat) : FileSystem :=
  fs.applyAll ((t.effects fs).take k)

theorem cut_length (t : Task β) (fs : FileSystem) :
    t.cut fs (t.effects fs).length = t.after fs := by
  rw [cut, List.take_length, after]

/-- The task that gives a result and does nothing. -/
def constant (b : β) : Task β where
  perform := fun _ => (b, [])

/-- The task with its result seen through a function. -/
def map (g : β → γ) (t : Task β) : Task γ where
  perform := fun fs => (g (t.result fs), t.effects fs)

/-! ### Local tasks -/

/-- In file systems that satisfy `inv`, which it keeps at every step, the task looks at and changes
the entries of a region only. -/
structure Local (inv : FileSystem → Prop) (region : Location → Prop) (t : Task β) : Prop where
  /-- The steps stay within the region. -/
  within : ∀ {fs : FileSystem}, inv fs → ∀ effect ∈ t.effects fs, effect.Within region
  /-- The steps keep the invariant. -/
  keeps : ∀ {fs : FileSystem}, inv fs → ∀ k, inv (t.cut fs k)
  /-- The task does the same where the entries of its region are the same. -/
  congr : ∀ {a b : FileSystem}, inv a → inv b → FileSystem.AgreeOn region a b →
    t.perform a = t.perform b

variable {inv : FileSystem → Prop} {region : Location → Prop}

namespace Local

variable {t : Task β}

theorem keeps_after (h : t.Local inv region) {fs : FileSystem} (hfs : inv fs) :
    inv (t.after fs) := by
  rw [← t.cut_length fs]
  exact h.keeps hfs _

theorem node?_cut (h : t.Local inv region) {fs : FileSystem} (hfs : inv fs) (k : Nat) {l : Location}
    (hl : ¬ region l) : (t.cut fs k).node? l = fs.node? l :=
  FileSystem.node?_applyAll_outside
    (fun effect he => h.within hfs effect (List.mem_of_mem_take he)) fs hl

theorem node?_after (h : t.Local inv region) {fs : FileSystem} (hfs : inv fs) {l : Location}
    (hl : ¬ region l) : (t.after fs).node? l = fs.node? l :=
  FileSystem.node?_applyAll_outside (h.within hfs) fs hl

theorem here_after (h : t.Local inv region) {fs : FileSystem} (hfs : inv fs) :
    (t.after fs).here = fs.here :=
  FileSystem.here_applyAll (h.within hfs) fs

/-- Where the entries of its region are the same, the task leaves the same entries there. -/
theorem agreeOn_after (h : t.Local inv region) {a b : FileSystem} (ha : inv a) (hb : inv b)
    (hab : FileSystem.AgreeOn region a b) :
    FileSystem.AgreeOn region (t.after a) (t.after b) := by
  have heffects : t.effects a = t.effects b := congrArg Prod.snd (h.congr ha hb hab)
  rw [after, after, ← heffects]
  exact hab.applyAll (h.within ha)

theorem mono (h : t.Local inv region) {region' : Location → Prop}
    (hle : ∀ l, region l → region' l) : t.Local inv region' :=
  ⟨fun hfs effect he => (h.within hfs effect he).mono hle, h.keeps,
    fun ha hb hab => h.congr ha hb (hab.mono hle)⟩

theorem map (h : t.Local inv region) (g : β → γ) : (t.map g).Local inv region := by
  refine ⟨h.within, h.keeps, ?_⟩
  intro a b ha hb hab
  have hperform := h.congr ha hb hab
  change (g (t.perform a).1, (t.perform a).2) = (g (t.perform b).1, (t.perform b).2)
  rw [hperform]

theorem constant (b : β) : (Task.constant b).Local inv region := by
  refine ⟨?_, ?_, fun _ _ _ => rfl⟩
  · intro fs _ effect he
    cases he
  · intro fs hfs k
    have hcut : (Task.constant b).cut fs k = fs := by
      rw [cut, effects, Task.constant, List.take_nil, FileSystem.applyAll_nil]
    rwa [hcut]

end Local

/-! ### Tasks one after the other -/

/-- The tasks one after the other, each in the file system that the one before it leaves.  None
follows a task whose result is one to stop with. -/
def sequence (stop : β → Bool) : List (Task β) → Task (List β)
  | [] => ⟨fun _ => ([], [])⟩
  | t :: ts =>
    ⟨fun fs =>
      if stop (t.result fs) then ([t.result fs], t.effects fs)
      else (t.result fs :: (sequence stop ts).result (t.after fs),
        t.effects fs ++ (sequence stop ts).effects (t.after fs))⟩

/-- A list up to its first item to stop with. -/
def upTo (stop : β → Bool) : List β → List β
  | [] => []
  | b :: bs => if stop b then [b] else b :: upTo stop bs

theorem upTo_prefix (stop : β → Bool) (bs : List β) : upTo stop bs <+: bs := by
  induction bs with
  | nil => exact List.prefix_rfl
  | cons b bs ih =>
      rw [upTo]
      split
      · exact ⟨bs, rfl⟩
      · exact (List.prefix_cons_inj b).2 ih

/-- An item up to a stop comes from an item that is reached. -/
theorem exists_of_mem_upTo {stop : β → Bool} {ids : List ι} {g : ι → β} {b : β}
    (h : b ∈ upTo stop (ids.map g)) :
    ∃ (k : Nat) (i : ι), k < (upTo stop (ids.map g)).length ∧ ids[k]? = some i ∧ g i = b := by
  obtain ⟨k, hk, hget⟩ := List.getElem_of_mem h
  obtain ⟨rest, hrest⟩ := upTo_prefix stop (ids.map g)
  have hmap : (ids.map g)[k]? = some b := by
    rw [← hrest, List.getElem?_append_left hk, List.getElem?_eq_getElem hk, hget]
  rw [List.getElem?_map] at hmap
  obtain ⟨i, hi, hgi⟩ := Option.map_eq_some_iff.1 hmap
  exact ⟨k, i, hk, hi, hgi⟩

/-- Where two lists are related item by item up to a stop, and stop together, so are the lists up to
there. -/
theorem upTo_map {stop : β → Bool} {ids : List ι} {g g' : ι → β} {f : β → β}
    (h : ∀ (k : Nat) (i : ι), k < (upTo stop (ids.map g)).length → ids[k]? = some i →
      g' i = f (g i) ∧ stop (f (g i)) = stop (g i)) :
    upTo stop (ids.map g') = (upTo stop (ids.map g)).map f := by
  induction ids with
  | nil => rfl
  | cons i ids ih =>
      rw [List.map_cons, List.map_cons, upTo, upTo]
      rw [List.map_cons, upTo] at h
      cases hstop : stop (g i) with
      | true =>
          rw [hstop, if_pos rfl] at h
          obtain ⟨hhead, hsame⟩ := h 0 i Nat.zero_lt_one rfl
          rw [hhead, hsame, hstop, if_pos rfl, if_pos rfl, List.map_cons, List.map_nil]
      | false =>
          rw [hstop, if_neg Bool.false_ne_true] at h
          obtain ⟨hhead, hsame⟩ := h 0 i (Nat.zero_lt_succ _) rfl
          rw [hhead, hsame, hstop, if_neg Bool.false_ne_true, if_neg Bool.false_ne_true,
            List.map_cons, ih fun k j hk hj => h (k + 1) j (Nat.succ_lt_succ hk) hj]

/-- A list up to its first item to stop with is the whole list, or ends with that item. -/
theorem upTo_cases (stop : β → Bool) (bs : List β) :
    (upTo stop bs = bs ∧ ∀ b ∈ bs, stop b = false) ∨
      ∃ earlier b, upTo stop bs = earlier ++ [b] ∧ stop b = true ∧
        ∀ b ∈ earlier, stop b = false := by
  induction bs with
  | nil => exact Or.inl ⟨rfl, by simp⟩
  | cons b bs ih =>
      cases hstop : stop b with
      | true =>
          refine Or.inr ⟨[], b, ?_, hstop, by simp⟩
          rw [upTo, hstop, if_pos rfl, List.nil_append]
      | false =>
          rw [upTo, hstop, if_neg Bool.false_ne_true]
          rcases ih with ⟨hall, hnone⟩ | ⟨earlier, last, hupTo, hlast, hnone⟩
          · exact Or.inl ⟨congrArg (b :: ·) hall, List.forall_mem_cons.2 ⟨hstop, hnone⟩⟩
          · refine Or.inr ⟨b :: earlier, last, ?_, hlast, List.forall_mem_cons.2 ⟨hstop, hnone⟩⟩
            rw [hupTo, List.cons_append]

theorem map_upTo (f : ι → β) (stop : β → Bool) (items : List ι) :
    (upTo (fun a => stop (f a)) items).map f = upTo stop (items.map f) := by
  induction items with
  | nil => rfl
  | cons a items ih =>
      rw [List.map_cons, upTo, upTo]
      split
      · rfl
      · rw [List.map_cons, ih]

theorem upTo_never (bs : List β) : upTo (fun _ => false) bs = bs := by
  induction bs with
  | nil => rfl
  | cons b bs ih => rw [upTo, if_neg Bool.false_ne_true, ih]

theorem sequence_cons_of_stop {stop : β → Bool} {t : Task β} {fs : FileSystem}
    (h : stop (t.result fs) = true) (ts : List (Task β)) :
    (sequence stop (t :: ts)).perform fs = ([t.result fs], t.effects fs) := by
  simp only [sequence, if_pos h]

theorem sequence_cons_of_go {stop : β → Bool} {t : Task β} {fs : FileSystem}
    (h : stop (t.result fs) = false) (ts : List (Task β)) :
    (sequence stop (t :: ts)).perform fs
      = (t.result fs :: (sequence stop ts).result (t.after fs),
        t.effects fs ++ (sequence stop ts).effects (t.after fs)) := by
  simp only [sequence, h, Bool.false_eq_true, if_false]

theorem result_cons (stop : β → Bool) (t : Task β) (ts : List (Task β)) (fs : FileSystem) :
    (sequence stop (t :: ts)).result fs
      = if stop (t.result fs) then [t.result fs]
        else t.result fs :: (sequence stop ts).result (t.after fs) := by
  cases h : stop (t.result fs) with
  | true => rw [result, sequence_cons_of_stop h, if_pos rfl]
  | false => rw [result, sequence_cons_of_go h, if_neg Bool.false_ne_true]

theorem after_cons (stop : β → Bool) (t : Task β) (ts : List (Task β)) (fs : FileSystem) :
    (sequence stop (t :: ts)).after fs
      = if stop (t.result fs) then t.after fs else (sequence stop ts).after (t.after fs) := by
  cases h : stop (t.result fs) with
  | true =>
      rw [after, effects, sequence_cons_of_stop h, if_pos rfl]
      rfl
  | false =>
      rw [after, effects, sequence_cons_of_go h, FileSystem.applyAll_append,
        if_neg Bool.false_ne_true]
      rfl

theorem cut_cons_of_stop {stop : β → Bool} {t : Task β} {fs : FileSystem}
    (h : stop (t.result fs) = true) (ts : List (Task β)) (k : Nat) :
    (sequence stop (t :: ts)).cut fs k = t.cut fs k := by
  rw [cut, effects, sequence_cons_of_stop h]
  rfl

/-- A sequence that is cut off is cut off in its first task or after it. -/
theorem cut_cons_of_go {stop : β → Bool} {t : Task β} {fs : FileSystem}
    (h : stop (t.result fs) = false) (ts : List (Task β)) (k : Nat) :
    (sequence stop (t :: ts)).cut fs k = t.cut fs k ∨
      ∃ j, (sequence stop (t :: ts)).cut fs k = (sequence stop ts).cut (t.after fs) j := by
  rw [cut, effects, sequence_cons_of_go h]
  rcases Nat.le_total k (t.effects fs).length with hk | hk
  · left
    rw [List.take_append_of_le_length hk]
    rfl
  · right
    refine ⟨k - (t.effects fs).length, ?_⟩
    rw [List.take_append, List.take_of_length_le hk, FileSystem.applyAll_append]
    rfl

/-- The region of a list of tasks. -/
def union (regions : ι → Location → Prop) (ids : List ι) : Location → Prop :=
  fun l => ∃ i ∈ ids, regions i l

variable {tasks : ι → Task β} {regions : ι → Location → Prop} {ids : List ι}

theorem union_head {i : ι} {ids : List ι} {l : Location} (h : regions i l) :
    union regions (i :: ids) l := ⟨i, List.mem_cons_self, h⟩

theorem union_tail {i : ι} {ids : List ι} {l : Location} (h : union regions ids l) :
    union regions (i :: ids) l := by
  obtain ⟨j, hj, hl⟩ := h
  exact ⟨j, List.mem_cons_of_mem _ hj, hl⟩

/-- A local task and local tasks after it. -/
theorem Local.cons (stop : β → Bool) {t : Task β} {ts : List (Task β)}
    {region' : Location → Prop} (hhead : t.Local inv region)
    (htail : (Task.sequence stop ts).Local inv region') :
    (Task.sequence stop (t :: ts)).Local inv fun l => region l ∨ region' l := by
  refine ⟨?_, ?_, ?_⟩
  · intro fs hfs effect he
    cases hstop : stop (t.result fs) with
    | true =>
        rw [effects, sequence_cons_of_stop hstop] at he
        exact (hhead.within hfs effect he).mono fun l => Or.inl
    | false =>
        rw [effects, sequence_cons_of_go hstop] at he
        rcases List.mem_append.1 he with he | he
        · exact (hhead.within hfs effect he).mono fun l => Or.inl
        · exact (htail.within (hhead.keeps_after hfs) effect he).mono fun l => Or.inr
  · intro fs hfs k
    cases hstop : stop (t.result fs) with
    | true =>
        rw [cut_cons_of_stop hstop]
        exact hhead.keeps hfs k
    | false =>
        rcases cut_cons_of_go hstop ts k with hcut | ⟨j, hcut⟩
        · rw [hcut]
          exact hhead.keeps hfs k
        · rw [hcut]
          exact htail.keeps (hhead.keeps_after hfs) j
  · intro a b ha hb hab
    have hperform := hhead.congr ha hb (hab.mono fun l => Or.inl)
    have hresult : t.result a = t.result b := congrArg Prod.fst hperform
    have heffects : t.effects a = t.effects b := congrArg Prod.snd hperform
    -- the first task leaves the regions of all tasks alike
    have hafter := hab.applyAll fun effect he => (hhead.within ha effect he).mono fun l => Or.inl
    rw [← after, heffects, ← after] at hafter
    have hrest := htail.congr (hhead.keeps_after ha) (hhead.keeps_after hb)
      (hafter.mono fun l => Or.inr)
    have hresults : (Task.sequence stop ts).result (t.after a)
        = (Task.sequence stop ts).result (t.after b) := congrArg Prod.fst hrest
    have hsteps : (Task.sequence stop ts).effects (t.after a)
        = (Task.sequence stop ts).effects (t.after b) := congrArg Prod.snd hrest
    cases hstop : stop (t.result a) with
    | true =>
        rw [sequence_cons_of_stop hstop, sequence_cons_of_stop (hresult ▸ hstop), hresult, heffects]
    | false =>
        rw [sequence_cons_of_go hstop, sequence_cons_of_go (hresult ▸ hstop), hresult, heffects,
          hresults, hsteps]

/-- Local tasks make a local sequence. -/
theorem Local.sequence (stop : β → Bool)
    (h : ∀ i ∈ ids, (tasks i).Local inv (regions i)) :
    (sequence stop (ids.map tasks)).Local inv (union regions ids) := by
  induction ids with
  | nil => exact (Local.constant []).mono fun l hl => hl
  | cons i ids ih =>
      have htail := ih fun j hj => h j (List.mem_cons_of_mem _ hj)
      refine (Local.cons stop (h i List.mem_cons_self) htail).mono ?_
      rintro l (hl | hl)
      · exact union_head hl
      · exact union_tail hl

/-! ### Regions of their own -/

/-- No location lies in the regions of two of the tasks. -/
def Apart (regions : ι → Location → Prop) (ids : List ι) : Prop :=
  ids.Pairwise fun i j => ∀ l, regions i l → ¬ regions j l

theorem Apart.tail {i : ι} (h : Apart regions (i :: ids)) : Apart regions ids :=
  (List.pairwise_cons.1 h).2

theorem Apart.head {i : ι} (h : Apart regions (i :: ids)) {l : Location} (hl : regions i l) :
    ¬ union regions ids l := by
  rintro ⟨j, hj, hlj⟩
  exact (List.pairwise_cons.1 h).1 j hj l hl hlj

theorem Apart.not_head {i j : ι} (h : Apart regions (i :: ids)) (hj : j ∈ ids) {l : Location}
    (hl : regions j l) : ¬ regions i l :=
  fun hli => (List.pairwise_cons.1 h).1 j hj l hli hl

/-- **Tasks with regions of their own do not notice each other**: each gives what it would give
alone. -/
theorem sequence_result {stop : β → Bool} (h : ∀ i ∈ ids, (tasks i).Local inv (regions i))
    (hapart : Apart regions ids) {fs : FileSystem} (hfs : inv fs) :
    (sequence stop (ids.map tasks)).result fs
      = upTo stop (ids.map fun i => (tasks i).result fs) := by
  induction ids generalizing fs with
  | nil => rfl
  | cons i ids ih =>
      have hhead := h i List.mem_cons_self
      have hafter := hhead.keeps_after hfs
      rw [List.map_cons, List.map_cons, upTo, result_cons]
      cases hstop : stop ((tasks i).result fs) with
      | true => rw [if_pos rfl, if_pos rfl]
      | false =>
          have hothers : ids.map (fun j => (tasks j).result ((tasks i).after fs))
              = ids.map fun j => (tasks j).result fs := by
            refine List.map_congr_left fun j hj => ?_
            have hagree : FileSystem.AgreeOn (regions j) ((tasks i).after fs) fs := fun l hl =>
              hhead.node?_after hfs (hapart.not_head hj hl)
            exact congrArg Prod.fst
              ((h j (List.mem_cons_of_mem _ hj)).congr hafter hfs hagree)
          rw [if_neg Bool.false_ne_true, if_neg Bool.false_ne_true,
            ih (fun j hj => h j (List.mem_cons_of_mem _ hj)) hapart.tail hafter, hothers]

/-- Each task that is reached leaves the entries in its region that it would leave alone. -/
theorem sequence_after {stop : β → Bool} (h : ∀ i ∈ ids, (tasks i).Local inv (regions i))
    (hapart : Apart regions ids) {fs : FileSystem} (hfs : inv fs) {k : Nat} {i : ι}
    (hk : k < ((sequence stop (ids.map tasks)).result fs).length) (hi : ids[k]? = some i) :
    FileSystem.AgreeOn (regions i) ((sequence stop (ids.map tasks)).after fs)
      ((tasks i).after fs) := by
  induction ids generalizing fs k with
  | nil => cases hi
  | cons j ids ih =>
      have hhead := h j List.mem_cons_self
      have hafter := hhead.keeps_after hfs
      have htail : ∀ i ∈ ids, (tasks i).Local inv (regions i) := fun i hi =>
        h i (List.mem_cons_of_mem _ hi)
      rw [List.map_cons, result_cons] at hk
      rw [List.map_cons, after_cons]
      cases hstop : stop ((tasks j).result fs) with
      | true =>
          rw [hstop, if_pos rfl, List.length_singleton] at hk
          obtain rfl : k = 0 := by omega
          cases hi
          rw [if_pos rfl]
          exact fun l _ => rfl
      | false =>
          rw [if_neg Bool.false_ne_true]
          rw [hstop, if_neg Bool.false_ne_true, List.length_cons] at hk
          cases k with
          | zero =>
              cases hi
              -- the later tasks leave the region of the first one alone
              exact fun l hl => (Local.sequence stop htail).node?_after hafter (hapart.head hl)
          | succ k =>
              have hmem : i ∈ ids := List.mem_of_getElem? hi
              have hagree : FileSystem.AgreeOn (regions i) ((tasks j).after fs) fs := fun l hl =>
                hhead.node?_after hfs (hapart.not_head hmem hl)
              exact (ih htail hapart.tail hafter (Nat.lt_of_succ_lt_succ hk) hi).trans
                ((htail i hmem).agreeOn_after hafter hfs hagree)

/-! ### Restartable tasks -/

/-- A task that may be cut off after any step and started again. -/
structure Restartable (inv : FileSystem → Prop) (t : Task β) : Prop where
  /-- The second start gives the same result. -/
  result : ∀ {fs : FileSystem}, inv fs → ∀ k, t.result (t.cut fs k) = t.result fs
  /-- The second start leaves the same file system. -/
  after : ∀ {fs : FileSystem}, inv fs → ∀ k, t.after (t.cut fs k) = t.after fs

namespace Restartable

variable {t : Task β}

theorem result_after (h : t.Restartable inv) {fs : FileSystem} (hfs : inv fs) :
    t.result (t.after fs) = t.result fs := by
  rw [← t.cut_length fs]
  exact h.result hfs _

/-- A restartable task that is done once more changes nothing. -/
theorem after_after (h : t.Restartable inv) {fs : FileSystem} (hfs : inv fs) :
    t.after (t.after fs) = t.after fs := by
  have := h.after hfs (t.effects fs).length
  rwa [t.cut_length fs] at this

theorem constant (b : β) : (Task.constant b).Restartable inv := by
  refine ⟨fun _ _ => rfl, fun {fs} _ k => ?_⟩
  have hnone : (Task.constant b).effects fs = [] := rfl
  rw [cut, hnone, List.take_nil, FileSystem.applyAll_nil]

theorem map (h : t.Restartable inv) (g : β → γ) : (t.map g).Restartable inv :=
  ⟨fun hfs k => congrArg g (h.result hfs k), h.after⟩

/-- A restartable local task that is done once more changes nothing, and gives the same, also where
the file system has changed outside its region. -/
theorem settled (h : t.Restartable inv) (hlocal : t.Local inv region) {fs c : FileSystem}
    (hfs : inv fs) (hc : inv c) (hagree : FileSystem.AgreeOn region c (t.after fs)) :
    t.result c = t.result fs ∧ t.after c = c := by
  have hafter := hlocal.keeps_after hfs
  refine ⟨?_, ?_⟩
  · rw [← h.result_after hfs]
    exact congrArg Prod.fst (hlocal.congr hc hafter hagree)
  · have hinside : FileSystem.AgreeOn region (t.after c) c := by
      refine (hlocal.agreeOn_after hc hafter hagree).trans ?_
      rw [h.after_after hfs]
      exact hagree.symm
    exact FileSystem.eq_of_agreeOn hinside (fun l hl => hlocal.node?_after hc hl)
      (hlocal.here_after hc)

/-- A restartable task and restartable tasks after it, which leave its region alone. -/
theorem cons (stop : β → Bool) {ts : List (Task β)} {region' : Location → Prop}
    (hlhead : t.Local inv region) (hhead : t.Restartable inv)
    (hltail : (Task.sequence stop ts).Local inv region')
    (htail : (Task.sequence stop ts).Restartable inv) (hapart : ∀ l, region l → ¬ region' l) :
    (Task.sequence stop (t :: ts)).Restartable inv := by
  -- a cut in the first task, which is then started again from there
  have hfirst : ∀ {fs : FileSystem}, inv fs → ∀ k,
      (Task.sequence stop (t :: ts)).result (t.cut fs k)
          = (Task.sequence stop (t :: ts)).result fs ∧
        (Task.sequence stop (t :: ts)).after (t.cut fs k)
          = (Task.sequence stop (t :: ts)).after fs := by
    intro fs hfs k
    rw [result_cons, result_cons, after_cons, after_cons, hhead.result hfs, hhead.after hfs]
    exact ⟨rfl, rfl⟩
  -- a cut in a later task: the first one is done already, and finds it so
  have hlater : ∀ {fs : FileSystem}, inv fs → stop (t.result fs) = false → ∀ j,
      let c := (Task.sequence stop ts).cut (t.after fs) j
      (Task.sequence stop (t :: ts)).result c = (Task.sequence stop (t :: ts)).result fs ∧
        (Task.sequence stop (t :: ts)).after c = (Task.sequence stop (t :: ts)).after fs := by
    intro fs hfs hstop j c
    have hafter := hlhead.keeps_after hfs
    have hagree : FileSystem.AgreeOn region c (t.after fs) := fun l hl =>
      hltail.node?_cut hafter j (hapart l hl)
    obtain ⟨hresult, hdone⟩ := hhead.settled hlhead hfs (hltail.keeps hafter j) hagree
    rw [result_cons, result_cons, after_cons, after_cons, hresult, hstop, hdone,
      htail.result hafter, htail.after hafter]
    exact ⟨rfl, rfl⟩
  have hboth : ∀ {fs : FileSystem}, inv fs → ∀ k,
      let c := (Task.sequence stop (t :: ts)).cut fs k
      (Task.sequence stop (t :: ts)).result c = (Task.sequence stop (t :: ts)).result fs ∧
        (Task.sequence stop (t :: ts)).after c = (Task.sequence stop (t :: ts)).after fs := by
    intro fs hfs k
    cases hstop : stop (t.result fs) with
    | true =>
        rw [cut_cons_of_stop hstop]
        exact hfirst hfs k
    | false =>
        rcases cut_cons_of_go hstop ts k with hcut | ⟨j, hcut⟩
        · rw [hcut]
          exact hfirst hfs k
        · rw [hcut]
          exact hlater hfs hstop j
  exact ⟨fun hfs k => (hboth hfs k).1, fun hfs k => (hboth hfs k).2⟩

/-- **Restartable tasks with regions of their own make a restartable sequence.** -/
theorem sequence (stop : β → Bool) (hlocal : ∀ i ∈ ids, (tasks i).Local inv (regions i))
    (h : ∀ i ∈ ids, (tasks i).Restartable inv) (hapart : Apart regions ids) :
    (Task.sequence stop (ids.map tasks)).Restartable inv := by
  induction ids with
  | nil => exact .constant []
  | cons i ids ih =>
      have hltail : ∀ j ∈ ids, (tasks j).Local inv (regions j) := fun j hj =>
        hlocal j (List.mem_cons_of_mem _ hj)
      have htail := ih hltail (fun j hj => h j (List.mem_cons_of_mem _ hj)) hapart.tail
      exact .cons stop (hlocal i List.mem_cons_self) (h i List.mem_cons_self)
        (Local.sequence stop hltail) htail fun l hl => hapart.head hl

end Restartable

/-! ### Tasks that last -/

/-- What the task does is a move to a later file system, and lasts: the task changes nothing in the
file systems that are later than the one it left. -/
structure Lasting (inv : FileSystem → Prop) (later : FileSystem → FileSystem → Prop)
    (t : Task β) : Prop where
  /-- The task keeps the invariant. -/
  keeps : ∀ {a : FileSystem}, inv a → inv (t.after a)
  /-- The task leads to a later file system. -/
  leads : ∀ {a : FileSystem}, inv a → later a (t.after a)
  /-- The task has nothing to do later. -/
  idle : ∀ {a b : FileSystem}, inv a → later (t.after a) b → t.after b = b

namespace Lasting

variable {later : FileSystem → FileSystem → Prop} (hrefl : ∀ a, later a a)
  (htrans : ∀ {a b c : FileSystem}, later a b → later b c → later a c)

include hrefl in
theorem constant (b : β) : (Task.constant b).Lasting inv later :=
  ⟨fun h => h, fun _ => hrefl _, fun _ _ => rfl⟩

theorem map {t : Task β} (h : t.Lasting inv later) (g : β → γ) : (t.map g).Lasting inv later :=
  ⟨h.keeps, h.leads, h.idle⟩

include hrefl htrans in
/-- Tasks one after the other lead to a later file system. -/
theorem sequence_leads (stop : β → Bool) (h : ∀ i ∈ ids, (tasks i).Lasting inv later)
    {a : FileSystem} (ha : inv a) :
    inv ((Task.sequence stop (ids.map tasks)).after a) ∧
      later a ((Task.sequence stop (ids.map tasks)).after a) := by
  induction ids generalizing a with
  | nil => exact ⟨ha, hrefl a⟩
  | cons i ids ih =>
      have hhead := h i List.mem_cons_self
      obtain ⟨hkeeps, hleads⟩ := ih (fun j hj => h j (List.mem_cons_of_mem _ hj)) (hhead.keeps ha)
      rw [List.map_cons, after_cons]
      split
      · exact ⟨hhead.keeps ha, hhead.leads ha⟩
      · exact ⟨hkeeps, htrans (hhead.leads ha) hleads⟩

include hrefl htrans in
/-- Lasting tasks make a lasting sequence, if they never stop. -/
theorem sequence (h : ∀ i ∈ ids, (tasks i).Lasting inv later) :
    (Task.sequence (fun _ => false) (ids.map tasks)).Lasting inv later := by
  refine ⟨fun ha => (sequence_leads hrefl htrans _ h ha).1,
    fun ha => (sequence_leads hrefl htrans _ h ha).2, ?_⟩
  induction ids with
  | nil => exact fun _ _ => rfl
  | cons i ids ih =>
      intro a b ha hb
      have hhead := h i List.mem_cons_self
      have htail : ∀ j ∈ ids, (tasks j).Lasting inv later := fun j hj =>
        h j (List.mem_cons_of_mem _ hj)
      rw [List.map_cons, after_cons, if_neg Bool.false_ne_true] at hb ⊢
      -- the first task is idle, as the others have led on from what it left
      have hafter := hhead.keeps ha
      have hidle : (tasks i).after b = b :=
        hhead.idle ha (htrans (sequence_leads hrefl htrans _ htail hafter).2 hb)
      rw [hidle]
      exact ih htail hafter hb

include hrefl htrans in
/-- **Lasting tasks that are done once more change nothing**, if a task that stops them stops them
when it is done once more. -/
theorem sequence_again {stop : β → Bool} (h : ∀ i ∈ ids, (tasks i).Lasting inv later)
    (hstop : ∀ i ∈ ids, ∀ {a : FileSystem}, inv a → stop ((tasks i).result a) = true →
      stop ((tasks i).result ((tasks i).after a)) = true)
    {a : FileSystem} (ha : inv a) :
    let whole := Task.sequence stop (ids.map tasks)
    whole.after (whole.after a) = whole.after a := by
  intro whole
  induction ids generalizing a with
  | nil => rfl
  | cons i ids ih =>
      have hhead := h i List.mem_cons_self
      have hafter := hhead.keeps ha
      have htail : ∀ j ∈ ids, (tasks j).Lasting inv later := fun j hj =>
        h j (List.mem_cons_of_mem _ hj)
      simp only [whole, List.map_cons]
      rw [after_cons stop (tasks i) (ids.map tasks) a]
      cases hend : stop ((tasks i).result a) with
      | true =>
          rw [if_pos rfl, after_cons, hstop i List.mem_cons_self ha hend, if_pos rfl]
          exact hhead.idle ha (hrefl _)
      | false =>
          have hidle := hhead.idle ha (sequence_leads hrefl htrans stop htail hafter).2
          rw [if_neg Bool.false_ne_true, after_cons, hidle]
          split
          · rfl
          · exact ih htail (fun j hj => hstop j (List.mem_cons_of_mem _ hj)) hafter

end Lasting

end Task

end PageImages
