import PageImages.Command.Run
import PageImages.Proofs.Arguments
import PageImages.Proofs.Binary

/-!
**What holds of all settings.**

Settings are made from the defaults, from a text or a file, by changes, and by arguments of the
command line, in any order and any number of times.  On each way they are checked, and the check
lets exactly those pass that a batch can be run with.

Main definitions:

* `Settings.Valid` — what a batch relies on;
* `Settings.Obtained` — the settings that can be obtained;
* `Settings.overriddenBy` — the settings with what arguments give.

Main results:

* `Settings.build_of_valid`, `Settings.valid_of_build` — **settings are built exactly if they are
  valid**, and then as they are;
* `Settings.apply_agrees`, `Settings.apply_keeps` — a change stays until its field is changed again;
* `Settings.obtained_valid` — **all settings that can be obtained are valid**, and arguments change
  nothing but what they give.
-/

set_option autoImplicit false

namespace PageImages

/-! ### Valid settings -/

/-- A part of an axis that starts before it ends, inside the axis. -/
def Span.Valid (span : Span) : Prop :=
  ∃ a b : ℚ, span.start.number? = some a ∧ span.stop.number? = some b ∧
    0 ≤ a ∧ a ≤ 100 ∧ 0 ≤ b ∧ b ≤ 100 ∧ a < b

/-- What a batch relies on in its settings.  The crop counts also where it is not used. -/
structure Settings.Valid (s : Settings) : Prop where
  /-- The quality is not below its range. -/
  one_le_quality : 1 ≤ s.quality
  /-- The quality is not above its range. -/
  quality_le : s.quality ≤ 100
  /-- There is a resolution. -/
  one_le_dpi : 1 ≤ s.dpi
  /-- The part of the width is one. -/
  horizontal : s.crop.horizontal.Valid
  /-- The part of the height is one. -/
  vertical : s.crop.vertical.Valid

theorem Crop.isPercentage_iff (x : Binary64) :
    isPercentage x = true ↔ ∃ a, x.number? = some a ∧ 0 ≤ a ∧ a ≤ 100 :=
  Binary.between_eq_true_iff Binary.number?_zero Binary.number?_hundred

/-- The two checks of a part of an axis, its range and its order, let valid ones pass. -/
theorem Span.valid_iff (span : Span) :
    span.Valid ↔ Crop.isPercentage span.start = true ∧ Crop.isPercentage span.stop = true ∧
      span.stop.le span.start = false := by
  rw [Crop.isPercentage_iff, Crop.isPercentage_iff]
  constructor
  · rintro ⟨a, b, hstart, hstop, ha, ha', hb, hb', hab⟩
    refine ⟨⟨a, hstart, ha, ha'⟩, ⟨b, hstop, hb, hb'⟩, ?_⟩
    rw [Bool.eq_false_iff, ne_eq, Binary.le_eq_true_iff hstop hstart]
    exact not_le.2 hab
  · rintro ⟨⟨a, hstart, ha, ha'⟩, ⟨b, hstop, hb, hb'⟩, horder⟩
    rw [Bool.eq_false_iff, ne_eq, Binary.le_eq_true_iff hstop hstart] at horder
    exact ⟨a, b, hstart, hstop, ha, ha', hb, hb', not_le.1 horder⟩

theorem Crop.fault?_eq_none_iff (c : Crop) :
    c.fault? = none ↔ c.horizontal.Valid ∧ c.vertical.Valid := by
  rw [fault?, Option.or_eq_none_iff, List.findSome?_eq_none_iff, List.findSome?_eq_none_iff,
    Span.valid_iff, Span.valid_iff]
  simp only [ends, spans, List.mem_cons, List.not_mem_nil, or_false, forall_eq_or_imp, forall_eq,
    ite_eq_left_iff, ite_eq_right_iff, reduceCtorEq, imp_false, Bool.not_eq_true, Bool.not_eq_false]
  constructor
  · rintro ⟨⟨h₁, h₂, h₃, h₄⟩, h₅, h₆⟩
    exact ⟨⟨h₁, h₂, h₅⟩, h₃, h₄, h₆⟩
  · rintro ⟨⟨h₁, h₂, h₅⟩, h₃, h₄, h₆⟩
    exact ⟨⟨h₁, h₂, h₃, h₄⟩, h₅, h₆⟩

namespace Settings

theorem numberFault?_eq_none_iff (s : Settings) :
    s.numberFault? = none ↔ (1 ≤ s.quality ∧ s.quality ≤ 100) ∧ 1 ≤ s.dpi := by
  rw [numberFault?]
  split
  · rename_i h
    simp only [reduceCtorEq, false_iff, Bool.or_eq_true, decide_eq_true_eq] at h ⊢
    omega
  · rename_i h
    simp only [Bool.or_eq_true, decide_eq_true_eq] at h
    split
    · simp only [reduceCtorEq, false_iff]
      omega
    · simp only [true_iff]
      omega

/-- **Nothing is wrong with valid settings**, and with no others. -/
theorem fault?_eq_none_iff (s : Settings) : s.fault? = none ↔ s.Valid := by
  rw [fault?, Option.or_eq_none_iff, numberFault?_eq_none_iff, Option.map_eq_none_iff,
    Crop.fault?_eq_none_iff]
  constructor
  · rintro ⟨⟨⟨h₁, h₂⟩, h₃⟩, h₄, h₅⟩
    exact ⟨h₁, h₂, h₃, h₄, h₅⟩
  · intro h
    exact ⟨⟨⟨h.one_le_quality, h.quality_le⟩, h.one_le_dpi⟩, h.horizontal, h.vertical⟩

theorem check_of_valid {s : Settings} (h : s.Valid) : s.check = .ok s := by
  rw [check, (fault?_eq_none_iff s).2 h]

theorem check_of_not_valid {s : Settings} (h : ¬ s.Valid) : ∃ fault, s.check = .error fault := by
  rw [← fault?_eq_none_iff, ← ne_eq, Option.ne_none_iff_exists'] at h
  obtain ⟨fault, hfault⟩ := h
  exact ⟨fault, by rw [check, hfault]⟩

theorem valid_of_check {s t : Settings} (h : s.check = .ok t) : s.Valid ∧ t = s := by
  by_cases hvalid : s.Valid
  · rw [check_of_valid hvalid] at h
    exact ⟨hvalid, (Except.ok.inj h).symm⟩
  · obtain ⟨fault, hfault⟩ := check_of_not_valid hvalid
    rw [hfault] at h
    cases h

/-- **Valid settings are built as they are.** -/
theorem build_of_valid {s : Settings} (h : s.Valid) : s.build.outcome = .ok s := by
  rw [build, check_of_valid h]

theorem build_of_not_valid {s : Settings} (h : ¬ s.Valid) :
    ∃ fault, s.build.outcome = .error (.invalidSettings fault) := by
  obtain ⟨fault, hfault⟩ := check_of_not_valid h
  exact ⟨fault, by rw [build, hfault]⟩

/-- **Only valid settings are built.** -/
theorem valid_of_build {s t : Settings} (h : s.build.outcome = .ok t) : s.Valid ∧ t = s := by
  by_cases hvalid : s.Valid
  · rw [build_of_valid hvalid] at h
    exact ⟨hvalid, (Except.ok.inj h).symm⟩
  · obtain ⟨fault, hfault⟩ := build_of_not_valid hvalid
    rw [hfault] at h
    cases h

theorem valid_default : default.Valid := by
  rw [← fault?_eq_none_iff]
  decide +kernel

theorem valid_of_parse {text : String} {origin : Path} {s : Settings}
    (h : (parse text origin).outcome = .ok s) : s.Valid := by
  rw [parse] at h
  cases hdecode : decode text with
  | error e =>
      rw [hdecode] at h
      cases h
  | ok t =>
      rw [hdecode] at h
      obtain ⟨hvalid, rfl⟩ := valid_of_build h
      exact hvalid

theorem valid_of_load {fs : FileSystem} {path : Path} {s : Settings}
    (h : (load fs path).outcome = .ok s) : s.Valid := by
  rw [load] at h
  split at h
  · cases hread : fs.readText path with
    | error e =>
        rw [hread] at h
        cases h
    | ok text =>
        rw [hread] at h
        exact valid_of_parse h
  · simp only [build_of_valid valid_default, Except.ok.injEq] at h
    rw [← h]
    exact valid_default

/-! ### Changes -/

/-- Two changes are of the same field. -/
def Change.SameField (c d : Change) : Prop := c.ctorIdx = d.ctorIdx

/-- The field of a change has the value that the change gives it. -/
def Agrees (s : Settings) : Change → Prop
  | .inputFolder path => s.inputFolder = path
  | .outputFolder path => s.outputFolder = path
  | .dpi n => s.dpi = n
  | .format format => s.format = format
  | .quality n => s.quality = n
  | .colorspace space => s.colorspace = space
  | .overwrite on => s.overwrite = on
  | .skipIfExists on => s.skipIfExists = on
  | .maxPages n => s.maxPages = n
  | .failFast on => s.failFast = on
  | .logFile path => s.logFile = path
  | .crop crop => s.crop = crop

/-- A change gives its field the value. -/
theorem agrees_change (s : Settings) (c : Change) : (s.change c).Agrees c := by
  cases c <;> rfl

/-- A change leaves all other fields alone. -/
theorem agrees_change_iff {c d : Change} (h : ¬ d.SameField c) (s : Settings) :
    (s.change d).Agrees c ↔ s.Agrees c := by
  cases c <;> cases d <;> first | exact absurd rfl h | exact Iff.rfl

theorem apply_append (s : Settings) (first others : List Change) :
    s.apply (first ++ others) = (s.apply first).apply others :=
  List.foldl_append

/-- A field that is not changed stays what it is. -/
theorem apply_keeps {s : Settings} {c : Change} {changes : List Change} (hs : s.Agrees c)
    (h : ∀ d ∈ changes, ¬ d.SameField c) : (s.apply changes).Agrees c := by
  induction changes generalizing s with
  | nil => exact hs
  | cons d changes ih =>
      have hd : (s.change d).Agrees c := (agrees_change_iff (h d List.mem_cons_self) s).2 hs
      exact ih hd fun e he => h e (List.mem_cons_of_mem d he)

/-- **A field has the value of its last change.** -/
theorem apply_agrees (s : Settings) {c : Change} (earlier : List Change) {later : List Change}
    (h : ∀ d ∈ later, ¬ d.SameField c) : (s.apply (earlier ++ c :: later)).Agrees c := by
  rw [apply_append]
  exact apply_keeps (s := (s.apply earlier).change c) (agrees_change (s.apply earlier) c) h

/-! ### Arguments -/

/-- The settings with what arguments give.  Two of the truth values can only be switched on, and
what no argument is for stays what it is. -/
def overriddenBy (s : Settings) (a : Command.Arguments) : Settings :=
  { s with
    inputFolder := a.input.getD s.inputFolder
    outputFolder := a.output.getD s.outputFolder
    dpi := a.dpi.getD s.dpi
    format := a.format.getD s.format
    quality := a.quality.getD s.quality
    colorspace := a.colorspace.getD s.colorspace
    overwrite := s.overwrite || a.overwrite
    failFast := s.failFast || a.failFast
    maxPages := a.maxPages.getD s.maxPages }

/-- A value that may be given changes a field to itself if it is not. -/
theorem apply_given {α : Type} (given : Option α) (change : α → Change) (field : Settings → α)
    (h : ∀ s : Settings, s.change (change (field s)) = s) (s : Settings) :
    s.apply (given.map change).toList = s.change (change (given.getD (field s))) := by
  cases given with
  | none => exact (h s).symm
  | some value => rfl

/-- A truth value that may be given can only be switched on. -/
theorem apply_flag (on : Bool) (change : Bool → Change) (field : Settings → Bool)
    (h : ∀ s : Settings, s.change (change (field s)) = s) (s : Settings) :
    s.apply (if on then [change true] else []) = s.change (change (field s || on)) := by
  cases on with
  | false =>
      rw [Bool.or_false]
      exact (h s).symm
  | true =>
      rw [Bool.or_true]
      rfl

/-- **Arguments change what they give and nothing else.** -/
theorem apply_overrides (s : Settings) (a : Command.Arguments) :
    s.apply (Command.overrides a) = s.overriddenBy a := by
  rw [Command.overrides]
  simp only [apply_append]
  rw [apply_given a.input .inputFolder inputFolder fun _ => rfl,
    apply_given a.output .outputFolder outputFolder fun _ => rfl,
    apply_given a.dpi .dpi dpi fun _ => rfl,
    apply_given a.format .format format fun _ => rfl,
    apply_given a.quality .quality quality fun _ => rfl,
    apply_given a.colorspace .colorspace colorspace fun _ => rfl,
    apply_flag a.overwrite .overwrite overwrite fun _ => rfl,
    apply_flag a.failFast .failFast failFast fun _ => rfl,
    apply_given a.maxPages .maxPages maxPages fun _ => rfl]
  rfl

theorem applyOverrides_eq (a : Command.Arguments) (s : Settings) :
    Command.applyOverrides a s = (s.overriddenBy a).check := by
  rw [Command.applyOverrides, apply_overrides]

/-- Arguments in range keep settings valid. -/
theorem Valid.overriddenBy {s : Settings} (h : s.Valid) {a : Command.Arguments}
    (ha : a.InRange) : (s.overriddenBy a).Valid := by
  have hquality : 1 ≤ (s.overriddenBy a).quality ∧ (s.overriddenBy a).quality ≤ 100 := by
    cases hgiven : a.quality with
    | none =>
        simp only [Settings.overriddenBy, hgiven, Option.getD_none]
        exact ⟨h.one_le_quality, h.quality_le⟩
    | some n =>
        simp only [Settings.overriddenBy, hgiven, Option.getD_some]
        exact ha.quality n hgiven
  have hdpi : 1 ≤ (s.overriddenBy a).dpi := by
    cases hgiven : a.dpi with
    | none =>
        simp only [Settings.overriddenBy, hgiven, Option.getD_none]
        exact h.one_le_dpi
    | some n =>
        simp only [Settings.overriddenBy, hgiven, Option.getD_some]
        exact ha.dpi n hgiven
  exact ⟨hquality.1, hquality.2, hdpi, h.horizontal, h.vertical⟩

/-! ### All ways to settings -/

/-- The settings that can be obtained: the defaults, those of a file or a text, and those that come
from others by changes or by arguments. -/
inductive Obtained : Settings → Prop
  /-- The defaults. -/
  | byDefault : Obtained default
  /-- The settings of a file. -/
  | loaded {fs : FileSystem} {path : Path} {s : Settings}
      (h : (load fs path).outcome = .ok s) : Obtained s
  /-- The settings of a text. -/
  | parsed {text : String} {origin : Path} {s : Settings}
      (h : (parse text origin).outcome = .ok s) : Obtained s
  /-- Settings after changes. -/
  | changed {s t : Settings} (changes : List Change) (hs : Obtained s)
      (h : (s.apply changes).build.outcome = .ok t) : Obtained t
  /-- Settings with what arguments give. -/
  | overridden {s t : Settings} (a : Command.Arguments) (hs : Obtained s)
      (h : Command.applyOverrides a s = .ok t) : Obtained t

/-- All settings that can be obtained are valid. -/
theorem Obtained.valid {s : Settings} (h : Obtained s) : s.Valid := by
  -- every way ends with a check
  cases h with
  | byDefault => exact valid_default
  | loaded h => exact valid_of_load h
  | parsed h => exact valid_of_parse h
  | changed changes hs h =>
      obtain ⟨hvalid, rfl⟩ := valid_of_build h
      exact hvalid
  | overridden a hs h =>
      obtain ⟨hvalid, rfl⟩ := valid_of_check h
      exact hvalid

/-- **All settings that can be obtained are valid.**  Settings are refused only if they are not
valid, and otherwise built as they are: each field has the value of its last change, or its old one
if it was not changed.  Arguments change what they give and nothing else; if their numbers are in
range, as they are on every command line that is accepted, valid settings are never refused. -/
theorem obtained_valid :
    (∀ s : Settings, Obtained s → s.Valid) ∧
      (∀ s : Settings, (s.Valid → s.build.outcome = .ok s) ∧
        (¬ s.Valid → ∃ fault, s.build.outcome = .error (.invalidSettings fault))) ∧
      (∀ (s t : Settings) (changes : List Change), (s.apply changes).build.outcome = .ok t →
        (∀ earlier c later, changes = earlier ++ c :: later → (∀ d ∈ later, ¬ d.SameField c) →
          t.Agrees c) ∧
        ∀ c, s.Agrees c → (∀ d ∈ changes, ¬ d.SameField c) → t.Agrees c) ∧
      (∀ (a : Command.Arguments) (s t : Settings),
        Command.applyOverrides a s = .ok t → t = s.overriddenBy a) ∧
      (∀ (a : Command.Arguments) (s : Settings), a.InRange → s.Valid →
        Command.applyOverrides a s = .ok (s.overriddenBy a)) ∧
      ∀ args env a, Command.parse args env = .ok (.run a) → a.InRange := by
  refine ⟨fun s => Obtained.valid, fun s => ⟨build_of_valid, build_of_not_valid⟩, ?_, ?_, ?_,
    fun args env a => Command.parse_inRange⟩
  · intro s t changes h
    obtain ⟨-, rfl⟩ := valid_of_build h
    refine ⟨?_, fun c => apply_keeps⟩
    rintro earlier c later rfl hlater
    exact apply_agrees s earlier hlater
  · intro a s t h
    rw [applyOverrides_eq] at h
    exact (valid_of_check h).2
  · intro a s ha hs
    rw [applyOverrides_eq, check_of_valid (hs.overriddenBy ha)]

end Settings

end PageImages
