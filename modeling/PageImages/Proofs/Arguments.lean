import PageImages.Command.Arguments

/-!
**The numbers on a command line.**

Wherever a number is given, attached to its option or behind it, by letter or by name, on the
command line or in the environment, it goes through the same check of its range.  So all that can be read
has its numbers in range.

Main definitions:

* `Command.Arguments.InRange` — the numbers that are given are in range;
* `Command.Sound` — a reading, if there is one, is in range.

Main result: `Command.parse_inRange` — **a command line that is accepted has its numbers in range**.
-/

set_option autoImplicit false

namespace PageImages.Command

/-- The numbers that are given are in range. -/
structure Arguments.InRange (a : Arguments) : Prop where
  /-- A resolution that is given is not zero. -/
  dpi : ∀ n, a.dpi = some n → 1 ≤ n
  /-- A quality that is given is one. -/
  quality : ∀ n, a.quality = some n → 1 ≤ n ∧ n ≤ 100

theorem inRange_none : Arguments.none.InRange := by
  constructor
  · intro n h
    cases h
  · intro n h
    cases h

/-! ### Values -/

theorem exists_of_bind_eq_ok {ε α β : Type} {x : Except ε α} {g : α → Except ε β} {b : β}
    (h : x >>= g = .ok b) : ∃ a, x = .ok a ∧ g a = .ok b := by
  cases x with
  | error e => cases h
  | ok a => exact ⟨a, rfl, h⟩

theorem rangedValue_bounds {key : Key} {low high n : Nat} {value : Octets}
    (h : rangedValue key low high value = .ok n) : low ≤ n ∧ n ≤ high := by
  rw [rangedValue] at h
  obtain ⟨text, -, h⟩ := exists_of_bind_eq_ok h
  cases hinteger : integer (some (Nat.pow 2 63)) (Nat.pow 2 63 - 1) text.toList with
  | error fault =>
      simp only [hinteger] at h
      cases h
  | ok i =>
      simp only [hinteger] at h
      split at h
      · rename_i hbounds
        rw [Bool.and_eq_true, decide_eq_true_eq, decide_eq_true_eq] at hbounds
        cases h
        omega
      · cases h

/-- A value keeps the numbers in range, whichever key it is for. -/
theorem assign_inRange {a b : Arguments} {key : Key} {value : Octets} (ha : a.InRange)
    (h : assign a key value = .ok b) : b.InRange := by
  cases key with
  | dpi =>
      obtain ⟨n, hn, h⟩ := exists_of_bind_eq_ok h
      cases h
      refine ⟨fun m hm => ?_, ha.quality⟩
      cases hm
      exact (rangedValue_bounds hn).1
  | quality =>
      obtain ⟨n, hn, h⟩ := exists_of_bind_eq_ok h
      cases h
      refine ⟨ha.dpi, fun m hm => ?_⟩
      cases hm
      exact rangedValue_bounds hn
  | settings | input | output | format | colorspace | overwrite | failFast | maxPages | library
  | json | noProgress | verbose | quiet =>
      obtain ⟨v, -, h⟩ := exists_of_bind_eq_ok h
      cases h
      exact ⟨ha.dpi, ha.quality⟩

/-! ### Readings -/

/-- A reading, if there is one, is in range. -/
def Sound (x : Except Stop Reading) : Prop :=
  ∀ r, x = .ok r → r.arguments.InRange

theorem sound_ok {r : Reading} (h : r.arguments.InRange) : Sound (.ok r) := by
  rintro r' hr
  cases hr
  exact h

theorem sound_error (stop : Stop) : Sound (.error stop) :=
  fun _ h => by cases h

theorem Sound.bind {x : Except Stop Reading} {g : Reading → Except Stop Reading} (hx : Sound x)
    (hg : ∀ r : Reading, r.arguments.InRange → Sound (g r)) : Sound (x >>= g) := by
  intro r h
  obtain ⟨r', hr', h⟩ := exists_of_bind_eq_ok h
  exact hg r' (hx r' hr') r h

section Readings

variable {r : Reading} (hr : r.arguments.InRange)
include hr

theorem sound_take (key : Key) (value : Option Octets) : Sound (r.take key value) := by
  cases value with
  | none => exact sound_error _
  | some value =>
      unfold Reading.take
      simp only
      split
      · exact sound_error _
      · cases hassign : assign r.arguments key value with
        | error e => exact sound_error _
        | ok a => exact sound_ok (assign_inRange hr hassign)

theorem sound_settle : Sound r.settle := by
  unfold Reading.settle
  split
  · exact sound_ok hr
  · exact sound_take (r := { r with pending := none }) hr _ _

theorem sound_accept (key : Key) (value : Octets) : Sound (r.accept key value) :=
  (sound_settle hr).bind fun _ h => sound_take h key (some value)

theorem sound_begin (key : Key) (value : Option Octets) : Sound (r.begin key value) :=
  (sound_settle hr).bind fun _ h => sound_ok h

theorem sound_position (argument : Octets) : Sound (r.position argument) := by
  rw [Reading.position]
  split
  · exact sound_error _
  · have hbegin := sound_begin hr .settings (some argument)
    cases hpending : r.begin .settings (some argument) with
    | error stop => exact sound_error _
    | ok r' => exact sound_ok (hbegin r' hpending)

theorem sound_finish (stop : Stop) : Sound (r.finish stop) :=
  (sound_settle hr).bind fun _ _ => sound_error stop

theorem sound_readLong (name : Octets) (value : Option Octets) :
    Sound (readLong r name value) := by
  rw [readLong]
  split
  · exact sound_error _
  · cases value with
    | none => exact sound_finish hr _
    | some v => exact sound_error _
  · split
    · cases value with
      | none => exact sound_accept hr _ _
      | some v => exact sound_error _
    · cases value with
      | none => exact sound_begin hr _ _
      | some v => exact sound_accept hr _ _

theorem sound_readPlain (argument : Octets) : Sound (readPlain r argument) := by
  rw [readPlain]
  split
  · exact sound_ok hr
  · exact sound_position hr argument

end Readings

theorem sound_readCluster {r : Reading} (hr : r.arguments.InRange) (fuel : Nat)
    (bytes : Octets) : Sound (readCluster fuel r bytes) := by
  induction fuel generalizing r bytes with
  | zero => exact sound_ok hr
  | succ fuel ih =>
      rw [readCluster]
      split
      · exact sound_ok hr
      · cases firstChar? bytes with
        | none => exact sound_error _
        | some first =>
            simp only
            cases Key.ofShort? first.1 with
            | none =>
                simp only
                split
                · exact sound_finish hr _
                · split
                  · exact sound_finish hr _
                  · exact sound_error _
            | some key =>
                simp only
                split
                · exact (sound_accept hr key flagValue).bind fun _ h => ih h first.2
                · cases first.2 with
                  | nil => exact sound_begin hr key none
                  | cons b tail => exact sound_accept hr key _

theorem sound_readArgument {r : Reading} (hr : r.arguments.InRange) (argument : Octets) :
    Sound (readArgument r argument) := by
  unfold readArgument
  split
  · split
    · exact sound_readLong hr _ _
    · split
      · exact sound_readCluster hr _ _
      · exact sound_readPlain hr _
  · exact sound_readPlain hr _

theorem sound_readAll {r : Reading} (hr : r.arguments.InRange) (literal : Bool)
    (arguments : List Octets) : Sound (readAll literal r arguments) := by
  induction arguments generalizing r literal with
  | nil =>
      rw [readAll]
      exact sound_settle hr
  | cons argument rest ih =>
      cases literal with
      | true => exact (sound_position hr argument).bind fun _ h => ih h true
      | false =>
          rw [readAll]
          split
          · exact ih hr true
          · exact (sound_readArgument hr argument).bind fun _ h => ih h false

theorem sound_fromEnvironment {r : Reading} (hr : r.arguments.InRange)
    (env : String → Option Octets) (key : Key) : Sound (fromEnvironment env r key) := by
  rw [fromEnvironment]
  split
  · exact sound_ok hr
  · cases key.environmentName?.bind env with
    | none => exact sound_ok hr
    | some value => exact sound_take hr key (some value)

theorem sound_environment {r : Reading} (hr : r.arguments.InRange)
    (env : String → Option Octets) (keys : List Key) :
    Sound (keys.foldlM (fromEnvironment env) r) := by
  induction keys generalizing r with
  | nil => exact sound_ok hr
  | cons key keys ih =>
      rw [List.foldlM_cons]
      exact (sound_fromEnvironment hr env key).bind fun _ h => ih h

/-- **A command line that is accepted has its numbers in range.** -/
theorem parse_inRange {args : List Octets} {env : String → Option Octets} {a : Arguments}
    (h : parse args env = .ok (.run a)) : a.InRange := by
  have hsound : Sound (do
      let r ← readAll false Reading.start args
      Key.all.foldlM (fromEnvironment env) r) :=
    (sound_readAll (r := Reading.start) inRange_none false args).bind fun _ hr =>
      sound_environment hr env Key.all
  rw [parse] at h
  split at h
  · rename_i r hread
    cases h
    exact hsound r hread
  · cases h
  · cases h
  · cases h

end PageImages.Command
