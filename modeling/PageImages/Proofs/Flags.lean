import PageImages.Proofs.Arguments
import PageImages.Proofs.Utf8

/-!
**Options that change what a run shows.**

Four of the options tell how a run presents itself and nothing else.  They can stand anywhere
between the other arguments, by name or by letter, and two command lines that differ in them only,
if both are accepted, say the same otherwise.

An option that is read settles the key before it.  So a reading that meets an option of presentation
is ahead of one that does not, by one key that is still to be settled there; they are together again
at the next argument.

Main definitions:

* `Command.essential` — a command line without the options of presentation;
* `Command.Alike`, `Command.Lags` — readings that differ in the presentation only, and readings of
  which the second may have a key to settle that the first one has settled.

Main results:

* `Command.Lags.readAll_essential` — a command line is read as if the options of presentation were
  not there;
* `Command.parse_essential` — **command lines that differ in the presentation only say the same
  otherwise**.
-/

set_option autoImplicit false

namespace PageImages.Command

/-! ### The options of presentation -/

/-- Whether a key tells only how a run presents itself. -/
def Key.isPresentation : Key → Bool
  | .json => true
  | .noProgress => true
  | .verbose => true
  | .quiet => true
  | _ => false

/-- What has been given, apart from the presentation. -/
def Arguments.essential (a : Arguments) : Arguments :=
  { a with json := false, noProgress := false, verbose := false, quiet := false }

/-- The names of the options of presentation. -/
def presentationNames : List Octets :=
  (Key.all.filter Key.isPresentation).filterMap fun key => key.long?.map Utf8.encode

/-- Whether an octet is the letter of an option of presentation: `q` or `v`. -/
def isPresentationLetter (b : UInt8) : Bool := b = 0x71 || b = 0x76

/-- An argument without the options of presentation, if anything is left of it. -/
def essentialArgument? (argument : Octets) : Option Octets :=
  match argument with
  | a :: b :: rest =>
    if a = dash && b = dash then if rest ∈ presentationNames then none else some argument
    else if a = dash then
      let letters := (b :: rest).dropWhile isPresentationLetter
      if letters.isEmpty then none else some (dash :: letters)
    else some argument
  | _ => some argument

/-- A command line without the options of presentation.  Behind `--` nothing is an option. -/
def essential : List Octets → List Octets
  | [] => []
  | argument :: rest =>
    if argument = [dash, dash] then argument :: rest
    else (essentialArgument? argument).toList ++ essential rest

/-! ### Values -/

/-- A value that is no matter of presentation does the same to arguments that differ in the
presentation only. -/
theorem assign_essential {a a' b : Arguments} {key : Key} {value : Octets}
    (hkey : key.isPresentation = false) (ha : a.essential = a'.essential)
    (h : assign a key value = .ok b) :
    ∃ b', assign a' key value = .ok b' ∧ b.essential = b'.essential := by
  cases key with
  | json | noProgress | verbose | quiet => cases hkey
  | settings | input | output | dpi | format | quality | colorspace | overwrite | failFast
  | maxPages | library =>
      obtain ⟨v, hv, h⟩ := exists_of_bind_eq_ok h
      cases h
      simp only [assign, hv]
      refine ⟨_, rfl, ?_⟩
      simp only [Arguments.essential, Arguments.mk.injEq] at ha ⊢
      simp only [ha, and_self]

/-- A value that is a matter of presentation changes nothing else. -/
theorem assign_presentation {a b : Arguments} {key : Key} {value : Octets}
    (hkey : key.isPresentation = true) (h : assign a key value = .ok b) :
    b.essential = a.essential := by
  cases key with
  | json | noProgress | verbose | quiet =>
      obtain ⟨v, -, h⟩ := exists_of_bind_eq_ok h
      cases h
      rfl
  | settings | input | output | dpi | format | quality | colorspace | overwrite | failFast
  | maxPages | library => cases hkey

/-! ### Readings that differ in the presentation only -/

/-- The two readings differ in the presentation only. -/
structure Alike (r r' : Reading) : Prop where
  /-- The same has been given. -/
  arguments : r.arguments.essential = r'.arguments.essential
  /-- The same keys have been given. -/
  given : ∀ key : Key, key.isPresentation = false → r.given.contains key = r'.given.contains key
  /-- The same key is still to be settled. -/
  pending : r.pending = r'.pending
  /-- That key is no matter of presentation. -/
  proper : ∀ key value, r'.pending = some (key, value) → key.isPresentation = false
  /-- The argument without a name has come to both or to none. -/
  positioned : r.positioned = r'.positioned

theorem Alike.symm {r r' : Reading} (h : Alike r r') : Alike r' r :=
  ⟨h.arguments.symm, fun key hkey => (h.given key hkey).symm, h.pending.symm,
    fun key value hvalue => h.proper key value (h.pending ▸ hvalue), h.positioned.symm⟩

theorem Alike.trans {r r' r'' : Reading} (h : Alike r r') (h' : Alike r' r'') : Alike r r'' :=
  ⟨h.arguments.trans h'.arguments, fun key hkey => (h.given key hkey).trans (h'.given key hkey),
    h.pending.trans h'.pending, h'.proper, h.positioned.trans h'.positioned⟩

/-- A reading that comes about on the left comes about on the right, and both differ in the
presentation only. -/
def Mimics (x x' : Except Stop Reading) : Prop :=
  ∀ s, x = .ok s → ∃ s', x' = .ok s' ∧ Alike s s'

theorem mimics_ok {r r' : Reading} (h : Alike r r') : Mimics (.ok r) (.ok r') := by
  rintro s hs
  cases hs
  exact ⟨r', rfl, h⟩

theorem mimics_error (stop : Stop) (x : Except Stop Reading) : Mimics (.error stop) x :=
  fun _ h => by cases h

theorem Mimics.bind {x x' : Except Stop Reading} {g g' : Reading → Except Stop Reading}
    (hx : Mimics x x') (hg : ∀ r r', Alike r r' → Mimics (g r) (g' r')) :
    Mimics (x >>= g) (x' >>= g') := by
  intro s hs
  obtain ⟨r, hr, hs⟩ := exists_of_bind_eq_ok hs
  obtain ⟨r', hr', halike⟩ := hx r hr
  obtain ⟨s', hs', halike'⟩ := hg r r' halike s hs
  exact ⟨s', by rw [hr']; exact hs', halike'⟩

/-- A key that is taken in has a value that it can have, and has not been given before. -/
theorem exists_of_take {r s : Reading} {key : Key} {value : Option Octets}
    (h : r.take key value = .ok s) :
    ∃ v b, value = some v ∧ r.given.contains key = false ∧ assign r.arguments key v = .ok b ∧
      s = { r with arguments := b, given := key :: r.given } := by
  cases value with
  | none => cases h
  | some v =>
      simp only [Reading.take] at h
      split at h
      · cases h
      · next hgiven =>
          cases hassign : assign r.arguments key v with
          | error e =>
              rw [hassign] at h
              cases h
          | ok b =>
              rw [hassign] at h
              cases h
              exact ⟨v, b, rfl, Bool.not_eq_true _ ▸ hgiven, hassign, rfl⟩

/-- A key that is no matter of presentation is taken in by both. -/
theorem Alike.mimics_take {r r' : Reading} (h : Alike r r') {key : Key}
    (hkey : key.isPresentation = false) (value : Option Octets) :
    Mimics (r.take key value) (r'.take key value) := by
  intro s hs
  obtain ⟨v, b, rfl, hgiven, hassign, rfl⟩ := exists_of_take hs
  obtain ⟨b', hassign', hessential⟩ := assign_essential hkey h.arguments hassign
  rw [h.given key hkey] at hgiven
  refine ⟨{ r' with arguments := b', given := key :: r'.given }, ?_, hessential,
    fun key' hkey' => ?_, h.pending, h.proper, h.positioned⟩
  · simp only [Reading.take, hgiven, Bool.false_eq_true, if_false, hassign']
  · simp only [List.contains_cons, h.given key' hkey']

/-- A key of presentation makes no other difference. -/
theorem Alike.take_presentation {r r' s : Reading} (h : Alike r r') {key : Key}
    (hkey : key.isPresentation = true) {value : Option Octets} (hs : r.take key value = .ok s) :
    Alike s r' := by
  obtain ⟨v, b, rfl, -, hassign, rfl⟩ := exists_of_take hs
  refine ⟨(assign_presentation hkey hassign).trans h.arguments, fun key' hkey' => ?_, h.pending,
    h.proper, h.positioned⟩
  have hne : (key' == key) = false := by
    rw [beq_eq_false_iff_ne]
    rintro rfl
    rw [hkey] at hkey'
    cases hkey'
  rw [List.contains_cons, hne, Bool.false_or, h.given key' hkey']

/-! ### Settling -/

theorem pending_of_take {r s : Reading} {key : Key} {value : Option Octets}
    (h : r.take key value = .ok s) : s.pending = r.pending ∧ s.positioned = r.positioned := by
  obtain ⟨v, b, -, -, -, rfl⟩ := exists_of_take h
  exact ⟨rfl, rfl⟩

theorem pending_of_settle {r s : Reading} (h : r.settle = .ok s) :
    s.pending = none ∧ s.positioned = r.positioned := by
  rw [Reading.settle] at h
  cases hpending : r.pending with
  | none =>
      rw [hpending] at h
      cases h
      exact ⟨hpending, rfl⟩
  | some pair =>
      obtain ⟨key, value⟩ := pair
      simp only [hpending] at h
      exact pending_of_take h

/-- The two readings differ in the presentation only, or will do so when the second one has settled
a key that the first one has settled. -/
def Lags (r r' : Reading) : Prop :=
  Alike r r' ∨ (r.pending = none ∧ ∃ t, r'.settle = .ok t ∧ Alike r t)

theorem Lags.positioned {r r' : Reading} (h : Lags r r') : r.positioned = r'.positioned := by
  rcases h with h | ⟨-, t, ht, h⟩
  · exact h.positioned
  · rw [h.positioned, (pending_of_settle ht).2]

/-- Readings are together again when both are settled. -/
theorem Lags.mimics_settle {r r' : Reading} (h : Lags r r') : Mimics r.settle r'.settle := by
  rcases h with h | ⟨hpending, t, ht, h⟩
  · rw [Reading.settle, Reading.settle, h.pending]
    cases hpending : r'.pending with
    | none => exact mimics_ok h
    | some pair =>
        obtain ⟨key, value⟩ := pair
        have hbare : Alike { r with pending := none } { r' with pending := none } :=
          ⟨h.arguments, h.given, rfl, fun _ _ hnone => (by cases hnone), h.positioned⟩
        exact hbare.mimics_take (h.proper key value hpending) value
  · rw [Reading.settle, hpending, ht]
    exact mimics_ok h

section Steps

variable {r r' : Reading} (h : Lags r r')
include h

/-- **An option of presentation puts a reading ahead**, and makes no other difference. -/
theorem Lags.accept_presentation {s : Reading} {key : Key} (hkey : key.isPresentation = true)
    {value : Octets} (hs : r.accept key value = .ok s) : Lags s r' := by
  obtain ⟨t, ht, hs⟩ := exists_of_bind_eq_ok hs
  obtain ⟨t', ht', halike⟩ := h.mimics_settle t ht
  refine Or.inr ⟨?_, t', ht', halike.take_presentation hkey hs⟩
  rw [(pending_of_take hs).1, (pending_of_settle ht).1]

theorem Lags.mimics_accept {key : Key} (hkey : key.isPresentation = false) (value : Octets) :
    Mimics (r.accept key value) (r'.accept key value) :=
  h.mimics_settle.bind fun _ _ halike => halike.mimics_take hkey (some value)

theorem Lags.mimics_begin {key : Key} (hkey : key.isPresentation = false)
    (value : Option Octets) : Mimics (r.begin key value) (r'.begin key value) := by
  refine h.mimics_settle.bind fun s s' halike => mimics_ok ?_
  refine ⟨halike.arguments, halike.given, rfl, fun key' value' hpending => ?_, halike.positioned⟩
  cases hpending
  exact hkey

theorem Lags.mimics_position (argument : Octets) :
    Mimics (r.position argument) (r'.position argument) := by
  rw [Reading.position, Reading.position, h.positioned]
  split
  · exact mimics_error _ _
  · have hbegin := @Lags.mimics_begin r r' h .settings rfl (some argument)
    intro s hs
    cases hr : r.begin .settings (some argument) with
    | error stop =>
        rw [hr] at hs
        cases hs
    | ok t =>
        obtain ⟨t', ht', halike⟩ := hbegin t hr
        rw [hr] at hs
        cases hs
        exact ⟨{ t' with positioned := true }, by rw [ht']; rfl, halike.arguments, halike.given,
          halike.pending, halike.proper, rfl⟩

theorem Lags.mimics_readPlain (argument : Octets) :
    Mimics (readPlain r argument) (readPlain r' argument) := by
  have hposition := h.mimics_position argument
  rcases h with h | ⟨hpending, t, ht, h⟩
  · rw [readPlain, readPlain, h.pending]
    split
    · next key hpending =>
        refine mimics_ok ⟨h.arguments, h.given, rfl, fun key' value' hvalue => ?_, h.positioned⟩
        cases hvalue
        exact h.proper key none hpending
    · exact hposition
  · -- a key without its value cannot be settled, so the argument is not the value of one
    have hposition' : readPlain r' argument = r'.position argument := by
      rw [readPlain]
      split
      · next key hpending' =>
          rw [Reading.settle, hpending'] at ht
          cases ht
      · rfl
    rw [readPlain, hpending, hposition']
    exact hposition

end Steps

/-! ### Options by name -/

theorem mem_presentationNames {name : Octets} :
    name ∈ presentationNames ↔
      ∃ key : Key, key.isPresentation = true ∧ ∃ s, key.long? = some s ∧ name = Utf8.encode s := by
  simp only [presentationNames, List.mem_filterMap, List.mem_filter, Option.map_eq_some_iff]
  constructor
  · rintro ⟨key, ⟨-, hkey⟩, s, hs, rfl⟩
    exact ⟨key, hkey, s, hs, rfl⟩
  · rintro ⟨key, hkey, s, hs, rfl⟩
    exact ⟨key, ⟨by cases key <;> decide, hkey⟩, s, hs, rfl⟩

theorem ofLong?_iff {s : String} {key : Key} : Key.ofLong? s = some key ↔ key.long? = some s := by
  constructor
  · exact fun h => by simpa using List.find?_some h
  · intro h
    cases key <;> cases h <;> decide

theorem not_ok_finish {r s : Reading} {stop : Stop} : r.finish stop ≠ .ok s := by
  intro h
  obtain ⟨t, -, h⟩ := exists_of_bind_eq_ok h
  cases h

theorem isFlag_of_isPresentation {key : Key} (h : key.isPresentation = true) :
    key.isFlag = true := by
  cases key with
  | json | noProgress | verbose | quiet => rfl
  | settings | input | output | dpi | format | quality | colorspace | overwrite | failFast
  | maxPages | library => cases h

/-- What an option by name is: nothing that exists, a question about the program, or a key. -/
theorem readLong_cases (name : Octets) :
    (∀ r value s, readLong r name value ≠ .ok s) ∨
      ∃ key : Key, (∃ text, key.long? = some text ∧ name = Utf8.encode text) ∧
        ∀ r value, readLong r name value =
          if key.isFlag then
            match value with
            | some v => .error (.refused (.unexpectedValue (Utf8.lossy v) key.shown))
            | none => r.accept key flagValue
          else
            match value with
            | some v => r.accept key v
            | none => r.begin key none := by
  cases hdecode : Utf8.decode? name with
  | none =>
      left
      intro r value s
      simp [readLong, hdecode]
  | some text =>
      by_cases hhelp : text = "help"
      · left
        intro r value s
        simp only [readLong, hdecode, Option.bind_some, if_pos hhelp]
        cases value with
        | some v => simp
        | none => exact not_ok_finish
      by_cases hversion : text = "version"
      · left
        intro r value s
        simp only [readLong, hdecode, Option.bind_some, if_neg hhelp, if_pos hversion]
        cases value with
        | some v => simp
        | none => exact not_ok_finish
      cases hkey : Key.ofLong? text with
      | none =>
          left
          intro r value s
          simp [readLong, hdecode, if_neg hhelp, if_neg hversion, hkey]
      | some key =>
          refine Or.inr ⟨key, ⟨text, ofLong?_iff.1 hkey,
            (Utf8.decode?_eq_some_iff name text).1 hdecode⟩, fun r value => ?_⟩
          cases value <;> simp only [readLong, hdecode, Option.bind_some, if_neg hhelp,
            if_neg hversion, hkey, Option.map_some]

/-- An option by name that is no matter of presentation is read by both. -/
theorem Lags.mimics_readLong {r r' : Reading} (h : Lags r r') {name : Octets}
    {value : Option Octets} (hname : value = none → name ∉ presentationNames) :
    Mimics (readLong r name value) (readLong r' name value) := by
  rcases readLong_cases name with hstop | ⟨key, ⟨text, hlong, htext⟩, hread⟩
  · exact fun s hs => absurd hs (hstop r value s)
  · rw [hread, hread]
    cases hflag : key.isFlag with
    | true =>
        rw [if_pos rfl, if_pos rfl]
        cases value with
        | some v => exact mimics_error _ _
        | none =>
            have hkey : key.isPresentation = false := by
              rw [← Bool.not_eq_true]
              exact fun hkey => hname rfl (mem_presentationNames.2 ⟨key, hkey, text, hlong, htext⟩)
            exact h.mimics_accept hkey flagValue
    | false =>
        have hkey : key.isPresentation = false := by
          rw [← Bool.not_eq_true]
          intro hkey
          rw [isFlag_of_isPresentation hkey] at hflag
          cases hflag
        rw [if_neg Bool.false_ne_true, if_neg Bool.false_ne_true]
        cases value with
        | some v => exact h.mimics_accept hkey v
        | none => exact h.mimics_begin hkey none

/-- An option of presentation by name puts a reading ahead. -/
theorem Lags.readLong_presentation {r r' s : Reading} (h : Lags r r') {name : Octets}
    (hname : name ∈ presentationNames) (hs : readLong r name none = .ok s) : Lags s r' := by
  obtain ⟨key, hkey, text, hlong, htext⟩ := mem_presentationNames.1 hname
  rcases readLong_cases name with hstop | ⟨key', ⟨text', hlong', htext'⟩, hread⟩
  · exact absurd hs (hstop r none s)
  · obtain rfl : text = text' := by
      have hdecode := (Utf8.decode?_eq_some_iff name text).2 htext
      rw [(Utf8.decode?_eq_some_iff name text').2 htext'] at hdecode
      exact (Option.some.inj hdecode).symm
    obtain rfl : key = key' := by
      have hfound := ofLong?_iff.2 hlong
      rw [ofLong?_iff.2 hlong'] at hfound
      exact (Option.some.inj hfound).symm
    rw [hread, isFlag_of_isPresentation hkey, if_pos rfl] at hs
    exact h.accept_presentation hkey hs

/-! ### Options by letter -/

theorem eq_append_of_firstChar? {bytes rest : Octets} {c : Char}
    (h : firstChar? bytes = some (c, rest)) : bytes = Utf8.encodeChar c ++ rest := by
  obtain ⟨n, -, hn⟩ := List.exists_of_findSome?_eq_some h
  split at hn
  · next c' hdecode =>
      cases hn
      have htake := (Utf8.decodeChars?_eq_some_iff _ _).1 hdecode
      rw [Utf8.encodeChars, List.flatMap_singleton] at htake
      rw [← htake, List.take_append_drop]
  · cases hn

theorem short?_of_ofShort? {c : Char} {key : Key} (h : Key.ofShort? c = some key) :
    key.short? = some c := by
  simpa using List.find?_some h

/-- Every letter is one octet, and the options by letter that have no value are those of
presentation. -/
theorem letter_of_short? {key : Key} {c : Char} (h : key.short? = some c) :
    ∃ b, Utf8.encodeChar c = [b] ∧ b ≠ dash ∧ isPresentationLetter b = key.isPresentation ∧
      key.isFlag = key.isPresentation := by
  cases key <;> cases h <;> exact ⟨_, rfl, by decide, rfl, rfl⟩

/-- What a cluster of letters begins with: nothing that can be read, the letter of an option of
presentation, or that of an option with a value. -/
theorem readCluster_cases {bytes : Octets} (hne : bytes ≠ []) :
    (∀ fuel r s, readCluster (fuel + 1) r bytes ≠ .ok s) ∨
      ∃ (key : Key) (b : UInt8) (rest : Octets), bytes = b :: rest ∧
        (isPresentationLetter b = true ∧ key.isPresentation = true ∧
            (∀ fuel r, readCluster (fuel + 1) r bytes
              = (r.accept key flagValue >>= fun r => readCluster fuel r rest)) ∨
          isPresentationLetter b = false ∧ b ≠ dash ∧ key.isPresentation = false ∧
            ((∀ fuel r, readCluster (fuel + 1) r bytes = r.begin key none) ∨
              ∃ value, ∀ fuel r, readCluster (fuel + 1) r bytes = r.accept key value)) := by
  have hempty : bytes.isEmpty = false := by simpa using hne
  cases hfirst : firstChar? bytes with
  | none =>
      left
      intro fuel r s
      simp [readCluster, hempty, hfirst]
  | some first =>
      obtain ⟨c, rest⟩ := first
      have hbytes := eq_append_of_firstChar? hfirst
      cases hkey : Key.ofShort? c with
      | none =>
          left
          intro fuel r s
          simp only [readCluster, hempty, Bool.false_eq_true, if_false, hfirst, hkey]
          split
          · exact not_ok_finish
          · split
            · exact not_ok_finish
            · simp
      | some key =>
          obtain ⟨b, hletter, hdash, hpresentation, hflag⟩ :=
            letter_of_short? (short?_of_ofShort? hkey)
          rw [hletter, List.singleton_append] at hbytes
          refine Or.inr ⟨key, b, rest, hbytes, ?_⟩
          cases hcase : key.isPresentation with
          | true =>
              rw [hcase] at hpresentation hflag
              refine Or.inl ⟨hpresentation, rfl, fun fuel r => ?_⟩
              simp only [readCluster, hempty, Bool.false_eq_true, if_false, hfirst, hkey, hflag,
                if_true]
          | false =>
              rw [hcase] at hpresentation hflag
              refine Or.inr ⟨hpresentation, hdash, rfl, ?_⟩
              cases rest with
              | nil =>
                  refine Or.inl fun fuel r => ?_
                  simp only [readCluster, hempty, Bool.false_eq_true, if_false, hfirst, hkey, hflag]
              | cons b' tail =>
                  refine Or.inr ⟨if b' = equalsSign then tail else b' :: tail, fun fuel r => ?_⟩
                  simp only [readCluster, hempty, Bool.false_eq_true, if_false, hfirst, hkey, hflag]

/-- Letters in front that are a matter of presentation put a reading ahead, and what follows them is
read by both. -/
theorem Lags.readCluster_essential {r r' s : Reading} (h : Lags r r') {fuel : Nat}
    {bytes : Octets} (hfuel : bytes.length < fuel) (hs : readCluster fuel r bytes = .ok s) :
    (bytes.dropWhile isPresentationLetter = [] ∧ Lags s r') ∨
      ∃ b rest, bytes.dropWhile isPresentationLetter = b :: rest ∧ b ≠ dash ∧
        ∀ n, ∃ s', readCluster (n + 1) r' (b :: rest) = .ok s' ∧ Alike s s' := by
  induction fuel generalizing r bytes with
  | zero => cases hfuel
  | succ fuel ih =>
      by_cases hne : bytes = []
      · subst hne
        cases hs
        exact Or.inl ⟨rfl, h⟩
      rcases readCluster_cases hne with hstop | ⟨key, b, rest, rfl,
        ⟨hletter, hkey, hread⟩ | ⟨hletter, hdash, hkey, hread⟩⟩
      · exact absurd hs (hstop fuel r s)
      · rw [hread] at hs
        obtain ⟨t, ht, hs⟩ := exists_of_bind_eq_ok hs
        rw [List.dropWhile_cons_of_pos hletter]
        exact ih (h.accept_presentation hkey ht) (Nat.lt_of_succ_lt_succ hfuel) hs
      · rw [List.dropWhile_cons_of_neg (by rw [hletter]; exact Bool.false_ne_true)]
        refine Or.inr ⟨b, rest, rfl, hdash, fun n => ?_⟩
        rcases hread with hread | ⟨value, hread⟩
        · rw [hread] at hs ⊢
          exact h.mimics_begin hkey none s hs
        · rw [hread] at hs ⊢
          exact h.mimics_accept hkey value s hs

/-! ### Whole command lines -/

theorem splitLong_presentation {name : Octets} (h : name ∈ presentationNames) :
    splitLong name = (name, none) := by
  have hall : ∀ name ∈ presentationNames, splitLong name = (name, none) := by decide
  exact hall name h

theorem fst_splitLong {bytes : Octets} (h : (splitLong bytes).2 = none) :
    (splitLong bytes).1 = bytes := by
  rw [splitLong] at h ⊢
  split
  · rfl
  · next hdrop =>
      rw [hdrop] at h
      cases h

theorem readArgument_long (r : Reading) (rest : Octets) :
    readArgument r (dash :: dash :: rest)
      = readLong r (splitLong rest).1 (splitLong rest).2 := by
  simp [readArgument]

theorem readArgument_cluster (r : Reading) {b : UInt8} (hb : b ≠ dash) (rest : Octets) :
    readArgument r (dash :: b :: rest) = readCluster (rest.length + 2) r (b :: rest) := by
  simp [readArgument, hb]

/-- An argument that does not begin like an option. -/
theorem readArgument_plain (r : Reading) {argument : Octets}
    (h : ∀ b rest, argument ≠ dash :: b :: rest) :
    readArgument r argument = readPlain r argument ∧
      essentialArgument? argument = some argument := by
  cases argument with
  | nil => exact ⟨rfl, rfl⟩
  | cons a tail =>
      cases tail with
      | nil => exact ⟨rfl, rfl⟩
      | cons b rest =>
          have ha : a ≠ dash := by
            rintro rfl
            exact h b rest rfl
          simp [readArgument, essentialArgument?, ha]

/-- **An argument is a matter of presentation and puts a reading ahead, or what is left of it is
read by both.** -/
theorem Lags.readArgument_essential {r r' s : Reading} (h : Lags r r') {argument : Octets}
    (hs : readArgument r argument = .ok s) :
    (essentialArgument? argument = none ∧ Lags s r') ∨
      ∃ left s', essentialArgument? argument = some left ∧
        (left = [dash, dash] → argument = [dash, dash]) ∧
        readArgument r' left = .ok s' ∧ Alike s s' := by
  by_cases hoption : ∃ b rest, argument = dash :: b :: rest
  · obtain ⟨b, rest, rfl⟩ := hoption
    by_cases hb : b = dash
    · subst hb
      rw [readArgument_long] at hs
      by_cases hname : rest ∈ presentationNames
      · left
        rw [splitLong_presentation hname] at hs
        exact ⟨by simp [essentialArgument?, hname], h.readLong_presentation hname hs⟩
      · right
        obtain ⟨s', hs', halike⟩ := h.mimics_readLong
          (fun hvalue => by rwa [fst_splitLong hvalue]) s hs
        refine ⟨_, s', ?_, id, by rw [readArgument_long]; exact hs', halike⟩
        simp [essentialArgument?, hname]
    · rw [readArgument_cluster r hb] at hs
      rcases h.readCluster_essential (by simp) hs with
        ⟨hnil, hlags⟩ | ⟨b', rest', hletters, hdash, hread⟩
      · exact Or.inl ⟨by simp [essentialArgument?, hb, hnil], hlags⟩
      · obtain ⟨s', hs', halike⟩ := hread (rest'.length + 1)
        refine Or.inr ⟨dash :: b' :: rest', s', ?_, ?_, ?_, halike⟩
        · simp [essentialArgument?, hb, hletters]
        · intro heq
          exact absurd (List.cons.inj (List.cons.inj heq).2).1 hdash
        · rw [readArgument_cluster r' hdash, hs']
  · right
    rw [not_exists] at hoption
    have hplain : ∀ r, readArgument r argument = readPlain r argument ∧
        essentialArgument? argument = some argument :=
      fun r => readArgument_plain r fun b rest heq => hoption b ⟨rest, heq⟩
    rw [(hplain r).1] at hs
    obtain ⟨s', hs', halike⟩ := h.mimics_readPlain argument s hs
    exact ⟨argument, s', (hplain r).2, id, by rw [(hplain r').1, hs'], halike⟩

/-- Behind `--` there is no option. -/
theorem Lags.readAll_literal {r r' : Reading} (h : Lags r r') (arguments : List Octets) :
    Mimics (readAll true r arguments) (readAll true r' arguments) := by
  induction arguments generalizing r r' with
  | nil =>
      rw [readAll, readAll]
      exact h.mimics_settle
  | cons argument rest ih =>
      rw [readAll, readAll]
      exact (h.mimics_position argument).bind fun _ _ halike => ih (Or.inl halike)

/-- **A command line is read as if the options of presentation were not there.** -/
theorem Lags.readAll_essential {r r' : Reading} (h : Lags r r') (arguments : List Octets) :
    Mimics (readAll false r arguments) (readAll false r' (essential arguments)) := by
  induction arguments generalizing r r' with
  | nil =>
      rw [essential, readAll, readAll]
      exact h.mimics_settle
  | cons argument rest ih =>
      rw [essential, readAll]
      by_cases hend : argument = [dash, dash]
      · rw [if_pos hend, if_pos hend, readAll, if_pos hend]
        exact h.readAll_literal rest
      · rw [if_neg hend, if_neg hend]
        intro s hs
        obtain ⟨t, ht, hs⟩ := exists_of_bind_eq_ok hs
        rcases h.readArgument_essential ht with
          ⟨hnone, hlags⟩ | ⟨left, t', hsome, hleft, ht', halike⟩
        · rw [hnone, Option.toList_none, List.nil_append]
          exact ih hlags s hs
        · rw [hsome, Option.toList_some, List.singleton_append, readAll,
            if_neg fun heq => hend (hleft heq), ht']
          exact ih (Or.inl halike) s hs

/-! ### The environment -/

theorem Alike.mimics_fromEnvironment {r r' : Reading} (h : Alike r r')
    (env : String → Option Octets) {key : Key} (hkey : key.isPresentation = false) :
    Mimics (fromEnvironment env r key) (fromEnvironment env r' key) := by
  rw [fromEnvironment, fromEnvironment, h.given key hkey]
  split
  · exact mimics_ok h
  · cases key.environmentName?.bind env with
    | none => exact mimics_ok h
    | some value => exact h.mimics_take hkey (some value)

theorem Alike.fromEnvironment_presentation {r r' s : Reading} (h : Alike r r')
    {env : String → Option Octets} {key : Key} (hkey : key.isPresentation = true)
    (hs : fromEnvironment env r key = .ok s) : Alike s r' := by
  rw [fromEnvironment] at hs
  split at hs
  · cases hs
    exact h
  · cases hvalue : key.environmentName?.bind env with
    | none =>
        rw [hvalue] at hs
        cases hs
        exact h
    | some value =>
        rw [hvalue] at hs
        exact h.take_presentation hkey hs

/-- The environment says the same about both readings, apart from the presentation. -/
theorem Alike.environment {keys : List Key} {env : String → Option Octets} {r r' s s' : Reading}
    (h : Alike r r') (hs : keys.foldlM (fromEnvironment env) r = .ok s)
    (hs' : keys.foldlM (fromEnvironment env) r' = .ok s') : Alike s s' := by
  induction keys generalizing r r' with
  | nil =>
      cases hs
      cases hs'
      exact h
  | cons key keys ih =>
      rw [List.foldlM_cons] at hs hs'
      obtain ⟨t, ht, hs⟩ := exists_of_bind_eq_ok hs
      obtain ⟨t', ht', hs'⟩ := exists_of_bind_eq_ok hs'
      refine ih ?_ hs hs'
      cases hkey : key.isPresentation with
      | true =>
          have hleft := h.fromEnvironment_presentation hkey ht
          exact (hleft.symm.fromEnvironment_presentation hkey ht').symm
      | false =>
          obtain ⟨t'', ht'', halike⟩ := h.mimics_fromEnvironment env hkey t ht
          cases ht'.symm.trans ht''
          exact halike

theorem exists_of_parse {args : List Octets} {env : String → Option Octets} {a : Arguments}
    (h : parse args env = .ok (.run a)) :
    ∃ r s, readAll false Reading.start args = .ok r ∧
      Key.all.foldlM (fromEnvironment env) r = .ok s ∧ s.arguments = a := by
  rw [parse] at h
  split at h
  · next s hread =>
      cases h
      obtain ⟨r, hr, hs⟩ := exists_of_bind_eq_ok hread
      exact ⟨r, s, hr, hs, rfl⟩
  · cases h
  · cases h
  · cases h

/-- **Command lines that differ in the presentation only say the same otherwise**, if both ask for a
run. -/
theorem parse_essential {args args' : List Octets} {env : String → Option Octets}
    {a a' : Arguments} (hsame : essential args = essential args')
    (h : parse args env = .ok (.run a)) (h' : parse args' env = .ok (.run a')) :
    a.essential = a'.essential := by
  obtain ⟨r, s, hr, hs, rfl⟩ := exists_of_parse h
  obtain ⟨r', s', hr', hs', rfl⟩ := exists_of_parse h'
  have hstart : Lags Reading.start Reading.start :=
    Or.inl ⟨rfl, fun _ _ => rfl, rfl, fun _ _ hnone => (by cases hnone), rfl⟩
  -- both are read like the command line without the options of presentation
  obtain ⟨t, ht, halike⟩ := hstart.readAll_essential args r hr
  obtain ⟨t', ht', halike'⟩ := hstart.readAll_essential args' r' hr'
  rw [hsame, ht'] at ht
  cases ht
  exact ((halike.trans halike'.symm).environment hs hs').arguments

end PageImages.Command
