import PageImages.Json.Number
import PageImages.Proofs.Json.Grammar

/-!
**Reading tokens.**

Blanks, strings and numbers are read in every form in which they can be written.  A string that is
kept has to consist of characters; one that is passed over may have halves of surrogate pairs.

Main definition: `Json.Closed`, which says what may follow a value.

Main results:

* `Json.string_spelled`, `Json.skipString_spelled` — strings, however they are spelled;
* `Json.number_natural` — whole numbers that fit into 64 bits;
* `Json.skipNumber_unsigned` — any number, when it is passed over.
-/

set_option autoImplicit false

namespace PageImages.Json

/-- What has been read is handed on. -/
@[simp] theorem ok_bind {ε α β : Type} (a : α) (next : α → Except ε β) :
    (Except.ok a >>= next) = next a := rfl

/-! ### Blanks -/

theorem isBlank_eq_true_iff (c : Char) : isBlank c = true ↔ c ∈ [' ', '\t', '\n', '\r'] := by
  simp only [isBlank, Bool.or_eq_true, decide_eq_true_eq, List.mem_cons, List.not_mem_nil, or_false]
  constructor
  · rintro (((h | h) | h) | h) <;> simp [h]
  · rintro (h | h | h | h) <;> simp [h]

/-- Blanks in front of other characters are passed over. -/
theorem skipBlanks_append {a : List Char} (ha : Blank a) (cs : List Char) :
    skipBlanks (a ++ cs) = skipBlanks cs := by
  induction a with
  | nil => rfl
  | cons c a ih =>
      have hc : isBlank c = true := (isBlank_eq_true_iff c).2 (ha c List.mem_cons_self)
      rw [List.cons_append, skipBlanks, List.dropWhile_cons, if_pos hc]
      exact ih ha.tail

@[simp] theorem skipBlanks_nil : skipBlanks [] = [] := rfl

theorem skipBlanks_cons {c : Char} (hc : isBlank c = false) (cs : List Char) :
    skipBlanks (c :: cs) = c :: cs := by
  rw [skipBlanks, List.dropWhile_cons, hc, if_neg Bool.false_ne_true]

theorem skipBlanks_blank {a : List Char} (ha : Blank a) : skipBlanks a = [] := by
  have h := skipBlanks_append ha []
  rwa [List.append_nil, skipBlanks_nil] at h

/-- A fixed word is read to its end. -/
theorem word_append (expected rest : List Char) : word expected (expected ++ rest) = .ok rest := by
  induction expected with
  | nil => rfl
  | cons c expected ih => rw [List.cons_append, word, if_pos rfl, ih]

theorem colon_append {a : List Char} (ha : Blank a) (rest : List Char) :
    colon (a ++ ':' :: rest) = .ok rest := by
  rw [colon, skipBlanks_append ha, skipBlanks_cons (by decide)]
  rfl

/-! ### What may follow -/

/-- What may follow a value: nothing with which a number would go on. -/
def Closed (rest : List Char) : Prop :=
  ∀ c ∈ rest.head?, Digits.isDigit c = false ∧ c ≠ '.' ∧ c ≠ 'e' ∧ c ≠ 'E'

theorem closed_nil : Closed [] := by
  intro c h
  cases h

theorem closed_cons {c : Char} (hdigit : Digits.isDigit c = false) (hpoint : c ≠ '.')
    (hsmall : c ≠ 'e') (hcapital : c ≠ 'E') (rest : List Char) : Closed (c :: rest) := by
  intro d hd
  cases hd
  exact ⟨hdigit, hpoint, hsmall, hcapital⟩

theorem closed_comma (rest : List Char) : Closed (',' :: rest) :=
  closed_cons (by decide) (by decide) (by decide) (by decide) rest

theorem closed_colon (rest : List Char) : Closed (':' :: rest) :=
  closed_cons (by decide) (by decide) (by decide) (by decide) rest

theorem closed_bracket (rest : List Char) : Closed (']' :: rest) :=
  closed_cons (by decide) (by decide) (by decide) (by decide) rest

theorem closed_brace (rest : List Char) : Closed ('\x7d' :: rest) :=
  closed_cons (by decide) (by decide) (by decide) (by decide) rest

theorem Blank.closed {a : List Char} (ha : Blank a) {rest : List Char} (h : Closed rest) :
    Closed (a ++ rest) := by
  cases a with
  | nil => exact h
  | cons c a =>
      have hc := ha c List.mem_cons_self
      simp only [List.mem_cons, List.not_mem_nil, or_false] at hc
      rw [List.cons_append]
      rcases hc with rfl | rfl | rfl | rfl <;>
        exact closed_cons (by decide) (by decide) (by decide) (by decide) _

/-! ### Strings -/

theorem hexDigits_value : ∀ (capital : Bool) (n : Fin 16),
    ((hexDigits capital)[n.val]?.map fun c => (Digits.hexValue? c, Utf8.width c))
      = some (some n.val, 1) := by
  decide

theorem HexDigit.value {c : Char} {n : Nat} (h : HexDigit c n) :
    Digits.hexValue? c = some n ∧ Utf8.width c = 1 := by
  obtain ⟨capital, hget⟩ := h
  have hlt : n < 16 := by
    have hlength := (List.getElem?_eq_some_iff.1 hget).1
    cases capital <;> exact hlength
  have hvalue := hexDigits_value capital ⟨n, hlt⟩
  rw [hget, Option.map_some, Option.some.injEq, Prod.mk.injEq] at hvalue
  exact hvalue

/-- Four hexadecimal digits are in order. -/
theorem hexFault?_of_unit {digits : List Char} {n : Nat} (h : HexUnit digits n)
    (rest : List Char) : hexFault? (digits ++ rest) = none := by
  cases h with
  | of ha hb hc hd =>
      simp [hexFault?, Utf8.widths, ha.value, hb.value, hc.value, hd.value]

theorem escapes_simple : ∀ item ∈ escapes, item.1 ≠ 'u' ∧ simpleEscape? item.1 = some item.2 := by
  decide

section Units

variable {digits : List Char} {n : Nat}

/-- An escape by number goes on with its digits. -/
theorem stringFrom_escape (h : HexUnit digits n) (keep : Bool) (rest : List Char) :
    stringFrom keep .plain ('\\' :: 'u' :: (digits ++ rest))
      = stringFrom keep (.hex 3 0 none) (digits ++ rest) := by
  simp [stringFrom, hexFault?_of_unit h rest]

/-- So does the second half of a surrogate pair. -/
theorem stringFrom_pairBackslash (h : HexUnit digits n) (keep : Bool) (lead : Nat)
    (rest : List Char) :
    stringFrom keep (.pairBackslash lead) ('\\' :: 'u' :: (digits ++ rest))
      = stringFrom keep (.hex 3 0 (some lead)) (digits ++ rest) := by
  simp [stringFrom, hexFault?_of_unit h rest]

/-- The number of a character is kept as the character. -/
theorem stringFrom_hex_char (h : HexUnit digits n) (hlead : isLead n = false)
    (htrail : isTrail n = false) (rest : List Char) :
    stringFrom true (.hex 3 0 none) (digits ++ rest)
      = consTo (Char.ofNat n) (stringFrom true .plain rest) := by
  cases h with
  | of ha hb hc hd =>
      simp [stringFrom, ha.value, hb.value, hc.value, hd.value, hlead, htrail]

/-- The first half of a surrogate pair waits for the second one. -/
theorem stringFrom_hex_lead (h : HexUnit digits n) (hlead : isLead n = true)
    (htrail : isTrail n = false) (rest : List Char) :
    stringFrom true (.hex 3 0 none) (digits ++ rest)
      = stringFrom true (.pairBackslash n) rest := by
  cases h with
  | of ha hb hc hd =>
      simp [stringFrom, ha.value, hb.value, hc.value, hd.value, hlead, htrail]

theorem stringFrom_hex_trail (h : HexUnit digits n) (htrail : isTrail n = true) (lead : Nat)
    (rest : List Char) :
    stringFrom true (.hex 3 0 (some lead)) (digits ++ rest)
      = consTo (pairChar lead n) (stringFrom true .plain rest) := by
  cases h with
  | of ha hb hc hd =>
      simp [stringFrom, ha.value, hb.value, hc.value, hd.value, htrail]

/-- A number that is passed over may be anything. -/
theorem stringFrom_hex_skipped (h : HexUnit digits n) (rest : List Char) :
    stringFrom false (.hex 3 0 none) (digits ++ rest) = stringFrom false .plain rest := by
  cases h with
  | of ha hb hc hd => simp [stringFrom]

end Units

theorem char_toNat_range (c : Char) :
    c.toNat < 0xD800 ∨ (0xDFFF < c.toNat ∧ c.toNat < 0x110000) :=
  c.valid

/-- The two halves of a character make the character. -/
theorem pairChar_units {c : Char} (hc : 0x10000 ≤ c.toNat) :
    pairChar (leadUnit c) (trailUnit c) = c := by
  have hnumber : (leadUnit c - 0xD800) * 1024 + (trailUnit c - 0xDC00) + 0x10000 = c.toNat := by
    simp only [leadUnit, trailUnit]
    omega
  rw [pairChar, hnumber, Char.ofNat_toNat]

theorem isLead_char (c : Char) : isLead c.toNat = false ∧ isTrail c.toNat = false := by
  have hc := char_toNat_range c
  simp only [isLead, isTrail, Bool.and_eq_false_iff, decide_eq_false_iff_not]
  omega

theorem isLead_leadUnit (c : Char) :
    isLead (leadUnit c) = true ∧ isTrail (leadUnit c) = false := by
  have hc := char_toNat_range c
  have hrange : 0xD800 ≤ leadUnit c ∧ leadUnit c < 0xDC00 := by
    rw [leadUnit]
    omega
  simp only [isLead, isTrail, Bool.and_eq_true, Bool.and_eq_false_iff, decide_eq_true_eq,
    decide_eq_false_iff_not]
  omega

theorem isTrail_trailUnit (c : Char) : isTrail (trailUnit c) = true := by
  have hrange : 0xDC00 ≤ trailUnit c ∧ trailUnit c ≤ 0xDFFF := by
    rw [trailUnit]
    omega
  simp only [isTrail, Bool.and_eq_true, decide_eq_true_eq]
  exact hrange

/-- One character of a string that is kept, by each of its spellings. -/
theorem stringFrom_plain {c : Char} (hcontrol : 0x20 ≤ c.toNat) (hmark : c ≠ '"')
    (hslash : c ≠ '\\') (keep : Bool) (rest : List Char) :
    stringFrom keep .plain (c :: rest) = consTo c (stringFrom keep .plain rest) := by
  rw [stringFrom, if_neg hmark, if_neg hslash, if_neg (Nat.not_lt.2 hcontrol)]

theorem stringFrom_letter {d c : Char} (hd : (d, c) ∈ escapes) (keep : Bool) (rest : List Char) :
    stringFrom keep .plain ('\\' :: d :: rest) = consTo c (stringFrom keep .plain rest) := by
  obtain ⟨hu, hsimple⟩ := escapes_simple (d, c) hd
  simp only at hu hsimple
  simp [stringFrom, hu, hsimple]

theorem stringFrom_unit {c : Char} {digits : List Char} (h : HexUnit digits c.toNat)
    (rest : List Char) :
    stringFrom true .plain ('\\' :: 'u' :: (digits ++ rest))
      = consTo c (stringFrom true .plain rest) := by
  obtain ⟨hlead, htrail⟩ := isLead_char c
  rw [stringFrom_escape h, stringFrom_hex_char h hlead htrail, Char.ofNat_toNat]

theorem stringFrom_pair {c : Char} {lead trail : List Char} (hc : 0x10000 ≤ c.toNat)
    (hlead : HexUnit lead (leadUnit c)) (htrail : HexUnit trail (trailUnit c))
    (rest : List Char) :
    stringFrom true .plain ('\\' :: 'u' :: (lead ++ '\\' :: 'u' :: (trail ++ rest)))
      = consTo c (stringFrom true .plain rest) := by
  obtain ⟨hisLead, hnotTrail⟩ := isLead_leadUnit c
  rw [stringFrom_escape hlead, stringFrom_hex_lead hlead hisLead hnotTrail,
    stringFrom_pairBackslash htrail, stringFrom_hex_trail htrail (isTrail_trailUnit c),
    pairChar_units hc]

/-- **A string of characters is read as it is spelled.** -/
theorem stringFrom_spelled {cs spelling : List Char} (h : Spelled (cs.map .char) spelling)
    (rest : List Char) :
    stringFrom true .plain (spelling ++ '"' :: rest) = .ok (cs, rest) := by
  generalize hsigns : cs.map Sign.char = signs at h
  induction h generalizing cs with
  | nil =>
      rw [List.map_eq_nil_iff.1 hsigns]
      rfl
  | plain hcontrol hmark hslash _ ih =>
      obtain ⟨_, ds, rfl, ⟨⟩, hds⟩ := List.map_eq_cons_iff.1 hsigns
      rw [List.cons_append, stringFrom_plain hcontrol hmark hslash, ih hds, consTo]
  | letter hd _ ih =>
      obtain ⟨_, ds, rfl, ⟨⟩, hds⟩ := List.map_eq_cons_iff.1 hsigns
      rw [List.cons_append, List.cons_append, stringFrom_letter hd, ih hds, consTo]
  | unit hc hdigits _ ih =>
      obtain ⟨_, ds, rfl, ⟨⟩, hds⟩ := List.map_eq_cons_iff.1 hsigns
      rw [List.cons_append, List.cons_append, List.append_assoc, stringFrom_unit hdigits, ih hds,
        consTo]
  | pair hc hlead htrail _ ih =>
      obtain ⟨_, ds, rfl, ⟨⟩, hds⟩ := List.map_eq_cons_iff.1 hsigns
      rw [List.cons_append, List.cons_append, List.append_assoc, List.cons_append,
        List.cons_append, List.append_assoc, stringFrom_pair hc hlead htrail, ih hds, consTo]
  | half hlow hhigh hdigits _ ih =>
      obtain ⟨_, ds, rfl, hchar, _⟩ := List.map_eq_cons_iff.1 hsigns
      cases hchar

/-- What is passed over: the characters do not matter. -/
theorem consTo_ends {c : Char} {read : Except Failure (List Char × List Char)} {rest : List Char}
    (h : ∃ cs, read = .ok (cs, rest)) : ∃ cs, consTo c read = .ok (cs, rest) := by
  obtain ⟨cs, rfl⟩ := h
  exact ⟨c :: cs, rfl⟩

theorem stringFrom_skipped {signs : List Sign} {spelling : List Char} (h : Spelled signs spelling)
    (rest : List Char) :
    ∃ cs, stringFrom false .plain (spelling ++ '"' :: rest) = .ok (cs, rest) := by
  induction h with
  | nil => exact ⟨[], rfl⟩
  | plain hcontrol hmark hslash _ ih =>
      rw [List.cons_append, stringFrom_plain hcontrol hmark hslash]
      exact consTo_ends ih
  | letter hd _ ih =>
      rw [List.cons_append, List.cons_append, stringFrom_letter hd]
      exact consTo_ends ih
  | unit hc hdigits _ ih =>
      rw [List.cons_append, List.cons_append, List.append_assoc, stringFrom_escape hdigits,
        stringFrom_hex_skipped hdigits]
      exact ih
  | pair hc hlead htrail _ ih =>
      rw [List.cons_append, List.cons_append, List.append_assoc, stringFrom_escape hlead,
        stringFrom_hex_skipped hlead, List.cons_append, List.cons_append, List.append_assoc,
        stringFrom_escape htrail, stringFrom_hex_skipped htrail]
      exact ih
  | half hlow hhigh hdigits _ ih =>
      rw [List.cons_append, List.cons_append, List.append_assoc, stringFrom_escape hdigits,
        stringFrom_hex_skipped hdigits]
      exact ih

/-- **A text is read however it is spelled.** -/
theorem string_spelled {s : String} {spelling : List Char} (h : Spelled (signs s) spelling)
    (rest : List Char) : string (spelling ++ '"' :: rest) = .ok (s, rest) := by
  rw [string, stringFrom_spelled h rest]
  simp only [String.ofList_toList]

/-- **A string is passed over however it is spelled.** -/
theorem skipString_spelled {signs : List Sign} {spelling : List Char} (h : Spelled signs spelling)
    (rest : List Char) : skipString (spelling ++ '"' :: rest) = .ok rest := by
  obtain ⟨cs, hcs⟩ := stringFrom_skipped h rest
  rw [skipString, hcs]

/-! ### Digits -/

theorem isDigit_ofNat (n : Nat) : ∀ c ∈ Digits.ofNat n, Digits.isDigit c = true :=
  fun _ hc => Nat.isDigit_of_mem_toDigits (by decide) (by decide) hc

theorem isDigit_digitChar (d : Fin 10) : Digits.isDigit (digitChar d) = true := by
  revert d
  decide

theorem isDigit_map_digitChar (ds : List (Fin 10)) :
    ∀ c ∈ ds.map digitChar, Digits.isDigit c = true := by
  intro c hc
  obtain ⟨d, _, rfl⟩ := List.mem_map.1 hc
  exact isDigit_digitChar d

/-- No digit is at the head of a text. -/
def NoDigit (rest : List Char) : Prop :=
  ∀ c ∈ rest.head?, Digits.isDigit c = false

theorem Closed.noDigit {rest : List Char} (h : Closed rest) : NoDigit rest :=
  fun c hc => (h c hc).1

theorem noDigit_cons {c : Char} (hc : Digits.isDigit c = false) (rest : List Char) :
    NoDigit (c :: rest) := by
  intro d hd
  cases hd
  exact hc

theorem NoDigit.head_eq {rest : List Char} (h : NoDigit rest) :
    (rest.head?.map Digits.isDigit).getD false = false := by
  cases rest with
  | nil => rfl
  | cons c rest => exact h c rfl

/-- A run of digits ends where no digit follows. -/
theorem span_append {digits : List Char} (hdigits : ∀ c ∈ digits, Digits.isDigit c = true)
    {rest : List Char} (hrest : NoDigit rest) :
    Digits.span (digits ++ rest) = (digits, rest) := by
  have hends : rest.takeWhile Digits.isDigit = [] ∧ rest.dropWhile Digits.isDigit = rest := by
    cases rest with
    | nil => exact ⟨rfl, rfl⟩
    | cons c rest =>
        have hc := hrest c rfl
        exact ⟨by rw [List.takeWhile_cons, hc]; rfl, by rw [List.dropWhile_cons, hc]; rfl⟩
  rw [Digits.span, List.takeWhile_append_of_pos hdigits, List.dropWhile_append_of_pos hdigits,
    hends.1, hends.2, List.append_nil]

/-- A number is written without a zero in front, unless it is zero. -/
theorem ofNat_head {n : Nat} (hn : 0 < n) :
    ∃ c cs, Digits.ofNat n = c :: cs ∧ c ≠ '0' ∧ Digits.isDigit c = true := by
  induction n using Nat.strongRecOn with
  | _ n ih =>
      by_cases hsmall : n < 10
      · refine ⟨n.digitChar, [], Nat.toDigits_of_lt_base hsmall, ?_, ?_⟩
        · have hdigits : ∀ k : Fin 10, 0 < k.val → k.val.digitChar ≠ '0' := by decide
          exact hdigits ⟨n, hsmall⟩ hn
        · exact isDigit_ofNat n _ (by rw [Digits.ofNat, Nat.toDigits_of_lt_base hsmall]; simp)
      · obtain ⟨c, cs, hcs, hc⟩ := ih (n / 10) (by omega) (by omega)
        refine ⟨c, cs ++ [(n % 10).digitChar], ?_, hc⟩
        rw [Digits.ofNat, Nat.toDigits_of_base_le (by decide) (Nat.not_lt.1 hsmall)]
        exact congrArg (· ++ _) hcs

/-- Digits are taken in as long as their number is within the limit. -/
theorem absorb_of_le {limit : Nat} (digits : List Char) (n : Nat)
    (h : Nat.ofDigitChars 10 digits n ≤ limit) :
    absorb limit n digits = (Nat.ofDigitChars 10 digits n, 0) := by
  induction digits generalizing n with
  | nil => rfl
  | cons d ds ih =>
      have hgrows : ∀ (es : List Char) (k : Nat), k ≤ Nat.ofDigitChars 10 es k := by
        intro es
        induction es with
        | nil => exact fun k => Nat.le_refl k
        | cons e es ihe =>
            intro k
            have hnext := ihe (10 * k + (e.toNat - '0'.toNat))
            exact Nat.le_trans (by omega) hnext
      have hnext : 10 * n + Digits.value d ≤ limit := Nat.le_trans (hgrows ds _) h
      rw [absorb, if_neg (Nat.not_lt.2 hnext)]
      exact ih _ h

theorem absorb_ofNat {limit n : Nat} (h : n ≤ limit) :
    absorb limit 0 (Digits.ofNat n) = (n, 0) := by
  have hvalue : Nat.ofDigitChars 10 (Digits.ofNat n) 0 = n :=
    Nat.ofDigitChars_toDigits (by decide) (by decide)
  rw [absorb_of_le _ _ (hvalue.symm ▸ h), hvalue]

/-! ### Numbers -/

theorem exponentMark?_closed {rest : List Char} (h : Closed rest) : exponentMark? rest = none := by
  unfold exponentMark?
  split
  · exact absurd rfl (h _ rfl).2.2.1
  · exact absurd rfl (h _ rfl).2.2.2
  · rfl

theorem afterWhole_closed {rest : List Char} (h : Closed rest) (negative : Bool) (n : Nat) :
    afterWhole negative n 0 rest = .ok (wholeNumber negative n, rest) := by
  unfold afterWhole
  split
  · exact absurd rfl (h _ rfl).2.1
  · simp only [exponentMark?_closed h, if_true]

/-- **A whole number that fits is read exactly.** -/
theorem number_natural {n : Nat} (hn : n ≤ greatestNatural) {rest : List Char}
    (h : Closed rest) : number false (Digits.ofNat n ++ rest) = .ok (.natural n, rest) := by
  rcases Nat.eq_zero_or_pos n with rfl | hpos
  · show number false ('0' :: rest) = _
    rw [number, if_pos rfl, h.noDigit.head_eq, if_neg Bool.false_ne_true, afterWhole_closed h]
    rfl
  · obtain ⟨c, cs, hcs, hzero, hdigit⟩ := ofNat_head hpos
    have hspan := span_append (isDigit_ofNat n) h.noDigit
    rw [hcs, List.cons_append] at hspan ⊢
    simp only [number, if_neg hzero, if_pos hdigit, hspan]
    rw [← hcs, absorb_ofNat hn]
    exact afterWhole_closed h false n

theorem skipDigits_append {digits : List Char} (hne : digits ≠ [])
    (hdigits : ∀ c ∈ digits, Digits.isDigit c = true) {rest : List Char} (hrest : NoDigit rest) :
    skipDigits (digits ++ rest) = .ok rest := by
  rw [skipDigits, span_append hdigits hrest]
  cases digits with
  | nil => exact absurd rfl hne
  | cons c cs => rfl

/-- The sign of an exponent is passed over. -/
theorem exponentSign_digits (below : Option Bool) (d : Fin 10) (cs : List Char) :
    (exponentSign ((below.map fun below => if below then '-' else '+').toList
      ++ digitChar d :: cs)).2 = digitChar d :: cs := by
  have hd := isDigit_digitChar d
  cases below with
  | none =>
      show (exponentSign (digitChar d :: cs)).2 = _
      generalize digitChar d = c at hd ⊢
      unfold exponentSign
      split
      · next heq => cases heq; exact absurd hd (by decide)
      · next heq => cases heq; exact absurd hd (by decide)
      · rfl
  | some b => cases b <;> rfl

/-- An exponent is passed over, and nothing if there is none. -/
theorem skipExponent_chars (e : Option Exponent) {rest : List Char} (h : Closed rest) :
    skipExponent ((e.map Exponent.chars).getD [] ++ rest) = .ok rest := by
  cases e with
  | none =>
      show skipExponent rest = _
      rw [skipExponent, exponentMark?_closed h]
  | some e =>
      obtain ⟨capital, below, first, others⟩ := e
      have hmark : ∀ cs, exponentMark? ((if capital then 'E' else 'e') :: cs) = some cs := by
        intro cs
        cases capital <;> rfl
      have hskip := skipDigits_append (by simp) (isDigit_map_digitChar (first :: others)) h.noDigit
      simp only [Option.map_some, Option.getD_some, Exponent.chars, List.cons_append,
        List.append_assoc, skipExponent, hmark, List.map_cons, exponentSign_digits] at hskip ⊢
      exact hskip

/-- What follows the digits of a number is neither a digit nor a point. -/
theorem head_exponent (e : Option Exponent) {rest : List Char} (h : Closed rest) :
    ∀ c ∈ ((e.map Exponent.chars).getD [] ++ rest).head?, Digits.isDigit c = false ∧ c ≠ '.' := by
  intro c hc
  cases e with
  | none => exact ⟨(h c hc).1, (h c hc).2.1⟩
  | some e =>
      obtain ⟨capital, below, first, others⟩ := e
      have hmark : c = if capital then 'E' else 'e' := by
        cases hc
        rfl
      subst hmark
      cases capital <;> decide

theorem noDigit_exponent (e : Option Exponent) {rest : List Char} (h : Closed rest) :
    NoDigit ((e.map Exponent.chars).getD [] ++ rest) :=
  fun c hc => (head_exponent e h c hc).1

theorem noDigit_fraction (fraction : List (Fin 10)) {rest : List Char} (h : NoDigit rest) :
    NoDigit (Numeral.fractionChars fraction ++ rest) := by
  cases fraction with
  | nil => exact h
  | cons d ds => exact noDigit_cons (by decide) _

/-- The whole part of a number is passed over. -/
theorem skipWhole_ofNat (n : Nat) {rest : List Char} (h : NoDigit rest) :
    skipWhole (Digits.ofNat n ++ rest) = .ok rest := by
  rcases Nat.eq_zero_or_pos n with rfl | hpos
  · show skipWhole ('0' :: rest) = _
    simp only [skipWhole, h.head_eq, Bool.false_eq_true, if_false]
  · obtain ⟨c, cs, hcs, hzero, _⟩ := ofNat_head hpos
    have hskip := skipDigits_append (by simp [hcs]) (isDigit_ofNat n) h
    rw [hcs, List.cons_append] at hskip ⊢
    unfold skipWhole
    split
    · next heq => exact absurd (List.cons.inj heq).1 hzero
    · exact hskip

/-- A fraction with an exponent is passed over, and nothing if there is none. -/
theorem skipFraction_chars (fraction : List (Fin 10)) (e : Option Exponent) {rest : List Char}
    (h : Closed rest) :
    skipFraction (Numeral.fractionChars fraction ++ ((e.map Exponent.chars).getD [] ++ rest))
      = .ok rest := by
  have hexponent := skipExponent_chars e h
  cases fraction with
  | nil =>
      have hhead := head_exponent e h
      rw [Numeral.fractionChars, List.nil_append]
      generalize (e.map Exponent.chars).getD [] ++ rest = cs at hexponent hhead ⊢
      unfold skipFraction
      split
      · exact absurd rfl (hhead _ rfl).2
      · exact hexponent
  | cons d ds =>
      have hskip := skipDigits_append (by simp) (isDigit_map_digitChar (d :: ds))
        (noDigit_exponent e h)
      simp only [Numeral.fractionChars, List.cons_append, skipFraction, hskip]
      exact hexponent

/-- **A number is passed over however it is written.** -/
theorem skipNumber_unsigned (n : Numeral) {rest : List Char} (h : Closed rest) :
    skipNumber (n.unsigned ++ rest) = .ok rest := by
  have hwhole := skipWhole_ofNat n.whole
    (noDigit_fraction n.fraction (noDigit_exponent n.exponent h))
  rw [Numeral.unsigned, List.append_assoc, List.append_assoc, skipNumber, hwhole]
  exact skipFraction_chars n.fraction n.exponent h

end PageImages.Json
