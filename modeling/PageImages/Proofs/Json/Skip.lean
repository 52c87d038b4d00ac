import PageImages.Json.Skip
import PageImages.Proofs.Json.Tokens

/-!
**Passing over values.**

A value of any kind is passed over whatever its depth, and in whatever way it is written.  The fuel
counts tokens, so the length of the text is enough.

Main results:

* `Json.Written.head` — how the text of a value begins;
* `Json.skipValue_written` — **every value is passed over, up to what follows it.**
-/

set_option autoImplicit false

namespace PageImages.Json

/-! ### How texts begin and end -/

theorem ne_of_isDigit {c d : Char} (hc : Digits.isDigit c = true)
    (hd : Digits.isDigit d = false) : c ≠ d := by
  rintro rfl
  rw [hc] at hd
  cases hd

theorem isBlank_of_isDigit {c : Char} (hc : Digits.isDigit c = true) : isBlank c = false := by
  rw [Bool.eq_false_iff, Ne, isBlank_eq_true_iff]
  intro hblank
  simp only [List.mem_cons, List.not_mem_nil, or_false] at hblank
  rcases hblank with rfl | rfl | rfl | rfl <;> exact absurd hc (by decide)

/-- A digit begins no word and is no sign. -/
theorem letters_of_isDigit {c : Char} (hc : Digits.isDigit c = true) :
    c ≠ 'n' ∧ c ≠ 't' ∧ c ≠ 'f' ∧ c ≠ '-' :=
  ⟨ne_of_isDigit hc (by decide), ne_of_isDigit hc (by decide), ne_of_isDigit hc (by decide),
    ne_of_isDigit hc (by decide)⟩

/-- A number begins with a digit. -/
theorem ofNat_cons (n : Nat) :
    ∃ c cs, Digits.ofNat n = c :: cs ∧ Digits.isDigit c = true := by
  obtain ⟨c, cs, hcs⟩ := List.exists_cons_of_ne_nil (Nat.toDigits_ne_nil (b := 10) (n := n))
  exact ⟨c, cs, hcs, isDigit_ofNat n c (by rw [Digits.ofNat, hcs]; exact List.mem_cons_self)⟩

theorem Numeral.unsigned_cons (n : Numeral) :
    ∃ c cs, n.unsigned = c :: cs ∧ Digits.isDigit c = true := by
  obtain ⟨c, cs, hcs, hc⟩ := ofNat_cons n.whole
  exact ⟨c, _, by rw [Numeral.unsigned, hcs]; rfl, hc⟩

/-- The text of a value begins neither with a blank nor with the end of a list. -/
theorem Written.head {tree : Tree} {text : List Char} (h : Written tree text) :
    ∃ c cs, text = c :: cs ∧ isBlank c = false ∧ c ≠ ']' := by
  cases h with
  | null => exact ⟨_, _, rfl, by decide, by decide⟩
  | boolean on => cases on <;> exact ⟨_, _, rfl, by decide, by decide⟩
  | number n =>
      obtain ⟨c, cs, hcs, hc⟩ := n.unsigned_cons
      rw [Numeral.chars, hcs]
      cases n.negative with
      | true => exact ⟨'-', c :: cs, rfl, by decide, by decide⟩
      | false => exact ⟨c, cs, rfl, isBlank_of_isDigit hc, ne_of_isDigit hc (by decide)⟩
  | string h => exact ⟨_, _, rfl, by decide, by decide⟩
  | list h => exact ⟨_, _, rfl, by decide, by decide⟩
  | object h => exact ⟨_, _, rfl, by decide, by decide⟩

/-- The text of a value stands where its blanks end. -/
theorem Written.skipBlanks {tree : Tree} {text : List Char} (h : Written tree text)
    {a : List Char} (ha : Blank a) (rest : List Char) :
    skipBlanks (a ++ (text ++ rest)) = text ++ rest := by
  obtain ⟨c, cs, rfl, hc, _⟩ := h.head
  rw [skipBlanks_append ha, List.cons_append, skipBlanks_cons hc]

/-- Behind an item comes a comma or the end of the list. -/
theorem WrittenItems.closed {items : List Tree} {cs : List Char} (h : WrittenItems false items cs)
    (rest : List Char) : Closed (cs ++ ']' :: rest) := by
  cases h with
  | done ha => exact ha.closed (closed_bracket rest)
  | next ha hb hitem hrest =>
      rw [List.append_assoc]
      exact ha.closed (closed_comma _)

theorem WrittenMembers.closed {members : List (List Sign × Tree)} {cs : List Char}
    (h : WrittenMembers false members cs) (rest : List Char) : Closed (cs ++ '\x7d' :: rest) := by
  cases h with
  | done ha => exact ha.closed (closed_brace rest)
  | next ha hb hc hd hkey hvalue hrest =>
      rw [List.append_assoc]
      exact ha.closed (closed_comma _)

/-! ### One step -/

theorem skipKey_spelled {key : List Sign} {spelling b c : List Char} (hb : Blank b) (hc : Blank c)
    (hkey : Spelled key spelling) (rest : List Char) :
    skipKey (b ++ '"' :: (spelling ++ '"' :: (c ++ ':' :: rest))) = .ok rest := by
  rw [skipKey, skipBlanks_append hb, skipBlanks_cons (by decide)]
  simp only [if_true, skipString_spelled hkey, ok_bind, colon_append hc]

theorem skipValueWith_blank {a : List Char} (ha : Blank a) (fuel : Nat) (cs : List Char) :
    skipValueWith (fuel + 1) (a ++ cs) = skipValueWith (fuel + 1) cs := by
  rw [skipValueWith, skipValueWith, skipBlanks_append ha]

theorem skipValueWith_number (n : Numeral) {rest : List Char} (h : Closed rest) (fuel : Nat) :
    skipValueWith (fuel + 1) (n.chars ++ rest) = .ok rest := by
  have hskip := skipNumber_unsigned n h
  obtain ⟨c, cs, hcs, hc⟩ := n.unsigned_cons
  rw [Numeral.chars]
  cases n.negative with
  | true =>
      show skipValueWith (fuel + 1) ('-' :: (n.unsigned ++ rest)) = _
      rw [skipValueWith, skipBlanks_cons (by decide)]
      exact hskip
  | false =>
      show skipValueWith (fuel + 1) (n.unsigned ++ rest) = _
      rw [hcs, List.cons_append] at hskip ⊢
      rw [skipValueWith, skipBlanks_cons (isBlank_of_isDigit hc)]
      obtain ⟨hn, ht, hf, hminus⟩ := letters_of_isDigit hc
      simp only [if_neg hn, if_neg ht, if_neg hf, if_neg hminus, hc, if_true, hskip]

theorem skipValueWith_list {rest tail : List Char} {d : Char} (h : skipBlanks rest = d :: tail)
    (fuel : Nat) :
    skipValueWith (fuel + 1) ('[' :: rest) =
      if d = ']' then .ok tail else skipValueWith fuel (d :: tail) >>= skipItems fuel := by
  rw [skipValueWith, skipBlanks_cons (by decide)]
  simp only [h]
  rfl

theorem skipValueWith_object {rest tail : List Char} {d : Char} (h : skipBlanks rest = d :: tail)
    (fuel : Nat) :
    skipValueWith (fuel + 1) ('\x7b' :: rest) =
      if d = '\x7d' then .ok tail
      else skipKey (d :: tail) >>= fun cs => skipValueWith fuel cs >>= skipMembers fuel := by
  rw [skipValueWith, skipBlanks_cons (by decide)]
  simp only [h]
  rfl

/-! ### Whole values -/

/-- So much fuel is enough for values, for the rest of a list and for the rest of an object. -/
structure Passes (fuel : Nat) : Prop where
  /-- A value is passed over with the blanks before it. -/
  value {tree : Tree} {a text rest : List Char} (ha : Blank a) (h : Written tree text)
    (hfuel : text.length < fuel) (hrest : Closed rest) :
    skipValueWith fuel (a ++ (text ++ rest)) = .ok rest
  /-- A list is passed over from behind one of its items. -/
  items {items : List Tree} {cs : List Char} (h : WrittenItems false items cs)
    (hfuel : cs.length < fuel) (rest : List Char) : skipItems fuel (cs ++ ']' :: rest) = .ok rest
  /-- An object is passed over from behind one of its members. -/
  members {members : List (List Sign × Tree)} {cs : List Char}
    (h : WrittenMembers false members cs) (hfuel : cs.length < fuel) (rest : List Char) :
    skipMembers fuel (cs ++ '\x7d' :: rest) = .ok rest

section Step

variable {fuel : Nat}

theorem Passes.skipItems_succ (hpasses : Passes fuel) {items : List Tree} {cs : List Char}
    (h : WrittenItems false items cs) (hfuel : cs.length < fuel + 1) (rest : List Char) :
    skipItems (fuel + 1) (cs ++ ']' :: rest) = .ok rest := by
  cases h with
  | done ha =>
      rw [skipItems, skipBlanks_append ha, skipBlanks_cons (by decide)]
      rfl
  | @next _ item items a b text tail ha hb hitem htail =>
      simp only [separator, Bool.false_eq_true, if_false, List.length_append,
        List.length_singleton] at hfuel
      have hvalue := hpasses.value hb hitem (by omega) (htail.closed rest)
      have hitems := hpasses.items htail (by omega) rest
      simp only [separator, Bool.false_eq_true, if_false, List.append_assoc, List.cons_append,
        List.nil_append]
      rw [skipItems, skipBlanks_append ha, skipBlanks_cons (by decide)]
      simp only [if_true, hvalue, ok_bind, hitems]

theorem Passes.skipMembers_succ (hpasses : Passes fuel) {members : List (List Sign × Tree)}
    {cs : List Char} (h : WrittenMembers false members cs) (hfuel : cs.length < fuel + 1)
    (rest : List Char) : skipMembers (fuel + 1) (cs ++ '\x7d' :: rest) = .ok rest := by
  cases h with
  | done ha =>
      rw [skipMembers, skipBlanks_append ha, skipBlanks_cons (by decide)]
      rfl
  | @next _ key value members a b c d spelling text tail ha hb hc hd hkey hvalue htail =>
      simp only [separator, Bool.false_eq_true, if_false, List.length_append,
        List.length_cons] at hfuel
      have hskip := hpasses.value hd hvalue (by omega) (htail.closed rest)
      have hmembers := hpasses.members htail (by omega) rest
      simp only [separator, Bool.false_eq_true, if_false, List.append_assoc, List.cons_append,
        List.nil_append]
      rw [skipMembers, skipBlanks_append ha, skipBlanks_cons (by decide)]
      simp only [if_true, skipKey_spelled hb hc hkey, ok_bind, hskip, hmembers]

theorem Passes.skipList (hpasses : Passes fuel) {items : List Tree} {cs : List Char}
    (h : WrittenItems true items cs) (hfuel : cs.length < fuel) (rest : List Char) :
    skipValueWith (fuel + 1) ('[' :: (cs ++ ']' :: rest)) = .ok rest := by
  cases h with
  | done ha =>
      have hblanks : skipBlanks (cs ++ ']' :: rest) = ']' :: rest := by
        rw [skipBlanks_append ha, skipBlanks_cons (by decide)]
      rw [skipValueWith_list hblanks, if_pos rfl]
  | @next _ item items a b text tail ha hb hitem htail =>
      simp only [separator, if_true, List.length_append, List.length_nil] at hfuel
      have hvalue := hpasses.value blank_nil hitem (by omega) (htail.closed rest)
      have hitems := hpasses.items htail (by omega) rest
      have hblanks := hitem.skipBlanks (ha.append hb) (tail ++ ']' :: rest)
      obtain ⟨c, cs, rfl, _, hc⟩ := hitem.head
      simp only [separator, if_true, List.append_assoc, List.nil_append, List.cons_append]
        at hblanks hvalue ⊢
      rw [skipValueWith_list hblanks, if_neg hc, hvalue, ok_bind, hitems]

theorem Passes.skipObject (hpasses : Passes fuel) {members : List (List Sign × Tree)}
    {cs : List Char} (h : WrittenMembers true members cs) (hfuel : cs.length < fuel)
    (rest : List Char) :
    skipValueWith (fuel + 1) ('\x7b' :: (cs ++ '\x7d' :: rest)) = .ok rest := by
  cases h with
  | done ha =>
      have hblanks : skipBlanks (cs ++ '\x7d' :: rest) = '\x7d' :: rest := by
        rw [skipBlanks_append ha, skipBlanks_cons (by decide)]
      rw [skipValueWith_object hblanks, if_pos rfl]
  | @next _ key value members a b c d spelling text tail ha hb hc hd hkey hvalue htail =>
      simp only [separator, if_true, List.length_append, List.length_nil, List.length_cons] at hfuel
      have hskip := hpasses.value hd hvalue (by omega) (htail.closed rest)
      have hmembers := hpasses.members htail (by omega) rest
      have hkey := skipKey_spelled blank_nil hc hkey (d ++ (text ++ (tail ++ '\x7d' :: rest)))
      simp only [separator, if_true, List.append_assoc, List.nil_append, List.cons_append] at hkey ⊢
      have hblanks : ∀ cs, skipBlanks (a ++ (b ++ '"' :: cs)) = '"' :: cs := fun cs => by
        rw [skipBlanks_append ha, skipBlanks_append hb, skipBlanks_cons (by decide)]
      rw [skipValueWith_object (hblanks _), if_neg (by decide), hkey, ok_bind, hskip, ok_bind,
        hmembers]

theorem Passes.succ (hpasses : Passes fuel) : Passes (fuel + 1) where
  value := by
    intro tree a text rest ha h hfuel hrest
    rw [skipValueWith_blank ha]
    cases h with
    | null =>
        rw [List.cons_append, skipValueWith, skipBlanks_cons (by decide)]
        exact word_append _ _
    | boolean on =>
        cases on <;>
          (rw [booleanChars]
           show skipValueWith (fuel + 1) (_ :: (_ ++ rest)) = _
           rw [skipValueWith, skipBlanks_cons (by decide)]
           exact word_append _ _)
    | number n => exact skipValueWith_number n hrest fuel
    | string h =>
        rw [List.cons_append, List.append_assoc, skipValueWith, skipBlanks_cons (by decide)]
        exact skipString_spelled h rest
    | list h =>
        simp only [List.length_cons, List.length_append] at hfuel
        rw [List.cons_append, List.append_assoc]
        exact hpasses.skipList h (by omega) rest
    | object h =>
        simp only [List.length_cons, List.length_append] at hfuel
        rw [List.cons_append, List.append_assoc]
        exact hpasses.skipObject h (by omega) rest
  items := hpasses.skipItems_succ
  members := hpasses.skipMembers_succ

end Step

theorem passes (fuel : Nat) : Passes fuel := by
  induction fuel with
  | zero =>
      exact ⟨fun _ _ h => absurd h (Nat.not_lt_zero _), fun _ h => absurd h (Nat.not_lt_zero _),
        fun _ h => absurd h (Nat.not_lt_zero _)⟩
  | succ fuel ih => exact ih.succ

/-- **Every value is passed over, up to what follows it.** -/
theorem skipValue_written {tree : Tree} {a text rest : List Char} (ha : Blank a)
    (h : Written tree text) (hrest : Closed rest) :
    skipValue (a ++ (text ++ rest)) = .ok rest := by
  have hfuel : text.length < (a ++ (text ++ rest)).length + 1 := by
    simp only [List.length_append]
    omega
  exact (passes _).value ha h hfuel hrest

end PageImages.Json
