import PageImages.Text.Utf8

/-!
**UTF-8 is read back as it was written.**

Main results:

* `Utf8.scan_encodeChars` — the octets of a text are scanned as its characters, without a fault;
* `Utf8.encodeChars_injective` — **different texts have different octets**;
* `Utf8.mem_encodeChars_ascii`, `Utf8.mem_lossyChars_ascii` — an octet below 128 stands for itself
  and for nothing else, so that writing and lenient reading bring in no slash and no dot;
* `Utf8.decode?_eq_some_iff` — octets are read as a text exactly if the text is written so.
-/

set_option autoImplicit false

namespace PageImages.Utf8

/-! ### One character -/

theorem toNat_continuation (bits : Nat) : (continuation bits).toNat = 128 + bits % 64 := by
  simp only [continuation, UInt8.toNat_ofNat']
  omega

/-- The role of an octet at the start of a character, with the bounds as numbers. -/
theorem lead_eq (b : UInt8) : lead b =
    if b.toNat < 128 then .whole (Char.ofNat b.toNat)
    else if b.toNat < 194 then .stray
    else if b.toNat < 224 then .begun ⟨b.toNat % 32, 0, 0x80, 0xBF⟩
    else if b.toNat = 224 then .begun ⟨0, 1, 0xA0, 0xBF⟩
    else if b.toNat = 237 then .begun ⟨13, 1, 0x80, 0x9F⟩
    else if b.toNat < 240 then .begun ⟨b.toNat % 16, 1, 0x80, 0xBF⟩
    else if b.toNat = 240 then .begun ⟨0, 2, 0x90, 0xBF⟩
    else if b.toNat < 244 then .begun ⟨b.toNat % 8, 2, 0x80, 0xBF⟩
    else if b.toNat = 244 then .begun ⟨4, 2, 0x80, 0x8F⟩
    else .stray := by
  simp only [lead, UInt8.lt_iff_toNat_lt, ← UInt8.toNat_inj]
  rfl

theorem scan_begun {b : UInt8} {p : Begun} (h : lead b = .begun p) (rest : Octets) :
    scan none (b :: rest) = scan (some p) rest := by
  simp only [scan, h]

/-- The octet that completes a character. -/
theorem scan_last {bits : Nat} {low high b : UInt8} (hlow : low.toNat ≤ b.toNat)
    (hhigh : b.toNat ≤ high.toNat) (rest : Octets) :
    scan (some ⟨bits, 0, low, high⟩) (b :: rest) =
      some (Char.ofNat (bits * 64 + b.toNat % 64)) :: scan none rest := by
  have hin : (low ≤ b && b ≤ high) = true := by
    simp [UInt8.le_iff_toNat_le, hlow, hhigh]
  simp only [scan, hin, if_true]

/-- An octet that carries a character on. -/
theorem scan_next {bits more : Nat} {low high b : UInt8} (hlow : low.toNat ≤ b.toNat)
    (hhigh : b.toNat ≤ high.toNat) (rest : Octets) :
    scan (some ⟨bits, more + 1, low, high⟩) (b :: rest) =
      scan (some ⟨bits * 64 + b.toNat % 64, more, 0x80, 0xBF⟩) rest := by
  have hin : (low ≤ b && b ≤ high) = true := by
    simp [UInt8.le_iff_toNat_le, hlow, hhigh]
  simp only [scan, hin, if_true]

theorem scan_two {n : Nat} (hlow : 0x80 ≤ n) (hhigh : n < 0x800) (rest : Octets) :
    scan none (UInt8.ofNat (0xC0 + n / 64) :: continuation n :: rest) =
      some (Char.ofNat n) :: scan none rest := by
  have hb : (UInt8.ofNat (0xC0 + n / 64)).toNat = 192 + n / 64 := by
    rw [UInt8.toNat_ofNat']; omega
  have hlead : lead (UInt8.ofNat (0xC0 + n / 64)) = .begun ⟨n / 64, 0, 0x80, 0xBF⟩ := by
    rw [lead_eq, hb, if_neg (by omega), if_neg (by omega), if_pos (by omega)]
    simp only [Lead.begun.injEq, Begun.mk.injEq, and_self, and_true]
    omega
  have hc := toNat_continuation n
  rw [scan_begun hlead, scan_last (by rw [hc]; simp) (by rw [hc]; simp; omega), hc]
  congr 3
  omega

/-- The second of three octets, after a first one that allows it, and the third. -/
theorem scan_three_tail {n bits : Nat} {low high : UInt8} (hbits : bits = n / 4096)
    (hlow : low.toNat ≤ 128 + n / 64 % 64) (hhigh : 128 + n / 64 % 64 ≤ high.toNat)
    (rest : Octets) :
    scan (some ⟨bits, 1, low, high⟩) (continuation (n / 64) :: continuation n :: rest) =
      some (Char.ofNat n) :: scan none rest := by
  have hc₁ := toNat_continuation (n / 64)
  have hc₂ := toNat_continuation n
  rw [scan_next (by rw [hc₁]; exact hlow) (by rw [hc₁]; exact hhigh),
    scan_last (by rw [hc₂]; simp) (by rw [hc₂]; simp; omega), hc₁, hc₂]
  congr 3
  omega

theorem scan_three {n : Nat} (hlow : 0x800 ≤ n) (hhigh : n < 0x10000)
    (hvalid : n < 0xD800 ∨ 0xDFFF < n) (rest : Octets) :
    scan none (UInt8.ofNat (0xE0 + n / 4096) :: continuation (n / 64) :: continuation n :: rest) =
      some (Char.ofNat n) :: scan none rest := by
  have hb : (UInt8.ofNat (0xE0 + n / 4096)).toNat = 224 + n / 4096 := by
    rw [UInt8.toNat_ofNat']; omega
  -- the first octets 0xE0 and 0xED narrow down the second one: no overlong form, no surrogate
  by_cases h0 : n / 4096 = 0
  · rw [scan_begun (p := ⟨0, 1, 0xA0, 0xBF⟩) (by
      rw [lead_eq, hb, if_neg (by omega), if_neg (by omega), if_neg (by omega), if_pos (by omega)])]
    exact scan_three_tail (by omega) (by simp; omega) (by simp; omega) rest
  · by_cases h13 : n / 4096 = 13
    · rw [scan_begun (p := ⟨13, 1, 0x80, 0x9F⟩) (by
        rw [lead_eq, hb, if_neg (by omega), if_neg (by omega), if_neg (by omega),
          if_neg (by omega), if_pos (by omega)])]
      exact scan_three_tail (by omega) (by simp) (by simp; omega) rest
    · rw [scan_begun (p := ⟨(224 + n / 4096) % 16, 1, 0x80, 0xBF⟩) (by
        rw [lead_eq, hb, if_neg (by omega), if_neg (by omega), if_neg (by omega),
          if_neg (by omega), if_neg (by omega), if_pos (by omega)])]
      exact scan_three_tail (by omega) (by simp) (by simp; omega) rest

/-- The last three of four octets, after a first one that allows them. -/
theorem scan_four_tail {n bits : Nat} {low high : UInt8} (hbits : bits = n / 262144)
    (hlow : low.toNat ≤ 128 + n / 4096 % 64) (hhigh : 128 + n / 4096 % 64 ≤ high.toNat)
    (rest : Octets) :
    scan (some ⟨bits, 2, low, high⟩)
        (continuation (n / 4096) :: continuation (n / 64) :: continuation n :: rest) =
      some (Char.ofNat n) :: scan none rest := by
  have hc := toNat_continuation (n / 4096)
  rw [scan_next (by rw [hc]; exact hlow) (by rw [hc]; exact hhigh), hc]
  exact scan_three_tail (by omega) (by simp) (by simp; omega) rest

theorem scan_four {n : Nat} (hlow : 0x10000 ≤ n) (hhigh : n < 0x110000) (rest : Octets) :
    scan none (UInt8.ofNat (0xF0 + n / 262144) :: continuation (n / 4096)
        :: continuation (n / 64) :: continuation n :: rest) =
      some (Char.ofNat n) :: scan none rest := by
  have hb : (UInt8.ofNat (0xF0 + n / 262144)).toNat = 240 + n / 262144 := by
    rw [UInt8.toNat_ofNat']; omega
  -- the first octets 0xF0 and 0xF4 narrow down the second one
  by_cases h0 : n / 262144 = 0
  · rw [scan_begun (p := ⟨0, 2, 0x90, 0xBF⟩) (by
      rw [lead_eq, hb, if_neg (by omega), if_neg (by omega), if_neg (by omega),
        if_neg (by omega), if_neg (by omega), if_neg (by omega), if_pos (by omega)])]
    exact scan_four_tail (by omega) (by simp; omega) (by simp; omega) rest
  · by_cases h4 : n / 262144 = 4
    · rw [scan_begun (p := ⟨4, 2, 0x80, 0x8F⟩) (by
        rw [lead_eq, hb, if_neg (by omega), if_neg (by omega), if_neg (by omega),
          if_neg (by omega), if_neg (by omega), if_neg (by omega), if_neg (by omega),
          if_neg (by omega), if_pos (by omega)])]
      exact scan_four_tail (by omega) (by simp) (by simp; omega) rest
    · rw [scan_begun (p := ⟨(240 + n / 262144) % 8, 2, 0x80, 0xBF⟩) (by
        rw [lead_eq, hb, if_neg (by omega), if_neg (by omega), if_neg (by omega),
          if_neg (by omega), if_neg (by omega), if_neg (by omega), if_neg (by omega),
          if_pos (by omega)])]
      exact scan_four_tail (by omega) (by simp) (by simp; omega) rest

/-- The octets of a character are scanned as that character, whatever follows. -/
theorem scan_encodeChar (c : Char) (rest : Octets) :
    scan none (encodeChar c ++ rest) = some c :: scan none rest := by
  have hvalid : c.toNat < 0xD800 ∨ (0xDFFF < c.toNat ∧ c.toNat < 0x110000) := c.valid
  have hc : Char.ofNat c.toNat = c := Char.ofNat_toNat c
  unfold encodeChar
  dsimp only
  split
  · next h =>
      have hb : (UInt8.ofNat c.toNat).toNat = c.toNat := by rw [UInt8.toNat_ofNat']; omega
      simp only [List.cons_append, List.nil_append, scan, lead_eq, hb, if_pos h, hc]
  · split
    · have h := scan_two (n := c.toNat) (by omega) (by omega) rest
      rwa [hc] at h
    · split
      · have h := scan_three (n := c.toNat) (by omega) (by omega) (by omega) rest
        rwa [hc] at h
      · have h := scan_four (n := c.toNat) (by omega) (by omega) rest
        rwa [hc] at h

/-! ### Texts -/

theorem encodeChars_cons (c : Char) (cs : List Char) :
    encodeChars (c :: cs) = encodeChar c ++ encodeChars cs := rfl

theorem encodeChars_append (cs ds : List Char) :
    encodeChars (cs ++ ds) = encodeChars cs ++ encodeChars ds := by
  simp [encodeChars]

/-- The octets of a text are scanned as its characters, without a fault. -/
theorem scan_encodeChars (cs : List Char) : scan none (encodeChars cs) = cs.map some := by
  induction cs with
  | nil => rfl
  | cons c cs ih => rw [encodeChars_cons, scan_encodeChar, ih, List.map_cons]

/-- **Different texts have different octets.** -/
theorem encodeChars_injective {cs ds : List Char} (h : encodeChars cs = encodeChars ds) :
    cs = ds := by
  have hscan : cs.map some = ds.map some := by
    rw [← scan_encodeChars, ← scan_encodeChars, h]
  exact (List.map_inj_right fun _ _ => Option.some.inj).1 hscan

/-! ### Octets below 128 -/

/-- An octet below 128 stands for one character only. -/
theorem mem_encodeChar_ascii {b : UInt8} {c : Char} (hb : b.toNat < 128) (h : b ∈ encodeChar c) :
    c.toNat = b.toNat := by
  have hcont : ∀ bits, b ≠ continuation bits := by
    rintro bits rfl
    rw [toNat_continuation] at hb
    omega
  have hvalid : c.toNat < 0xD800 ∨ (0xDFFF < c.toNat ∧ c.toNat < 0x110000) := c.valid
  unfold encodeChar at h
  dsimp only at h
  split at h
  · rw [List.mem_singleton.1 h, UInt8.toNat_ofNat']
    omega
  · exfalso
    split at h
    · rcases List.mem_cons.1 h with rfl | h
      · rw [UInt8.toNat_ofNat'] at hb; omega
      · exact hcont _ (List.mem_singleton.1 h)
    · split at h
      · rcases List.mem_cons.1 h with rfl | h
        · rw [UInt8.toNat_ofNat'] at hb; omega
        · simp [hcont] at h
      · rcases List.mem_cons.1 h with rfl | h
        · rw [UInt8.toNat_ofNat'] at hb; omega
        · simp [hcont] at h

theorem mem_encodeChars_ascii {b : UInt8} {cs : List Char} (hb : b.toNat < 128)
    (h : b ∈ encodeChars cs) : Char.ofNat b.toNat ∈ cs := by
  obtain ⟨c, hc, hbc⟩ := List.mem_flatMap.1 h
  rwa [← mem_encodeChar_ascii hb hbc, Char.ofNat_toNat]

/-- What a begun character has to come to: it will not fit into seven bits. -/
structure Begun.Long (p : Begun) : Prop where
  /-- The next octet is the last one, and the number is large enough with it. -/
  last : p.more = 0 → 128 ≤ p.bits * 64 + p.low.toNat % 64
  /-- The number is large enough with two more octets. -/
  next : 2 ≤ p.bits * 64 + p.low.toNat % 64
  /-- The next octet is a continuation. -/
  range : 128 ≤ p.low.toNat ∧ p.high.toNat ≤ 191

theorem toNat_ofNat {n : Nat} (h : n.isValidChar) : (Char.ofNat n).toNat = n := by
  rw [Char.ofNat, dif_pos h]
  rfl

/-- What the role of an octet says about it: it is its character, or begins a long one. -/
def Lead.Fits (b : UInt8) : Lead → Prop
  | .whole c => UInt8.ofNat c.toNat = b
  | .begun p => p.Long
  | .stray => True

theorem fits_lead (b : UInt8) : (lead b).Fits b := by
  have hb := b.toNat_lt
  have hwhole : b.toNat < 128 → (Lead.whole (Char.ofNat b.toNat)).Fits b := by
    intro hsmall
    rw [Lead.Fits, toNat_ofNat (Or.inl (by omega)), UInt8.ofNat_toNat]
  rw [lead_eq]
  refine iteInduction (motive := Lead.Fits b) hwhole fun _ => ?_
  refine iteInduction (motive := Lead.Fits b) (fun _ => trivial) fun _ => ?_
  repeat' refine iteInduction (motive := Lead.Fits b) (fun _ => ?_) fun _ => ?_
  all_goals constructor <;> simp <;> omega

theorem long_of_lead {b : UInt8} {p : Begun} (h : lead b = .begun p) : p.Long := by
  have hfits := fits_lead b
  rwa [h] at hfits

theorem eq_of_lead_whole {b : UInt8} {c : Char} (h : lead b = .whole c) :
    UInt8.ofNat c.toNat = b := by
  have hfits := fits_lead b
  rwa [h] at hfits

/-- A number that is no character stands for the character zero. -/
theorem toNat_ofNat_le (n : Nat) : (Char.ofNat n).toNat = n ∨ (Char.ofNat n).toNat = 0 := by
  by_cases h : n.isValidChar
  · exact Or.inl (toNat_ofNat h)
  · right
    rw [Char.ofNat, dif_neg h]
    rfl

/-- A character below 128 other than zero that is scanned is one of the octets. -/
theorem mem_scan_ascii {c : Char} (hpos : 0 < c.toNat) (hc : c.toNat < 128) {bytes : Octets}
    {pending : Option Begun} (hlong : ∀ p, pending = some p → p.Long)
    (h : some c ∈ scan pending bytes) : UInt8.ofNat c.toNat ∈ bytes := by
  induction bytes generalizing pending with
  | nil => cases pending <;> simp [scan] at h
  | cons b rest ih =>
      have hnone : some c ∈ scan none rest → UInt8.ofNat c.toNat ∈ b :: rest := fun h =>
        List.mem_cons_of_mem _ (ih (by simp) h)
      have hsome : ∀ p : Begun, p.Long → some c ∈ scan (some p) rest →
          UInt8.ofNat c.toNat ∈ b :: rest := fun p hp h =>
        List.mem_cons_of_mem _ (ih (by rintro _ ⟨⟩; exact hp) h)
      have hwhole : ∀ d, lead b = .whole d → c = d → UInt8.ofNat c.toNat ∈ b :: rest := by
        rintro d hd rfl
        exact eq_of_lead_whole hd ▸ List.mem_cons_self
      cases pending with
      | none =>
          cases hl : lead b with
          | whole d =>
              simp only [scan, hl, List.mem_cons, Option.some.injEq] at h
              exact h.elim (hwhole d hl) hnone
          | begun q =>
              simp only [scan, hl] at h
              exact hsome q (long_of_lead hl) h
          | stray =>
              simp only [scan, hl, List.mem_cons, reduceCtorEq, false_or] at h
              exact hnone h
      | some p =>
          obtain ⟨bits, more, low, high⟩ := p
          obtain ⟨hlast, hnext, hlow, hhigh⟩ := hlong _ rfl
          simp only at hlast hnext hlow hhigh
          by_cases hin : low.toNat ≤ b.toNat ∧ b.toNat ≤ high.toNat
          · have hmod : low.toNat % 64 ≤ b.toNat % 64 := by omega
            cases more with
            | zero =>
                rw [scan_last hin.1 hin.2, List.mem_cons, Option.some.injEq] at h
                rcases h with rfl | h
                · have := hlast rfl
                  rcases toNat_ofNat_le (bits * 64 + b.toNat % 64) with he | he <;> omega
                · exact hnone h
            | succ more =>
                rw [scan_next hin.1 hin.2] at h
                exact hsome _ ⟨fun _ => by simp; omega, by simp; omega, by simp⟩ h
          · have hout : (low ≤ b && b ≤ high) = false := by
              simp only [UInt8.le_iff_toNat_le, Bool.and_eq_false_iff, decide_eq_false_iff_not]
              omega
            cases hl : lead b with
            | whole d =>
                simp only [scan, hout, hl, List.mem_cons, reduceCtorEq, false_or,
                  Option.some.injEq, Bool.false_eq_true, if_false] at h
                exact h.elim (hwhole d hl) hnone
            | begun q =>
                simp only [scan, hout, hl, List.mem_cons, reduceCtorEq, false_or,
                  Bool.false_eq_true, if_false] at h
                exact hsome q (long_of_lead hl) h
            | stray =>
                simp only [scan, hout, hl, List.mem_cons, reduceCtorEq, false_or,
                  Bool.false_eq_true, if_false] at h
                exact hnone h

/-- A character below 128 other than zero that is read leniently is one of the octets. -/
theorem mem_lossyChars_ascii {c : Char} (hpos : 0 < c.toNat) (hc : c.toNat < 128) {bytes : Octets}
    (h : c ∈ lossyChars bytes) : UInt8.ofNat c.toNat ∈ bytes := by
  obtain ⟨item, hitem, heq⟩ := List.mem_map.1 h
  cases item with
  | none =>
      have hrep : c.toNat = replacement.toNat := congrArg Char.toNat heq.symm
      have : replacement.toNat = 0xFFFD := by decide
      omega
  | some d =>
      cases heq
      exact mem_scan_ascii hpos hc (by simp) hitem

/-! ### Octets without a fault -/

/-- Where there is no fault, a begun character goes on with an octet that is wanted. -/
theorem exists_next {p : Begun} {bytes : Octets} (h : none ∉ scan (some p) bytes) :
    ∃ b rest, bytes = b :: rest ∧ p.low.toNat ≤ b.toNat ∧ b.toNat ≤ p.high.toNat := by
  cases bytes with
  | nil => exact absurd (by simp [scan]) h
  | cons b rest =>
      by_cases hin : p.low.toNat ≤ b.toNat ∧ b.toNat ≤ p.high.toNat
      · exact ⟨b, rest, rfl, hin⟩
      · have hout : (p.low ≤ b && b ≤ p.high) = false := by
          simp only [UInt8.le_iff_toNat_le, Bool.and_eq_false_iff, decide_eq_false_iff_not]
          omega
        refine absurd ?_ h
        simp only [scan, hout, Bool.false_eq_true, if_false]
        cases lead b <;> exact List.mem_cons_self

/-- Two octets that are scanned as one character are the octets of it. -/
theorem encodeChar_two {b c : UInt8} (hb : 194 ≤ b.toNat ∧ b.toNat < 224)
    (hc : 128 ≤ c.toNat ∧ c.toNat ≤ 191) : ∃ d, encodeChar d = [b, c] := by
  have hd := toNat_ofNat (n := (b.toNat - 192) * 64 + (c.toNat - 128)) (by omega)
  refine ⟨Char.ofNat ((b.toNat - 192) * 64 + (c.toNat - 128)), ?_⟩
  simp only [encodeChar, hd]
  rw [if_neg (by omega), if_pos (by omega)]
  simp only [List.cons.injEq, and_true, ← UInt8.toNat_inj, UInt8.toNat_ofNat', toNat_continuation]
  omega

theorem encodeChar_three {b c d : UInt8} (hb : 224 ≤ b.toNat ∧ b.toNat < 240)
    (hc : 128 ≤ c.toNat ∧ c.toNat ≤ 191) (hd : 128 ≤ d.toNat ∧ d.toNat ≤ 191)
    (hlow : b.toNat = 224 → 160 ≤ c.toNat) (hsurrogate : b.toNat = 237 → c.toNat ≤ 159) :
    ∃ e, encodeChar e = [b, c, d] := by
  have he := toNat_ofNat
    (n := (b.toNat - 224) * 4096 + (c.toNat - 128) * 64 + (d.toNat - 128)) (by omega)
  refine ⟨Char.ofNat ((b.toNat - 224) * 4096 + (c.toNat - 128) * 64 + (d.toNat - 128)), ?_⟩
  simp only [encodeChar, he]
  rw [if_neg (by omega), if_neg (by omega), if_pos (by omega)]
  simp only [List.cons.injEq, and_true, ← UInt8.toNat_inj, UInt8.toNat_ofNat', toNat_continuation]
  omega

theorem encodeChar_four {b c d e : UInt8} (hb : 240 ≤ b.toNat ∧ b.toNat ≤ 244)
    (hc : 128 ≤ c.toNat ∧ c.toNat ≤ 191) (hd : 128 ≤ d.toNat ∧ d.toNat ≤ 191)
    (he : 128 ≤ e.toNat ∧ e.toNat ≤ 191) (hlow : b.toNat = 240 → 144 ≤ c.toNat)
    (hhigh : b.toNat = 244 → c.toNat ≤ 143) : ∃ f, encodeChar f = [b, c, d, e] := by
  have hf := toNat_ofNat (n := (b.toNat - 240) * 262144 + (c.toNat - 128) * 4096
    + (d.toNat - 128) * 64 + (e.toNat - 128)) (by omega)
  refine ⟨Char.ofNat ((b.toNat - 240) * 262144 + (c.toNat - 128) * 4096
    + (d.toNat - 128) * 64 + (e.toNat - 128)), ?_⟩
  simp only [encodeChar, hf]
  rw [if_neg (by omega), if_neg (by omega), if_neg (by omega)]
  simp only [List.cons.injEq, and_true, ← UInt8.toNat_inj, UInt8.toNat_ofNat', toNat_continuation]
  omega

/-- How many octets a begun character has, and what its second octet may be. -/
inductive Begun.Starts (b : UInt8) (p : Begun) : Prop
  | two (hmore : p.more = 0) (hb : 194 ≤ b.toNat ∧ b.toNat < 224)
  | three (hmore : p.more = 1) (hb : 224 ≤ b.toNat ∧ b.toNat < 240)
      (hlow : b.toNat = 224 → 160 ≤ p.low.toNat) (hhigh : b.toNat = 237 → p.high.toNat ≤ 159)
  | four (hmore : p.more = 2) (hb : 240 ≤ b.toNat ∧ b.toNat ≤ 244)
      (hlow : b.toNat = 240 → 144 ≤ p.low.toNat) (hhigh : b.toNat = 244 → p.high.toNat ≤ 143)

/-- What the role of an octet says about the characters that begin with it. -/
def Lead.Begins (b : UInt8) : Lead → Prop
  | .whole c => encodeChar c = [b]
  | .begun p => p.Starts b
  | .stray => True

theorem begins_lead (b : UInt8) : (lead b).Begins b := by
  have hwhole : b.toNat < 128 → (Lead.whole (Char.ofNat b.toNat)).Begins b := by
    intro hb
    have hc := toNat_ofNat (n := b.toNat) (by omega)
    rw [Lead.Begins, encodeChar, hc, if_pos hb, UInt8.ofNat_toNat]
  rw [lead_eq]
  refine iteInduction (motive := Lead.Begins b) hwhole fun _ => ?_
  refine iteInduction (motive := Lead.Begins b) (fun _ => trivial) fun _ => ?_
  repeat' refine iteInduction (motive := Lead.Begins b) (fun _ => ?_) fun _ => ?_
  · exact .two rfl (by omega)
  · exact .three rfl (by omega) (by simp) (by omega)
  · exact .three rfl (by omega) (by omega) (by simp)
  · exact .three rfl (by omega) (by omega) (by omega)
  · exact .four rfl (by omega) (by simp) (by omega)
  · exact .four rfl (by omega) (by omega) (by omega)
  · exact .four rfl (by omega) (by omega) (by simp)
  · trivial

/-- Octets without a fault begin with the octets of a character. -/
theorem exists_encodeChar {b : UInt8} {rest : Octets} (h : none ∉ scan none (b :: rest)) :
    ∃ c tail, b :: rest = encodeChar c ++ tail := by
  have hbegins := begins_lead b
  cases hlead : lead b with
  | whole c =>
      rw [hlead, Lead.Begins] at hbegins
      exact ⟨c, rest, by rw [hbegins]; rfl⟩
  | stray =>
      refine absurd ?_ h
      simp only [scan, hlead]
      exact List.mem_cons_self
  | begun p =>
      rw [scan_begun hlead] at h
      obtain ⟨c, rest, rfl, hc⟩ := exists_next h
      obtain ⟨hlow, hhigh⟩ := (long_of_lead hlead).range
      rw [hlead, Lead.Begins] at hbegins
      obtain ⟨bits, more, low, high⟩ := p
      cases hbegins with
      | two hmore hb =>
          obtain ⟨d, hd⟩ := encodeChar_two (c := c) hb ⟨by omega, by omega⟩
          exact ⟨d, rest, by rw [hd]; rfl⟩
      | three hmore hb hfirst hlast =>
          obtain rfl : more = 1 := hmore
          rw [scan_next hc.1 hc.2] at h
          obtain ⟨d, rest, rfl, hd⟩ := exists_next h
          obtain ⟨e, he⟩ := encodeChar_three (c := c) (d := d) hb ⟨by omega, by omega⟩ hd
            (fun hb => Nat.le_trans (hfirst hb) hc.1) (fun hb => Nat.le_trans hc.2 (hlast hb))
          exact ⟨e, rest, by rw [he]; rfl⟩
      | four hmore hb hfirst hlast =>
          obtain rfl : more = 2 := hmore
          rw [scan_next hc.1 hc.2] at h
          obtain ⟨d, rest, rfl, hd⟩ := exists_next h
          rw [scan_next hd.1 hd.2] at h
          obtain ⟨e, rest, rfl, he⟩ := exists_next h
          obtain ⟨f, hf⟩ := encodeChar_four (c := c) (d := d) (e := e) hb ⟨by omega, by omega⟩ hd he
            (fun hb => Nat.le_trans (hfirst hb) hc.1) (fun hb => Nat.le_trans hc.2 (hlast hb))
          exact ⟨f, rest, by rw [hf]; rfl⟩

theorem encodeChar_ne_nil (c : Char) : encodeChar c ≠ [] := by
  unfold encodeChar
  dsimp only
  repeat' split
  all_goals exact List.cons_ne_nil _ _

/-- **Octets without a fault are the octets of a text.** -/
theorem exists_encodeChars (bytes : Octets) (h : none ∉ scan none bytes) :
    ∃ cs, bytes = encodeChars cs := by
  induction hn : bytes.length using Nat.strongRecOn generalizing bytes with
  | _ n ih =>
      cases bytes with
      | nil => exact ⟨[], rfl⟩
      | cons b rest =>
          obtain ⟨c, tail, hc⟩ := exists_encodeChar h
          rw [hc, scan_encodeChar] at h
          have hpos := List.length_pos_iff.2 (encodeChar_ne_nil c)
          have hshort : tail.length < n := by
            rw [← hn, hc, List.length_append]
            omega
          obtain ⟨cs, rfl⟩ := ih _ hshort tail (fun hnone => h (List.mem_cons_of_mem _ hnone)) rfl
          exact ⟨c :: cs, hc⟩

/-- Values are found for all items exactly if for each of them. -/
theorem mapM_eq_some_iff {α β : Type} (f : α → Option β) (items : List α) (values : List β) :
    items.mapM f = some values ↔ items.map f = values.map some := by
  induction items generalizing values with
  | nil => cases values <;> simp
  | cons item items ih =>
      cases values with
      | nil => simp [Option.bind_eq_some_iff]
      | cons value values =>
          simp only [List.mapM_cons, Option.pure_def, Option.bind_eq_bind, Option.bind_eq_some_iff,
            Option.some.injEq, List.cons.injEq, ih, List.map_cons]
          constructor
          · rintro ⟨_, hitem, _, hitems, rfl, rfl⟩
            exact ⟨hitem, hitems⟩
          · rintro ⟨hitem, hitems⟩
            exact ⟨value, hitem, values, hitems, rfl, rfl⟩

theorem decodeChars?_eq_some_iff (bytes : Octets) (cs : List Char) :
    decodeChars? bytes = some cs ↔ bytes = encodeChars cs := by
  rw [decodeChars?, mapM_eq_some_iff, List.map_id]
  constructor
  · intro hscan
    obtain ⟨ds, rfl⟩ := exists_encodeChars bytes (by simp [hscan])
    rw [scan_encodeChars] at hscan
    rw [(List.map_inj_right fun _ _ => Option.some.inj).1 hscan]
  · rintro rfl
    exact scan_encodeChars cs

/-- **A sequence of octets is read as a text exactly if the text is written so.** -/
theorem decode?_eq_some_iff (bytes : Octets) (s : String) :
    decode? bytes = some s ↔ bytes = encode s := by
  rw [decode?, Option.map_eq_some_iff, encode]
  constructor
  · rintro ⟨cs, hcs, rfl⟩
    rw [(decodeChars?_eq_some_iff bytes cs).1 hcs, String.toList_ofList]
  · intro h
    exact ⟨s.toList, (decodeChars?_eq_some_iff bytes _).2 h, String.ofList_toList⟩

end PageImages.Utf8
