import Mathlib.Data.List.Forall2
import PageImages.Json.Reader
import PageImages.Proofs.Json.Skip

/-!
**Readers take every text of a value.**

A reader is said to read a tree as a value if it does so from every text of the tree, with any
blanks before it and whatever follows.  Each way of building readers keeps this, so that a reader can be
followed from the tree alone.

Main definitions:

* `Json.Reader.Reads` — **a reader reads a tree as a value**;
* `Json.Shape.Takes` — what a record makes of the members of an object, in their order.

Main results:

* `Json.list_reads`, `Json.record_reads`, `Json.choice_reads`, `Json.tagged_reads` — lists, records
  and variants;
* `Json.decode_written` — a whole text.
-/

set_option autoImplicit false

namespace PageImages.Json

variable {α β σ : Type}

/-- A reader reads a tree as a value. -/
def Reader.Reads (r : Reader α) (tree : Tree) (a : α) : Prop :=
  ∀ ⦃ws text rest : List Char⦄, Blank ws → Written tree text → Closed rest →
    r (ws ++ (text ++ rest)) = .ok (a, rest)

/-! ### Plain values -/

theorem Written.eq_of_natural {n : Nat} {text : List Char} (h : Written (.natural n) text) :
    text = Digits.ofNat n := by
  unfold Tree.natural at h
  cases h
  exact Numeral.chars_natural n

theorem Written.of_text {s : String} {text : List Char} (h : Written (.text s) text) :
    ∃ spelling, Spelled (signs s) spelling ∧ text = '"' :: (spelling ++ ['"']) := by
  unfold Tree.text at h
  cases h with
  | string h => exact ⟨_, h, rfl⟩

theorem Reader.Reads.map {r : Reader α} {tree : Tree} {a : α} (h : r.Reads tree a) (g : α → β) :
    (r.map g).Reads tree (g a) := by
  intro ws text rest hws htext hrest
  rw [Reader.map, h hws htext hrest]

theorem anyNumber_reads {n : Nat} (hn : n ≤ greatestNatural) (expected : String) :
    (anyNumber expected).Reads (.natural n) (.natural n) := by
  intro ws text rest hws htext hrest
  have hnumber := number_natural hn hrest
  have hblanks := htext.skipBlanks hws rest
  obtain rfl := htext.eq_of_natural
  obtain ⟨c, cs, hcs, hc⟩ := ofNat_cons n
  rw [hcs, List.cons_append] at hnumber hblanks
  rw [anyNumber, hcs, List.cons_append, hblanks]
  simp only [if_neg (letters_of_isDigit hc).2.2.2, hc, if_true, hnumber]

/-- Whole numbers up to the greatest one that is wanted. -/
theorem natural_reads {n most : Nat} (hn : n ≤ most) (hmost : most ≤ greatestNatural)
    (expected : String) : (natural expected most).Reads (.natural n) n := by
  intro ws text rest hws htext hrest
  rw [natural, anyNumber_reads (Nat.le_trans hn hmost) expected hws htext hrest]
  simp only [if_pos hn]

theorem count_reads {n : Nat} (hn : n < UInt64.size) : count.Reads (.natural n) n :=
  natural_reads (Nat.le_sub_one_of_lt hn) (Nat.le_refl _) "usize"

theorem word32_reads {n : Nat} (hn : n < UInt32.size) : word32.Reads (.natural n) n :=
  natural_reads (Nat.le_sub_one_of_lt hn) (by decide) "u32"

/-- A whole number is read as the floating-point value that is nearest to it. -/
theorem real_reads {n : Nat} (hn : n < UInt64.size) :
    real.Reads (.natural n) (Binary.ofNat n) := by
  intro ws text rest hws htext hrest
  rw [real, anyNumber_reads (Nat.le_sub_one_of_lt hn) "f64" hws htext hrest]

theorem boolean_reads (on : Bool) : boolean.Reads (.boolean on) on := by
  intro ws text rest hws htext hrest
  have hblanks := htext.skipBlanks hws rest
  cases htext
  rw [boolean, hblanks]
  cases on with
  | false =>
      show (word ['a', 'l', 's', 'e'] (['a', 'l', 's', 'e'] ++ rest)).map (false, ·) = _
      rw [word_append]
      rfl
  | true =>
      show (word ['r', 'u', 'e'] (['r', 'u', 'e'] ++ rest)).map (true, ·) = _
      rw [word_append]
      rfl

theorem quotedText_reads (s expected : String) : (quotedText expected).Reads (.text s) s := by
  intro ws text rest hws htext hrest
  have hblanks := htext.skipBlanks hws rest
  obtain ⟨spelling, hspelling, rfl⟩ := htext.of_text
  rw [quotedText, hblanks, List.cons_append, List.append_assoc]
  exact string_spelled hspelling rest

theorem text_reads (s : String) : text.Reads (.text s) s := quotedText_reads s "a string"

theorem path_reads (s : String) : path.Reads (.text s) (Path.ofString s) :=
  (quotedText_reads s "path string").map Path.ofString

theorem optional_reads_null (r : Reader α) : (optional r).Reads .null none := by
  intro ws text rest hws htext hrest
  have hblanks := htext.skipBlanks hws rest
  cases htext
  rw [optional, hblanks]
  show (word ['u', 'l', 'l'] (['u', 'l', 'l'] ++ rest)).map (none, ·) = _
  rw [word_append]
  rfl

/-- A text is not taken for nothing. -/
theorem optional_reads_text {r : Reader α} {s : String} {a : α} (h : r.Reads (.text s) a) :
    (optional r).Reads (.text s) (some a) := by
  intro ws text rest hws htext hrest
  have hblanks := htext.skipBlanks hws rest
  have hread := (h.map some) blank_nil htext hrest
  obtain ⟨spelling, _, rfl⟩ := htext.of_text
  rw [optional, hblanks]
  exact hread

/-! ### Lists -/

theorem WrittenItems.length_le {first : Bool} {items : List Tree} {cs : List Char}
    (h : WrittenItems first items cs) : items.length ≤ cs.length := by
  induction items generalizing first cs with
  | nil => exact Nat.zero_le _
  | cons item items ih =>
      cases h with
      | next ha hb hitem hrest =>
          have htail := ih hrest
          obtain ⟨c, text, rfl, _⟩ := hitem.head
          simp only [List.length_append, List.length_cons]
          omega

theorem nextItem_end {a : List Char} (ha : Blank a) (first : Bool) (rest : List Char) :
    nextItem first (a ++ ']' :: rest) = .ok none := by
  rw [nextItem, skipBlanks_append ha, skipBlanks_cons (by decide)]
  rfl

theorem nextItem_written {item : Tree} {a b text : List Char} (ha : Blank a) (hb : Blank b)
    (h : Written item text) (first : Bool) (rest : List Char) :
    nextItem first (a ++ (separator first ++ (b ++ (text ++ rest))))
      = .ok (some (text ++ rest)) := by
  obtain ⟨c, cs, rfl, hblank, hbracket⟩ := h.head
  cases first with
  | true =>
      have hblanks := h.skipBlanks (ha.append hb) rest
      rw [List.append_assoc, List.cons_append] at hblanks
      simp only [nextItem, separator, if_true, List.nil_append, hblanks, List.cons_append,
        if_neg hbracket]
  | false =>
      have hblanks := h.skipBlanks hb rest
      rw [List.cons_append] at hblanks
      rw [nextItem, skipBlanks_append ha, separator, if_neg Bool.false_ne_true, List.cons_append,
        List.nil_append, skipBlanks_cons (by decide)]
      simp [hblanks, hbracket]

/-- The items of a list are read up to its end. -/
theorem items_reads {item : Reader α} {trees : List Tree} {as : List α}
    (h : List.Forall₂ item.Reads trees as) {first : Bool} {cs : List Char}
    (hcs : WrittenItems first trees cs) {fuel : Nat} (hfuel : trees.length < fuel)
    (rest : List Char) :
    ∃ ws, Blank ws ∧ items item fuel first (cs ++ ']' :: rest) = .ok (as, ws ++ ']' :: rest) := by
  -- the bracket and the blanks before it are left for `endList`
  induction h generalizing first cs fuel with
  | nil =>
      obtain ⟨fuel, rfl⟩ := Nat.exists_eq_succ_of_ne_zero (Nat.ne_of_gt hfuel)
      cases hcs with
      | done ha =>
          refine ⟨cs, ha, ?_⟩
          rw [items, nextItem_end ha]
          rfl
  | @cons tree a trees as hread hreads ih =>
      obtain ⟨fuel, rfl⟩ := Nat.exists_eq_succ_of_ne_zero (Nat.ne_of_gt (Nat.zero_lt_of_lt hfuel))
      cases hcs with
      | @next _ _ _ before after text tail ha hb hitem htail =>
          obtain ⟨ws, hws, htailRead⟩ := ih htail (Nat.lt_of_succ_lt_succ hfuel)
          refine ⟨ws, hws, ?_⟩
          have hnext := nextItem_written ha hb hitem first (tail ++ ']' :: rest)
          have hitemRead := hread blank_nil hitem (htail.closed rest)
          rw [List.nil_append] at hitemRead
          simp only [List.append_assoc] at hnext ⊢
          simp only [items, hnext, ok_bind, hitemRead, htailRead]

theorem endList_bracket {ws : List Char} (hws : Blank ws) (rest : List Char) :
    endList (ws ++ ']' :: rest) = .ok rest := by
  rw [endList, skipBlanks_append hws, skipBlanks_cons (by decide)]
  rfl

/-- **A list is read item by item.** -/
theorem list_reads {item : Reader α} {trees : List Tree} {as : List α}
    (h : List.Forall₂ item.Reads trees as) : (list item).Reads (.list trees) as := by
  intro ws text rest hws htext hrest
  have hblanks := htext.skipBlanks hws rest
  cases htext with
  | @list _ cs hcs =>
      rw [List.cons_append, List.append_assoc] at hblanks
      have hfuel : trees.length < (cs ++ ']' :: rest).length + 1 := by
        have hlength := hcs.length_le
        simp only [List.length_append, List.length_cons]
        omega
      obtain ⟨tail, htail, hitems⟩ := items_reads h hcs hfuel rest
      rw [list, List.cons_append, List.append_assoc, hblanks]
      simp only [List.cons_append, List.nil_append, if_true, hitems, endList_bracket htail]
      rfl

/-! ### Records -/

/-- What a record makes of the members of an object, in their order: a known member changes it, any
other one is passed over, and at the end no field is missing. -/
inductive Shape.Takes (shape : Shape σ) :
    (seen : List String) → List (String × Tree) → σ → σ → Prop
  | done {seen : List String} {s : σ} (h : shape.missing? seen = none) : Takes shape seen [] s s
  | field {seen : List String} {key : String} {tree : Tree} {members : List (String × Tree)}
      {field : Field σ} {update : σ → σ} {s t : σ}
      (hfind : shape.fields.find? (·.name = key) = some field)
      (hseen : seen.contains key = false) (hread : field.read.Reads tree update)
      (hrest : Takes shape (key :: seen) members (update s) t) :
      Takes shape seen ((key, tree) :: members) s t
  | other {seen : List String} {key : String} {tree : Tree} {members : List (String × Tree)}
      {s t : σ} (hfind : shape.fields.find? (·.name = key) = none)
      (hrest : Takes shape seen members s t) : Takes shape seen ((key, tree) :: members) s t

theorem WrittenMembers.length_le {first : Bool} {members : List (List Sign × Tree)}
    {cs : List Char} (h : WrittenMembers first members cs) : members.length ≤ cs.length := by
  induction members generalizing first cs with
  | nil => exact Nat.zero_le _
  | cons member members ih =>
      cases h with
      | next ha hb hc hd hkey hvalue hrest =>
          have htail := ih hrest
          simp only [List.length_append, List.length_cons]
          omega

theorem nextKey_end {a : List Char} (ha : Blank a) (first : Bool) (rest : List Char) :
    nextKey first (a ++ '\x7d' :: rest) = .ok none := by
  rw [nextKey, skipBlanks_append ha, skipBlanks_cons (by decide)]
  rfl

theorem nextKey_mark {a b : List Char} (ha : Blank a) (hb : Blank b) (first : Bool)
    (rest : List Char) :
    nextKey first (a ++ (separator first ++ (b ++ '"' :: rest))) = .ok (some rest) := by
  cases first with
  | true =>
      rw [nextKey, skipBlanks_append ha, separator, if_pos rfl, List.nil_append,
        skipBlanks_append hb, skipBlanks_cons (by decide)]
      rfl
  | false =>
      have hblanks : skipBlanks (b ++ '"' :: rest) = '"' :: rest := by
        rw [skipBlanks_append hb, skipBlanks_cons (by decide)]
      rw [nextKey, skipBlanks_append ha, separator, if_neg Bool.false_ne_true, List.cons_append,
        List.nil_append, skipBlanks_cons (by decide)]
      simp [hblanks]

section Member

variable {shape : Shape σ} {key : String} {spelling a b c : List Char}

/-- The member of a known key changes the record. -/
theorem members_field {field : Field σ} {update : σ → σ} {seen : List String}
    {value rest : List Char} (ha : Blank a) (hb : Blank b) (hc : Blank c)
    (hkey : Spelled (signs key) spelling) (hfind : shape.fields.find? (·.name = key) = some field)
    (hseen : seen.contains key = false) (hread : field.read value = .ok (update, rest))
    (fuel : Nat) (first : Bool) (s : σ) :
    members shape (fuel + 1) first seen s
        (a ++ (separator first ++ (b ++ '"' :: (spelling ++ '"' :: (c ++ ':' :: value))))) =
      members shape fuel false (key :: seen) (update s) rest := by
  simp only [members, nextKey_mark ha hb, ok_bind, string_spelled hkey, hfind, hseen,
    Bool.false_eq_true, if_false, colon_append hc, hread]

/-- The member of any other key is passed over. -/
theorem members_other {seen : List String} {value rest : List Char} (ha : Blank a) (hb : Blank b)
    (hc : Blank c) (hkey : Spelled (signs key) spelling)
    (hfind : shape.fields.find? (·.name = key) = none) (hskip : skipValue value = .ok rest)
    (fuel : Nat) (first : Bool) (s : σ) :
    members shape (fuel + 1) first seen s
        (a ++ (separator first ++ (b ++ '"' :: (spelling ++ '"' :: (c ++ ':' :: value))))) =
      members shape fuel false seen s rest := by
  simp only [members, nextKey_mark ha hb, ok_bind, string_spelled hkey, hfind, colon_append hc,
    hskip]

theorem members_done {seen : List String} (ha : Blank a) (hmissing : shape.missing? seen = none)
    (fuel : Nat) (first : Bool) (s : σ) (rest : List Char) :
    members shape (fuel + 1) first seen s (a ++ '\x7d' :: rest) = .ok (s, a ++ '\x7d' :: rest) := by
  simp only [members, nextKey_end ha, ok_bind, hmissing]

end Member

/-- The members of an object are read up to its end. -/
theorem members_reads {shape : Shape σ} {seen : List String} {members : List (String × Tree)}
    {s t : σ} (h : shape.Takes seen members s t) {first : Bool} {cs : List Char}
    (hcs : WrittenMembers first (Tree.textKeys members) cs) {fuel : Nat}
    (hfuel : members.length < fuel) (rest : List Char) :
    ∃ ws, Blank ws ∧
      Json.members shape fuel first seen s (cs ++ '\x7d' :: rest)
        = .ok (t, ws ++ '\x7d' :: rest) := by
  induction h generalizing first cs fuel with
  | done hmissing =>
      obtain ⟨fuel, rfl⟩ := Nat.exists_eq_succ_of_ne_zero (Nat.ne_of_gt hfuel)
      cases hcs with
      | done ha =>
          exact ⟨cs, ha, members_done ha hmissing fuel first _ rest⟩
  | @field seen key tree members field update s t hfind hseen hread _ ih =>
      obtain ⟨fuel, rfl⟩ := Nat.exists_eq_succ_of_ne_zero (Nat.ne_of_gt (Nat.zero_lt_of_lt hfuel))
      cases hcs with
      | @next _ _ _ _ a b c d spelling text tail ha hb hc hd hkey hvalue htail =>
          obtain ⟨ws, hws, htailRead⟩ := ih htail (Nat.lt_of_succ_lt_succ hfuel)
          have hfieldRead := hread hd hvalue (htail.closed rest)
          refine ⟨ws, hws, ?_⟩
          simp only [List.append_assoc, List.cons_append]
          rw [members_field ha hb hc hkey hfind hseen hfieldRead]
          exact htailRead
  | @other seen key tree members s t hfind _ ih =>
      obtain ⟨fuel, rfl⟩ := Nat.exists_eq_succ_of_ne_zero (Nat.ne_of_gt (Nat.zero_lt_of_lt hfuel))
      cases hcs with
      | @next _ _ _ _ a b c d spelling text tail ha hb hc hd hkey hvalue htail =>
          obtain ⟨ws, hws, htailRead⟩ := ih htail (Nat.lt_of_succ_lt_succ hfuel)
          have hskip := skipValue_written hd hvalue (htail.closed rest)
          refine ⟨ws, hws, ?_⟩
          simp only [List.append_assoc, List.cons_append]
          rw [members_other ha hb hc hkey hfind hskip]
          exact htailRead

theorem endObject_brace {ws : List Char} (hws : Blank ws) (rest : List Char) :
    endObject (ws ++ '\x7d' :: rest) = .ok rest := by
  rw [endObject, skipBlanks_append hws, skipBlanks_cons (by decide)]
  rfl

/-- **A record is read from the members of an object.** -/
theorem record_reads {shape : Shape σ} {members : List (String × Tree)} {s : σ}
    (h : shape.Takes [] members shape.initial s) : (record shape).Reads (.record members) s := by
  intro ws text rest hws htext hrest
  have hblanks := htext.skipBlanks hws rest
  unfold Tree.record at htext
  cases htext with
  | @object _ cs hcs =>
      rw [List.cons_append, List.append_assoc] at hblanks
      have hfuel : members.length < (cs ++ '\x7d' :: rest).length + 1 := by
        have hlength := hcs.length_le
        simp only [Tree.textKeys, List.length_map, List.length_append, List.length_cons]
          at hlength ⊢
        omega
      obtain ⟨tail, htail, hmembers⟩ := members_reads h hcs hfuel rest
      rw [record, List.cons_append, List.append_assoc, hblanks]
      simp only [List.cons_append, List.nil_append]
      rw [if_neg (by decide), if_pos trivial, hmembers]
      simp only [endObject_brace htail]
      rfl

/-! ### Variants -/

/-- The name of a variant picks the variant. -/
theorem variantName_reads {pick : String → Option α} {name : String} {a : α}
    (h : pick name = some a) (known : List String) :
    (variantName known pick).Reads (.text name) a := by
  intro ws text rest hws htext hrest
  simp only [variantName, quotedText_reads name "variant identifier" hws htext hrest, ok_bind, h]

/-- A name alone stands for its variant. -/
theorem choice_reads {known : List String} {pick : String → Option α} {name : String} {a : α}
    (h : pick name = some a) : (choice known pick).Reads (.text name) a := by
  intro ws text rest hws htext hrest
  have hblanks := htext.skipBlanks hws rest
  have hname := variantName_reads h known blank_nil htext hrest
  obtain ⟨spelling, _, rfl⟩ := htext.of_text
  rw [List.nil_append, List.cons_append] at hname
  rw [List.cons_append] at hblanks
  rw [choice, variant, List.cons_append, hblanks]
  simp only
  rw [if_neg (by decide), if_pos trivial, hname]
  rfl

theorem variantKey_mark {a b : List Char} (ha : Blank a) (hb : Blank b) (rest : List Char) :
    variantKey (a ++ (b ++ '"' :: rest)) = .ok ('"' :: rest) := by
  have hkey := nextKey_mark ha hb true rest
  rw [separator, if_pos rfl, List.nil_append] at hkey
  simp only [variantKey, hkey, ok_bind]

theorem endVariant_brace {ws : List Char} (hws : Blank ws) (rest : List Char) :
    endVariant (ws ++ '\x7d' :: rest) = .ok rest := by
  rw [endVariant, skipBlanks_append hws, skipBlanks_cons (by decide)]
  rfl

/-- **An object with a name as its only key stands for the variant with a record.** -/
theorem tagged_reads {known : List String} {pick : String → Option (Reader α)} {name : String}
    {r : Reader α} {tree : Tree} {a : α} (h : pick name = some r) (hr : r.Reads tree a) :
    (tagged known pick).Reads (.record [(name, tree)]) a := by
  intro ws text rest hws htext hrest
  have hblanks := htext.skipBlanks hws rest
  unfold Tree.record at htext
  cases htext with
  | @object _ cs hcs =>
      cases hcs with
      | @next _ _ _ _ before after c d spelling text tail ha hb hc hd hkey hvalue htail =>
          cases htail with
          | done htail =>
              have hname := variantName_reads h known blank_nil
                (.string hkey) (hc.closed (closed_colon (d ++ (text ++ (tail ++ '\x7d' :: rest)))))
              have hvalueRead := hr hd hvalue (htail.closed (closed_brace rest))
              simp only [separator, if_true, List.nil_append, List.cons_append, List.append_assoc]
                at hblanks hname ⊢
              rw [tagged, variant, hblanks]
              simp only [if_true, variantKey_mark ha hb, ok_bind, hname, colon_append hc, id,
                hvalueRead, endVariant_brace htail]

/-! ### Whole texts -/

/-- **A whole text is read, with any blanks around it.** -/
theorem decode_written {r : Reader α} {tree : Tree} {a : α} (h : r.Reads tree a)
    {before text after : List Char} (hbefore : Blank before) (htext : Written tree text)
    (hafter : Blank after) :
    decode r (String.ofList (before ++ (text ++ after))) = .ok a := by
  have hread := h hbefore htext (by simpa using hafter.closed closed_nil)
  have hwhole : whole r (before ++ (text ++ after)) = .ok a := by
    simp only [whole, hread, ok_bind, skipBlanks_blank hafter]
  rw [decode, String.toList_ofList, hwhole]

end PageImages.Json
