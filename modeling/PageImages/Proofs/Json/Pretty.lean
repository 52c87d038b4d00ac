import PageImages.Json.Value
import PageImages.Proofs.Json.Grammar

/-!
**Printed values are JSON texts.**

Main definition: `Json.Value.tree`, the value of any kind that a printed value is.

Main results:

* `Json.spelled_escapeChar` — a string is spelled by its escapes;
* `Json.Value.written` — **what is printed is a text of the value.**
-/

set_option autoImplicit false

namespace PageImages.Json

mutual

/-- A value as one of any kind. -/
def Value.tree : Value → Tree
  | .null => .null
  | .number n => .natural n
  | .string s => .text s
  | .list items => .list (itemTrees items)
  | .object members => .record (memberTrees members)

/-- The items of a list. -/
def itemTrees : List Value → List Tree
  | [] => []
  | item :: items => item.tree :: itemTrees items

/-- The members of an object. -/
def memberTrees : List (String × Value) → List (String × Tree)
  | [] => []
  | (key, value) :: members => (key, value.tree) :: memberTrees members

end

/-! ### Strings -/

theorem hexDigit_of_lt {n : Nat} (h : n < 16) : HexDigit (Digits.hexDigit n) n := by
  have hdigits : ∀ k : Fin 16, (hexDigits false)[k.val]? = some (Digits.hexDigit k.val) := by decide
  exact ⟨false, hdigits ⟨n, h⟩⟩

/-- Four hexadecimal digits spell a number. -/
theorem hexUnit_hex {n : Nat} (h : n < 0x10000) : HexUnit (Digits.hex 4 n) n := by
  have hdigit : ∀ k, HexDigit (Digits.hexDigit (k % 16)) (k % 16) := fun k =>
    hexDigit_of_lt (Nat.mod_lt k (by decide))
  have hunit := HexUnit.of (hdigit (n / 16 / 16 / 16)) (hdigit (n / 16 / 16)) (hdigit (n / 16))
    (hdigit n)
  have hvalue : 16 * (16 * (16 * (n / 16 / 16 / 16 % 16) + n / 16 / 16 % 16) + n / 16 % 16) + n % 16
      = n := by omega
  rw [hvalue] at hunit
  exact hunit

/-- A character is spelled by its escape, in front of whatever follows. -/
theorem spelled_escapeChar (c : Char) {signs : List Sign} {cs : List Char}
    (h : Spelled signs cs) : Spelled (.char c :: signs) (escapeChar c ++ cs) := by
  have hletter : ∀ d, (d, c) ∈ escapes → Spelled (.char c :: signs) (['\\', d] ++ cs) :=
    fun _ hd => .letter hd h
  unfold escapeChar
  repeat'
    refine iteInduction (motive := fun escape => Spelled (.char c :: signs) (escape ++ cs))
      (fun hc => ?_) fun hc => ?_
  · exact hletter _ (by rw [hc]; decide)
  · exact hletter _ (by rw [hc]; decide)
  · exact hletter _ (by rw [hc]; decide)
  · exact hletter _ (by rw [hc]; decide)
  · exact hletter _ (by rw [hc]; decide)
  · exact hletter _ (by rw [hc]; decide)
  · exact hletter _ (by rw [hc]; decide)
  · exact .unit (by omega) (hexUnit_hex (by omega)) h
  · exact .plain (by omega) ‹_› ‹_› h

theorem spelled_flatMap (s : String) : Spelled (signs s) (s.toList.flatMap escapeChar) := by
  rw [signs]
  induction s.toList with
  | nil => exact .nil
  | cons c cs ih => exact spelled_escapeChar c ih

theorem written_natural (n : Nat) : Written (.natural n) (Digits.ofNat n) := by
  have h := Written.number (.natural n)
  rwa [Numeral.chars_natural] at h

theorem written_writeString (s : String) : Written (.text s) (writeString s) :=
  .string (spelled_flatMap s)

/-! ### Values -/

theorem blank_newLine (level : Nat) : Blank (newLine level) := by
  intro c hc
  rcases List.mem_cons.1 hc with rfl | hc
  · decide
  · rw [List.eq_of_mem_replicate hc]
    decide

theorem blank_space : Blank [' '] := by
  intro c hc
  rw [List.mem_singleton.1 hc]
  decide

mutual

/-- **What is printed is a text of the value.** -/
theorem Value.written (level : Nat) : (v : Value) → Written v.tree (v.write level)
  | .null => by
      rw [Value.tree, Value.write]
      exact .null
  | .number n => by
      rw [Value.tree, Value.write]
      exact written_natural n
  | .string s => by
      rw [Value.tree, Value.write]
      exact written_writeString s
  | .list [] => by
      rw [Value.tree, Value.write, itemTrees]
      exact .list (.done blank_nil)
  | .list (item :: items) => by
      have hitem := Value.written (level + 1) item
      have hitems := writtenItems (level + 1) items (blank_newLine level)
      have h := Written.list (.next (blank_newLine (level + 1)) blank_nil hitem hitems)
      rw [Value.tree, Value.write, itemTrees]
      simpa only [separator, if_true, List.nil_append, List.append_assoc] using h
  | .object [] => by
      rw [Value.tree, Value.write, memberTrees]
      exact .object (.done blank_nil)
  | .object ((key, value) :: members) => by
      have hvalue := Value.written (level + 1) value
      have hmembers := writtenMembers (level + 1) members (blank_newLine level)
      have h := Written.object (.next (blank_newLine (level + 1)) blank_nil blank_nil blank_space
        (spelled_flatMap key) hvalue hmembers)
      rw [Value.tree, Value.write, memberTrees, writeString, Tree.record, Tree.textKeys_cons]
      simpa only [separator, if_true, List.nil_append, List.append_assoc, List.cons_append] using h

/-- The items behind the first one, up to the end of the list. -/
theorem writtenItems (level : Nat) {z : List Char} :
    (items : List Value) → Blank z →
      WrittenItems false (itemTrees items) (writeItems level items ++ z)
  | [], hz => by
      rw [itemTrees, writeItems]
      exact .done hz
  | item :: items, hz => by
      have hitem := Value.written level item
      have hitems := writtenItems level items hz
      have h : WrittenItems false _ _ := .next blank_nil (blank_newLine level) hitem hitems
      rw [itemTrees, writeItems]
      simpa only [separator, Bool.false_eq_true, if_false, List.nil_append, List.append_assoc,
        List.cons_append] using h

theorem writtenMembers (level : Nat) {z : List Char} :
    (members : List (String × Value)) → Blank z →
      WrittenMembers false (Tree.textKeys (memberTrees members)) (writeMembers level members ++ z)
  | [], hz => by
      rw [memberTrees, writeMembers]
      exact .done hz
  | (key, value) :: members, hz => by
      have hvalue := Value.written level value
      have hmembers := writtenMembers level members hz
      have h : WrittenMembers false _ _ := .next blank_nil (blank_newLine level) blank_nil
        blank_space (spelled_flatMap key) hvalue hmembers
      rw [memberTrees, writeMembers, writeString, Tree.textKeys_cons]
      simpa only [separator, Bool.false_eq_true, if_false, List.nil_append, List.append_assoc,
        List.cons_append] using h

end

end PageImages.Json
