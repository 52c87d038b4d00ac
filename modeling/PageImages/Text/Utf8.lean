/-!
**UTF-8, read leniently or strictly, and written.**

File names are sequences of octets and need not be text.  `Utf8.scan` reads a sequence of octets as
a sequence of characters and of faults, where a fault is a maximal run of octets that begins a
character and breaks off; the two readers differ only in what they make of a fault.

Main definitions:

* `Utf8.scan` — the characters and faults of a sequence of octets;
* `Utf8.decode?` — the text of a sequence of octets, if it has no fault;
* `Utf8.lossy` — the text in which every fault is one replacement character;
* `Utf8.encode` — the octets of a text.
-/

set_option autoImplicit false

namespace PageImages

/-- A sequence of octets, as a file name or the contents of a file. -/
abbrev Octets := List UInt8

namespace Utf8

/-! ### Writing -/

/-- The continuation octet that carries the low six bits of `bits`. -/
def continuation (bits : Nat) : UInt8 :=
  UInt8.ofNat (0x80 + bits % 64)

/-- The octets of one character. -/
def encodeChar (c : Char) : Octets :=
  let n := c.toNat
  if n < 0x80 then [UInt8.ofNat n]
  else if n < 0x800 then [UInt8.ofNat (0xC0 + n / 64), continuation n]
  else if n < 0x10000 then
    [UInt8.ofNat (0xE0 + n / 4096), continuation (n / 64), continuation n]
  else
    [UInt8.ofNat (0xF0 + n / 262144), continuation (n / 4096), continuation (n / 64),
      continuation n]

/-- The octets of a sequence of characters. -/
def encodeChars (cs : List Char) : Octets :=
  cs.flatMap encodeChar

/-- The octets of a text. -/
def encode (s : String) : Octets :=
  encodeChars s.toList

/-- The number of octets one character takes. -/
def width (c : Char) : Nat :=
  let n := c.toNat
  if n < 0x80 then 1 else if n < 0x800 then 2 else if n < 0x10000 then 3 else 4

/-- The number of octets a sequence of characters takes. -/
def widths (cs : List Char) : Nat :=
  cs.foldl (fun n c => n + width c) 0

/-! ### Reading -/

/-- A character of which the first octets have been read. -/
structure Begun where
  /-- The bits read so far. -/
  bits : Nat
  /-- The octets that are wanted after the next one. -/
  more : Nat
  /-- The least octet that can come next. -/
  low : UInt8
  /-- The greatest octet that can come next. -/
  high : UInt8

/-- What one octet is at the start of a character. -/
inductive Lead where
  /-- The octet is a character of its own. -/
  | whole (c : Char)
  /-- The octet begins a longer character. -/
  | begun (b : Begun)
  /-- No character begins with the octet. -/
  | stray

/-- The role of `b` at the start of a character.  The ranges of the second octet leave out the
overlong forms, the surrogates and all that lies beyond the last code point. -/
def lead (b : UInt8) : Lead :=
  if b < 0x80 then .whole (Char.ofNat b.toNat)
  else if b < 0xC2 then .stray
  else if b < 0xE0 then .begun ⟨b.toNat % 32, 0, 0x80, 0xBF⟩
  else if b = 0xE0 then .begun ⟨0, 1, 0xA0, 0xBF⟩
  else if b = 0xED then .begun ⟨13, 1, 0x80, 0x9F⟩
  else if b < 0xF0 then .begun ⟨b.toNat % 16, 1, 0x80, 0xBF⟩
  else if b = 0xF0 then .begun ⟨0, 2, 0x90, 0xBF⟩
  else if b < 0xF4 then .begun ⟨b.toNat % 8, 2, 0x80, 0xBF⟩
  else if b = 0xF4 then .begun ⟨4, 2, 0x80, 0x8F⟩
  else .stray

/-- The characters of a sequence of octets, `none` for each fault.  `pending` is the character that
the octets before the sequence have begun. -/
def scan : Option Begun → Octets → List (Option Char)
  | none, [] => []
  | some _, [] => [none]
  | pending, b :: rest =>
    match pending with
    | some p =>
      if p.low ≤ b && b ≤ p.high then
        let bits := p.bits * 64 + b.toNat % 64
        match p.more with
        | 0 => some (Char.ofNat bits) :: scan none rest
        | more + 1 => scan (some ⟨bits, more, 0x80, 0xBF⟩) rest
      else
        match lead b with
        | .whole c => none :: some c :: scan none rest
        | .begun q => none :: scan (some q) rest
        | .stray => none :: none :: scan none rest
    | none =>
      match lead b with
      | .whole c => some c :: scan none rest
      | .begun q => scan (some q) rest
      | .stray => none :: scan none rest

/-- The characters of a sequence of octets, if every octet belongs to one. -/
def decodeChars? (bytes : Octets) : Option (List Char) :=
  (scan none bytes).mapM id

/-- The text of a sequence of octets, if every octet belongs to a character. -/
def decode? (bytes : Octets) : Option String :=
  (decodeChars? bytes).map String.ofList

/-- The character that stands for what cannot be read. -/
def replacement : Char := Char.ofNat 0xFFFD

/-- The characters of a sequence of octets, every fault replaced. -/
def lossyChars (bytes : Octets) : List Char :=
  (scan none bytes).map (·.getD replacement)

/-- The text of a sequence of octets, every fault replaced. -/
def lossy (bytes : Octets) : String :=
  String.ofList (lossyChars bytes)

end Utf8

end PageImages
