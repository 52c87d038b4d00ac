import PageImages.Text.Utf8

/-!
**Paths.**

A path is a sequence of octets in which the slash separates names; it need not be text.  Empty names
and the name `.` say nothing and are passed over, except for a `.` at the very front, which is kept
when a path is taken apart and put together again.

Main definitions:

* `Path.parts` — the meaningful steps of a path;
* `Path.fileName?`, `Path.stem?`, `Path.extension?` — the last name and its two halves;
* `Path.join`, `Path.parent?`, `Path.withFileName` — building paths from paths;
* `Path.absolute?` — a path as seen from the root.
-/

set_option autoImplicit false

namespace PageImages

/-- One name in a path, without a slash. -/
abbrev Name := Octets

/-- A path: names separated by slashes. -/
structure Path where
  /-- The octets of the path. -/
  octets : Octets
deriving DecidableEq, Inhabited

namespace Path

/-- The octet that separates names. -/
def slash : UInt8 := 0x2F

/-- The octet that separates a name from its extension. -/
def dot : UInt8 := 0x2E

/-- The path written as a text. -/
def ofString (s : String) : Path := ⟨Utf8.encode s⟩

/-- The path as a text, every octet that cannot be read replaced. -/
def display (p : Path) : String := Utf8.lossy p.octets

/-- The path as a text, if it is one. -/
def text? (p : Path) : Option String := Utf8.decode? p.octets

/-- The empty path. -/
def empty : Path := ⟨[]⟩

/-! ### Taking a path apart -/

/-- The pieces of a sequence of octets between the octets `mark`. -/
def pieces (mark : UInt8) : Octets → List Octets
  | [] => [[]]
  | b :: rest =>
    if b = mark then [] :: pieces mark rest
    else
      match pieces mark rest with
      | [] => [[b]]
      | piece :: others => (b :: piece) :: others

/-- The sequence of octets with the given pieces between the octets `mark`. -/
def glue (mark : UInt8) : List Octets → Octets
  | [] => []
  | [piece] => piece
  | piece :: rest => piece ++ mark :: glue mark rest

/-- Whether a piece between slashes says nothing: it is empty or the single dot. -/
def isIdle (piece : Octets) : Bool :=
  piece = [] || piece = [dot]

/-- Whether the path starts at the root. -/
def isAbsolute (p : Path) : Bool :=
  p.octets.head? = some slash

/-- The front of a path that is no name: the slash of the root, or a single dot that stands for the
place where the path starts. -/
def front (p : Path) : Octets :=
  match p.octets with
  | [] => []
  | b :: rest =>
    if b = slash then [slash]
    else if b = dot && (rest.head?.getD slash) = slash then [dot]
    else []

/-- What follows the front of a path, in pieces. -/
def body (p : Path) : List Octets :=
  pieces slash (p.octets.drop p.front.length)

/-- One step of a path. -/
inductive Part where
  /-- To the directory above. -/
  | up
  /-- To the entry of a name. -/
  | name (n : Name)
deriving DecidableEq

/-- The step that a piece between slashes stands for. -/
def Part.ofPiece? (piece : Octets) : Option Part :=
  if isIdle piece then none
  else if piece = [dot, dot] then some .up
  else some (.name piece)

/-- The octets of a step. -/
def Part.octets : Part → Octets
  | .up => [dot, dot]
  | .name n => n

/-- The steps of a path, from where it starts. -/
def parts (p : Path) : List Part :=
  p.body.filterMap Part.ofPiece?

/-- The last name of a path, if it ends in one. -/
def fileName? (p : Path) : Option Name :=
  match p.parts.getLast? with
  | some (.name n) => some n
  | _ => none

/-- A name cut at its last dot.  A dot at the front cuts nothing off. -/
def splitName (n : Name) : Name × Option Name :=
  match (pieces dot n).reverse with
  | [] => (n, none)
  | [_] => (n, none)
  | last :: before =>
    let stem := glue dot before.reverse
    if stem = [] then (n, none) else (stem, some last)

/-- The last name without its extension. -/
def stem? (p : Path) : Option Name :=
  p.fileName?.map fun n => (splitName n).1

/-- The extension of the last name. -/
def extension? (p : Path) : Option Name :=
  p.fileName?.bind fun n => (splitName n).2

/-- The last name as a text; the whole path where there is none. -/
def displayName (p : Path) : String :=
  match p.fileName? with
  | some n => Utf8.lossy n
  | none => p.display

/-! ### Putting paths together -/

/-- The path of `p` inside the directory `folder`; an absolute `p` stands for itself. -/
def join (folder p : Path) : Path :=
  if p.isAbsolute then p
  else
    match folder.octets.getLast? with
    | none => p
    | some b =>
      if b = slash then ⟨folder.octets ++ p.octets⟩
      else ⟨folder.octets ++ slash :: p.octets⟩

/-- The pieces of a path without idle ones at the end. -/
def trimmed (body : List Octets) : List Octets :=
  (body.reverse.dropWhile isIdle).reverse

/-- The path of the directory that holds what `p` names. -/
def parent? (p : Path) : Option Path :=
  match (trimmed p.body).reverse with
  | _ :: before => some ⟨p.front ++ glue slash (trimmed before.reverse)⟩
  | [] => if p.front = [dot] then some empty else none

/-- The path with its last name replaced by `n`, or with `n` added where it has none. -/
def withFileName (p : Path) (n : Name) : Path :=
  match p.fileName?, p.parent? with
  | some _, some folder => folder.join ⟨n⟩
  | _, _ => p.join ⟨n⟩

/-- The path from the root of what `p` names when paths start at `base`: names once, no idle pieces,
a slash at the end kept.  Two slashes at the front stay two.  The empty path names nothing. -/
def absolute? (p base : Path) : Option Path :=
  if p.octets = [] then none
  else
    let start : Path :=
      match p.octets with
      | a :: b :: rest =>
        if a = slash && b = slash && rest.head? ≠ some slash then ⟨[slash, slash]⟩
        else if a = slash then ⟨[slash]⟩ else base
      | _ => if p.isAbsolute then ⟨[slash]⟩ else base
    let whole := p.parts.foldl (fun path part => path.join ⟨part.octets⟩) start
    if p.octets.getLast? = some slash then some (whole.join empty) else some whole

end Path

end PageImages
