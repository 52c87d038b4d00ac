import PageImages.Command.Value

/-!
**Reading a command line.**

Arguments are taken from left to right.  An option may have its value attached or as the next
argument, as long as that does not begin with a dash; letters without a value may be put together.
After `--` nothing is an option.  A key whose value is still to come is settled when the next key
begins or the command line ends, and an argument that does not exist is reported before it.

Main definitions:

* `Command.Request` — what a command line asks for;
* `Command.parse` — the request of a command line and an environment.
-/

set_option autoImplicit false

namespace PageImages.Command

/-- What a command line asks for. -/
inductive Request where
  /-- A run with arguments. -/
  | run (arguments : Arguments)
  /-- The version of the program. -/
  | version
  /-- Help on the program. -/
  | help

/-- Why the reading of a command line ends early. -/
inductive Stop where
  /-- Something is wrong. -/
  | refused (error : UsageError)
  /-- The version is asked for. -/
  | version
  /-- Help is asked for. -/
  | help

/-- The state of reading. -/
structure Reading where
  /-- What has been given. -/
  arguments : Arguments
  /-- The keys that have been given. -/
  given : List Key
  /-- A key that is still to be settled, with its value if that has come. -/
  pending : Option (Key × Option Octets)
  /-- Whether the argument without a name has come. -/
  positioned : Bool

namespace Reading

/-- Nothing has been read. -/
def start : Reading := ⟨Arguments.none, [], none, false⟩

/-- Takes in a key with its value, when nothing is to be settled. -/
def take (r : Reading) (key : Key) (value : Option Octets) : Except Stop Reading :=
  match value with
  | none => .error (.refused (.missingValue key))
  | some value =>
    if r.given.contains key then .error (.refused (.repeated key))
    else
      match assign r.arguments key value with
      | .ok arguments => .ok { r with arguments := arguments, given := key :: r.given }
      | .error e => .error (.refused e)

/-- Settles the key that is still to be settled. -/
def settle (r : Reading) : Except Stop Reading :=
  match r.pending with
  | none => .ok r
  | some (key, value) => { r with pending := none }.take key value

/-- Takes in a key with its value. -/
def accept (r : Reading) (key : Key) (value : Octets) : Except Stop Reading := do
  (← r.settle).take key (some value)

/-- Begins a key whose value, if it has one, has come. -/
def begin (r : Reading) (key : Key) (value : Option Octets) : Except Stop Reading := do
  return { ← r.settle with pending := some (key, value) }

/-- Takes in the argument without a name. -/
def position (r : Reading) (argument : Octets) : Except Stop Reading :=
  if r.positioned then .error (.refused (.unexpected (Utf8.lossy argument)))
  else (r.begin .settings (some argument)).map fun r => { r with positioned := true }

/-- Ends with a request that is no run. -/
def finish (r : Reading) (stop : Stop) : Except Stop Reading := do
  let _ ← r.settle
  .error stop

end Reading

/-! ### Options -/

/-- The octet of the equals sign. -/
def equalsSign : UInt8 := 0x3D

/-- The octet of the dash. -/
def dash : UInt8 := 0x2D

/-- Reads an option that is given by name: its name, and its value if it has one attached. -/
def readLong (r : Reading) (name : Octets) (value : Option Octets) : Except Stop Reading :=
  match (Utf8.decode? name).bind fun s =>
      if s = "help" then some (none, Stop.help, s)
      else if s = "version" then some (none, Stop.version, s)
      else (Key.ofLong? s).map fun key => (some key, Stop.help, s) with
  | none => .error (.refused (.unexpected ("--" ++ Utf8.lossy name)))
  | some (none, stop, s) =>
    match value with
    | some v => .error (.refused (.unexpectedValue (Utf8.lossy v) ("--" ++ s)))
    | none => r.finish stop
  | some (some key, _, _) =>
    if key.isFlag then
      match value with
      | some v => .error (.refused (.unexpectedValue (Utf8.lossy v) key.shown))
      | none => r.accept key flagValue
    else
      match value with
      | some v => r.accept key v
      | none => r.begin key none

/-- The character at the head of a sequence of octets, and what follows it. -/
def firstChar? (bytes : Octets) : Option (Char × Octets) :=
  [1, 2, 3, 4].findSome? fun n =>
    match Utf8.decodeChars? (bytes.take n) with
    | some [c] => some (c, bytes.drop n)
    | _ => none

/-- Reads options that are given by letters; `fuel` bounds their number. -/
def readCluster : (fuel : Nat) → Reading → Octets → Except Stop Reading
  | 0, r, _ => .ok r
  | fuel + 1, r, bytes =>
    if bytes.isEmpty then .ok r
    else
      match firstChar? bytes with
      | none => .error (.refused (.unexpected ("-" ++ Utf8.lossy bytes)))
      | some (c, rest) =>
        match Key.ofShort? c with
        | none =>
          if c = 'h' then r.finish .help
          else if c = 'V' then r.finish .version
          else .error (.refused (.unexpected ("-" ++ String.singleton c)))
        | some key =>
          if key.isFlag then do readCluster fuel (← r.accept key flagValue) rest
          else
            match rest with
            | [] => r.begin key none
            | b :: tail => r.accept key (if b = equalsSign then tail else b :: tail)

/-- What follows the dashes of an option that is given by name: its name, and its value. -/
def splitLong (bytes : Octets) : Octets × Option Octets :=
  match bytes.dropWhile (· ≠ equalsSign) with
  | [] => (bytes, none)
  | _ :: value => (bytes.takeWhile (· ≠ equalsSign), some value)

/-! ### The command line -/

/-- Reads an argument that is no option: the value of the key before it, or the argument without a
name. -/
def readPlain (r : Reading) (argument : Octets) : Except Stop Reading :=
  match r.pending with
  | some (key, none) => .ok { r with pending := some (key, some argument) }
  | _ => r.position argument

/-- Reads one argument in front of `--`. -/
def readArgument (r : Reading) (argument : Octets) : Except Stop Reading :=
  match argument with
  | a :: b :: rest =>
    if a = dash && b = dash then
      let (name, value) := splitLong rest
      readLong r name value
    else if a = dash then readCluster argument.length r (b :: rest)
    else readPlain r argument
  | _ => readPlain r argument

/-- Reads arguments up to the end; behind `--`, `literal` is true. -/
def readAll : (literal : Bool) → Reading → List Octets → Except Stop Reading
  | _, r, [] => r.settle
  | true, r, argument :: rest => do readAll true (← r.position argument) rest
  | false, r, argument :: rest =>
    if argument = [dash, dash] then readAll true r rest
    else do readAll false (← readArgument r argument) rest

/-- Takes a key from the environment, if it is not given and has a variable there. -/
def fromEnvironment (env : String → Option Octets) (r : Reading) (key : Key) :
    Except Stop Reading :=
  if r.given.contains key then .ok r
  else
    match key.environmentName?.bind env with
    | none => .ok r
    | some value => r.take key (some value)

/-- The request of a command line and an environment. -/
def parse (args : List Octets) (env : String → Option Octets) : Except UsageError Request :=
  match (do
    let r ← readAll false Reading.start args
    Key.all.foldlM (fromEnvironment env) r : Except Stop Reading) with
  | .ok r => .ok (.run r.arguments)
  | .error .version => .ok .version
  | .error .help => .ok .help
  | .error (.refused e) => .error e

end PageImages.Command
