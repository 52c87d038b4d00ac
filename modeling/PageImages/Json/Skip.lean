import PageImages.Json.Number

/-!
**Passing over a JSON value.**

A value that nobody asks for is checked for its form and otherwise ignored.  Lists and objects may be
nested to any depth.

Main definition: `Json.skipValue`.
-/

set_option autoImplicit false

namespace PageImages.Json

/-- Passes over a key with its quotation marks and the colon behind it. -/
def skipKey (cs : List Char) : Except Failure (List Char) :=
  match skipBlanks cs with
  | [] => .error (.before .endInObject [])
  | c :: rest =>
    if c = '"' then do colon (← skipString rest)
    else .error (.before .keyExpected (c :: rest))

mutual

/-- Passes over a value; `fuel` bounds the number of tokens. -/
def skipValueWith : (fuel : Nat) → List Char → Except Failure (List Char)
  | 0, _ => .error (.before .endInValue [])
  | fuel + 1, cs =>
    match skipBlanks cs with
    | [] => .error (.before .endInValue [])
    | c :: rest =>
      if c = 'n' then word ['u', 'l', 'l'] rest
      else if c = 't' then word ['r', 'u', 'e'] rest
      else if c = 'f' then word ['a', 'l', 's', 'e'] rest
      else if c = '-' then skipNumber rest
      else if Digits.isDigit c then skipNumber (c :: rest)
      else if c = '"' then skipString rest
      else if c = '[' then
        match skipBlanks rest with
        | [] => .error (.before .endInList [])
        | d :: tail =>
          if d = ']' then .ok tail
          else do skipItems fuel (← skipValueWith fuel (d :: tail))
      else if c = '\x7b' then
        match skipBlanks rest with
        | [] => .error (.before .endInObject [])
        | d :: tail =>
          if d = '\x7d' then .ok tail
          else do skipMembers fuel (← skipValueWith fuel (← skipKey (d :: tail)))
      else .error (.before .valueExpected (c :: rest))

/-- Passes over the rest of a list from behind one of its values. -/
def skipItems : (fuel : Nat) → List Char → Except Failure (List Char)
  | 0, _ => .error (.before .endInList [])
  | fuel + 1, cs =>
    match skipBlanks cs with
    | [] => .error (.before .endInList [])
    | c :: rest =>
      if c = ',' then do skipItems fuel (← skipValueWith fuel rest)
      else if c = ']' then .ok rest
      else .error (.before .listContinuationExpected (c :: rest))

/-- Passes over the rest of an object from behind one of its values. -/
def skipMembers : (fuel : Nat) → List Char → Except Failure (List Char)
  | 0, _ => .error (.before .endInObject [])
  | fuel + 1, cs =>
    match skipBlanks cs with
    | [] => .error (.before .endInObject [])
    | c :: rest =>
      if c = ',' then do skipMembers fuel (← skipValueWith fuel (← skipKey rest))
      else if c = '\x7d' then .ok rest
      else .error (.before .objectContinuationExpected (c :: rest))

end

/-- Passes over a value. -/
def skipValue (cs : List Char) : Except Failure (List Char) :=
  skipValueWith (cs.length + 1) cs

end PageImages.Json
