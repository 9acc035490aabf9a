/-
  ChatKeys.Json.Reader

  Reading JSON from bytes, from front to back: a `Reader` takes a value off the
  front of the input and leaves the rest, and the first fault in document order
  ends the reading.

    * `peek`, `expect`, `literal` — white space and single tokens;
    * `string` — a string with its escapes, which must be UTF-8;
    * `nextElement`, `nextMember` — where an array or an object stands;
    * `endArray`, `endObject` — its end;
    * `read` — a whole document with nothing but white space behind it.
-/
import ChatKeys.Json.Error
import ChatKeys.Text.Hex

namespace ChatKeys.Json

/-- Takes a value off the front of the input. -/
abbrev Reader (α : Type) := StateT Bytes (Except Error) α

namespace Reader

def fail {α : Type} (e : Error) : Reader α := fun _ => .error e

def malformed {α : Type} : Reader α := fail .malformed

/-- Takes what a plain result holds, or refuses as it does. -/
def ofExcept {α : Type} : Except Error α → Reader α
  | .ok a => pure a
  | .error e => fail e

end Reader

/-! ## White space and tokens -/

/-- Space, tab, line feed and carriage return. -/
def isSpace (b : UInt8) : Bool :=
  b = 0x20 || b = 0x09 || b = 0x0a || b = 0x0d

/-- The input behind its leading white space. -/
def skipSpace (s : Bytes) : Bytes :=
  s.dropWhile isSpace

namespace Reader

/-- Skips white space and looks at the byte behind it, which stays in place. -/
def peek : Reader UInt8 := fun s =>
  match skipSpace s with
  | [] => .error .malformed
  | b :: rest => .ok (b, b :: rest)

def advance : Reader Unit := fun s => .ok ((), s.tail)

/-- Skips white space and takes the given byte. -/
def expect (b : UInt8) : Reader Unit := do
  if (← peek) = b then advance else malformed

/-- Takes exactly the given bytes. -/
def literal (word : Bytes) : Reader Unit := fun s =>
  if s.take word.length = word then .ok ((), s.drop word.length) else .error .malformed

def nullWord : Reader Unit := literal [0x6e, 0x75, 0x6c, 0x6c]

def trueWord : Reader Unit := literal [0x74, 0x72, 0x75, 0x65]

def falseWord : Reader Unit := literal [0x66, 0x61, 0x6c, 0x73, 0x65]

end Reader

/-! ## Strings -/

/-- The number of four hexadecimal digits. -/
def hexNumber? (a b c d : UInt8) : Option Nat := do
  let value (x : UInt8) := Hex.value? (Char.ofNat x.toNat)
  return (((← value a) * 16 + (← value b)) * 16 + (← value c)) * 16 + (← value d)

/-- What the letter behind a backslash stands for, other than `u`. -/
def simpleEscape? (b : UInt8) : Option UInt8 :=
  if b = 0x22 then some 0x22
  else if b = 0x5c then some 0x5c
  else if b = 0x2f then some 0x2f
  else if b = 0x62 then some 0x08
  else if b = 0x66 then some 0x0c
  else if b = 0x6e then some 0x0a
  else if b = 0x72 then some 0x0d
  else if b = 0x74 then some 0x09
  else none

/-- The bytes of the character with a given number. -/
def characterBytes (n : Nat) : Bytes :=
  String.utf8EncodeChar (Char.ofNat n)

/-- The bytes in front of a result. -/
def prependTo (front : Bytes) : Except Error (Bytes × Bytes) → Except Error (Bytes × Bytes)
  | .ok (text, rest) => .ok (front ++ text, rest)
  | .error e => .error e

/-- The bytes of a string and the input behind it, from behind its opening
    quote. A character beyond the first 65536 is escaped as a pair of
    surrogates; a surrogate on its own is a fault. -/
def stringBody : Bytes → Except Error (Bytes × Bytes)
  | [] => .error .malformed
  | 0x22 :: rest => .ok ([], rest)
  | 0x5c :: 0x75 :: a :: b :: c :: d :: rest =>
    match hexNumber? a b c d with
    | none => .error .malformed
    | some n =>
      -- The second half of a pair cannot come first.
      if 0xdc00 ≤ n ∧ n ≤ 0xdfff then .error .malformed
      else if n < 0xd800 ∨ 0xdbff < n then prependTo (characterBytes n) (stringBody rest)
      else
        -- The first half of a pair: the second half must be escaped right behind it.
        match rest with
        | 0x5c :: 0x75 :: a :: b :: c :: d :: rest =>
          match hexNumber? a b c d with
          | none => .error .malformed
          | some m =>
            if 0xdc00 ≤ m ∧ m ≤ 0xdfff then
              prependTo (characterBytes ((n - 0xd800) * 1024 + (m - 0xdc00) + 0x10000))
                (stringBody rest)
            else .error .malformed
        | _ => .error .malformed
  -- An escape by letter; a `u` with fewer than four bytes behind it ends up here as well.
  | 0x5c :: e :: rest =>
    match simpleEscape? e with
    | none => .error .malformed
    | some b => prependTo [b] (stringBody rest)
  -- Everything else stands for itself, be it a part of a longer character or not.
  | b :: rest => if b < 0x20 ∨ b = 0x5c then .error .malformed else prependTo [b] (stringBody rest)

/-- The input behind a string that nobody reads, from behind its opening quote:
    escapes must be well-formed, but surrogates need no partner and the bytes
    need not be UTF-8. -/
def skipStringBody : Bytes → Except Error Bytes
  | [] => .error .malformed
  | 0x22 :: rest => .ok rest
  | 0x5c :: 0x75 :: a :: b :: c :: d :: rest =>
    if (hexNumber? a b c d).isSome then skipStringBody rest else .error .malformed
  | 0x5c :: e :: rest =>
    if (simpleEscape? e).isSome then skipStringBody rest else .error .malformed
  | b :: rest => if b < 0x20 ∨ b = 0x5c then .error .malformed else skipStringBody rest

namespace Reader

/-- A string, from its opening quote on. -/
def string : Reader String := fun s =>
  match s with
  | 0x22 :: rest =>
    match stringBody rest with
    | .error e => .error e
    | .ok (text, rest) =>
      match Bytes.toString? text with
      | some t => .ok (t, rest)
      | none => .error .malformed
  | _ => .error .malformed

/-! ## Arrays and objects -/

/-- Whether an array has another element; if so, the input stands in front of
    it, else in front of the closing bracket. -/
def nextElement (first : Bool) : Reader Bool := do
  let b ← peek
  if b = 0x5d then return false
  else if first then return true
  else if b = 0x2c then
    advance
    if (← peek) = 0x5d then malformed else return true
  else malformed

/-- Whether an object has another member; if so, the input stands in front of
    its name, else in front of the closing brace. -/
def nextMember (first : Bool) : Reader Bool := do
  let b ← peek
  if b = 0x7d then return false
  else if first then
    if b = 0x22 then return true else malformed
  else if b = 0x2c then
    advance
    if (← peek) = 0x22 then return true else malformed
  else malformed

def endArray : Reader Unit := expect 0x5d

def endObject : Reader Unit := expect 0x7d

def colon : Reader Unit := expect 0x3a

end Reader

/-! ## Documents -/

/-- Reads a whole document. -/
def read {α : Type} (r : Reader α) (document : Bytes) : Except Error α :=
  match r document with
  | .error e => .error e
  | .ok (a, rest) => if skipSpace rest = [] then .ok a else .error .malformed

end ChatKeys.Json
