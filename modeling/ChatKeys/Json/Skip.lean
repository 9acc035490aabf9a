/-
  ChatKeys.Json.Skip

  Passing over a value that nobody reads, such as the value of an unknown
  member.  Its grammar is checked, at any depth of nesting; the size of its
  numbers, the surrogates in its strings and their UTF-8 are not.
-/
import ChatKeys.Json.Number

namespace ChatKeys.Json.Reader

/-- Passes over a number, from its sign or first digit on. -/
def skipNumber : Reader Unit := do
  let _ ← take? [0x2d]
  let _ ← wholeDigits
  let _ ← fraction?
  let _ ← exponent?

/-- Passes over a string, from its opening quote on. -/
def skipString : Reader Unit := do
  expect 0x22
  fun s => (skipStringBody s).map fun rest => ((), rest)

mutual

/-- Passes over one value; `fuel` bounds the number of values and separators. -/
def skipValueIn : (fuel : Nat) → Reader Unit
  | 0 => malformed
  | fuel + 1 => do
    let b ← peek
    if b = 0x6e then nullWord
    else if b = 0x74 then trueWord
    else if b = 0x66 then falseWord
    else if b = 0x22 then skipString
    else if b = 0x2d || isDigit b then skipNumber
    else if b = 0x5b then
      advance
      skipElementsIn fuel true
    else if b = 0x7b then
      advance
      skipMembersIn fuel true
    else malformed

/-- Passes over the rest of an array. -/
def skipElementsIn : (fuel : Nat) → (first : Bool) → Reader Unit
  | 0, _ => malformed
  | fuel + 1, first => do
    if ← nextElement first then
      skipValueIn fuel
      skipElementsIn fuel false
    else endArray

/-- Passes over the rest of an object. -/
def skipMembersIn : (fuel : Nat) → (first : Bool) → Reader Unit
  | 0, _ => malformed
  | fuel + 1, first => do
    if ← nextMember first then
      skipString
      colon
      skipValueIn fuel
      skipMembersIn fuel false
    else endObject

end

/-- Passes over one value. Every value and every separator takes a byte, so the
    length of the input is fuel enough. -/
def skipValue : Reader Unit := fun s =>
  skipValueIn (2 * s.length + 1) s

end ChatKeys.Json.Reader
