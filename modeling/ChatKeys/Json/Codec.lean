/-
  ChatKeys.Json.Codec

  A codec pairs the reading of a type with its writing, so that each stored
  shape is described once.

    * `string`, `bool`, `uint32`, `uint64`, `size`, `int64` — scalars;
    * `choice` — a closed set of names;
    * `option` — a value or nothing, which is `null`;
    * `refine` — a codec seen through a partial conversion;
    * `bytes` — byte strings as base64 text.
-/
import ChatKeys.Json.Skip
import ChatKeys.Json.Value
import ChatKeys.Text.Base64

namespace ChatKeys.Json

/-- How a type is read and written. -/
structure Codec (α : Type) where
  reader : Reader α
  writer : α → Except WriteError Value

namespace Codec

/-- Reads a document. -/
def decode {α : Type} (c : Codec α) (document : Bytes) : Except Error α :=
  read c.reader document

/-- Reads a document that is given as text. -/
def decodeText {α : Type} (c : Codec α) (document : String) : Except Error α :=
  c.decode (Bytes.ofString document)

/-- Writes a document. -/
def encode {α : Type} (c : Codec α) (a : α) : Except WriteError String :=
  (c.writer a).map Value.render

/-- The text of a value that can be written; empty for one that cannot. -/
def text {α : Type} (c : Codec α) (a : α) : String :=
  match c.encode a with
  | .ok text => text
  | .error _ => ""

/-- The codec of a type whose values are checked and converted after reading. -/
def refine {α β : Type} (c : Codec α) (build : α → Except Error β) (view : β → α) : Codec β where
  reader := do Reader.ofExcept (build (← c.reader))
  writer b := c.writer (view b)

/-! ## Scalars -/

/-- Strings. -/
def string : Codec String where
  reader := do
    if (← Reader.peek) = 0x22 then Reader.string else Reader.mismatch "a string"
  writer s := .ok (.string s)

/-- Truth values. -/
def bool : Codec Bool where
  reader := do
    let b ← Reader.peek
    if b = 0x74 then
      Reader.trueWord
      return true
    else if b = 0x66 then
      Reader.falseWord
      return false
    else Reader.mismatch "a boolean"
  writer b := .ok (.bool b)

/-- Reads a number and hands natural and negative ones on; a real or anything
    else is of the wrong kind. -/
def integerReader {α : Type} (expected : String) (natural : UInt64 → Option α)
    (negative : Int → Option α) : Reader α := do
  let b ← Reader.peek
  if b = 0x2d || isDigit b then
    let number ← Reader.number
    let answer (a : Option α) : Reader α :=
      match a with
      | some a => pure a
      | none => Reader.fail (.invalidValue number.found expected)
    match number with
    | .natural n => answer (natural n)
    | .negative n => answer (negative n)
    | .real => Reader.fail (.invalidType number.found expected)
  else Reader.mismatch expected

/-- Natural numbers of 32 bits. -/
def uint32 : Codec UInt32 where
  reader := integerReader "u32"
    (fun n => if n.toNat < 2 ^ 32 then some n.toUInt32 else none) (fun _ => none)
  writer n := .ok (.integer n.toNat)

/-- Natural numbers of 64 bits. -/
def uint64 : Codec UInt64 where
  reader := integerReader "u64" some (fun _ => none)
  writer n := .ok (.integer n.toNat)

/-- Sizes: natural numbers of 64 bits under another name. -/
def size : Codec UInt64 where
  reader := integerReader "usize" some (fun _ => none)
  writer n := .ok (.integer n.toNat)

/-- Integers of 64 bits. -/
def int64 : Codec Int64 where
  reader := integerReader "i64"
    (fun n => if n.toNat < 2 ^ 63 then some (Int64.ofNat n.toNat) else none)
    (fun n => some (Int64.ofInt n))
  writer n := .ok (.integer n.toInt)

/-! ## Composite shapes -/

/-- A value or nothing. -/
def option {α : Type} (c : Codec α) : Codec (Option α) where
  reader := do
    if (← Reader.peek) = 0x6e then
      Reader.nullWord
      return none
    else return some (← c.reader)
  writer
    | some a => c.writer a
    | none => .ok .null

/-- The variant of a given name. -/
def variantNamed {α : Type} (variants : List (String × α)) (name : String) : Except Error α :=
  match variants.lookup name with
  | some a => .ok a
  | none => .error (.unknownVariant name (variants.map Prod.fst))

/-- One of a closed set of names: a string, or an object whose only member has
    that name and no value. -/
def choice {α : Type} (variants : List (String × α)) (label : α → String) : Codec α where
  reader := do
    let b ← Reader.peek
    if b = 0x22 then
      Reader.ofExcept (variantNamed variants (← Reader.string))
    else if b = 0x7b then
      Reader.advance
      -- A member's name is a string; anything else is a fault of grammar here too.
      let name ← if (← Reader.peek) = 0x22 then Reader.string else Reader.malformed
      let a ← Reader.ofExcept (variantNamed variants name)
      Reader.colon
      if (← Reader.peek) = 0x6e then Reader.nullWord else Reader.mismatch "unit"
      Reader.endObject
      return a
    else Reader.malformed
  writer a := .ok (.string (label a))

/-- Byte strings as base64 text. -/
def bytes : Codec Bytes :=
  string.refine
    (fun text =>
      match Base64.decode? text with
      | some b => .ok b
      | none => .error .invalidBase64)
    Base64.encode

/-- Identifiers by their text form. -/
def snowflake : Codec Snowflake :=
  string.refine (fun text => (Snowflake.parse text).mapError .invalidSnowflake) Snowflake.text

end Codec

end ChatKeys.Json
