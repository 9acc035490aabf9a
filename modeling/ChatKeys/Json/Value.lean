/-
  ChatKeys.Json.Value

  What is written: JSON values and their compact text.  Members keep their
  order, nothing is put between tokens, and inside a string only quotes,
  backslashes and control characters are escaped.
-/
import ChatKeys.Bytes

namespace ChatKeys.Json

/-- A JSON value, as far as this library writes any. -/
inductive Value where
  | null
  | bool (b : Bool)
  | integer (n : Int)
  | string (s : String)
  | object (members : List (String × Value))

/-- How one character is written inside a string. -/
def escaped (c : Char) : List Char :=
  if c = '"' then ['\\', '"']
  else if c = '\\' then ['\\', '\\']
  else if c = '\x08' then ['\\', 'b']
  else if c = '\t' then ['\\', 't']
  else if c = '\n' then ['\\', 'n']
  else if c = '\x0c' then ['\\', 'f']
  else if c = '\r' then ['\\', 'r']
  else if c.toNat < 0x20 then
    ['\\', 'u', '0', '0', Nat.digitChar (c.toNat / 16), Nat.digitChar (c.toNat % 16)]
  else [c]

/-- A string between quotes. -/
def stringChars (s : String) : List Char :=
  '"' :: s.toList.flatMap escaped ++ ['"']

/-- An integer in decimal. -/
def integerChars (n : Int) : List Char :=
  if n < 0 then '-' :: Nat.toDigits 10 n.natAbs else Nat.toDigits 10 n.natAbs

mutual

/-- The compact text of a value, as a list of characters. -/
def Value.chars : Value → List Char
  | .null => ['n', 'u', 'l', 'l']
  | .bool true => ['t', 'r', 'u', 'e']
  | .bool false => ['f', 'a', 'l', 's', 'e']
  | .integer n => integerChars n
  | .string s => stringChars s
  | .object members => '{' :: membersChars true members ++ ['}']

/-- The members of an object, each but the first behind a comma. -/
def membersChars : (first : Bool) → List (String × Value) → List Char
  | _, [] => []
  | first, (name, v) :: rest =>
    (if first then [] else [',']) ++ stringChars name ++ ':' :: v.chars
      ++ membersChars false rest

end

/-- The compact text of a value. -/
def Value.render (v : Value) : String :=
  String.ofList v.chars

end ChatKeys.Json
