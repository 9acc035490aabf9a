/-
  ChatKeys.Json.Number

  Numbers as the reader of integers sees them.  A number is one of three kinds:
  a natural number of at most 64 bits, a negative integer of at most 64 bits, or
  a real, which is anything with a fraction, an exponent, more digits than fit,
  or the value minus zero.

  The value of a real is of no use here, but a real that no double can hold is a
  fault of grammar.  `Magnitude.isInfinite` decides that in exact arithmetic: the
  leading digits as a double times a power of ten as a double, rounded to the
  nearest double.
-/
import ChatKeys.Json.Reader

namespace ChatKeys.Json

/-- A number by its kind. -/
inductive Number where
  | natural (n : UInt64)
  /-- Between -2 ^ 63 and -1. -/
  | negative (n : Int)
  | real
deriving DecidableEq, Repr

/-- The number as it is named in complaints. -/
def Number.found : Number → Found
  | natural n => .integer n.toNat
  | negative n => .integer n
  | real => .real

/-! ## Magnitude -/

namespace Magnitude

/-- The number rounded to 53 significant bits, a half going to the even
    neighbour. -/
def rounded (n : Nat) : Nat :=
  if n < 2 ^ 53 then n
  else
    let unit := 2 ^ (n.log2 - 52)
    let q := n / unit
    let r := n % unit
    if unit < 2 * r ∨ (unit = 2 * r ∧ q % 2 = 1) then (q + 1) * unit else q * unit

/-- Half a unit above the largest double; products from here on are infinite. -/
def bound : Nat := 2 ^ 1024 - 2 ^ 970

/-- Whether a significand times a power of ten lies beyond all doubles. -/
def isInfinite (significand : Nat) (exponent : Int) : Bool :=
  significand ≠ 0 ∧ 0 ≤ exponent ∧
    (308 < exponent ∨ bound ≤ rounded significand * rounded (10 ^ exponent.toNat))

/-- Appends digits to a significand as long as it stays within 64 bits; gives
    the significand and the number of digits left over. -/
def append : (significand : Nat) → (digits : List Nat) → Nat × Nat
  | n, [] => (n, 0)
  | n, d :: rest => if n * 10 + d < 2 ^ 64 then append (n * 10 + d) rest else (n, rest.length + 1)

end Magnitude

/-! ## Reading -/

/-- Whether a byte is a decimal digit. -/
def isDigit (b : UInt8) : Bool :=
  0x30 ≤ b && b ≤ 0x39

namespace Reader

/-- The digits in front, possibly none. -/
def digits : Reader (List Nat) := fun s =>
  .ok ((s.takeWhile isDigit).map fun b => b.toNat - 48, s.dropWhile isDigit)

/-- The digits in front, at least one. -/
def someDigits : Reader (List Nat) := do
  let ds ← digits
  if ds.isEmpty then malformed else return ds

/-- Whether the byte in front is among the given ones; if so, it is taken. -/
def take? (among : Bytes) : Reader Bool := fun s =>
  match s with
  | b :: rest => if among.contains b then .ok (true, rest) else .ok (false, s)
  | [] => .ok (false, [])

/-- The digits of a whole number: no zero stands in front of another digit. -/
def wholeDigits : Reader (List Nat) := do
  let ds ← someDigits
  if ds.head? = some 0 ∧ 1 < ds.length then malformed else return ds

/-- The fraction behind a point, if there is one. -/
def fraction? : Reader (Option (List Nat)) := do
  if ← take? [0x2e] then return some (← someDigits) else return none

/-- The sign and digits of an exponent, if there is one. -/
def exponent? : Reader (Option (Bool × List Nat)) := do
  if ← take? [0x65, 0x45] then
    if ← take? [0x2d] then return some (true, ← someDigits)
    else
      let _ ← take? [0x2b]
      return some (false, ← someDigits)
  else return none

end Reader

/-- The number that decimal digits stand for. -/
def decimal (digits : List Nat) : Nat :=
  digits.foldl (fun n d => n * 10 + d) 0

/-- Whether a number in decimal notation lies beyond all doubles. Digits that
    do not fit into 64 bits count with their place alone, and an exponent of ten
    digits or more with its sign alone. -/
def isBeyondDoubles (whole fraction : List Nat) (exponent : Option (Bool × List Nat)) : Bool :=
  let (n, dropped) := Magnitude.append 0 whole
  let (m, unread) := Magnitude.append n fraction
  -- The power of ten that the last digit of the significand counts in.
  let place : Int := dropped - (fraction.length - unread : Nat)
  match exponent with
  | none => Magnitude.isInfinite m place
  | some (negative, ds) =>
    let e := decimal ds
    if 2 ^ 31 ≤ e then m ≠ 0 ∧ !negative
    else Magnitude.isInfinite m (if negative then place - e else place + e)

/-- The kind of a number in decimal notation, if some double can hold it. -/
def Number.ofParts? (minus : Bool) (whole : List Nat) (fraction : Option (List Nat))
    (exponent : Option (Bool × List Nat)) : Option Number :=
  let n := decimal whole
  if fraction.isNone ∧ exponent.isNone ∧ n < 2 ^ 64 then
    -- Minus zero is a real, and so is an integer below -2 ^ 63.
    if minus = false then some (.natural (UInt64.ofNat n))
    else if 0 < n ∧ n ≤ 2 ^ 63 then some (.negative (-n))
    else some .real
  else if isBeyondDoubles whole (fraction.getD []) exponent then none
  else some .real

namespace Reader

/-- A number, from its sign or first digit on. -/
def number : Reader Number := do
  let minus ← take? [0x2d]
  let whole ← wholeDigits
  let fraction ← fraction?
  let exponent ← exponent?
  match Number.ofParts? minus whole fraction exponent with
  | some n => return n
  | none => malformed

/-- What a value is. Of a string, a number or a word, the grammar is checked; of an
    array or object, nothing behind its first token. -/
def found : Reader Found := do
  let b ← peek
  if b = 0x6e then
    nullWord
    return .null
  else if b = 0x74 then
    trueWord
    return .boolean true
  else if b = 0x66 then
    falseWord
    return .boolean false
  else if b = 0x22 then return .string (← string)
  else if b = 0x2d || isDigit b then return (← number).found
  else if b = 0x5b then return .array
  else if b = 0x7b then return .object
  else malformed

/-- Refuses a value of the wrong kind, unless its grammar is at fault already. -/
def mismatch {α : Type} (expected : String) : Reader α := do
  let found ← found
  fail (.invalidType found expected)

end Reader

end ChatKeys.Json
