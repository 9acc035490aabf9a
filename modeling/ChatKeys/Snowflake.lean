/-
  ChatKeys.Snowflake

  Time-ordered 64-bit identifiers: the milliseconds since the start of December
  2014 in the upper 42 bits, random bits in the lower 22.

    * `Snowflake.ofTime` / `Snowflake.time` — from and to the clock;
    * `Snowflake.text` / `Snowflake.parse` — thirteen lower-case digits to base
      36, filled up with zeros, so that texts sort as the numbers do; reading
      also takes shorter texts.
-/
import ChatKeys.Time
import ChatKeys.Text.Quoted

namespace ChatKeys

/-- A time-ordered identifier. -/
structure Snowflake where
  value : UInt64
deriving DecidableEq, Repr, Inhabited

namespace Snowflake

/-- The start of December 2014 in milliseconds since the start of 1970. -/
def epochMillis : Nat := 1417392000000

def textLength : Nat := 13

instance : Ord Snowflake := ⟨fun a b => compare a.value b.value⟩

instance : LT Snowflake := ⟨fun a b => a.value < b.value⟩

instance (a b : Snowflake) : Decidable (a < b) := inferInstanceAs (Decidable (a.value < b.value))

/-! ## Time -/

/-- The identifier for a point in time, with its low bits taken from a random
    word. Earlier points than the epoch count as the epoch. -/
def ofTime (t : Time) (random : UInt64) : Snowflake :=
  let millis := t.millis % 2 ^ 64 - epochMillis
  ⟨UInt64.ofNat millis <<< 22 ||| (random &&& 0x3fffff)⟩

/-- The point in time that an identifier holds, to the millisecond. -/
def time (s : Snowflake) : Time where
  ns := ((s.value >>> 22).toNat + epochMillis : Nat) * 1000000
  le_ns := by simp only [nsPerSecond]; omega
  ns_lt := by
    have h : (s.value >>> 22).toNat < 2 ^ 42 := by
      rw [UInt64.toNat_shiftRight]
      have := s.value.toNat_lt
      simp only [UInt64.reduceToNat, Nat.reduceMod, Nat.shiftRight_eq_div_pow]
      omega
    simp only [nsPerSecond, epochMillis]
    omega

/-! ## Text -/

/-- The digit of a number below 36. -/
def digit (n : Nat) : Char :=
  if n < 10 then Char.ofNat (48 + n) else Char.ofNat (87 + n)

/-- The number of a digit. -/
def digitValue? (c : Char) : Option Nat :=
  let n := c.toNat
  if 48 ≤ n ∧ n ≤ 57 then some (n - 48)
  else if 97 ≤ n ∧ n ≤ 122 then some (n - 87)
  else none

/-- The lowest `width` digits of a number, highest first. -/
def digits : (width : Nat) → Nat → List Char
  | 0, _ => []
  | width + 1, n => digits width (n / 36) ++ [digit (n % 36)]

/-- The number that a sequence of digits stands for, behind a number already
    read; none if a character is no digit. -/
def readDigits? : (start : Nat) → List Char → Option Nat
  | n, [] => some n
  | n, c :: rest => do readDigits? (n * 36 + (← digitValue? c)) rest

def text (s : Snowflake) : String :=
  String.ofList (digits textLength s.value.toNat)

/-- A text that is no identifier. -/
structure ParseError where
  text : String
deriving DecidableEq, Repr

/-- The wording of the refusal, which quotes the text. -/
def ParseError.message (e : ParseError) : String :=
  "invalid snowflake: " ++ Text.quoted e.text

/-- The number that a text of one to thirteen digits stands for, if it fits. -/
def parse? (s : String) : Option Snowflake := do
  let cs := s.toList
  guard (1 ≤ cs.length ∧ cs.length ≤ textLength)
  let n ← readDigits? 0 cs
  guard (n < 2 ^ 64)
  return ⟨UInt64.ofNat n⟩

/-- Reads a text form. -/
def parse (s : String) : Except ParseError Snowflake :=
  match parse? s with
  | some id => .ok id
  | none => .error ⟨s⟩

theorem length_digits (width n : Nat) : (digits width n).length = width := by
  induction width generalizing n with
  | zero => rfl
  | succ w ih => simp [digits, ih]

theorem digitValue?_digit : ∀ n < 36, digitValue? (digit n) = some n := by
  decide

end Snowflake

end ChatKeys
