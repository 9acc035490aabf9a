/-
  ChatKeys.Text.Base64

  Base64 with the URL-safe alphabet and padding, the text form of every stored
  byte string.  `decode?` takes the canonical form alone: whole groups of four,
  padding where and only where it is due, and no bit set that encoding leaves
  zero.
-/
import ChatKeys.Bytes

namespace ChatKeys.Base64

/-- The digit of a number below 64. -/
def digit (n : Nat) : Char :=
  if n < 26 then Char.ofNat (65 + n)
  else if n < 52 then Char.ofNat (71 + n)
  else if n < 62 then Char.ofNat (n - 4)
  else if n = 62 then '-'
  else '_'

/-- The number of a digit. -/
def value? (c : Char) : Option Nat :=
  let n := c.toNat
  if 65 ≤ n ∧ n ≤ 90 then some (n - 65)
  else if 97 ≤ n ∧ n ≤ 122 then some (n - 71)
  else if 48 ≤ n ∧ n ≤ 57 then some (n + 4)
  else if c = '-' then some 62
  else if c = '_' then some 63
  else none

/-- The text of a byte string: four digits for three bytes, and the last one or
    two bytes as two or three digits filled up with padding. -/
def encodeChars : Bytes → List Char
  | [] => []
  | [a] =>
    let n := a.toNat * 16
    [digit (n / 64), digit (n % 64), '=', '=']
  | [a, b] =>
    let n := (a.toNat * 256 + b.toNat) * 4
    [digit (n / 4096), digit (n / 64 % 64), digit (n % 64), '=']
  | a :: b :: c :: rest =>
    let n := a.toNat * 65536 + b.toNat * 256 + c.toNat
    digit (n / 262144) :: digit (n / 4096 % 64) :: digit (n / 64 % 64) :: digit (n % 64)
      :: encodeChars rest

/-- The bytes of a last group of four characters that ends in padding. -/
def decodePadded? (p q r s : Char) : Option Bytes := do
  guard (s = '=')
  let u ← value? p
  let v ← value? q
  if r = '=' then
    guard (v % 16 = 0)
    return [UInt8.ofNat (u * 4 + v / 16)]
  else
    let w ← value? r
    guard (w % 4 = 0)
    let n := u * 1024 + v * 16 + w / 4
    return [UInt8.ofNat (n / 256), UInt8.ofNat (n % 256)]

/-- The bytes of a full group of four digits. -/
def decodeGroup? (p q r s : Char) : Option Bytes := do
  let u ← value? p
  let v ← value? q
  let w ← value? r
  let x ← value? s
  let n := u * 262144 + v * 4096 + w * 64 + x
  return [UInt8.ofNat (n / 65536), UInt8.ofNat (n / 256 % 256), UInt8.ofNat (n % 256)]

def decodeChars? : List Char → Option Bytes
  | [] => some []
  | [p, q, r, s] => decodeGroup? p q r s <|> decodePadded? p q r s
  | p :: q :: r :: s :: rest => do
    let group ← decodeGroup? p q r s
    let bytes ← decodeChars? rest
    return group ++ bytes
  | _ => none

def encode (b : Bytes) : String :=
  String.ofList (encodeChars b)

/-- The bytes of a base64 text, if it is in canonical form. -/
def decode? (s : String) : Option Bytes :=
  decodeChars? s.toList

theorem value?_digit : ∀ n < 64, value? (digit n) = some n := by
  decide

end ChatKeys.Base64
