/-
  ChatKeys.Crypto.X25519

  The X25519 function on Curve25519 in exact natural-number arithmetic modulo
  2 ^ 255 - 19, by the Montgomery ladder on projective x-coordinates.
  `publicKey` takes any 32 secret bytes: the scalar they stand for is clamped
  here, while the bytes themselves are kept as they are by whoever stores them.
-/
import ChatKeys.Bytes

namespace ChatKeys.X25519

def prime : Nat := 2 ^ 255 - 19

@[inline] def add (x y : Nat) : Nat := (x + y) % prime

/-- Difference in the field, of reduced numbers. -/
@[inline] def sub (x y : Nat) : Nat := (x + (prime - y)) % prime

@[inline] def mul (x y : Nat) : Nat := x * y % prime

/-- The power of a field element, over the bits of the exponent from the lowest. -/
def pow (x : Nat) : (bits exponent : Nat) → Nat
  | 0, _ => 1
  | bits + 1, e =>
    let rest := pow (mul x x) bits (e / 2)
    if e % 2 = 1 then mul x rest else rest

/-- The inverse of a field element; zero is sent to zero. -/
def inverse (x : Nat) : Nat := pow x 255 (prime - 2)

/-- A point as the quotient of two field elements. -/
structure Point where
  x : Nat
  z : Nat
deriving DecidableEq, Repr

namespace Point

def double (p : Point) : Point :=
  let s := add p.x p.z
  let d := sub p.x p.z
  let s := mul s s
  let d := mul d d
  let e := sub s d
  ⟨mul s d, mul e (add s (mul 121665 e))⟩

/-- The sum of two points whose difference has x-coordinate `u`. -/
def addDiff (u : Nat) (p q : Point) : Point :=
  let a := mul (sub p.x p.z) (add q.x q.z)
  let b := mul (add p.x p.z) (sub q.x q.z)
  let s := add a b
  let d := sub a b
  ⟨mul s s, mul u (mul d d)⟩

end Point

/-- The ladder over the lowest `n` bits of a scalar: the multiples `k` and
    `k + 1` of the point, where `k` is the scalar's high part seen so far. -/
def ladder (u scalar : Nat) : (n : Nat) → Point × Point → Point × Point
  | 0, pair => pair
  | n + 1, (p, q) =>
    -- The two points differ by the point that is multiplied throughout.
    ladder u scalar n <|
      if scalar.testBit n then (p.addDiff u q, q.double) else (p.double, p.addDiff u q)

/-- The scalar that secret bytes stand for: a multiple of eight with bit 254 as
    its highest. -/
def clamp (secret : Bytes) : Nat :=
  let n := Bytes.toNat secret % 2 ^ 254
  n - n % 8 + 2 ^ 254

/-- The 32 bytes of the x-coordinate of a multiple of the point with
    x-coordinate `u`. -/
def multiple (scalar u : Nat) : Bytes :=
  let p := (ladder u scalar 255 (⟨1, 0⟩, ⟨u, 1⟩)).1
  Bytes.ofNat 32 (mul p.x (inverse p.z))

/-- The public key of a secret: the multiple of the point with x-coordinate 9. -/
def publicKey (secret : Bytes) : Bytes :=
  multiple (clamp secret) 9

@[simp] theorem length_publicKey (secret : Bytes) : (publicKey secret).length = 32 := by
  simp [publicKey, multiple]

end ChatKeys.X25519
