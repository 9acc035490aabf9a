/-
  ChatKeys.Crypto.Sha256

  SHA-256 over byte strings.

    * `State` — the eight chaining words;
    * `State.compress` — one 64-byte block;
    * `State.absorb` — all complete blocks of a byte string;
    * `State.finish` — padding and digest, from any chaining state that has
      already taken in a known number of bytes, so that a keyed hash can start
      from a prepared state;
    * `hash` — the digest of a whole message, always 32 bytes.
-/
import ChatKeys.Bytes

namespace ChatKeys.Sha256

def blockSize : Nat := 64

def digestSize : Nat := 32

/-- The eight chaining words. -/
structure State where
  a : UInt32
  b : UInt32
  c : UInt32
  d : UInt32
  e : UInt32
  f : UInt32
  g : UInt32
  h : UInt32
deriving DecidableEq, Repr

namespace State

/-- The chaining words before the first block: the first 32 bits of the
    fractional parts of the square roots of the first eight primes. -/
def initial : State where
  a := 0x6a09e667
  b := 0xbb67ae85
  c := 0x3c6ef372
  d := 0xa54ff53a
  e := 0x510e527f
  f := 0x9b05688c
  g := 0x1f83d9ab
  h := 0x5be0cd19

def add (s t : State) : State where
  a := s.a + t.a
  b := s.b + t.b
  c := s.c + t.c
  d := s.d + t.d
  e := s.e + t.e
  f := s.f + t.f
  g := s.g + t.g
  h := s.h + t.h

def bytes (s : State) : Bytes :=
  bytesBE s.a ++ bytesBE s.b ++ bytesBE s.c ++ bytesBE s.d
    ++ bytesBE s.e ++ bytesBE s.f ++ bytesBE s.g ++ bytesBE s.h

@[simp] theorem length_bytes (s : State) : s.bytes.length = digestSize := rfl

end State

/-! ## One block -/

/-- The round constants: the first 32 bits of the fractional parts of the cube
    roots of the first 64 primes. -/
def roundConstants : Array UInt32 := #[
  0x428a2f98, 0x71374491, 0xb5c0fbcf, 0xe9b5dba5, 0x3956c25b, 0x59f111f1, 0x923f82a4, 0xab1c5ed5,
  0xd807aa98, 0x12835b01, 0x243185be, 0x550c7dc3, 0x72be5d74, 0x80deb1fe, 0x9bdc06a7, 0xc19bf174,
  0xe49b69c1, 0xefbe4786, 0x0fc19dc6, 0x240ca1cc, 0x2de92c6f, 0x4a7484aa, 0x5cb0a9dc, 0x76f988da,
  0x983e5152, 0xa831c66d, 0xb00327c8, 0xbf597fc7, 0xc6e00bf3, 0xd5a79147, 0x06ca6351, 0x14292967,
  0x27b70a85, 0x2e1b2138, 0x4d2c6dfc, 0x53380d13, 0x650a7354, 0x766a0abb, 0x81c2c92e, 0x92722c85,
  0xa2bfe8a1, 0xa81a664b, 0xc24b8b70, 0xc76c51a3, 0xd192e819, 0xd6990624, 0xf40e3585, 0x106aa070,
  0x19a4c116, 0x1e376c08, 0x2748774c, 0x34b0bcb5, 0x391c0cb3, 0x4ed8aa4a, 0x5b9cca4f, 0x682e6ff3,
  0x748f82ee, 0x78a5636f, 0x84c87814, 0x8cc70208, 0x90befffa, 0xa4506ceb, 0xbef9a3f7, 0xc67178f2]

/-- One more word of the message schedule, made from the words 2, 7, 15 and 16
    places back. -/
def extend (w : Array UInt32) : Array UInt32 :=
  let n := w.size
  let x := w.getD (n - 15) 0
  let y := w.getD (n - 2) 0
  let small₀ := rotateRight x 7 ^^^ rotateRight x 18 ^^^ x >>> 3
  let small₁ := rotateRight y 17 ^^^ rotateRight y 19 ^^^ y >>> 10
  w.push (w.getD (n - 16) 0 + small₀ + w.getD (n - 7) 0 + small₁)

/-- The message schedule of a block: its sixteen words and 48 more. -/
def schedule (block : Bytes) : Array UInt32 :=
  Nat.repeat extend 48 (wordsBE block).toArray

/-- One round; `kw` is the sum of the round's constant and schedule word. -/
@[inline] def round (s : State) (kw : UInt32) : State :=
  let big₁ := rotateRight s.e 6 ^^^ rotateRight s.e 11 ^^^ rotateRight s.e 25
  let choice := (s.e &&& s.f) ^^^ (~~~s.e &&& s.g)
  let t₁ := s.h + big₁ + choice + kw
  let big₀ := rotateRight s.a 2 ^^^ rotateRight s.a 13 ^^^ rotateRight s.a 22
  let majority := (s.a &&& s.b) ^^^ (s.a &&& s.c) ^^^ (s.b &&& s.c)
  { a := t₁ + (big₀ + majority), b := s.a, c := s.b, d := s.c,
    e := s.d + t₁, f := s.e, g := s.f, h := s.g }

namespace State

/-- The chaining words after one more block. -/
def compress (s : State) (block : Bytes) : State :=
  s.add ((Array.zipWith (· + ·) roundConstants (schedule block)).foldl round s)

/-! ## Whole messages -/

/-- The chaining words after all complete blocks of a byte string. -/
def absorb (s : State) (m : Bytes) : State :=
  go (m.length / blockSize) s m
where
  go : Nat → State → Bytes → State
    | 0, s, _ => s
    | n + 1, s, m => go n (s.compress (m.take blockSize)) (m.drop blockSize)

end State

/-- What is appended to a message of `n` bytes: a one bit, zeros up to eight
    bytes short of a block, and the length in bits. -/
def padding (n : Nat) : Bytes :=
  0x80 :: List.replicate ((119 - n % 64) % 64) 0 ++ (Bytes.ofNat 8 (8 * n)).reverse

/-- The digest of a message of which `seen` bytes, a multiple of the block size,
    are already in the state and `rest` are still to come. -/
def State.finish (s : State) (seen : Nat) (rest : Bytes) : Bytes :=
  (s.absorb (rest ++ padding (seen + rest.length))).bytes

def hash (m : Bytes) : Bytes :=
  State.initial.finish 0 m

@[simp] theorem State.length_finish (s : State) (seen : Nat) (rest : Bytes) :
    (s.finish seen rest).length = digestSize := by
  simp [State.finish]

@[simp] theorem length_hash (m : Bytes) : (hash m).length = digestSize := by
  simp [hash]

end ChatKeys.Sha256
