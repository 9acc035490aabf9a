/-
  ChatKeys.Crypto.ChaCha20

  The ChaCha20 block function, its keystream, and HChaCha20.

  A state is a 4 × 4 matrix of words, kept by rows.  A column round works on the
  four rows as they are; a diagonal round is a column round between two
  rotations of the rows (`Rows.skew`, `Rows.unskew`).

    * `keystream key nonce counter n` — the first `n` bytes from a block counter
      on, always exactly `n` of them;
    * `subkey key nonce` — HChaCha20, the 32 bytes that extend the nonce.
-/
import ChatKeys.Bytes

namespace ChatKeys.ChaCha20

/-- Four words of the state matrix. -/
structure Row where
  w₀ : UInt32
  w₁ : UInt32
  w₂ : UInt32
  w₃ : UInt32
deriving DecidableEq, Repr

namespace Row

@[inline] def add (r s : Row) : Row :=
  ⟨r.w₀ + s.w₀, r.w₁ + s.w₁, r.w₂ + s.w₂, r.w₃ + s.w₃⟩

/-- Word-wise exclusive or, each word then rotated left by `n` bits. -/
@[inline] def mix (r s : Row) (n : UInt32) : Row :=
  ⟨rotateLeft (r.w₀ ^^^ s.w₀) n, rotateLeft (r.w₁ ^^^ s.w₁) n,
    rotateLeft (r.w₂ ^^^ s.w₂) n, rotateLeft (r.w₃ ^^^ s.w₃) n⟩

@[inline] def turn₁ (r : Row) : Row := ⟨r.w₁, r.w₂, r.w₃, r.w₀⟩

@[inline] def turn₂ (r : Row) : Row := ⟨r.w₂, r.w₃, r.w₀, r.w₁⟩

@[inline] def turn₃ (r : Row) : Row := ⟨r.w₃, r.w₀, r.w₁, r.w₂⟩

/-- The row that four words make up; missing words are zero. -/
def ofWords : List UInt32 → Row
  | [w₀, w₁, w₂, w₃] => ⟨w₀, w₁, w₂, w₃⟩
  | _ => ⟨0, 0, 0, 0⟩

def ofBytes (b : Bytes) : Row := ofWords (wordsLE b)

def bytes (r : Row) : Bytes :=
  bytesLE r.w₀ ++ bytesLE r.w₁ ++ bytesLE r.w₂ ++ bytesLE r.w₃

@[simp] theorem length_bytes (r : Row) : r.bytes.length = 16 := rfl

end Row

/-- The state matrix by rows. -/
structure Rows where
  a : Row
  b : Row
  c : Row
  d : Row
deriving DecidableEq, Repr

namespace Rows

/-- A quarter round on each of the four columns. -/
def columnRound (s : Rows) : Rows :=
  let a := s.a.add s.b
  let d := s.d.mix a 16
  let c := s.c.add d
  let b := s.b.mix c 12
  let a := a.add b
  let d := d.mix a 8
  let c := c.add d
  let b := b.mix c 7
  ⟨a, b, c, d⟩

/-- Brings the diagonals into the columns. -/
def skew (s : Rows) : Rows := ⟨s.a, s.b.turn₁, s.c.turn₂, s.d.turn₃⟩

/-- Brings the columns back into the diagonals. -/
def unskew (s : Rows) : Rows := ⟨s.a, s.b.turn₃, s.c.turn₂, s.d.turn₁⟩

def doubleRound (s : Rows) : Rows := s.columnRound.skew.columnRound.unskew

/-- Twenty rounds. -/
def scramble (s : Rows) : Rows := Nat.repeat doubleRound 10 s

/-- The four words that every state starts with. -/
def constants : Row := ⟨0x61707865, 0x3320646e, 0x79622d32, 0x6b206574⟩

/-- The state of a 32-byte key and the last row. -/
def start (key : Bytes) (last : Row) : Rows :=
  ⟨constants, Row.ofBytes (key.take 16), Row.ofBytes (key.drop 16), last⟩

end Rows

/-- The 64 bytes of keystream at one block counter. -/
def block (key nonce : Bytes) (counter : UInt32) : Bytes :=
  let s := Rows.start key (Row.ofWords (counter :: wordsLE nonce))
  let t := s.scramble
  (t.a.add s.a).bytes ++ (t.b.add s.b).bytes ++ (t.c.add s.c).bytes ++ (t.d.add s.d).bytes

/-- The 32 bytes by which HChaCha20 extends a key with sixteen bytes of nonce. -/
def subkey (key nonce : Bytes) : Bytes :=
  let t := (Rows.start key (Row.ofBytes nonce)).scramble
  t.a.bytes ++ t.d.bytes

/-- The first `n` bytes of keystream from a block counter on. -/
def keystream (key nonce : Bytes) (counter : UInt32) (n : Nat) : Bytes :=
  (go (n / 64 + 1) counter).take n
where
  go : Nat → UInt32 → Bytes
    | 0, _ => []
    | blocks + 1, counter => block key nonce counter ++ go blocks (counter + 1)

@[simp] theorem length_block (key nonce : Bytes) (counter : UInt32) :
    (block key nonce counter).length = 64 := rfl

@[simp] theorem length_subkey (key nonce : Bytes) : (subkey key nonce).length = 32 := rfl

theorem length_keystream_go (key nonce : Bytes) (blocks : Nat) (counter : UInt32) :
    (keystream.go key nonce blocks counter).length = 64 * blocks := by
  induction blocks generalizing counter with
  | zero => rfl
  | succ n ih => simp only [keystream.go, List.length_append, length_block, ih]; omega

@[simp] theorem length_keystream (key nonce : Bytes) (counter : UInt32) (n : Nat) :
    (keystream key nonce counter n).length = n := by
  simp only [keystream, List.length_take, length_keystream_go]
  omega

end ChatKeys.ChaCha20
