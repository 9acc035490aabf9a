/-
  ChatKeys.Service.Environment

  A clock and a source of random bytes.  The source is one infinite sequence of
  bytes; whoever draws takes the next ones, so the order of draws decides who
  gets what, and nothing is drawn twice.
-/
import ChatKeys.Bytes
import ChatKeys.Snowflake

namespace ChatKeys

/-- A clock and a random source. -/
structure Environment where
  clock : Time
  /-- The random bytes in the order in which they are drawn. -/
  source : Nat → UInt8
  /-- How many bytes have been drawn. -/
  drawn : Nat

namespace Environment

/-- The next bytes of the source. -/
def draw (n : Nat) (e : Environment) : Bytes × Environment :=
  ((List.range n).map fun i => e.source (e.drawn + i), { e with drawn := e.drawn + n })

/-- The next word of the source: eight bytes, most significant first. -/
def drawWord (e : Environment) : UInt64 × Environment :=
  let (b, e) := e.draw 8
  (UInt64.ofNat (Bytes.toNat b.reverse), e)

/-- A fresh identifier: the time first, then the next word. -/
def freshSnowflake (e : Environment) : Snowflake × Environment :=
  let (random, later) := e.drawWord
  (Snowflake.ofTime e.clock random, later)

def atTime (e : Environment) (t : Time) : Environment :=
  { e with clock := t }

/-- The environment a span of time later, if there is such a time. -/
def advance? (e : Environment) (d : Duration) : Option Environment :=
  (e.clock.add? d).map e.atTime

@[simp] theorem length_draw (n : Nat) (e : Environment) : (e.draw n).1.length = n := by
  simp [draw]

end Environment

end ChatKeys
