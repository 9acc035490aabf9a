/-
  ChatKeys.Service.SplitMix

  A reproducible random source: the SplitMix64 sequence of a seed, eight bytes a
  word, least significant first, behind bytes given in advance.
-/
import ChatKeys.Service.Environment

namespace ChatKeys.SplitMix

/-- Word `n` of the sequence of a seed. -/
def word (seed : UInt64) (n : Nat) : UInt64 :=
  let z := seed + UInt64.ofNat (n + 1) * 0x9e3779b97f4a7c15
  let z := (z ^^^ z >>> 30) * 0xbf58476d1ce4e5b9
  let z := (z ^^^ z >>> 27) * 0x94d049bb133111eb
  z ^^^ z >>> 31

/-- Byte `n` of the sequence of a seed. -/
def byte (seed : UInt64) (n : Nat) : UInt8 :=
  (word seed (n / 8) >>> UInt64.ofNat (8 * (n % 8))).toUInt8

/-- The given bytes, and behind them the sequence of a seed. -/
def source (given : Array UInt8) (seed : UInt64) (n : Nat) : UInt8 :=
  if h : n < given.size then given[n] else byte seed (n - given.size)

/-- A fresh environment with such a source. -/
def environment (clock : Time) (given : Array UInt8) (seed : UInt64) : Environment where
  clock := clock
  source := source given seed
  drawn := 0

end ChatKeys.SplitMix
