/-
  ChatKeys.Time

  Points in time and spans of time, counted in whole nanoseconds.

  A `Time` lies within 2 ^ 63 seconds of the start of 1970 and a `Duration` is
  shorter than 2 ^ 64 seconds; both bounds are part of the type, so an addition
  that leaves the range is visible as `Time.add?` giving nothing.
-/

-- Powers of numbers are the built-in ones, whatever else is imported beside this module.
attribute [instance (high), default_instance (high + 1)] instPowNat

namespace ChatKeys

abbrev nsPerSecond : Nat := 1000000000

/-- A span of time. -/
structure Duration where
  /-- Its length in nanoseconds. -/
  ns : Nat
  lt : ns < 2 ^ 64 * nsPerSecond
deriving DecidableEq, Repr

namespace Duration

/-- The span of some seconds and nanoseconds, if it is not too long. -/
def ofParts? (seconds : UInt64) (nanos : UInt32) : Option Duration :=
  let n := seconds.toNat * nsPerSecond + nanos.toNat
  if h : n < 2 ^ 64 * nsPerSecond then some ⟨n, h⟩ else none

def ofSeconds (seconds : UInt64) : Duration where
  ns := seconds.toNat * nsPerSecond
  lt := Nat.mul_lt_mul_of_pos_right seconds.toNat_lt (by decide)

/-- The whole seconds of a span. -/
def seconds (d : Duration) : Nat := d.ns / nsPerSecond

@[simp] theorem seconds_ofSeconds (s : UInt64) : (ofSeconds s).seconds = s.toNat := by
  simp [seconds, ofSeconds]

end Duration

/-- A point in time. -/
structure Time where
  /-- Nanoseconds since the start of 1970; negative before it. -/
  ns : Int
  le_ns : -(2 ^ 63 * nsPerSecond : Int) ≤ ns
  ns_lt : ns < 2 ^ 63 * nsPerSecond
deriving DecidableEq, Repr

namespace Time

/-- The point at a number of nanoseconds, if it is in range. -/
def ofNs? (n : Int) : Option Time :=
  if h : -(2 ^ 63 * nsPerSecond : Int) ≤ n ∧ n < 2 ^ 63 * nsPerSecond then some ⟨n, h.1, h.2⟩
  else none

def epoch : Time := ⟨0, by decide, by decide⟩

/-- The last whole second at or before a point in time. -/
def seconds (t : Time) : Int := t.ns / nsPerSecond

/-- The nanoseconds since that second. -/
def nanos (t : Time) : Nat := (t.ns % nsPerSecond).toNat

/-- The milliseconds since the start of 1970; none before it. -/
def millis (t : Time) : Nat := t.ns.toNat / 1000000

/-- The point a span later, if it is in range. -/
def add? (t : Time) (d : Duration) : Option Time :=
  ofNs? (t.ns + d.ns)

instance : LE Time := ⟨fun s t => s.ns ≤ t.ns⟩

instance : LT Time := ⟨fun s t => s.ns < t.ns⟩

instance (s t : Time) : Decidable (s ≤ t) := inferInstanceAs (Decidable (s.ns ≤ t.ns))

instance (s t : Time) : Decidable (s < t) := inferInstanceAs (Decidable (s.ns < t.ns))

theorem nanos_lt (t : Time) : t.nanos < nsPerSecond := by
  simp only [nanos, nsPerSecond]
  omega

/-- A point in time is its second and the nanoseconds since. -/
theorem seconds_nanos (t : Time) : t.seconds * nsPerSecond + t.nanos = t.ns := by
  simp only [seconds, nanos, nsPerSecond]
  omega

/-- Later by a span means later by exactly that span. -/
theorem ns_add? {t u : Time} {d : Duration} (h : t.add? d = some u) : u.ns = t.ns + d.ns := by
  simp only [add?, ofNs?] at h
  split at h
  · cases h; rfl
  · cases h

end Time

end ChatKeys
