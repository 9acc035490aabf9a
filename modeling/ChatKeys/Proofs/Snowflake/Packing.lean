/-
  ChatKeys.Proofs.Snowflake.Packing

  Time and random bits come out of an identifier as they went into it.

    * `time?_eq` — the time that an identifier holds is computed without an overflow, in words as
      well as on the clock;
    * `ofTime_time` — an identifier is made again from its time and its own bits;
    * `ns_time_ofTime` — the time comes back rounded down to the millisecond, from the start of
      December 2014 on for the 2 ^ 42 milliseconds that there are bits for.
-/
import ChatKeys.Proofs.Snowflake.Clock

namespace ChatKeys

/-- The sum of two words, if it is a word. -/
def addWords? (a b : UInt64) : Option UInt64 :=
  if a.toNat + b.toNat < 2 ^ 64 then some (a + b) else none

theorem addWords?_eq_some {a b : UInt64} (h : a.toNat + b.toNat < 2 ^ 64) :
    ∃ c, addWords? a b = some c ∧ c.toNat = a.toNat + b.toNat := by
  refine ⟨a + b, if_pos h, ?_⟩
  rw [UInt64.toNat_add, Nat.mod_eq_of_lt h]

/-- The span of some milliseconds. -/
def Duration.ofMillis (millis : UInt64) : Duration where
  ns := millis.toNat * 1000000
  lt := by
    have hword := millis.toNat_lt
    simp only [nsPerSecond]
    omega

theorem Duration.ns_ofMillis (millis : UInt64) :
    (ofMillis millis).ns = millis.toNat * 1000000 := rfl

namespace Snowflake

/-! ## No overflow -/

/-- The time that an identifier holds, as a machine finds it: the start of December 2014 is added
    in words, and the sum to the start of 1970. There is none if either addition overflows. -/
def time? (s : Snowflake) : Option Time := do
  let millis ← addWords? s.stamp (UInt64.ofNat epochMillis)
  Time.epoch.add? (.ofMillis millis)

theorem stamp_lt (s : Snowflake) : s.stamp.toNat < 2 ^ 42 := by
  have hword := s.value.toNat_lt
  rw [toNat_stamp]
  omega

theorem ns_time (s : Snowflake) : s.time.ns = (s.stamp.toNat + epochMillis : Nat) * 1000000 := rfl

/-- Neither addition overflows. -/
theorem time?_eq (s : Snowflake) : s.time? = some s.time := by
  have hstamp := s.stamp_lt
  have hepoch : (UInt64.ofNat epochMillis).toNat = epochMillis := by decide
  have hsum : s.stamp.toNat + (UInt64.ofNat epochMillis).toNat < 2 ^ 64 := by
    rw [hepoch, epochMillis]
    omega
  obtain ⟨millis, hadd, hmillis⟩ := addWords?_eq_some hsum
  rw [hepoch] at hmillis
  -- The sum is the time's own number of milliseconds, which is on the clock.
  have hns : Time.epoch.ns + (Duration.ofMillis millis).ns = s.time.ns := by
    have hepochNs : Time.epoch.ns = 0 := rfl
    rw [ns_time, Duration.ns_ofMillis, hmillis, hepochNs]
    omega
  rw [time?, hadd, Option.bind_eq_bind, Option.bind_some, Time.add?, hns, Time.ofNs?,
    dif_pos ⟨s.time.le_ns, s.time.ns_lt⟩]

/-! ## Packing and unpacking -/

/-- The milliseconds of an identifier's time are those that its bits hold. -/
theorem countedMillis_time (s : Snowflake) : countedMillis s.time = s.stamp.toNat := by
  have hstamp := s.stamp_lt
  have hns := s.ns_time
  simp only [epochMillis] at hns
  simp only [countedMillis, Time.millis, epochMillis]
  omega

/-- An identifier is what its time and its own bits make. -/
theorem ofTime_time (s : Snowflake) : ofTime s.time s.value = s := by
  have hvalue : (ofTime s.time s.value).value.toNat = s.value.toNat := by
    rw [toNat_ofTime, countedMillis_time, Nat.mod_eq_of_lt s.stamp_lt, toNat_stamp]
    omega
  have hword : (ofTime s.time s.value).value = s.value := UInt64.toNat_inj.mp hvalue
  obtain ⟨value⟩ := s
  exact congrArg Snowflake.mk hword

/-- The time that an identifier is made at comes back, rounded down to the millisecond. -/
theorem ns_time_ofTime {t : Time} (hle : epochNs ≤ t.ns) (hlt : t.ns < epochNs + 2 ^ 42 * 1000000)
    (random : UInt64) : (ofTime t random).time.ns = t.ns / 1000000 * 1000000 := by
  have hend : t.ns / 1000000 < epochMillis + 2 ^ 42 := by
    simp only [epochNs] at hlt
    omega
  obtain ⟨hcount, hcountlt⟩ := countedMillis_of_lt hle hend
  rw [ns_time, toNat_stamp_ofTime, Nat.mod_eq_of_lt hcountlt]
  omega

/-- The low bits of an identifier are those of its random word. -/
theorem toNat_ofTime_mod (t : Time) (random : UInt64) :
    (ofTime t random).value.toNat % 2 ^ 22 = random.toNat % 2 ^ 22 := by
  rw [toNat_ofTime]
  omega

/-- Time and random bits of an identifier are each other's inverse. Whatever an identifier is, its
    time is found without an overflow, and together with its own bits makes the identifier again.
    At whatever time an identifier is made, from the start of December 2014 on until 2 ^ 42
    milliseconds later, its time is this one rounded down to the millisecond, and its low 22 bits
    are those of the random word. -/
theorem time_and_bits_exact :
    (∀ s : Snowflake, s.time? = some s.time ∧ ofTime s.time s.value = s) ∧
    ∀ (t : Time) (random : UInt64), epochNs ≤ t.ns → t.ns < epochNs + 2 ^ 42 * 1000000 →
      (ofTime t random).time.ns = t.ns / 1000000 * 1000000 ∧
        (ofTime t random).value.toNat % 2 ^ 22 = random.toNat % 2 ^ 22 :=
  ⟨fun s => ⟨s.time?_eq, s.ofTime_time⟩,
    fun t random hle hlt => ⟨ns_time_ofTime hle hlt random, toNat_ofTime_mod t random⟩⟩

/-- The greatest identifier, and the last nanosecond that there are bits for with the greatest
    random word: both ends of the window at once. -/
theorem time_and_bits_exact_example :
    let greatest : Snowflake := ⟨0xffffffffffffffff⟩
    let last : Time := ⟨epochNs + 2 ^ 42 * 1000000 - 1, by decide, by decide⟩
    greatest.time? = some greatest.time ∧ ofTime greatest.time 0xffffffffffffffff = greatest ∧
      (ofTime last 0xffffffffffffffff).time.ns = last.ns - 999999 ∧
      (ofTime last 0xffffffffffffffff).value.toNat % 2 ^ 22 = 2 ^ 22 - 1 := by
  intro greatest last
  obtain ⟨hinverse, hrounded⟩ := time_and_bits_exact
  obtain ⟨htime, hagain⟩ := hinverse greatest
  obtain ⟨hns, hbits⟩ := hrounded last 0xffffffffffffffff (by decide) (by decide)
  refine ⟨htime, hagain, ?_, ?_⟩
  · rw [hns]
    decide
  · rw [hbits]
    decide

end Snowflake

end ChatKeys
