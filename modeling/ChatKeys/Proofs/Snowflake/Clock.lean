/-
  ChatKeys.Proofs.Snowflake.Clock

  What an identifier keeps of the clock, and in which order identifiers are made.

    * `toNat_ofTime` — the two parts of an identifier: above the random bits stand the
      milliseconds since the start of December 2014, as far as they fit into 42 bits;
    * `ofTime_lt_ofTime` — the order of two identifiers is that of their times, whatever the
      random bits are, as long as the milliseconds do fit;
    * `stamp_ofTime_of_lt` — every earlier time is kept as the start of December 2014.

  The 42 bits are used up 2 ^ 42 milliseconds after this start, and counting begins anew
  (`not_ofTime_sorts`).
-/
import ChatKeys.Snowflake

namespace ChatKeys.Snowflake

/-- The part of an identifier that is taken from the clock: all bits but the random ones. -/
def stamp (s : Snowflake) : UInt64 := s.value >>> 22

/-- The start of December 2014 in nanoseconds since the start of 1970. -/
def epochNs : Int := epochMillis * 1000000

theorem toNat_stamp (s : Snowflake) : s.stamp.toNat = s.value.toNat / 2 ^ 22 := by
  rw [stamp, UInt64.toNat_shiftRight]
  exact Nat.shiftRight_eq_div_pow _ _

/-! ## The two parts -/

/-- Bits moved up and bits below them add up. -/
theorem toNat_shiftLeft_or_mask (a b : UInt64) :
    (a <<< 22 ||| (b &&& 0x3fffff)).toNat = a.toNat % 2 ^ 42 * 2 ^ 22 + b.toNat % 2 ^ 22 := by
  have hlow : (b &&& 0x3fffff).toNat = b.toNat % 2 ^ 22 := by
    rw [UInt64.toNat_and]
    exact Nat.and_two_pow_sub_one_eq_mod _ 22
  have hhigh : (a <<< 22).toNat = 2 ^ 22 * (a.toNat % 2 ^ 42) := by
    have hshift : (a <<< 22).toNat = a.toNat <<< 22 % 2 ^ 64 := UInt64.toNat_shiftLeft a 22
    rw [hshift, Nat.shiftLeft_eq]
    omega
  have hlt : b.toNat % 2 ^ 22 < 2 ^ 22 := Nat.mod_lt _ (by decide)
  rw [UInt64.toNat_or, hlow, hhigh, ← Nat.two_pow_add_eq_or_of_lt hlt, Nat.mul_comm]

/-- The milliseconds that are counted for a point in time. -/
def countedMillis (t : Time) : Nat := t.millis % 2 ^ 64 - epochMillis

/-- Above the random bits stand the milliseconds that fit there. -/
theorem toNat_ofTime (t : Time) (random : UInt64) :
    (ofTime t random).value.toNat =
      countedMillis t % 2 ^ 42 * 2 ^ 22 + random.toNat % 2 ^ 22 := by
  have hword : countedMillis t < 2 ^ 64 := by
    have hmod : t.millis % 2 ^ 64 < 2 ^ 64 := Nat.mod_lt _ (by decide)
    rw [countedMillis]
    omega
  have hmillis : (UInt64.ofNat (countedMillis t)).toNat = countedMillis t :=
    UInt64.toNat_ofNat_of_lt hword
  have hparts := toNat_shiftLeft_or_mask (UInt64.ofNat (countedMillis t)) random
  rw [hmillis] at hparts
  exact hparts

theorem toNat_stamp_ofTime (t : Time) (random : UInt64) :
    (ofTime t random).stamp.toNat = countedMillis t % 2 ^ 42 := by
  have hlow : random.toNat % 2 ^ 22 < 2 ^ 22 := Nat.mod_lt _ (by decide)
  rw [toNat_stamp, toNat_ofTime]
  omega

/-! ## Order -/

/-- From the start of December 2014 on the milliseconds since then are counted, as long as
    42 bits are enough for them. -/
theorem countedMillis_of_lt {t : Time} (hle : epochNs ≤ t.ns)
    (hlt : t.ns / 1000000 < epochMillis + 2 ^ 42) :
    (countedMillis t : Int) = t.ns / 1000000 - epochMillis ∧ countedMillis t < 2 ^ 42 := by
  simp only [epochNs, epochMillis] at hle hlt
  simp only [countedMillis, Time.millis, epochMillis]
  omega

theorem countedMillis_of_lt_epoch {t : Time} (h : t.ns < epochNs) : countedMillis t = 0 := by
  simp only [epochNs, epochMillis] at h
  simp only [countedMillis, Time.millis, epochMillis]
  omega

/-- Every time before the start of December 2014 is kept as this start. -/
theorem stamp_ofTime_of_lt {t : Time} (h : t.ns < epochNs) (random : UInt64) :
    (ofTime t random).stamp = 0 := by
  apply UInt64.toNat_inj.mp
  rw [toNat_stamp_ofTime, countedMillis_of_lt_epoch h]
  rfl

/-- Of two times in the 2 ^ 42 milliseconds that can be told apart, the one in the later
    millisecond has the greater identifier. -/
theorem ofTime_lt_ofTime {t u : Time} (hle : epochNs ≤ t.ns)
    (hlt : t.ns / 1000000 < u.ns / 1000000) (hend : u.ns / 1000000 < epochMillis + 2 ^ 42)
    (r s : UInt64) : ofTime t r < ofTime u s := by
  obtain ⟨ht, htlt⟩ := countedMillis_of_lt hle (Int.lt_trans hlt hend)
  have hule : epochNs ≤ u.ns := by omega
  obtain ⟨hu, hult⟩ := countedMillis_of_lt hule hend
  have hcount : countedMillis t < countedMillis u := by omega
  -- The random bits are too few to make up for a millisecond.
  have hr : r.toNat % 2 ^ 22 < 2 ^ 22 := Nat.mod_lt _ (by decide)
  apply UInt64.lt_iff_toNat_lt.mpr
  rw [toNat_ofTime, toNat_ofTime, Nat.mod_eq_of_lt htlt, Nat.mod_eq_of_lt hult]
  omega

/-- Identifiers sort by the time they are made at. From the start of December 2014 on, for the
    2 ^ 42 milliseconds that there are bits for, an identifier is less than every one that is made
    in a later millisecond, whichever random words the two are made with. Every time before that
    start is kept as the start, be it before 1970 or not. -/
theorem ofTime_sorts :
    (∀ (t u : Time) (r s : UInt64), epochNs ≤ t.ns → t.ns / 1000000 < u.ns / 1000000 →
      u.ns / 1000000 < epochMillis + 2 ^ 42 → ofTime t r < ofTime u s) ∧
    ∀ (t : Time) (r : UInt64), t.ns < epochNs → (ofTime t r).stamp = 0 :=
  ⟨fun _ _ r s hle hlt hend => ofTime_lt_ofTime hle hlt hend r s,
    fun _ r h => stamp_ofTime_of_lt h r⟩

/-- The last millisecond that there are bits for. -/
def lastTime : Time := ⟨(epochMillis + 2 ^ 42 - 1) * 1000000, by decide, by decide⟩

/-- The millisecond after it. -/
def firstLostTime : Time := ⟨(epochMillis + 2 ^ 42) * 1000000, by decide, by decide⟩

/-- The first and the last millisecond that can be told apart, with the greatest random word in
    the first, and a second before 1970. -/
theorem ofTime_sorts_example :
    ofTime ⟨epochNs, by decide, by decide⟩ 0xffffffffffffffff < ofTime lastTime 0 ∧
      (ofTime ⟨-1000000000, by decide, by decide⟩ 0xffffffffffffffff).stamp = 0 := by
  obtain ⟨hsorts, hearly⟩ := ofTime_sorts
  exact ⟨hsorts ⟨epochNs, by decide, by decide⟩ lastTime _ _ (by decide) (by decide) (by decide),
    hearly ⟨-1000000000, by decide, by decide⟩ _ (by decide)⟩

/-- Identifiers do not sort by time for ever: the first one behind the last millisecond that there
    are bits for is less than the one before it. -/
theorem not_ofTime_sorts :
    ¬ ∀ (t u : Time) (r s : UInt64), epochNs ≤ t.ns → t.ns / 1000000 < u.ns / 1000000 →
      ofTime t r < ofTime u s := by
  intro hsorts
  have hless : ofTime lastTime 0 < ofTime firstLostTime 0x3fffff :=
    hsorts lastTime firstLostTime _ _ (by decide) (by decide)
  exact absurd hless (by decide)

end ChatKeys.Snowflake
