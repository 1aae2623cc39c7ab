import TypedSql.Proofs.Calendar.Timestamp
import TypedSql.Proofs.Wire.Integer
import TypedSql.Wire.Decoding

/-!
# Dates and times read back from their bytes

* `signed?_dateBytes`, `ofDayNumber?_dateBytes` : the bytes of a date are those of a number that has this date;
* `clockMicros_clockOfMicros` : a number of microseconds within a day is that of a time;
* `exists_timestampOfMicros?` : the microseconds of a timestamp are those of a timestamp again;
* `clockOfMicros_clockMicros`, `timestampOfMicros?_timestampMicros` : a time of whole microseconds is found by their
  number.
-/

namespace TypedSql.Wire

/-! ## Dates and times of day -/

theorem signed?_dateBytes (d : Date) :
    signed? 4 (signedBytes 4 (d.dayNumber - epochDays)) = some (d.dayNumber - epochDays) := by
  have hd := d.dayNumber_bounds
  unfold Date.firstDay Date.lastDay at hd
  unfold epochDays
  exact signed?_signedBytes (by omega) (by omega)

theorem ofDayNumber?_dateBytes (d : Date) : Date.ofDayNumber? (d.dayNumber - epochDays + epochDays) = some d := by
  rw [Int.sub_add_cancel, Date.ofDayNumber?_dayNumber]

theorem clockMicros_lt {c : Clock} (hc : c.isLeap = false) : clockMicros c < 86400000000 := by
  have hs := c.secondOfDay_lt
  rw [Clock.isLeap_eq_false_iff] at hc
  unfold clockMicros
  omega

theorem clockMicros_clockOfMicros {n : Nat} (h : n < 86400000000) : clockMicros (clockOfMicros n) = n := by
  have hmod : ((n : Int) % (86400 * 10 ^ 6)).toNat = n := by omega
  unfold clockOfMicros clockMicros
  dsimp only
  rw [hmod, Clock.secondOfDay_ofSecondOfDay (by omega)]
  unfold Clock.ofSecondOfDay
  dsimp only
  omega

/-- A time of whole microseconds, and not in a leap second. -/
def IsWhole (c : Clock) : Prop :=
  c.isLeap = false ∧ c.nano % 1000 = 0

instance (c : Clock) : Decidable (IsWhole c) := by
  unfold IsWhole; infer_instance

theorem clockOfMicros_clockMicros {c : Clock} (hc : IsWhole c) : clockOfMicros (clockMicros c) = c := by
  obtain ⟨hleap, hnano⟩ := hc
  have hs := c.secondOfDay_lt
  have hn := c.isLeap_eq_false_iff.1 hleap
  have hmod : ((clockMicros c : Int) % (86400 * 10 ^ 6)).toNat = clockMicros c := by
    have hlt := clockMicros_lt hleap
    omega
  have hsecond : clockMicros c / 10 ^ 6 = c.secondOfDay := by
    unfold clockMicros
    omega
  have hmicro : clockMicros c % 10 ^ 6 * 1000 = c.nano := by
    unfold clockMicros
    omega
  unfold clockOfMicros
  dsimp only
  rw [hmod, hsecond, hmicro, Clock.ofSecondOfDay_secondOfDay hleap]

theorem signed?_timeBytes {c : Clock} (hc : c.isLeap = false) :
    signed? 8 (bytes 8 (clockMicros c)) = some (clockMicros c : Int) := by
  have hlt := clockMicros_lt hc
  exact signed?_bytes (by omega)

/-! ## Timestamps -/

/-- A timestamp whose microseconds can be counted: a leap second is not on the last day. -/
def IsCounted (t : Timestamp) : Prop :=
  t.clock.isLeap = true → t.date.dayNumber < Date.lastDay

theorem epochNanos_lt {t : Timestamp} (ht : IsCounted t) : t.epochNanos < (Date.lastDay + 1) * 86400000000000 := by
  obtain ⟨-, h1, h2⟩ := t.epochNanos_bounds
  have hd := t.date.dayNumber_bounds
  by_cases hleap : t.clock.isLeap = true
  · have hlt := ht hleap
    omega
  · have hlt := h2 (by simpa using hleap)
    omega

/-- Microseconds are cut towards the year 2000, which lies within the calendar. -/
theorem timestampMicros_bounds {t : Timestamp} (ht : IsCounted t) :
    Date.firstDay * 86400000000000 ≤ (timestampMicros t + epochMicros) * 1000 ∧
      (timestampMicros t + epochMicros) * 1000 < (Date.lastDay + 1) * 86400000000000 := by
  obtain ⟨hlow, -⟩ := t.epochNanos_bounds
  have hhigh := epochNanos_lt ht
  have hd := t.date.dayNumber_bounds
  unfold timestampMicros epochMicros epochDays
  unfold Date.firstDay Date.lastDay at *
  rw [Int.tdiv_eq_ediv, show Int.sign 1000 = 1 from rfl]
  split <;> omega

theorem exists_timestampOfMicros? {t : Timestamp} (ht : IsCounted t) :
    ∃ u, timestampOfMicros? (timestampMicros t) = some u ∧ timestampMicros u = timestampMicros t := by
  obtain ⟨hlow, hhigh⟩ := timestampMicros_bounds ht
  obtain ⟨u, hu, hnanos⟩ := Timestamp.exists_ofEpochNanos? hlow hhigh
  refine ⟨u, hu, ?_⟩
  have hmicros : timestampMicros u = Int.tdiv (u.epochNanos - epochMicros * 1000) 1000 := rfl
  rw [hmicros, hnanos, Int.add_mul, Int.add_sub_cancel, Int.mul_tdiv_cancel _ (by decide)]

theorem isCounted_of_isWhole {t : Timestamp} (ht : IsWhole t.clock) : IsCounted t := by
  intro hleap
  rw [ht.1] at hleap
  cases hleap

theorem timestampOfMicros?_timestampMicros {t : Timestamp} (ht : IsWhole t.clock) :
    timestampOfMicros? (timestampMicros t) = some t := by
  obtain ⟨hleap, hnano⟩ := ht
  -- no nanosecond is cut off
  have hmicros : (timestampMicros t + epochMicros) * 1000 = t.epochNanos := by
    unfold timestampMicros epochMicros epochDays
    rw [Int.tdiv_eq_ediv, show Int.sign 1000 = 1 from rfl, Timestamp.epochNanos_eq]
    split <;> omega
  rw [timestampOfMicros?, hmicros, Timestamp.ofEpochNanos?_epochNanos hleap]

theorem signed?_timestampBytes {t : Timestamp} (ht : IsCounted t) :
    signed? 8 (signedBytes 8 (timestampMicros t)) = some (timestampMicros t) := by
  obtain ⟨hlow, hhigh⟩ := timestampMicros_bounds ht
  unfold epochMicros epochDays Date.firstDay at hlow
  unfold epochMicros epochDays Date.lastDay at hhigh
  exact signed?_signedBytes (by omega) (by omega)

end TypedSql.Wire
