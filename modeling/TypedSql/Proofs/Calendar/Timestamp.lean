import TypedSql.Calendar.Timestamp
import TypedSql.Proofs.Calendar.Date

/-!
# Timestamps and their nanoseconds

* `Timestamp.epochNanos_bounds` : what a timestamp without a leap second counts lies within its day;
* `Timestamp.exists_ofEpochNanos?` : each count of nanoseconds within the calendar is that of a timestamp;
* `Timestamp.ofEpochNanos?_epochNanos` : a timestamp without a leap second is found by its count;
* `Timestamp.ofEpochNanos?_eq_some_iff` : nothing else is found by it.
-/

namespace TypedSql

namespace Clock

theorem secondOfDay_lt (c : Clock) : c.secondOfDay < 86400 := by
  obtain ⟨hh, hm, hs, -⟩ := c.valid
  unfold secondOfDay
  omega

theorem nano_lt (c : Clock) : c.nano < 2000000000 := by
  obtain ⟨-, -, -, h⟩ := c.valid
  omega

theorem isLeap_eq_false_iff (c : Clock) : c.isLeap = false ↔ c.nano < 1000000000 := by
  unfold isLeap
  rw [decide_eq_false_iff_not]
  omega

theorem ofSecondOfDay_secondOfDay {c : Clock} (hc : c.isLeap = false) : ofSecondOfDay c.secondOfDay c.nano = c := by
  obtain ⟨hh, hm, hs, -⟩ := c.valid
  rw [isLeap_eq_false_iff] at hc
  cases c
  simp only [ofSecondOfDay, secondOfDay, mk.injEq] at *
  omega

end Clock

namespace Timestamp

theorem epochNanos_eq (t : Timestamp) :
    t.epochNanos = (t.date.dayNumber * 86400 + t.clock.secondOfDay) * 1000000000 + t.clock.nano := rfl

theorem epochNanos_bounds (t : Timestamp) : t.date.dayNumber * 86400000000000 ≤ t.epochNanos ∧
    t.epochNanos < (t.date.dayNumber + 1) * 86400000000000 + 1000000000 ∧
      (t.clock.isLeap = false → t.epochNanos < (t.date.dayNumber + 1) * 86400000000000) := by
  have hs := t.clock.secondOfDay_lt
  have hn := t.clock.nano_lt
  rw [Clock.isLeap_eq_false_iff, epochNanos_eq]
  omega

/-- What is found by a count has that count and is no leap second. -/
theorem epochNanos_of_ofEpochNanos? {n : Int} {t : Timestamp} (h : ofEpochNanos? n = some t) :
    t.clock.isLeap = false ∧ t.epochNanos = n := by
  unfold ofEpochNanos? at h
  dsimp only at h
  obtain ⟨d, hd, rfl⟩ := Option.map_eq_some_iff.1 h
  have hsecond := @Clock.secondOfDay_ofSecondOfDay (n / 10 ^ 9 % 86400).toNat (by omega) (n % 10 ^ 9).toNat
  rw [Clock.isLeap_eq_false_iff, epochNanos_eq, Date.ofDayNumber?_eq_some_iff.1 hd, hsecond]
  unfold Clock.ofSecondOfDay
  dsimp only
  omega

theorem exists_ofEpochNanos? {n : Int} (hlow : Date.firstDay * 86400000000000 ≤ n)
    (hhigh : n < (Date.lastDay + 1) * 86400000000000) :
    ∃ t, ofEpochNanos? n = some t ∧ t.epochNanos = n := by
  obtain ⟨d, hd, -⟩ := @Date.exists_ofDayNumber? (n / 10 ^ 9 / 86400) (by omega) (by omega)
  have ht : ∃ t, ofEpochNanos? n = some t := ⟨_, Option.map_eq_some_iff.2 ⟨d, hd, rfl⟩⟩
  obtain ⟨t, ht⟩ := ht
  exact ⟨t, ht, (epochNanos_of_ofEpochNanos? ht).2⟩

theorem ofEpochNanos?_epochNanos {t : Timestamp} (ht : t.clock.isLeap = false) :
    ofEpochNanos? t.epochNanos = some t := by
  have hs := t.clock.secondOfDay_lt
  have hn := t.clock.isLeap_eq_false_iff.1 ht
  have hday : t.epochNanos / 10 ^ 9 / 86400 = t.date.dayNumber := by
    rw [epochNanos_eq]
    omega
  have hsecond : (t.epochNanos / 10 ^ 9 % 86400).toNat = t.clock.secondOfDay := by
    rw [epochNanos_eq]
    omega
  have hnano : (t.epochNanos % 10 ^ 9).toNat = t.clock.nano := by
    rw [epochNanos_eq]
    omega
  unfold ofEpochNanos?
  dsimp only
  rw [hday, hsecond, hnano, Date.ofDayNumber?_dayNumber, Option.map_some, Clock.ofSecondOfDay_secondOfDay ht]

theorem ofEpochNanos?_eq_some_iff {n : Int} {t : Timestamp} :
    ofEpochNanos? n = some t ↔ t.clock.isLeap = false ∧ t.epochNanos = n := by
  constructor
  · exact epochNanos_of_ofEpochNanos?
  · rintro ⟨ht, rfl⟩
    exact ofEpochNanos?_epochNanos ht

end Timestamp

end TypedSql
