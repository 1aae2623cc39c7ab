import TypedSql.Proofs.Calendar.Succession
import TypedSql.Proofs.Parameter.Binding
import TypedSql.Proofs.Record.Coercion

/-!
# Milliseconds since 1970

* `Timestamp.IsAfterEpoch` : the moment so many nanoseconds after 1970-01-01 00:00:00, by the calendar and the clock;
* `Timestamp.isAfterEpoch_iff` : each moment is one for the count of its nanoseconds alone;
* `Timestamp.toMillis` : a timestamp without what is less than a millisecond;
* `Timestamp.IsBefore` : the order of timestamps, by their parts from the year down;
* `Timestamp.epochNanos_lt_of_isBefore` : but for leap seconds it is the order of the counts;
* `bindAt_epochMillis` : integers and timestamps are bound to each other's types as milliseconds, and back.
-/

namespace TypedSql

namespace Timestamp
variable {t u : Timestamp}

/-! ## Moments -/

/-- The moment so many nanoseconds after 1970-01-01 00:00:00, or before it: so many whole days, and what is left on the
clock. -/
structure IsAfterEpoch (nanos : Int) (t : Timestamp) : Prop where
  date : t.date.IsFromEpoch (nanos / (24 * 60 * 60 * 10 ^ 9))
  clock : (((t.clock.hour * 60 + t.clock.minute) * 60 + t.clock.second) * 10 ^ 9 + t.clock.nano : Int) =
    nanos % (24 * 60 * 60 * 10 ^ 9)
  notLeap : t.clock.isLeap = false

theorem isAfterEpoch_iff {nanos : Int} : t.IsAfterEpoch nanos ↔ t.clock.isLeap = false ∧ t.epochNanos = nanos := by
  have hs := t.clock.secondOfDay_lt
  have hsecond : (t.clock.secondOfDay : Int) = (t.clock.hour * 60 + t.clock.minute) * 60 + t.clock.second := by
    simp [Clock.secondOfDay]
  constructor
  · rintro ⟨hdate, hclock, hleap⟩
    rw [Date.isFromEpoch_iff] at hdate
    refine ⟨hleap, ?_⟩
    rw [epochNanos_eq]
    omega
  · rintro ⟨hleap, rfl⟩
    have hn := t.clock.isLeap_eq_false_iff.1 hleap
    refine ⟨Date.isFromEpoch_iff.2 ?_, ?_, hleap⟩
    · rw [epochNanos_eq]
      omega
    · rw [epochNanos_eq]
      omega

theorem ofEpochMillis?_eq_some_iff {n : Int} : ofEpochMillis? n = some t ↔ t.IsAfterEpoch (n * 10 ^ 6) := by
  rw [isAfterEpoch_iff, ofEpochMillis?, ofEpochNanos?_eq_some_iff]

theorem epochMillis_eq (t : Timestamp) : t.epochMillis = t.epochNanos / 10 ^ 6 := by
  unfold epochMillis epochNanos
  omega

/-- The milliseconds of any timestamp fit into sixty-four bits. -/
theorem epochMillis_bounds (t : Timestamp) : -2 ^ 63 ≤ t.epochMillis ∧ t.epochMillis < 2 ^ 63 := by
  obtain ⟨hlow, hhigh, -⟩ := t.epochNanos_bounds
  obtain ⟨hfirst, hlast⟩ := t.date.dayNumber_bounds
  unfold Date.firstDay at hfirst
  unfold Date.lastDay at hlast
  rw [epochMillis_eq]
  omega

/-! ## Whole milliseconds -/

/-- A timestamp without what is less than a millisecond. -/
def toMillis (t : Timestamp) : Timestamp where
  date := t.date
  clock :=
    { t.clock with
      nano := t.clock.nano / 10 ^ 6 * 10 ^ 6
      valid := by
        obtain ⟨hh, hm, hs, hn⟩ := t.clock.valid
        exact ⟨hh, hm, hs, by omega⟩ }

theorem isAfterEpoch_toMillis (ht : t.clock.isLeap = false) : t.toMillis.IsAfterEpoch (t.epochMillis * 10 ^ 6) := by
  have hn := t.clock.isLeap_eq_false_iff.1 ht
  rw [isAfterEpoch_iff, Clock.isLeap_eq_false_iff]
  refine ⟨?_, ?_⟩
  · show t.clock.nano / 10 ^ 6 * 10 ^ 6 < 1000000000
    omega
  · show t.epochSeconds * 10 ^ 9 + (t.clock.nano / 10 ^ 6 * 10 ^ 6 : Nat) = t.epochMillis * 10 ^ 6
    unfold epochMillis
    omega

/-! ## The order of timestamps -/

/-- The parts of a timestamp from the year down. -/
def parts (t : Timestamp) : List Int :=
  [t.date.year, t.date.month, t.date.day, t.clock.hour, t.clock.minute, t.clock.second, t.clock.nano]

/-- The first part in which two timestamps differ is less in the first of them. -/
def IsBefore (t u : Timestamp) : Prop :=
  List.Lex (· < ·) t.parts u.parts

theorem epochNanos_lt_of_dayNumber_lt (ht : t.clock.isLeap = false) (h : t.date.dayNumber < u.date.dayNumber) :
    t.epochNanos < u.epochNanos := by
  have hbefore := t.epochNanos_bounds.2.2 ht
  have hafter := u.epochNanos_bounds.1
  omega

/-- A leap second may lie beyond the moments that come after it, but no other timestamp does. -/
theorem epochNanos_lt_of_isBefore (ht : t.clock.isLeap = false) (h : t.IsBefore u) : t.epochNanos < u.epochNanos := by
  simp only [IsBefore, parts, List.cons_lex_cons_iff, List.not_lex_nil, and_false, or_false, Int.ofNat_lt,
    Int.ofNat_inj] at h
  rcases h with hyear | ⟨hyear, hmonth | ⟨hmonth, hday | ⟨hday, hclock⟩⟩⟩
  · exact epochNanos_lt_of_dayNumber_lt ht (Date.dayNumber_lt_of_year_lt hyear)
  · exact epochNanos_lt_of_dayNumber_lt ht (Date.dayNumber_lt_of_month_lt hyear hmonth)
  · exact epochNanos_lt_of_dayNumber_lt ht (Date.dayNumber_lt_of_day_lt hyear hmonth hday)
  · -- on one date the clock decides
    obtain ⟨-, hm, hs, -⟩ := t.clock.valid
    obtain ⟨-, hm', hs', -⟩ := u.clock.valid
    have hn := t.clock.isLeap_eq_false_iff.1 ht
    have hdate : t.date.dayNumber = u.date.dayNumber := by
      unfold Date.dayNumber
      rw [hyear, hmonth, hday]
    rw [epochNanos_eq, epochNanos_eq, hdate]
    unfold Clock.secondOfDay
    omega

end Timestamp

/-! ## Binding -/

section
variable {position : Nat}

theorem bindAt_timestamp_int (n : Signed 64) : bindAt position .timestamp (.int n) =
    (Timestamp.ofEpochMillis? n.val).elim (.error (.coercion position (Unfit.timestamp (.int n)).reason))
      fun t => .ok (.timestamp t) := by
  have hconvert : Parameter.of .timestamp (.int n) =
      (Parameter.orElse (Timestamp.ofEpochMillis? n.val) (.timestamp (.int n))).map .timestamp := rfl
  rw [bindAt, hconvert]
  cases Timestamp.ofEpochMillis? n.val <;> rfl

theorem bindAt_bigInt_timestamp {t : Timestamp} {n : Signed 64} :
    bindAt position .bigInt (.timestamp t) = .ok (.bigInt n) ↔ n.val = t.epochMillis := by
  have hconvert : Parameter.convert .bigInt (.timestamp t) =
      (Parameter.orElse (Signed.ofInt? 64 t.epochMillis) (.integer (Parameter.shown (.timestamp t)))).map .bigInt := rfl
  rw [bindAt_eq_ok_iff rfl, hconvert, ← Signed.ofInt?_eq_some_iff]
  cases Signed.ofInt? 64 t.epochMillis <;> simp [Parameter.orElse, Except.map]

theorem bindAt_timestamp_of_isAfterEpoch {n : Signed 64} {t : Timestamp} (h : t.IsAfterEpoch (n.val * 10 ^ 6)) :
    bindAt position .timestamp (.int n) = .ok (.timestamp t) := by
  rw [bindAt_timestamp_int, Timestamp.ofEpochMillis?_eq_some_iff.2 h]
  rfl

/-- An integer is bound as the timestamp so many milliseconds after 1970-01-01 00:00:00, and as a value becomes the same
timestamp, which is bound as that integer again. Where the calendar has no such timestamp it is refused, and the value
becomes its text. A timestamp, if it is no leap second, is bound as its nanoseconds since then, divided by a million and
rounded down, and these stand for the timestamp cut to its milliseconds; a later timestamp has no fewer of them. -/
theorem bindAt_epochMillis (position : Nat) :
    (∀ n : Signed 64,
      (∃ t, bindAt position .timestamp (.int n) = .ok (.timestamp t) ∧ t.IsAfterEpoch (n.val * 10 ^ 6) ∧
        bindAt position .bigInt (.timestamp t) = .ok (.bigInt n) ∧ coerce .timestamp (.int n) = .timestamp t) ∨
      (∃ reason, bindAt position .timestamp (.int n) = .error (.coercion position reason)) ∧
        coerce .timestamp (.int n) = .text (intText n.val) ∧ ∀ t, ¬ Timestamp.IsAfterEpoch (n.val * 10 ^ 6) t) ∧
    (∀ t : Timestamp, t.clock.isLeap = false → ∃ nanos, t.IsAfterEpoch nanos ∧ ∃ n : Signed 64,
      n.val = nanos / 10 ^ 6 ∧ bindAt position .bigInt (.timestamp t) = .ok (.bigInt n) ∧
        bindAt position .timestamp (.int n) = .ok (.timestamp t.toMillis)) ∧
    ∀ (t u : Timestamp) (n m : Signed 64), t.clock.isLeap = false → u.clock.isLeap = false → t.IsBefore u →
      bindAt position .bigInt (.timestamp t) = .ok (.bigInt n) →
        bindAt position .bigInt (.timestamp u) = .ok (.bigInt m) → n.val ≤ m.val := by
  refine ⟨fun n => ?_, fun t ht => ?_, fun t u n m ht hu hbefore hn hm => ?_⟩
  · rw [bindAt_timestamp_int, coerce_timestamp_int]
    cases hread : Timestamp.ofEpochMillis? n.val with
    | some t =>
      have hmoment := Timestamp.ofEpochMillis?_eq_some_iff.1 hread
      obtain ⟨-, hnanos⟩ := Timestamp.isAfterEpoch_iff.1 hmoment
      refine .inl ⟨t, rfl, hmoment, bindAt_bigInt_timestamp.2 ?_, rfl⟩
      rw [Timestamp.epochMillis_eq, hnanos]
      omega
    | none =>
      refine .inr ⟨⟨_, rfl⟩, rfl, fun t ht => ?_⟩
      rw [Timestamp.ofEpochMillis?_eq_some_iff.2 ht] at hread
      cases hread
  · obtain ⟨hlow, hhigh⟩ := t.epochMillis_bounds
    have hmillis := Timestamp.isAfterEpoch_toMillis ht
    exact ⟨t.epochNanos, Timestamp.isAfterEpoch_iff.2 ⟨ht, rfl⟩, ⟨t.epochMillis, hlow, hhigh⟩, t.epochMillis_eq,
      bindAt_bigInt_timestamp.2 rfl, bindAt_timestamp_of_isAfterEpoch hmillis⟩
  · have hlt := Timestamp.epochNanos_lt_of_isBefore ht hbefore
    rw [bindAt_bigInt_timestamp.1 hn, bindAt_bigInt_timestamp.1 hm, Timestamp.epochMillis_eq, Timestamp.epochMillis_eq]
    omega

/-- The last nanosecond before 1970 is cut to one millisecond before, and comes before the first moment of 1970. -/
theorem bindAt_epochMillis_lastNanosecond :
    let last : Timestamp := ⟨⟨1969, 12, 31, by decide⟩, ⟨23, 59, 59, 999999999, by decide⟩⟩
    let first : Timestamp := ⟨.epoch, .midnight⟩
    let n : Signed 64 := ⟨-1, by decide, by decide⟩
    (∃ nanos, last.IsAfterEpoch nanos ∧ n.val = nanos / 10 ^ 6) ∧
      bindAt 1 .bigInt (.timestamp last) = .ok (.bigInt n) ∧
      bindAt 1 .timestamp (.int n) =
        .ok (.timestamp ⟨⟨1969, 12, 31, by decide⟩, ⟨23, 59, 59, 999000000, by decide⟩⟩) ∧
      last.IsBefore first ∧ n.val ≤ 0 := by
  intro last first n
  have hlast : bindAt 1 .bigInt (.timestamp last) = .ok (.bigInt n) := bindAt_bigInt_timestamp.2 (by decide +kernel)
  have hfirst : bindAt 1 .bigInt (.timestamp first) = .ok (.bigInt (.ofBool false)) :=
    bindAt_bigInt_timestamp.2 (by decide)
  have hcut : last.toMillis = ⟨⟨1969, 12, 31, by decide⟩, ⟨23, 59, 59, 999000000, by decide⟩⟩ := by decide
  have hbefore : last.IsBefore first := .rel (by decide)
  obtain ⟨nanos, hnanos, m, hm, hbound, hback⟩ := (bindAt_epochMillis 1).2.1 last rfl
  rw [hlast] at hbound
  cases hbound
  rw [hcut] at hback
  exact ⟨⟨nanos, hnanos, hm⟩, hlast, hback, hbefore,
    (bindAt_epochMillis 1).2.2 last first n (.ofBool false) rfl rfl hbefore hlast hfirst⟩

end

end TypedSql
