import TypedSql.Number.Power

/-!
# Times of day

* `Clock`: hour, minute, second and nanosecond; a leap second is second 59 with a thousand million nanoseconds or more.
* `Clock.secondOfDay`, `Clock.ofSecondOfDay`: whole seconds since midnight.
-/

namespace TypedSql

/-- Parts of a time of day that exist. Only second 59 can be a leap second. -/
def IsClock (hour minute second nano : Nat) : Prop :=
  hour < 24 ∧ minute < 60 ∧ second < 60 ∧ (nano < 10 ^ 9 ∨ second = 59 ∧ nano < 2 * 10 ^ 9)

instance (hour minute second nano : Nat) : Decidable (IsClock hour minute second nano) := by
  unfold IsClock; infer_instance

/-- A time of day to the nanosecond. -/
structure Clock where
  hour : Nat
  minute : Nat
  second : Nat
  nano : Nat
  valid : IsClock hour minute second nano
deriving DecidableEq

namespace Clock

/-- The time with these parts, if there is one. -/
def ofParts? (hour minute second nano : Nat) : Option Clock :=
  if h : IsClock hour minute second nano then some ⟨hour, minute, second, nano, h⟩ else none

def midnight : Clock := ⟨0, 0, 0, 0, by decide⟩

/-- A time in the second that is added to a minute. -/
def isLeap (c : Clock) : Bool :=
  10 ^ 9 ≤ c.nano

/-- Whole seconds since midnight. -/
def secondOfDay (c : Clock) : Nat :=
  (c.hour * 60 + c.minute) * 60 + c.second

/-- The time so many seconds, counted around the day, and nanoseconds, counted around the second, after
midnight. -/
def ofSecondOfDay (seconds nano : Nat) : Clock where
  hour := seconds / 3600 % 24
  minute := seconds / 60 % 60
  second := seconds % 60
  nano := nano % 10 ^ 9
  valid := ⟨Nat.mod_lt _ (by decide), Nat.mod_lt _ (by decide), Nat.mod_lt _ (by decide),
    .inl (Nat.mod_lt _ (by decide))⟩

theorem secondOfDay_ofSecondOfDay {seconds : Nat} (h : seconds < 86400) (nano : Nat) :
    (ofSecondOfDay seconds nano).secondOfDay = seconds := by
  simp only [ofSecondOfDay, secondOfDay]
  omega

end Clock

end TypedSql
