import TypedSql.Proofs.Calendar.Date

/-!
# Dates one after the other

The number of a date is what one gets by counting days in the calendar, one by one.

* `Date.Next`, `Date.DaysLater` : the day after a day, and so many days after it, by the lengths of the months alone;
* `Date.next_iff`, `Date.daysLater_iff` : the number of the next date is one more, and of a later one so many more;
* `Date.IsFromEpoch` : so many days after 1970-01-01, or before it; `Date.isFromEpoch_iff` : which is the number;
* `Date.dayNumber_lt_of_year_lt`, `Date.dayNumber_lt_of_month_lt` : later dates have greater numbers.
-/

namespace TypedSql

namespace Calendar

/-! ## Months -/

theorem sum_take_succ (lengths : List Nat) (i : Nat) :
    (lengths.take (i + 1)).foldr (· + ·) 0 = (lengths.take i).foldr (· + ·) 0 + lengths.getD i 0 := by
  induction lengths generalizing i with
  | nil => simp
  | cons length rest ih =>
    cases i with
    | zero => simp
    | succ i =>
      have hrest := ih i
      rw [List.take_succ_cons, List.foldr_cons, hrest, List.take_succ_cons, List.foldr_cons, List.getD_cons_succ]
      omega

theorem daysBeforeMonth_succ (year : Int) {month : Nat} (h : 1 ≤ month) :
    daysBeforeMonth year (month + 1) = daysBeforeMonth year month + daysInMonth year month := by
  have hsum := sum_take_succ (monthLengths year) (month - 1)
  rw [Nat.sub_add_cancel h] at hsum
  unfold daysBeforeMonth daysInMonth
  rw [if_neg (by omega), Nat.add_sub_cancel, hsum]

theorem daysBeforeMonth_le_of_le (year : Int) {a b : Nat} (ha : 1 ≤ a) (h : a ≤ b) :
    daysBeforeMonth year a ≤ daysBeforeMonth year b := by
  induction h with
  | refl => exact Nat.le_refl _
  | step h ih =>
    rw [daysBeforeMonth_succ year (Nat.le_trans ha h)]
    omega

theorem one_le_daysInMonth (year : Int) {month : Nat} (h1 : 1 ≤ month) (h12 : month ≤ 12) :
    1 ≤ daysInMonth year month := by
  have hall : ∀ i < 12, 1 ≤ (monthLengths year).getD i 0 := by
    unfold monthLengths
    split <;> decide
  unfold daysInMonth
  rw [if_neg (by omega)]
  exact hall (month - 1) (by omega)

theorem daysInMonth_december (year : Int) : daysInMonth year 12 = 31 := rfl

theorem daysBeforeMonth_december (year : Int) :
    daysBeforeMonth year 12 = if isLeapYear year then 335 else 334 := by
  unfold daysBeforeMonth monthLengths
  split <;> rfl

end Calendar

open Calendar

namespace Date
variable {d e : Date}

/-! ## Days -/

/-- The day after a day: the next one of its month, or the first one of the next month or of the next year. -/
inductive Next (d e : Date) : Prop where
  | day (hyear : e.year = d.year) (hmonth : e.month = d.month) (hday : e.day = d.day + 1)
  | month (hlast : d.day = daysInMonth d.year d.month) (hyear : e.year = d.year) (hmonth : e.month = d.month + 1)
      (hday : e.day = 1)
  | year (hdecember : d.month = 12) (hlast : d.day = 31) (hyear : e.year = d.year + 1) (hmonth : e.month = 1)
      (hday : e.day = 1)

/-- So many days after a day. -/
inductive DaysLater (d : Date) : Nat → Date → Prop where
  | zero : DaysLater d 0 d
  | succ {n : Nat} {e f : Date} (h : DaysLater d n e) (hnext : Next e f) : DaysLater d (n + 1) f

/-- So many days after 1970-01-01, or before it. -/
def IsFromEpoch (n : Int) (d : Date) : Prop :=
  if 0 ≤ n then DaysLater epoch n.toNat d else DaysLater d n.natAbs epoch

theorem month_pos (d : Date) : 1 ≤ d.month := by
  obtain ⟨k, -, -, hm, -⟩ := d.exists_dayOfYear
  omega

theorem dayNumber_of_next (h : Next d e) : e.dayNumber = d.dayNumber + 1 := by
  obtain ⟨-, -, hpos, -⟩ := d.valid
  unfold dayNumber
  cases h with
  | day hyear hmonth hday =>
    rw [hyear, hmonth, hday]
    omega
  | month hlast hyear hmonth hday =>
    rw [hyear, hmonth, hday, daysBeforeMonth_succ _ d.month_pos]
    omega
  | year hdecember hlast hyear hmonth hday =>
    have hjanuary : daysBeforeMonth (d.year + 1) 1 = 0 := rfl
    rw [hyear, hmonth, hday, hdecember, hlast, daysBeforeYear_succ, daysBeforeMonth_december, hjanuary]
    split <;> omega

/-- Each day but the last one has a day after it. -/
theorem exists_next (h : d.dayNumber < lastDay) : ∃ e, Next d e := by
  obtain ⟨hlow, hhigh, hpos, hle⟩ := d.valid
  have hm12 := d.month_day_bounds.1
  by_cases hday : d.day < daysInMonth d.year d.month
  · exact ⟨⟨d.year, d.month, d.day + 1, hlow, hhigh, by omega, hday⟩, .day rfl rfl rfl⟩
  have hlast : d.day = daysInMonth d.year d.month := by omega
  by_cases hmonth : d.month < 12
  · exact ⟨⟨d.year, d.month + 1, 1, hlow, hhigh, Nat.le_refl 1, one_le_daysInMonth _ (by omega) hmonth⟩,
      .month hlast rfl rfl rfl⟩
  have hdecember : d.month = 12 := by omega
  have hday31 : d.day = 31 := by rw [hlast, hdecember, daysInMonth_december]
  have hyear : d.year < 262142 := by
    refine Int.not_le.1 fun hge => ?_
    have hnumber : d.dayNumber = lastDay := by
      unfold dayNumber
      rw [hday31, hdecember, Int.le_antisymm hhigh hge]
      decide
    omega
  exact ⟨⟨d.year + 1, 1, 1, by omega, by omega, Nat.le_refl 1, one_le_daysInMonth _ (by omega) (by omega)⟩,
    .year hdecember hday31 rfl rfl rfl⟩

theorem eq_of_dayNumber_eq (h : d.dayNumber = e.dayNumber) : d = e := by
  have hd := ofDayNumber?_dayNumber d
  rw [h, ofDayNumber?_dayNumber] at hd
  exact (Option.some.inj hd).symm

theorem next_iff : Next d e ↔ e.dayNumber = d.dayNumber + 1 := by
  constructor
  · exact dayNumber_of_next
  · intro h
    have hlast := e.dayNumber_bounds.2
    obtain ⟨f, hf⟩ := @exists_next d (by omega)
    rwa [eq_of_dayNumber_eq (h.trans (dayNumber_of_next hf).symm)]

theorem daysLater_iff {n : Nat} : DaysLater d n e ↔ e.dayNumber = d.dayNumber + n := by
  constructor
  · intro h
    induction h with
    | zero => simp
    | succ h hnext ih =>
      rw [dayNumber_of_next hnext, ih]
      omega
  · intro h
    induction n generalizing e with
    | zero =>
      rw [eq_of_dayNumber_eq (h.trans (Int.add_zero _))]
      exact .zero
    | succ n ih =>
      -- the day before is between the two
      have hd := d.dayNumber_bounds
      have he := e.dayNumber_bounds
      obtain ⟨f, hf⟩ := @exists_dayNumber (d.dayNumber + n) (by omega) (by omega)
      exact .succ (ih hf) (next_iff.2 (by omega))

theorem isFromEpoch_iff {n : Int} : IsFromEpoch n d ↔ d.dayNumber = n := by
  unfold IsFromEpoch
  split
  · rw [daysLater_iff, dayNumber_epoch]
    omega
  · rw [daysLater_iff, dayNumber_epoch]
    omega

/-! ## The order of dates -/

theorem dayNumber_lt_of_year_lt (h : d.year < e.year) : d.dayNumber < e.dayNumber := by
  have hd := d.dayOfYear_bounds.2
  have he := e.dayOfYear_bounds.1
  have hle := daysBeforeYear_le_of_le (Int.add_one_le_of_lt h)
  omega

theorem dayNumber_lt_of_month_lt (hyear : d.year = e.year) (h : d.month < e.month) : d.dayNumber < e.dayNumber := by
  obtain ⟨-, -, hpos, hle⟩ := d.valid
  have hmonths := daysBeforeMonth_le_of_le e.year (Nat.le_add_left 1 d.month) h
  rw [daysBeforeMonth_succ _ d.month_pos] at hmonths
  rw [hyear] at hle
  unfold dayNumber
  rw [hyear]
  omega

theorem dayNumber_lt_of_day_lt (hyear : d.year = e.year) (hmonth : d.month = e.month) (h : d.day < e.day) :
    d.dayNumber < e.dayNumber := by
  obtain ⟨-, -, hpos, -⟩ := d.valid
  unfold dayNumber
  rw [hyear, hmonth]
  omega

end Date

end TypedSql
