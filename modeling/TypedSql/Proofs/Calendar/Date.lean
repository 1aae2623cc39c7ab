import TypedSql.Calendar.Date

/-!
# Dates and their numbers

* `yearOfDay_bounds`, `yearOfDay_eq` : the year of a day is the one whose days it is among;
* `splitMonths_eq`, `exists_splitMonths` : a day of a year as a day of a month, and back;
* `Date.ofDayNumber?_dayNumber` : a date is found by its number;
* `Date.exists_ofDayNumber?` : the numbers from that of the first date to that of the last all have a date;
* `Date.ofDayNumber?_eq_some_iff` : what is found by a number has that number.
-/

namespace TypedSql

namespace Calendar

/-! ## Years -/

theorem daysBeforeYear_succ (year : Int) :
    daysBeforeYear (year + 1) = daysBeforeYear year + if isLeapYear year then 366 else 365 := by
  unfold daysBeforeYear isLeapYear
  simp only [Bool.or_eq_true, Bool.and_eq_true, beq_iff_eq, bne_iff_ne]
  split <;> omega

theorem daysBeforeYear_le_of_le {a b : Int} (h : a ≤ b) : daysBeforeYear a ≤ daysBeforeYear b := by
  unfold daysBeforeYear
  omega

/-- The first guess at the year of a day is off by one at most. -/
theorem guess_bounds (n : Int) :
    daysBeforeYear (n * 400 / 146097 + 1 - 1) ≤ n ∧ n < daysBeforeYear (n * 400 / 146097 + 1 + 1 + 1) := by
  unfold daysBeforeYear
  omega

theorem yearOfDay_bounds (n : Int) : daysBeforeYear (yearOfDay n) ≤ n ∧ n < daysBeforeYear (yearOfDay n + 1) := by
  have hguess := guess_bounds n
  unfold yearOfDay
  dsimp only
  split
  · next h => exact ⟨hguess.1, by rwa [Int.sub_add_cancel]⟩
  split
  · next h => exact ⟨h, hguess.2⟩
  · next h1 h2 => exact ⟨Int.not_lt.1 h1, Int.not_le.1 h2⟩

theorem yearOfDay_eq {n year : Int} (hlow : daysBeforeYear year ≤ n) (hhigh : n < daysBeforeYear (year + 1)) :
    yearOfDay n = year := by
  obtain ⟨h1, h2⟩ := yearOfDay_bounds n
  by_cases hlt : yearOfDay n < year
  · have hle := daysBeforeYear_le_of_le (Int.add_one_le_of_lt hlt)
    omega
  by_cases hgt : year < yearOfDay n
  · have hle := daysBeforeYear_le_of_le (Int.add_one_le_of_lt hgt)
    omega
  omega

/-! ## Months -/

theorem sum_monthLengths (year : Int) :
    (monthLengths year).foldr (· + ·) 0 = if isLeapYear year then 366 else 365 := by
  unfold monthLengths
  split <;> rfl

theorem getD_monthLengths_le (year : Int) (i : Nat) :
    (monthLengths year).getD i 0 ≤ 31 ∧ (12 ≤ i → (monthLengths year).getD i 0 = 0) := by
  have hshort : ∀ i < 12, (monthLengths year).getD i 0 ≤ 31 := by
    unfold monthLengths
    split <;> decide
  have hlong : 12 ≤ i → (monthLengths year).getD i 0 = 0 := by
    intro h
    rw [List.getD_eq_getElem?_getD, List.getElem?_eq_none (by simpa [monthLengths])]
    rfl
  refine ⟨?_, hlong⟩
  by_cases h : i < 12
  · exact hshort i h
  · rw [hlong (by omega)]
    decide

theorem splitMonths_eq {lengths : List Nat} {i k : Nat} (hk : k < lengths.getD i 0) :
    splitMonths lengths ((lengths.take i).foldr (· + ·) 0 + k) = (i + 1, k + 1) := by
  induction lengths generalizing i with
  | nil => simp at hk
  | cons length rest ih =>
    cases i with
    | zero =>
      have hlength : k < length := hk
      rw [List.take_zero, List.foldr_nil, Nat.zero_add, splitMonths, if_pos hlength]
    | succ i =>
      rw [List.take_succ_cons, List.foldr_cons, splitMonths, if_neg (by omega)]
      have hrest : length + (rest.take i).foldr (· + ·) 0 + k - length = (rest.take i).foldr (· + ·) 0 + k := by omega
      rw [hrest, ih hk]

theorem exists_splitMonths {lengths : List Nat} {n : Nat} (h : n < lengths.foldr (· + ·) 0) :
    ∃ i k, k < lengths.getD i 0 ∧ n = (lengths.take i).foldr (· + ·) 0 + k := by
  induction lengths generalizing n with
  | nil => simp at h
  | cons length rest ih =>
    rw [List.foldr_cons] at h
    by_cases hn : n < length
    · exact ⟨0, n, hn, by simp⟩
    · obtain ⟨i, k, hk, hrest⟩ := @ih (n - length) (by omega)
      refine ⟨i + 1, k, hk, ?_⟩
      rw [List.take_succ_cons, List.foldr_cons]
      omega

theorem sum_take_add_lt {lengths : List Nat} {i k : Nat} (hk : k < lengths.getD i 0) :
    (lengths.take i).foldr (· + ·) 0 + k < lengths.foldr (· + ·) 0 := by
  induction lengths generalizing i with
  | nil => simp at hk
  | cons length rest ih =>
    cases i with
    | zero =>
      have hlength : k < length := hk
      rw [List.take_zero, List.foldr_nil, List.foldr_cons]
      omega
    | succ i =>
      have hrest := @ih i hk
      rw [List.take_succ_cons, List.foldr_cons, List.foldr_cons]
      omega

end Calendar

open Calendar

namespace Date

/-! ## Dates -/

/-- The number of the first date. -/
def firstDay : Int := -96465292

/-- The number of the last date. -/
def lastDay : Int := 95026236

/-- A date is the first day of its year and so many days. -/
theorem exists_dayOfYear (d : Date) : ∃ k, k < (monthLengths d.year).getD (d.month - 1) 0 ∧ d.day = k + 1 ∧
    d.month = d.month - 1 + 1 ∧
    d.dayNumber + epochDay =
      daysBeforeYear d.year + (((monthLengths d.year).take (d.month - 1)).foldr (· + ·) 0 + k : Nat) := by
  obtain ⟨-, -, h1, h2⟩ := d.valid
  unfold daysInMonth at h2
  split at h2
  · omega
  · refine ⟨d.day - 1, by omega, by omega, by omega, ?_⟩
    unfold dayNumber daysBeforeMonth
    omega

theorem month_day_bounds (d : Date) : d.month ≤ 12 ∧ d.day ≤ 31 := by
  obtain ⟨k, hk, hd, hm, -⟩ := d.exists_dayOfYear
  obtain ⟨h1, h2⟩ := getD_monthLengths_le d.year (d.month - 1)
  omega

theorem dayOfYear_bounds (d : Date) :
    daysBeforeYear d.year ≤ d.dayNumber + epochDay ∧ d.dayNumber + epochDay < daysBeforeYear (d.year + 1) := by
  obtain ⟨k, hk, -, -, hday⟩ := d.exists_dayOfYear
  have hsum := sum_take_add_lt hk
  rw [sum_monthLengths] at hsum
  rw [daysBeforeYear_succ, hday]
  by_cases hleap : isLeapYear d.year = true
  · rw [if_pos hleap] at hsum ⊢
    omega
  · rw [if_neg hleap] at hsum ⊢
    omega

theorem dayNumber_bounds (d : Date) : firstDay ≤ d.dayNumber ∧ d.dayNumber ≤ lastDay := by
  obtain ⟨h1, h2⟩ := d.dayOfYear_bounds
  obtain ⟨hy1, hy2, -⟩ := d.valid
  unfold daysBeforeYear epochDay at *
  unfold firstDay lastDay
  omega

theorem ofParts?_eq (d : Date) : ofParts? d.year d.month d.day = some d := by
  unfold ofParts?
  rw [dif_pos d.valid]

theorem ofDayNumber?_dayNumber (d : Date) : ofDayNumber? d.dayNumber = some d := by
  obtain ⟨h1, h2⟩ := d.dayOfYear_bounds
  obtain ⟨k, hk, hd, hm, hday⟩ := d.exists_dayOfYear
  unfold ofDayNumber?
  dsimp only
  rw [yearOfDay_eq h1 h2, hday]
  generalize hn : ((monthLengths d.year).take (d.month - 1)).foldr (· + ·) 0 + k = n
  have hdays : (daysBeforeYear d.year + (n : Int) - daysBeforeYear d.year).toNat = n := by omega
  rw [hdays, ← hn, splitMonths_eq hk]
  dsimp only
  rw [← hd, ← hm, ofParts?_eq]

/-- The days of the years that are kept are those from the first to the last. -/
theorem year_kept_iff {n : Int} :
    (-262143 ≤ yearOfDay (n + epochDay) ∧ yearOfDay (n + epochDay) ≤ 262142) ↔ firstDay ≤ n ∧ n ≤ lastDay := by
  obtain ⟨h1, h2⟩ := yearOfDay_bounds (n + epochDay)
  generalize yearOfDay (n + epochDay) = year at h1 h2 ⊢
  have hfirst : daysBeforeYear (-262143) = firstDay + epochDay := by decide
  have hlast : daysBeforeYear (262142 + 1) = lastDay + epochDay + 1 := by decide
  constructor
  · rintro ⟨hlow, hhigh⟩
    have hle1 := daysBeforeYear_le_of_le hlow
    have hle2 := daysBeforeYear_le_of_le (Int.add_le_add_right hhigh 1)
    omega
  · rintro ⟨hlow, hhigh⟩
    constructor
    · refine Int.not_lt.1 fun h => ?_
      have hle := daysBeforeYear_le_of_le (Int.add_one_le_of_lt h)
      omega
    · refine Int.not_lt.1 fun h => ?_
      have hle := daysBeforeYear_le_of_le (Int.add_one_le_of_lt h)
      omega

/-- Each number from the first to the last is that of a date. -/
theorem exists_dayNumber {n : Int} (hlow : firstDay ≤ n) (hhigh : n ≤ lastDay) : ∃ d : Date, d.dayNumber = n := by
  obtain ⟨h1, h2⟩ := yearOfDay_bounds (n + epochDay)
  obtain ⟨hyear1, hyear2⟩ := year_kept_iff.2 ⟨hlow, hhigh⟩
  generalize yearOfDay (n + epochDay) = year at h1 h2 hyear1 hyear2
  have hlt : (n + epochDay - daysBeforeYear year).toNat < (monthLengths year).foldr (· + ·) 0 := by
    rw [daysBeforeYear_succ] at h2
    rw [sum_monthLengths]
    by_cases hleap : isLeapYear year = true
    · rw [if_pos hleap] at h2 ⊢
      omega
    · rw [if_neg hleap] at h2 ⊢
      omega
  obtain ⟨i, k, hk, hik⟩ := exists_splitMonths hlt
  refine ⟨⟨year, i + 1, k + 1, hyear1, hyear2, by omega, ?_⟩, ?_⟩
  · unfold daysInMonth
    rw [if_neg (by omega), Nat.add_sub_cancel]
    omega
  · unfold dayNumber daysBeforeMonth
    dsimp only
    rw [Nat.add_sub_cancel, Nat.add_sub_cancel]
    omega

theorem exists_ofDayNumber? {n : Int} (hlow : firstDay ≤ n) (hhigh : n ≤ lastDay) :
    ∃ d, ofDayNumber? n = some d ∧ d.dayNumber = n := by
  obtain ⟨d, rfl⟩ := exists_dayNumber hlow hhigh
  exact ⟨d, ofDayNumber?_dayNumber d, rfl⟩

theorem bounds_of_ofDayNumber? {n : Int} {d : Date} (h : ofDayNumber? n = some d) : firstDay ≤ n ∧ n ≤ lastDay := by
  unfold ofDayNumber? ofParts? at h
  dsimp only at h
  split at h
  · next hvalid =>
    obtain ⟨hlow, hhigh, -⟩ := hvalid
    exact year_kept_iff.1 ⟨hlow, hhigh⟩
  · cases h

theorem ofDayNumber?_eq_some_iff {n : Int} {d : Date} : ofDayNumber? n = some d ↔ d.dayNumber = n := by
  constructor
  · intro h
    obtain ⟨hlow, hhigh⟩ := bounds_of_ofDayNumber? h
    obtain ⟨d', hd', hnumber⟩ := exists_ofDayNumber? hlow hhigh
    rw [Option.some.inj (h.symm.trans hd'), hnumber]
  · rintro rfl
    exact ofDayNumber?_dayNumber d

end Date

end TypedSql
