import TypedSql.Calendar.Reading
import TypedSql.Proofs.Calendar.Timestamp
import TypedSql.Proofs.Number.Digits
import TypedSql.Proofs.Text.Blank

/-!
# Timestamps read back from their text

* `fixedNumber?_append`, `number?_append`, `year?_yearText`, `fraction?_fractionText` : each part is read back from its
  text and gives what follows;
* `datePart?_dateText`, `clockPart?_clockText` : so are a date and a time, leap seconds included;
* `readZoned?_text`, `readDate?_text` : the written form has no offset, and it is more than a date;
* `read?_text` : a timestamp is read back from its text.
-/

namespace TypedSql.Timestamp

open Text

/-! ## Numbers -/

theorem isDigit_of_mem_padded {width n : Nat} : ∀ c ∈ padded width n, c.isDigit = true := by
  intro c hc
  rcases List.mem_append.1 hc with h | h
  · rw [List.eq_of_mem_replicate h]
    rfl
  · exact Nat.isDigit_of_mem_toDigits (by decide) (by decide) h

theorem digitsValue_padded (width n : Nat) : digitsValue (padded width n) = n := by
  unfold padded
  rw [digitsValue_replicate_append, digitsValue_toDigits]

theorem length_padded {width n : Nat} (hw : 0 < width) (h : n < 10 ^ width) : (padded width n).length = width := by
  have hle := (Nat.length_toDigits_le_iff (by decide) hw).2 h
  unfold padded
  rw [List.length_append, List.length_replicate]
  omega

theorem padded_ne_nil {width n : Nat} : padded width n ≠ [] :=
  fun h => Nat.toDigits_ne_nil (List.append_eq_nil_iff.1 h).2

theorem trimStart_digits {ds : List Char} (hds : ∀ c ∈ ds, c.isDigit = true) (hne : ds ≠ []) (rest : List Char) :
    trimStart (ds ++ rest) = ds ++ rest := by
  apply trimStart_eq_self
  intro c hc
  cases ds with
  | nil => exact absurd rfl hne
  | cons d ds =>
    obtain rfl : d = c := Option.some.inj hc
    exact isBlank_of_isDigit (hds d (by simp))

theorem fixedNumber?_append {width n : Nat} (hw : 0 < width) (h : n < 10 ^ width) (rest : List Char) :
    fixedNumber? width (padded width n ++ rest) = some (n, rest) := by
  have hlength := length_padded hw h
  unfold fixedNumber?
  rw [List.take_left' hlength, List.drop_left' hlength]
  dsimp only
  rw [if_pos ⟨hlength, List.all_eq_true.2 isDigit_of_mem_padded⟩, digitsValue_padded]

theorem number?_append {width n : Nat} (hw : 0 < width) (h : n < 10 ^ width) (rest : List Char) :
    number? width (padded width n ++ rest) = some (n, rest) := by
  have hlength := length_padded hw h
  have htake : (padded width n).takeWhile Char.isDigit = padded width n := by
    have h := (@takeWhile_isDigit_append _ (@isDigit_of_mem_padded width n) [] (by simp)).1
    rwa [List.append_nil] at h
  unfold number?
  rw [trimStart_digits isDigit_of_mem_padded padded_ne_nil]
  dsimp only
  rw [List.take_left' hlength, htake, if_neg (by simpa using padded_ne_nil), digitsValue_padded, List.drop_left]

theorem expect?_cons (c : Char) (s : List Char) : expect? c (c :: s) = some s := by
  rw [expect?, if_pos rfl]

/-! ## Dates -/

theorem spanDigits_padded {width n : Nat} {rest : List Char} (hrest : ∀ c ∈ rest.head?, c.isDigit = false) :
    spanDigits (padded width n ++ rest) = (padded width n, rest) :=
  spanDigits_append isDigit_of_mem_padded hrest

theorem year?_minus (s : List Char) : year? ('-' :: s) =
    if (spanDigits s).1.isEmpty then none else some (-(digitsValue (spanDigits s).1 : Int), (spanDigits s).2) := by
  have htrim : trimStart ('-' :: s) = '-' :: s := trimStart_eq_self (by rintro c ⟨⟩; decide)
  rw [year?, htrim]
  rfl

theorem year?_plus (s : List Char) : year? ('+' :: s) =
    if (spanDigits s).1.isEmpty then none else some ((digitsValue (spanDigits s).1 : Int), (spanDigits s).2) := by
  have htrim : trimStart ('+' :: s) = '+' :: s := trimStart_eq_self (by rintro c ⟨⟩; decide)
  rw [year?, htrim]
  rfl

theorem year?_digit {c : Char} (hc : c.isDigit = true) (s : List Char) :
    year? (c :: s) = (number? 4 (c :: s)).map fun p => ((p.1 : Int), p.2) := by
  have htrim : trimStart (c :: s) = c :: s := trimStart_eq_self (by rintro d ⟨⟩; exact isBlank_of_isDigit hc)
  rw [year?, htrim]
  split
  · next h =>
    obtain ⟨rfl, -⟩ := List.cons.inj h
    exact absurd hc (by decide)
  · next h =>
    obtain ⟨rfl, -⟩ := List.cons.inj h
    exact absurd hc (by decide)
  · rfl

theorem year?_yearText {year : Int} {rest : List Char} (hrest : ∀ c ∈ rest.head?, c.isDigit = false) :
    year? (yearText year ++ rest) = some (year, rest) := by
  have hempty : (padded 4 year.natAbs).isEmpty = false := List.isEmpty_eq_false_iff.2 padded_ne_nil
  unfold yearText
  by_cases hneg : year < 0
  · have habs : -(year.natAbs : Int) = year := by omega
    rw [if_pos hneg, List.singleton_append, List.cons_append, year?_minus, spanDigits_padded hrest, hempty,
      if_neg (by decide), digitsValue_padded, habs]
  rw [if_neg hneg]
  by_cases hlong : 9999 < year
  · have habs : (year.natAbs : Int) = year := by omega
    rw [if_pos hlong, List.singleton_append, List.cons_append, year?_plus, spanDigits_padded hrest, hempty,
      if_neg (by decide), digitsValue_padded, habs]
  · have habs : (year.natAbs : Int) = year := by omega
    have hread := @number?_append 4 year.natAbs (by decide) (by omega) rest
    have hdigit := @isDigit_of_mem_padded 4 year.natAbs
    rw [if_neg hlong, List.nil_append]
    cases hp : padded 4 year.natAbs with
    | nil => exact absurd hp padded_ne_nil
    | cons c ds =>
      rw [hp] at hread hdigit
      rw [List.cons_append] at hread ⊢
      rw [year?_digit (hdigit c (by simp)), hread, Option.map_some, habs]

theorem datePart?_dateText (d : Date) (rest : List Char) : datePart? (dateText d ++ rest) = some (d, rest) := by
  obtain ⟨hm, hd⟩ := d.month_day_bounds
  unfold dateText datePart?
  simp only [List.append_assoc, List.cons_append]
  rw [year?_yearText (by rintro c ⟨⟩; decide)]
  dsimp only [bind, Option.bind]
  rw [expect?_cons]
  dsimp only
  rw [number?_append (by decide) (by omega)]
  dsimp only
  rw [expect?_cons]
  dsimp only
  rw [number?_append (by decide) (by omega)]
  dsimp only
  rw [Date.ofParts?_eq]
  rfl

/-! ## Times of day -/

theorem fraction?_digits {ds : List Char} (hds : ∀ c ∈ ds, c.isDigit = true) (hne : ds ≠ []) :
    fraction? ('.' :: ds) = some (fractionNanos ds, []) := by
  have hspan := @spanDigits_append ds hds [] (by simp)
  rw [List.append_nil] at hspan
  show (if (spanDigits ds).1.isEmpty then none else some (fractionNanos (spanDigits ds).1, (spanDigits ds).2)) = _
  rw [hspan, if_neg (by simpa using hne)]

/-- The digits that are left out are zeros. -/
theorem fractionNanos_padded {width n : Nat} (hw : 0 < width) (hle : width ≤ 9) (h : n < 10 ^ width) :
    fractionNanos (padded width n) = n * 10 ^ (9 - width) := by
  have hlength := length_padded hw h
  unfold fractionNanos
  rw [List.take_of_length_le (by omega), digitsValue_padded, hlength]

theorem fraction?_fractionText {nano : Nat} (h : nano < 1000000000) :
    fraction? (fractionText nano) = some (nano, []) := by
  unfold fractionText
  split
  · next h0 =>
    rw [h0]
    rfl
  split
  · rw [fraction?_digits isDigit_of_mem_padded padded_ne_nil,
      fractionNanos_padded (by decide) (by decide) (by omega)]
    have hnano : nano / 10 ^ 6 * 10 ^ (9 - 3) = nano := by omega
    rw [hnano]
  split
  · rw [fraction?_digits isDigit_of_mem_padded padded_ne_nil,
      fractionNanos_padded (by decide) (by decide) (by omega)]
    have hnano : nano / 10 ^ 3 * 10 ^ (9 - 6) = nano := by omega
    rw [hnano]
  · rw [fraction?_digits isDigit_of_mem_padded padded_ne_nil,
      fractionNanos_padded (by decide) (by decide) (by omega)]
    simp

theorem ofParts?_clock (c : Clock) : Clock.ofParts? c.hour c.minute c.second c.nano = some c := by
  unfold Clock.ofParts?
  rw [dif_pos c.valid]

/-- A leap second is written as second 60 and read as second 59 with a thousand million nanoseconds more. -/
theorem clock?_clock (c : Clock) :
    clock? c.hour c.minute (if c.isLeap then 60 else c.second) (c.nano % 10 ^ 9) = some c := by
  obtain ⟨-, -, hs, hn⟩ := c.valid
  unfold clock?
  by_cases hleap : c.isLeap = true
  · have hnano : 10 ^ 9 ≤ c.nano := by simpa [Clock.isLeap] using hleap
    have hsecond : 59 = c.second := by omega
    have hback : c.nano % 10 ^ 9 + 10 ^ 9 = c.nano := by omega
    rw [if_pos hleap, if_pos rfl, hback, hsecond, ofParts?_clock]
  · have hnano : c.nano < 10 ^ 9 := by simpa [Clock.isLeap] using hleap
    rw [if_neg hleap, if_neg (by omega), Nat.mod_eq_of_lt hnano, ofParts?_clock]

theorem second_lt (c : Clock) : (if c.isLeap then 60 else c.second) < 10 ^ 2 := by
  obtain ⟨-, -, hs, -⟩ := c.valid
  split <;> omega

theorem clockPart?_clockText (c : Clock) : clockPart? (clockText c) = some c := by
  obtain ⟨hh, hm, -, -⟩ := c.valid
  unfold clockText clockPart?
  simp only [List.append_assoc, List.cons_append]
  rw [number?_append (by decide) (by omega)]
  dsimp only [bind, Option.bind]
  rw [expect?_cons]
  dsimp only
  rw [number?_append (by decide) (by omega)]
  dsimp only
  rw [expect?_cons]
  dsimp only
  rw [number?_append (by decide) (second_lt c)]
  dsimp only
  rw [fraction?_fractionText (Nat.mod_lt _ (by decide))]
  exact clock?_clock c

/-! ## Timestamps -/

theorem readSpaced?_text (t : Timestamp) : readSpaced? (dateText t.date ++ ' ' :: clockText t.clock) = some t := by
  have htrim : trimStart (' ' :: clockText t.clock) = clockText t.clock := by
    have hdrop : trimStart (' ' :: clockText t.clock) = trimStart (clockText t.clock) := rfl
    rw [hdrop]
    unfold clockText
    simp only [List.append_assoc]
    exact trimStart_digits isDigit_of_mem_padded padded_ne_nil _
  unfold readSpaced?
  rw [datePart?_dateText]
  dsimp only [bind, Option.bind]
  rw [htrim, clockPart?_clockText]
  rfl

theorem fixedNumber?_of_not_digit {c : Char} (hc : c.isDigit = false) {width : Nat} (hw : 0 < width) (s : List Char) :
    fixedNumber? width (c :: s) = none := by
  obtain ⟨w, rfl⟩ : ∃ w, width = w + 1 := ⟨width - 1, by omega⟩
  unfold fixedNumber?
  dsimp only
  rw [if_neg (by simp [hc])]

theorem readZoned?_of_not_digit {c : Char} (hc : c.isDigit = false) (s : List Char) : readZoned? (c :: s) = none := by
  unfold readZoned?
  rw [fixedNumber?_of_not_digit hc (by decide)]
  rfl

/-- The strict form begins with no sign and ends in an offset. -/
theorem readZoned?_text (t : Timestamp) : readZoned? (dateText t.date ++ ' ' :: clockText t.clock) = none := by
  obtain ⟨hm, hd⟩ := t.date.month_day_bounds
  obtain ⟨hh, hmin, -, -⟩ := t.clock.valid
  unfold dateText yearText
  by_cases hneg : t.date.year < 0
  · rw [if_pos hneg]
    exact readZoned?_of_not_digit rfl _
  rw [if_neg hneg]
  by_cases hlong : 9999 < t.date.year
  · rw [if_pos hlong]
    exact readZoned?_of_not_digit rfl _
  rw [if_neg hlong]
  unfold clockText readZoned?
  simp only [List.nil_append, List.append_assoc, List.cons_append]
  rw [fixedNumber?_append (by decide) (by omega)]
  dsimp only [bind, Option.bind]
  rw [expect?_cons]
  dsimp only
  rw [fixedNumber?_append (by decide) (by omega)]
  dsimp only
  rw [expect?_cons]
  dsimp only
  rw [fixedNumber?_append (by decide) (by omega)]
  dsimp only [separator?]
  rw [if_pos (by decide)]
  dsimp only
  rw [fixedNumber?_append (by decide) (by omega)]
  dsimp only
  rw [expect?_cons]
  dsimp only
  rw [fixedNumber?_append (by decide) (by omega)]
  dsimp only
  rw [expect?_cons]
  dsimp only
  rw [fixedNumber?_append (by decide) (second_lt t.clock)]
  dsimp only
  rw [fraction?_fractionText (Nat.mod_lt _ (by decide))]
  rfl

theorem readDate?_text (t : Timestamp) : readDate? (dateText t.date ++ ' ' :: clockText t.clock) = none := by
  unfold readDate?
  rw [datePart?_dateText]
  rfl

theorem isBlank_of_mem_padded {width n : Nat} {c : Char} (h : c ∈ padded width n) : isBlank c = false :=
  isBlank_of_isDigit (isDigit_of_mem_padded c h)

theorem isBlank_of_mem_dateText {d : Date} {c : Char} (h : c ∈ dateText d) : isBlank c = false := by
  unfold dateText yearText at h
  simp only [List.mem_append, List.mem_cons] at h
  rcases h with (((h | h) | rfl | h) | rfl | h)
  · split at h
    · rw [List.mem_singleton.1 h]
      decide
    · split at h
      · rw [List.mem_singleton.1 h]
        decide
      · cases h
  · exact isBlank_of_mem_padded h
  · decide
  · exact isBlank_of_mem_padded h
  · decide
  · exact isBlank_of_mem_padded h

theorem isBlank_of_mem_fractionText {nano : Nat} {c : Char} (h : c ∈ fractionText nano) : isBlank c = false := by
  have hpoint : ∀ {width n : Nat}, c ∈ '.' :: padded width n → isBlank c = false := by
    intro width n hc
    rcases List.mem_cons.1 hc with rfl | hc
    · decide
    · exact isBlank_of_mem_padded hc
  unfold fractionText at h
  split at h
  · cases h
  split at h
  · exact hpoint h
  split at h
  · exact hpoint h
  · exact hpoint h

theorem isBlank_of_mem_clockText {t : Clock} {c : Char} (h : c ∈ clockText t) : isBlank c = false := by
  unfold clockText at h
  simp only [List.mem_append, List.mem_cons] at h
  rcases h with (((h | rfl | h) | rfl | h) | h)
  · exact isBlank_of_mem_padded h
  · decide
  · exact isBlank_of_mem_padded h
  · decide
  · exact isBlank_of_mem_padded h
  · exact isBlank_of_mem_fractionText h

theorem trimChars_text (t : Timestamp) : trimChars t.text.toList = dateText t.date ++ ' ' :: clockText t.clock := by
  have hdate : dateText t.date ≠ [] := by simp [dateText]
  have hclock : clockText t.clock ≠ [] := by simp [clockText]
  unfold text
  rw [String.toList_ofList]
  refine trimChars_eq_self (fun c hc => ?_) (fun c hc => ?_)
  · rw [List.head?_append, Option.or_of_isSome (List.isSome_head?.2 hdate)] at hc
    exact isBlank_of_mem_dateText (List.mem_of_mem_head? hc)
  · rw [List.getLast?_append, Option.or_of_isSome (by simp), List.getLast?_cons_of_ne_nil hclock] at hc
    exact isBlank_of_mem_clockText (List.mem_of_mem_getLast? hc)

theorem read?_text (t : Timestamp) : read? (trimChars t.text.toList) = some t := by
  rw [trimChars_text]
  unfold read? readLoose?
  rw [readZoned?_text, readSpaced?_text]
  rfl

end TypedSql.Timestamp
