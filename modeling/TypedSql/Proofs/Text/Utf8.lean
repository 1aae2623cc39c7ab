import TypedSql.Text.Utf8

/-!
# Texts read back from their bytes

* `Utf8.encode_eq` : the bytes of a character as numbers;
* `Utf8.step_encode` : the first character of a text is read off its bytes;
* `Utf8.lossy_utf8` : a text is the text of its bytes.
-/

namespace TypedSql.Text.Utf8

/-- The code point of a character is at most `0x10FFFF` and no surrogate. -/
theorem toNat_bounds (c : Char) : c.toNat < 0xD800 ∨ 0xDFFF < c.toNat ∧ c.toNat < 0x110000 :=
  c.valid

theorem toNat_ofNat_of_lt {n : Nat} (h : n < 256) : (UInt8.ofNat n).toNat = n := by
  rw [UInt8.toNat_ofNat', Nat.mod_eq_of_lt h]

theorem encode_eq (c : Char) : (String.utf8EncodeChar c).map UInt8.toNat =
    if c.toNat ≤ 0x7F then [c.toNat]
    else if c.toNat ≤ 0x7FF then [c.toNat / 64 + 0xC0, c.toNat % 64 + 0x80]
    else if c.toNat ≤ 0xFFFF then [c.toNat / 4096 + 0xE0, c.toNat / 64 % 64 + 0x80, c.toNat % 64 + 0x80]
    else [c.toNat / 262144 + 0xF0, c.toNat / 4096 % 64 + 0x80, c.toNat / 64 % 64 + 0x80, c.toNat % 64 + 0x80] := by
  have hc := toNat_bounds c
  unfold String.utf8EncodeChar
  change List.map UInt8.toNat (if c.toNat ≤ 0x7F then _ else if c.toNat ≤ 0x7FF then _ else
    if c.toNat ≤ 0xFFFF then _ else _) = _
  generalize hn : c.toNat = n at *
  have hv : c.val.toNat = n := hn
  rw [hv]
  split
  · rw [List.map_singleton, toNat_ofNat_of_lt (by omega)]
  split
  · simp only [List.map_cons, List.map_nil]
    rw [toNat_ofNat_of_lt (by omega), toNat_ofNat_of_lt (by omega), Nat.mod_eq_of_lt (by omega)]
  split
  · simp only [List.map_cons, List.map_nil]
    rw [toNat_ofNat_of_lt (by omega), toNat_ofNat_of_lt (by omega), toNat_ofNat_of_lt (by omega),
      Nat.mod_eq_of_lt (by omega)]
  · simp only [List.map_cons, List.map_nil]
    rw [toNat_ofNat_of_lt (by omega), toNat_ofNat_of_lt (by omega), toNat_ofNat_of_lt (by omega),
      toNat_ofNat_of_lt (by omega), Nat.mod_eq_of_lt (by omega)]

/-- The second byte of a character lies in the range that its first byte allows. -/
theorem isSecond_three {n : Nat} (h : 0x7FF < n ∧ n ≤ 0xFFFF) (hn : n < 0xD800 ∨ 0xDFFF < n) :
    isSecond (n / 4096 + 0xE0) (n / 64 % 64 + 0x80) = true := by
  unfold isSecond secondRange
  rw [Bool.and_eq_true, decide_eq_true_eq, decide_eq_true_eq]
  repeat' split
  all_goals dsimp only; omega

theorem isSecond_four {n : Nat} (h : 0xFFFF < n ∧ n < 0x110000) :
    isSecond (n / 262144 + 0xF0) (n / 4096 % 64 + 0x80) = true := by
  unfold isSecond secondRange
  rw [Bool.and_eq_true, decide_eq_true_eq, decide_eq_true_eq]
  repeat' split
  all_goals dsimp only; omega

theorem isContinuation_add (n : Nat) : isContinuation (n % 64 + 0x80) = true := by
  unfold isContinuation
  rw [Bool.and_eq_true, decide_eq_true_eq, decide_eq_true_eq]
  omega

theorem step_encode (c : Char) : ∃ a tail, (String.utf8EncodeChar c).map UInt8.toNat = a :: tail ∧
    ∀ rest, step a (tail ++ rest) = (some c, tail.length + 1) := by
  have hc := toNat_bounds c
  have hchar : ∀ m, m = c.toNat → Char.ofNat m = c := by
    rintro m rfl
    exact Char.ofNat_toNat c
  rw [encode_eq]
  generalize c.toNat = n at *
  split
  · refine ⟨_, _, rfl, fun rest => ?_⟩
    rw [step, if_pos (by omega), hchar n rfl]
    rfl
  split
  · refine ⟨_, _, rfl, fun rest => ?_⟩
    have hsecond : isSecond (n / 64 + 0xC0) (n % 64 + 0x80) = true := by
      unfold isSecond secondRange
      rw [if_neg (by omega), if_neg (by omega), if_neg (by omega), if_neg (by omega)]
      simp only [Bool.and_eq_true, decide_eq_true_eq]
      omega
    rw [step, if_neg (by omega), if_pos (by omega), List.cons_append, two, if_pos hsecond, hchar _ (by omega)]
    rfl
  split
  · refine ⟨_, _, rfl, fun rest => ?_⟩
    rw [step, if_neg (by omega), if_neg (by omega), if_pos (by omega), List.cons_append, List.cons_append, three,
      if_pos (isSecond_three (by omega) (by omega)), if_pos (isContinuation_add n), hchar _ (by omega)]
    rfl
  · refine ⟨_, _, rfl, fun rest => ?_⟩
    rw [step, if_neg (by omega), if_neg (by omega), if_neg (by omega), if_pos (by omega), List.cons_append,
      List.cons_append, List.cons_append, four, if_pos (isSecond_four (by omega)), if_pos (isContinuation_add _),
      if_pos (isContinuation_add n), hchar _ (by omega)]
    rfl

theorem upTo_encode (s : List Char) {bound : Nat} (h : s.length ≤ bound) :
    upTo bound ((s.flatMap String.utf8EncodeChar).map UInt8.toNat) = s.map some := by
  induction s generalizing bound with
  | nil => cases bound <;> rfl
  | cons c s ih =>
    cases bound with
    | zero => simp at h
    | succ bound =>
      obtain ⟨a, tail, hbytes, hstep⟩ := step_encode c
      rw [List.flatMap_cons, List.map_append, hbytes, List.cons_append, upTo, hstep]
      dsimp only
      rw [Nat.add_sub_cancel, List.drop_left, ih (Nat.le_of_succ_le_succ h), List.map_cons]

theorem length_le_length_utf8 (s : List Char) : s.length ≤ (s.flatMap String.utf8EncodeChar).length := by
  induction s with
  | nil => exact Nat.le_refl 0
  | cons c s ih =>
    have hpos := List.length_pos_iff.2 (String.utf8EncodeChar_ne_nil (c := c))
    rw [List.flatMap_cons, List.length_append, List.length_cons]
    omega

theorem chars_utf8 (s : String) : chars (utf8 s) = s.toList.map some :=
  upTo_encode s.toList (length_le_length_utf8 s.toList)

theorem lossy_utf8 (s : String) : lossy (utf8 s) = s := by
  have hget : (s.toList.map some).map (·.getD '\ufffd') = s.toList := by
    rw [List.map_map]
    exact List.map_id _
  rw [lossy, chars_utf8, hget, String.ofList_toList]

end TypedSql.Text.Utf8
