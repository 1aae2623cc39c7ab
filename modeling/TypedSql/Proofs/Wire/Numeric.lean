import Mathlib.Data.List.TakeWhile
import TypedSql.Proofs.Number.Binary
import TypedSql.Proofs.Number.Decimal
import TypedSql.Wire.Numeric

/-!
# Exact decimals read back from their bytes

* `Wire.groupsValue` : the number that groups go on to;
* `Wire.addFractions?_eq` : fraction groups of a decimal add up to it, whether or not the last one is padded;
* `Wire.ofGroups?_writtenGroups` : the groups of a decimal other than zero are those of that decimal;
* `Wire.readNumeric?_numericBytes` : a decimal is read back from its bytes, a zero without its sign and its scale.
-/

namespace TypedSql.Wire

/-! ## Groups -/

/-- The number that goes on from `n` with groups. -/
def groupsValue (n : Nat) (gs : List Nat) : Nat :=
  gs.foldl (fun n g => 10000 * n + g) n

theorem groupsValue_append (n : Nat) (gs hs : List Nat) :
    groupsValue n (gs ++ hs) = groupsValue (groupsValue n gs) hs :=
  List.foldl_append

theorem groupsValue_groups (n : Nat) : groupsValue 0 (groups n) = n := by
  fun_induction groups n with
  | case1 => rfl
  | case2 n hn ih =>
    rw [groupsValue_append, ih]
    show 10000 * (n / 10000) + n % 10000 = n
    omega

theorem lt_of_mem_groups {n g : Nat} (h : g ∈ groups n) : g < 10000 := by
  fun_induction groups n with
  | case1 => exact absurd h List.not_mem_nil
  | case2 n hn ih =>
    rcases List.mem_append.1 h with h | h
    · exact ih h
    · rw [List.mem_singleton.1 h]
      omega

theorem length_groups_le {n k : Nat} (h : n < 10000 ^ k) : (groups n).length ≤ k := by
  induction k generalizing n with
  | zero =>
    obtain rfl : n = 0 := by omega
    rw [groups, if_pos rfl]
    rfl
  | succ k ih =>
    rw [groups]
    split
    · exact Nat.zero_le _
    · rw [List.length_append]
      have hlt : n / 10000 < 10000 ^ k := Nat.div_lt_of_lt_mul (by rwa [Nat.mul_comm, ← Nat.pow_succ])
      exact Nat.succ_le_succ (ih hlt)

theorem groupsValue_replicate (n k : Nat) : groupsValue n (List.replicate k 0) = n * 10000 ^ k := by
  induction k generalizing n with
  | zero => rw [Nat.pow_zero, Nat.mul_one]; rfl
  | succ k ih =>
    show groupsValue (10000 * n + 0) (List.replicate k 0) = _
    rw [ih, Nat.add_zero, Nat.pow_succ, Nat.mul_comm 10000 n, Nat.mul_assoc, Nat.mul_comm 10000]

theorem mul_pow_le_groupsValue (n : Nat) (gs : List Nat) : n * 10000 ^ gs.length ≤ groupsValue n gs := by
  induction gs generalizing n with
  | nil => exact Nat.le_of_eq (Nat.mul_one n)
  | cons g gs ih =>
    refine Nat.le_trans ?_ (ih (10000 * n + g))
    rw [List.length_cons, Nat.pow_succ, Nat.mul_comm (10000 ^ gs.length), ← Nat.mul_assoc, Nat.mul_comm n]
    exact Nat.mul_le_mul_right _ (Nat.le_add_right _ _)

theorem le_groupsValue (n : Nat) (gs : List Nat) : n ≤ groupsValue n gs :=
  Nat.le_trans (Nat.le_mul_of_pos_right n (Nat.pow_pos (by decide))) (mul_pow_le_groupsValue n gs)

/-- Groups without the zeros at their end. -/
theorem exists_trimmed (gs : List Nat) :
    ∃ k, gs = (gs.reverse.dropWhile (· == 0)).reverse ++ List.replicate k 0 := by
  have hzeros : gs.reverse.takeWhile (· == 0) = List.replicate (gs.reverse.takeWhile (· == 0)).length 0 := by
    rw [List.eq_replicate_iff]
    exact ⟨rfl, fun g hg => beq_iff_eq.1 (List.mem_takeWhile_imp (p := (· == 0)) hg)⟩
  refine ⟨(gs.reverse.takeWhile (· == 0)).length, ?_⟩
  have hsplit := congrArg List.reverse (List.takeWhile_append_dropWhile (p := (· == 0)) (l := gs.reverse))
  rw [List.reverse_append, List.reverse_reverse, hzeros, List.reverse_replicate] at hsplit
  exact hsplit.symm

/-- The number before some groups of a decimal is at most that decimal. -/
theorem mul_pow_le_of_groupsValue {n m s q : Nat} {gs : List Nat}
    (h : groupsValue n gs * 10 ^ s = m * 10 ^ (4 * (q + gs.length))) : n * 10 ^ s ≤ m * 10 ^ (4 * q) := by
  refine Nat.le_of_mul_le_mul_right ?_ (Nat.pow_pos (by decide) : 0 < 10000 ^ gs.length)
  have hpow : 10 ^ (4 * (q + gs.length)) = 10 ^ (4 * q) * 10000 ^ gs.length := by
    rw [Nat.mul_add, Nat.pow_add, Nat.pow_mul 10 4 gs.length]
  rw [Nat.mul_right_comm, Nat.mul_assoc m, ← hpow, ← h]
  exact Nat.mul_le_mul_right _ (mul_pow_le_groupsValue n gs)

theorem le_of_mul_pow_le {n m a b : Nat} (hab : a ≤ b) (h : n * 10 ^ b ≤ m * 10 ^ a) : n ≤ m := by
  refine Nat.le_of_mul_le_mul_right (Nat.le_trans ?_ h) (Nat.pow_pos (by decide) : 0 < 10 ^ a)
  exact Nat.mul_le_mul_left n (Nat.pow_le_pow_right (by decide) hab)

/-! ## Integer groups -/

theorem foldlM_integer {n : Nat} {gs : List Nat} (h : groupsValue n gs < 2 ^ 96) :
    gs.foldlM (fun n g => if 10000 * n < 2 ^ 96 ∧ 10000 * n + g < 2 ^ 96 then some (10000 * n + g) else none) n =
      some (groupsValue n gs) := by
  induction gs generalizing n with
  | nil => rfl
  | cons g gs ih =>
    have hle := le_groupsValue (10000 * n + g) gs
    have hlt : groupsValue (10000 * n + g) gs < 2 ^ 96 := h
    rw [List.foldlM_cons, if_pos (by omega)]
    exact ih hlt

theorem integerPart?_eq {gs : List Nat} (h : groupsValue 0 gs < 2 ^ 96) : integerPart? gs = some (groupsValue 0 gs) :=
  foldlM_integer h

/-! ## Fraction groups -/

theorem hold?_of_lt {n p : Nat} (h : n < 2 ^ 96) : hold? n p = some (n, p) := by
  have hn : Binary.divNearest n (10 ^ 0) = n := by
    have hmul := Binary.divNearest_mul (n := n) (d := 1) (by decide)
    rwa [Nat.mul_one] at hmul
  have hfind : (List.range (p + 1)).find? (fun k => Binary.divNearest n (10 ^ k) < 2 ^ 96) = some 0 := by
    rw [List.find?_range_eq_some]
    exact ⟨by rw [hn]; exact decide_eq_true h, List.mem_range.2 (by omega), fun j hj => absurd hj (Nat.not_lt_zero j)⟩
  rw [hold?, hfind, Option.map_some, hn, Nat.sub_zero]

/-- A sum that is the decimal `m / 10 ^ s` can be held, whatever the number of its fraction digits. -/
theorem exists_hold? {n p m s : Nat} (hfit : m < 2 ^ 96) (h : n * 10 ^ s = m * 10 ^ p) :
    ∃ a k, hold? n p = some (a, k) ∧ a * 10 ^ s = m * 10 ^ k := by
  have hpos : ∀ n, 0 < 10 ^ n := fun n => Nat.pow_pos (by decide)
  by_cases hps : p ≤ s
  · exact ⟨n, p, hold?_of_lt (Nat.lt_of_le_of_lt (le_of_mul_pow_le hps (Nat.le_of_eq h)) hfit), h⟩
  · obtain ⟨j, rfl⟩ : ∃ j, p = s + j := ⟨p - s, by omega⟩
    have hn : n = m * 10 ^ j := by
      apply Nat.eq_of_mul_eq_mul_right (hpos s)
      rw [h, Nat.pow_add, Nat.mul_assoc, Nat.mul_comm (10 ^ s)]
    -- Digits are dropped up to the decimal itself at most, and up to there all of them are zeros.
    have hexact : ∀ i ≤ j, Binary.divNearest n (10 ^ i) = m * 10 ^ (j - i) := by
      intro i hi
      rw [hn, ← Nat.sub_add_cancel hi, Nat.pow_add, ← Nat.mul_assoc, Nat.sub_add_cancel hi]
      exact Binary.divNearest_mul (hpos i)
    have hlast : Binary.divNearest n (10 ^ j) < 2 ^ 96 := by
      rwa [hexact j (Nat.le_refl j), Nat.sub_self, Nat.pow_zero, Nat.mul_one]
    have hsome : ((List.range (s + j + 1)).find? fun k => Binary.divNearest n (10 ^ k) < 2 ^ 96).isSome := by
      rw [List.find?_isSome]
      exact ⟨j, List.mem_range.2 (by omega), decide_eq_true hlast⟩
    obtain ⟨i, hi⟩ := Option.isSome_iff_exists.1 hsome
    refine ⟨Binary.divNearest n (10 ^ i), s + j - i, by rw [hold?, hi]; rfl, ?_⟩
    obtain ⟨-, -, hfirst⟩ := List.find?_range_eq_some.1 hi
    have hij : i ≤ j := by
      by_contra hlt
      have hnot := hfirst j (by omega)
      rw [decide_eq_true hlast] at hnot
      exact absurd hnot (by decide)
    rw [hexact i hij, Nat.mul_assoc, ← Nat.pow_add]
    congr 2
    omega

theorem add?_eq {n k g p : Nat} (h : k ≤ p) : add? (n, k) (g, p) = hold? (n * 10 ^ (p - k) + g) p := by
  unfold add?
  rw [Nat.max_eq_right h]
  dsimp only
  rw [Nat.sub_self, Nat.pow_zero, Nat.mul_one]

theorem addFraction?_eq {n q g : Nat} (hq : q < 7) :
    addFraction? (n, 4 * q) g (4 * (q + 1)) = hold? (10000 * n + g) (4 * (q + 1)) := by
  have hplaces : 4 * (q + 1) - 4 * q = 4 := by omega
  rw [addFraction?, if_pos (by omega), add?_eq (by omega), hplaces, Nat.mul_comm 10000]

/-- Fraction groups that go on from `n` to the decimal `m / 10 ^ s` add up to it. -/
theorem addFractions?_eq {m s : Nat} (hfit : m < 2 ^ 96) (hs : s ≤ 28) {gs : List Nat} {n q : Nat}
    (hq : q + gs.length ≤ fractionGroups s) (h : groupsValue n gs * 10 ^ s = m * 10 ^ (4 * (q + gs.length))) :
    ∃ a k, addFractions? (n, 4 * q) (4 * (q + 1)) gs = some (a, k) ∧ a * 10 ^ s = m * 10 ^ k := by
  induction gs generalizing n q with
  | nil => exact ⟨n, 4 * q, rfl, h⟩
  | cons g gs ih =>
    have hcount : q + (gs.length + 1) ≤ fractionGroups s := hq
    unfold fractionGroups at hcount
    have hnext : groupsValue (10000 * n + g) gs * 10 ^ s = m * 10 ^ (4 * (q + 1 + gs.length)) := by
      rw [Nat.add_assoc q 1, Nat.add_comm 1]
      exact h
    rw [addFractions?, addFraction?_eq (by omega)]
    by_cases hgs : gs = []
    · subst hgs
      obtain ⟨a, k, hhold, hvalue⟩ := exists_hold? (n := 10000 * n + g) (p := 4 * (q + 1)) hfit hnext
      exact ⟨a, k, by rw [hhold]; rfl, hvalue⟩
    · -- A group with another one after it does not reach beyond the scale.
      have hlength := List.length_pos_iff.2 hgs
      have hle := le_of_mul_pow_le (by omega) (mul_pow_le_of_groupsValue hnext)
      obtain ⟨a, k, hrest, hvalue⟩ := ih (q := q + 1) (by unfold fractionGroups; omega) hnext
      exact ⟨a, k, by rw [hold?_of_lt (by omega)]; exact hrest, hvalue⟩

/-- Where the sum is zero, its number of fraction digits does not matter. -/
theorem addFractions?_zero {k p : Nat} {gs : List Nat} (hgs : gs ≠ []) (hp : p ≤ 28) (hk : k ≤ p) :
    addFractions? (0, k) p gs = addFractions? (0, 0) p gs := by
  obtain ⟨g, gs, rfl⟩ := List.exists_cons_of_ne_nil hgs
  rw [addFractions?, addFractions?, addFraction?, addFraction?, if_pos hp, if_pos hp, add?_eq hk,
    add?_eq (Nat.zero_le p), Nat.zero_mul, Nat.zero_mul]

/-! ## Groups of a decimal -/

section
variable (d : Decimal)

theorem scale_le_fraction : d.scale ≤ 4 * fractionGroups d.scale ∧ fractionGroups d.scale ≤ 7 := by
  have hs := d.scale_le
  unfold fractionGroups
  omega

theorem groupsValue_decimalGroups :
    groupsValue 0 (decimalGroups d) * 10 ^ d.scale = d.mantissa * 10 ^ (4 * fractionGroups d.scale) := by
  obtain ⟨hs, -⟩ := scale_le_fraction d
  rw [decimalGroups, groupsValue_groups, Nat.mul_assoc, ← Nat.pow_add, Nat.sub_add_cancel hs]

theorem length_decimalGroups_le : (decimalGroups d).length ≤ 8 := by
  apply length_groups_le
  have hlt := d.mantissa_lt
  have hpow : 10 ^ (4 * fractionGroups d.scale - d.scale) ≤ 10 ^ 3 := by
    apply Nat.pow_le_pow_right (by decide)
    unfold fractionGroups
    omega
  have hmul := Nat.mul_le_mul_left d.mantissa hpow
  omega

theorem decimalGroups_ne_nil (hd : d.mantissa ≠ 0) : decimalGroups d ≠ [] := by
  intro h
  have hvalue := groupsValue_decimalGroups d
  rw [h] at hvalue
  have hpos : 0 < d.mantissa * 10 ^ (4 * fractionGroups d.scale) :=
    Nat.mul_pos (Nat.pos_of_ne_zero hd) (Nat.pow_pos (by decide))
  have hzero : groupsValue 0 [] * 10 ^ d.scale = 0 := Nat.zero_mul _
  omega

/-- The groups that are read as integer groups, and those that are read as fraction groups after `skipped` ones. -/
theorem exists_writtenGroups (hd : d.mantissa ≠ 0) :
    ∃ whole fraction : List Nat, writtenGroups d = whole ++ fraction ∧
      whole.length = (weight d + 1).toNat ∧
      (-weight d - 1).toNat + fraction.length ≤ fractionGroups d.scale ∧
      groupsValue (groupsValue 0 whole) fraction * 10 ^ d.scale =
        d.mantissa * 10 ^ (4 * ((-weight d - 1).toNat + fraction.length)) ∧
      (whole = [] → fraction ≠ []) := by
  have hvalue := groupsValue_decimalGroups d
  have hweight : weight d = (decimalGroups d).length - (fractionGroups d.scale : Int) - 1 := rfl
  unfold writtenGroups
  dsimp only
  by_cases hw : weight d < 0
  · have hskipped : (-weight d - 1).toNat + (decimalGroups d).length = fractionGroups d.scale := by omega
    refine ⟨[], decimalGroups d, if_pos hw, ?_, Nat.le_of_eq hskipped, ?_, fun _ => decimalGroups_ne_nil d hd⟩
    · show 0 = (weight d + 1).toNat
      omega
    · rw [hskipped]
      exact hvalue
  · obtain ⟨k, hk⟩ := exists_trimmed ((decimalGroups d).drop (weight d + 1).toNat)
    have hlength := congrArg List.length hk
    rw [List.length_append, List.length_replicate, List.length_drop] at hlength
    have hskipped : (-weight d - 1).toNat = 0 := by omega
    have hwhole : ((decimalGroups d).take (weight d + 1).toNat).length = (weight d + 1).toNat := by
      rw [List.length_take]
      omega
    refine ⟨(decimalGroups d).take (weight d + 1).toNat,
      (((decimalGroups d).drop (weight d + 1).toNat).reverse.dropWhile (· == 0)).reverse, if_neg hw, hwhole, ?_, ?_, ?_⟩
    · omega
    · rw [hskipped, Nat.zero_add]
      rw [← List.take_append_drop (weight d + 1).toNat (decimalGroups d), hk, groupsValue_append, groupsValue_append,
        groupsValue_replicate] at hvalue
      apply Nat.eq_of_mul_eq_mul_right (Nat.pow_pos (by decide) : 0 < 10000 ^ k)
      rw [Nat.mul_right_comm, hvalue, Nat.mul_assoc, show 10000 = 10 ^ 4 from rfl, ← Nat.pow_mul, ← Nat.pow_add]
      congr 2
      omega
    · intro h
      rw [h] at hwhole
      have hzero : 0 = (weight d + 1).toNat := hwhole
      omega

theorem writtenGroups_sublist : (writtenGroups d).Sublist (decimalGroups d) := by
  unfold writtenGroups
  dsimp only
  split
  · exact List.Sublist.refl _
  · obtain ⟨k, hk⟩ := exists_trimmed ((decimalGroups d).drop (weight d + 1).toNat)
    have htrimmed := List.sublist_append_left
      (((decimalGroups d).drop (weight d + 1).toNat).reverse.dropWhile (· == 0)).reverse (List.replicate k 0)
    rw [← hk] at htrimmed
    have happend := (List.Sublist.refl ((decimalGroups d).take (weight d + 1).toNat)).append htrimmed
    rwa [List.take_append_drop] at happend

/-- The groups of a decimal other than zero are read as that decimal. -/
theorem ofGroups?_writtenGroups (hd : d.mantissa ≠ 0) :
    ofGroups? d.negative (weight d) d.scale (writtenGroups d) = some d := by
  obtain ⟨whole, fraction, hwritten, hwhole, hskipped, hvalue, hfraction⟩ := exists_writtenGroups d hd
  obtain ⟨-, hcount⟩ := scale_le_fraction d
  have hbefore := mul_pow_le_of_groupsValue hvalue
  -- Either the fraction groups come right after the point, or there are no integer groups.
  have hcases : (-weight d - 1).toNat = 0 ∨ whole = [] := by
    rw [← List.length_eq_zero_iff, hwhole]
    omega
  have hinteger : groupsValue 0 whole < 2 ^ 96 := by
    rcases hcases with hzero | rfl
    · rw [hzero] at hbefore
      exact Nat.lt_of_le_of_lt (le_of_mul_pow_le (Nat.zero_le _) hbefore) d.mantissa_lt
    · exact Nat.two_pow_pos 96
  obtain ⟨a, k, hsum, hvalue⟩ := addFractions?_eq d.mantissa_lt d.scale_le hskipped hvalue
  have hstart : addFractions? (groupsValue 0 whole, 0) (4 * ((-weight d - 1).toNat + 1)) fraction = some (a, k) := by
    rw [← hsum]
    rcases hcases with hzero | rfl
    · rw [hzero]
    · have hne := hfraction rfl
      have hlength := List.length_pos_iff.2 hne
      exact (addFractions?_zero hne (by omega) (by omega)).symm
  unfold ofGroups?
  rw [hwritten, ← hwhole]
  dsimp only
  rw [List.take_left, List.drop_left]
  simp only [Nat.sub_self, Nat.mul_zero, Nat.pow_zero, Nat.mul_one, integerPart?_eq hinteger, Option.bind_eq_bind,
    Option.bind_some]
  rw [if_neg (by omega), hstart]
  simp only [Option.bind_some, Nat.min_eq_left d.scale_le, Decimal.rescale_eq hd d.mantissa_lt hvalue]
  rw [Decimal.ofParts?, dif_pos ⟨d.mantissa_lt, d.scale_le⟩]

end

/-! ## Bytes -/

theorem pairs?_flatMap {ns : List Nat} (hns : ∀ n ∈ ns, n < 65536) (rest : List UInt8) :
    pairs? ns.length (ns.flatMap (bytes 2) ++ rest) = some ns := by
  induction ns with
  | nil => rfl
  | cons n ns ih =>
    obtain ⟨hn, hns⟩ := List.forall_mem_cons.1 hns
    have hnat : nat (bytes 2 n) = n := by
      rw [nat_bytes, Nat.mod_eq_of_lt hn]
    have hpair : bytes 2 n = [UInt8.ofNat (n / 256 % 256), UInt8.ofNat (n % 256)] := rfl
    rw [hpair] at hnat
    rw [List.flatMap_cons, List.append_assoc, hpair, List.length_cons]
    show (pairs? ns.length (ns.flatMap (bytes 2) ++ rest)).map _ = _
    rw [ih hns, Option.map_some, hnat]

/-- The header of the bytes of a decimal. -/
def header (d : Decimal) : List Nat :=
  [(writtenGroups d).length, (weight d % 65536).toNat, if d.negative then 0x4000 else 0, d.scale]

theorem numericBytes_eq {d : Decimal} (hd : d.mantissa ≠ 0) :
    numericBytes d = (header d).flatMap (bytes 2) ++ (writtenGroups d).flatMap (bytes 2) := by
  rw [numericBytes, if_neg hd]
  simp only [header, List.flatMap_cons, List.flatMap_nil, List.append_nil, List.append_assoc]
  rfl

/-- A decimal is read back from its bytes with its scale; a zero loses its sign and its scale. -/
theorem readNumeric?_numericBytes (d : Decimal) :
    readNumeric? (numericBytes d) = some (if d.mantissa = 0 then .zero false else d) := by
  by_cases hd : d.mantissa = 0
  · rw [if_pos hd, numericBytes, if_pos hd]
    decide +kernel
  · have hsub := writtenGroups_sublist d
    have hlength := hsub.length_le
    have hcount := length_decimalGroups_le d
    have hscale := d.scale_le
    obtain ⟨-, hfraction⟩ := scale_le_fraction d
    have hweight : weight d = (decimalGroups d).length - (fractionGroups d.scale : Int) - 1 := rfl
    have hsign : (if d.negative then 0x4000 else 0 : Nat) ≤ 0x4000 := by split <;> decide
    have hnegative : ((if d.negative then 0x4000 else 0 : Nat) == 0x4000) = d.negative := by
      cases d.negative <;> rfl
    have hword : (if (weight d % 65536).toNat < 0x8000 then ((weight d % 65536).toNat : Int)
        else (weight d % 65536).toNat - 0x10000) = weight d := by
      split <;> omega
    have hheader : pairs? 4 (numericBytes d) = some (header d) := by
      rw [numericBytes_eq hd]
      show pairs? (header d).length _ = _
      refine pairs?_flatMap ?_ _
      simp only [header, List.forall_mem_cons]
      exact ⟨by omega, by omega, by omega, by omega, List.forall_mem_nil _⟩
    have hdrop : (numericBytes d).drop 8 = (writtenGroups d).flatMap (bytes 2) := by
      rw [numericBytes_eq hd]
      rfl
    have hgroups : pairs? (writtenGroups d).length ((writtenGroups d).flatMap (bytes 2)) = some (writtenGroups d) := by
      have hpairs := pairs?_flatMap (fun g hg => Nat.lt_trans (lt_of_mem_groups (hsub.subset hg)) (by decide)) []
      rwa [List.append_nil] at hpairs
    rw [if_neg hd, readNumeric?, hheader, hdrop]
    simp only [header, Option.bind_eq_bind, Option.bind_some]
    rw [if_neg (by omega), hgroups, hnegative, hword]
    exact ofGroups?_writtenGroups d hd

end TypedSql.Wire
