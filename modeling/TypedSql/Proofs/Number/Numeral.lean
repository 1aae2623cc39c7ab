import Mathlib.Data.List.Induction
import Mathlib.Data.Nat.Digits.Defs
import TypedSql.Proofs.Number.Digits

/-!
# Integers as they are written

* `decimalValue ds` : the number that decimal digits write;
* `Numeral s n` : `s` writes the integer `n`, with or without a sign;
* `readInt?_eq_some_iff` : what is read from a text is the integer that it writes.
-/

namespace TypedSql

/-- The number that decimal digits write, the last of which counts ones. -/
def decimalValue (ds : List Char) : Nat :=
  Nat.ofDigits 10 (ds.reverse.map fun c => c.toNat - '0'.toNat)

theorem digitsValue_eq_decimalValue (ds : List Char) : digitsValue ds = decimalValue ds := by
  induction ds using List.reverseRecOn with
  | nil => rfl
  | append_singleton ds c ih =>
    have hstep : decimalValue (ds ++ [c]) = c.toNat - '0'.toNat + 10 * decimalValue ds := by
      rw [decimalValue, List.reverse_append, List.reverse_singleton, List.singleton_append, List.map_cons,
        Nat.ofDigits_cons, decimalValue]
    rw [digitsValue_append, ih, hstep]
    simp [digitsValue, Nat.ofDigitChars]
    omega

/-- An integer as it is written: one decimal digit or more, after an optional sign. -/
inductive Numeral : List Char → Int → Prop where
  | bare {ds : List Char} (hne : ds ≠ []) (hds : ∀ c ∈ ds, c.isDigit = true) : Numeral ds (decimalValue ds)
  | plus {ds : List Char} (hne : ds ≠ []) (hds : ∀ c ∈ ds, c.isDigit = true) : Numeral ('+' :: ds) (decimalValue ds)
  | minus {ds : List Char} (hne : ds ≠ []) (hds : ∀ c ∈ ds, c.isDigit = true) :
      Numeral ('-' :: ds) (-(decimalValue ds : Int))

theorem readNat?_eq_some_iff {s : List Char} {n : Nat} :
    readNat? s = some n ↔ s ≠ [] ∧ (∀ c ∈ s, c.isDigit = true) ∧ n = decimalValue s := by
  unfold readNat?
  simp only [List.all_eq_true, digitsValue_eq_decimalValue]
  split
  · next h =>
    rw [Option.some.injEq, eq_comm]
    exact ⟨fun hn => ⟨h.1, h.2, hn⟩, fun hn => hn.2.2⟩
  · next h => exact ⟨nofun, fun hn => absurd ⟨hn.1, hn.2.1⟩ h⟩

theorem readInt?_eq_some_iff {s : List Char} {n : Int} : readInt? s = some n ↔ Numeral s n := by
  constructor
  · intro h
    unfold readInt? at h
    split at h
    all_goals
      cases hm : readNat? _ with
      | none => rw [hm] at h; cases h
      | some m =>
        rw [hm] at h
        cases h
        obtain ⟨hne, hds, rfl⟩ := readNat?_eq_some_iff.1 hm
        constructor <;> assumption
  · intro h
    cases h with
    | @bare ds hne hds =>
      have hread := readNat?_eq_some_iff.2 ⟨hne, hds, rfl⟩
      unfold readInt?
      split
      · exact absurd (hds '+' List.mem_cons_self) (by decide)
      · exact absurd (hds '-' List.mem_cons_self) (by decide)
      · rw [hread]; rfl
    | plus hne hds =>
      rw [readInt?, readNat?_eq_some_iff.2 ⟨hne, hds, rfl⟩]; rfl
    | minus hne hds =>
      rw [readInt?, readNat?_eq_some_iff.2 ⟨hne, hds, rfl⟩]; rfl

theorem Numeral.not_blank {s : List Char} {n : Int} (h : Numeral s n) : ∀ c ∈ s, Text.isBlank c = false := by
  cases h with
  | bare _ hds => exact fun c hc => isBlank_of_isDigit (hds c hc)
  | plus _ hds | minus _ hds =>
    exact List.forall_mem_cons.2 ⟨rfl, fun c hc => isBlank_of_isDigit (hds c hc)⟩

end TypedSql
