import TypedSql.Proofs.Number.Decimal
import TypedSql.Proofs.Number.Numeral
import TypedSql.Proofs.Parameter.Binding
import TypedSql.Proofs.Wire.Cell
import TypedSql.Proofs.Wire.Numeric

/-!
# Decimals that are read back

* `Decimal.IsPlain whole fraction` : digits before and after a point, none of them superfluous, that a decimal holds;
* `Value.Spells v d` : the value `v` is an integer of the digits `d`, or `d` between blanks;
* `Wire.exists_readBackNumeric` : bound as a decimal, such a value is read from its bytes as `d`.
-/

namespace TypedSql
open Text (isBlank)

/-! ## Plain decimals -/

namespace Decimal

/-- The digits of a decimal before and after the point: no zero goes before other digits, there are no more than
twenty-eight after the point, and together they write a number, not zero, of ninety-six bits. -/
structure IsPlain (whole fraction : List Char) : Prop where
  whole_ne : whole ≠ []
  digits : ∀ c ∈ whole ++ fraction, c.isDigit = true
  eq_zero : whole.head? = some '0' → whole = ['0']
  scale_le : fraction.length ≤ 28
  pos : 0 < decimalValue (whole ++ fraction)
  lt : decimalValue (whole ++ fraction) < 2 ^ 96

/-- The text of a decimal: an optional minus, and digits with a point between them if there are any after it. -/
def plainText (negative : Bool) (whole fraction : List Char) : List Char :=
  (if negative then ['-'] else []) ++ (whole ++ if fraction = [] then [] else '.' :: fraction)

variable {whole fraction : List Char}

/-- A plain decimal is read, and written as it was. -/
theorem exists_readPlain? (h : IsPlain whole fraction) (negative : Bool) :
    ∃ d, readPlain? (plainText negative whole fraction) = some d ∧ d.mantissa ≠ 0 ∧
      d.text = String.ofList (plainText negative whole fraction) := by
  have hpos := h.pos
  have hlt := h.lt
  rw [← digitsValue_eq_decimalValue] at hpos hlt
  have hread := readPlain?_pointed h.whole_ne h.digits h.scale_le hlt negative
  rw [bne_iff_ne.2 hpos.ne', Bool.and_true, ofParts?, dif_pos ⟨hlt, h.scale_le⟩] at hread
  refine ⟨_, hread, hpos.ne', ?_⟩
  rw [text, plainText, pointedText_eq h.whole_ne h.eq_zero h.digits]

theorem IsPlain.not_blank (h : IsPlain whole fraction) (negative : Bool) :
    ∀ c ∈ plainText negative whole fraction, isBlank c = false :=
  not_blank_pointed h.digits negative

end Decimal

/-! ## Values -/

/-- What a value is read back as: the digits of an integer, or the plain decimal that stands between blanks. -/
inductive Value.Spells : Value → String → Prop where
  | int (n : Signed 64) : Spells (int n) (intText n.val)
  | text {s : String} {before after whole fraction : List Char} {negative : Bool}
      (hbefore : ∀ c ∈ before, isBlank c = true) (hafter : ∀ c ∈ after, isBlank c = true)
      (hs : s.toList = before ++ (Decimal.plainText negative whole fraction ++ after))
      (h : Decimal.IsPlain whole fraction) :
      Spells (text s) (String.ofList (Decimal.plainText negative whole fraction))

theorem Value.Spells.isNull_eq {v : Value} {d : String} (h : v.Spells d) : v.isNull = false := by
  cases h <;> rfl

/-- An integer is written as its digits. -/
theorem Decimal.text_ofInt? {n : Int} {e : Decimal} (h : ofInt? n = some e) : e.text = intText n := by
  obtain ⟨hnegative, hmantissa, hscale⟩ := ofParts?_eq_some h
  have hlength := @Nat.length_toDigits_pos 10 n.natAbs
  have hpointed : pointedText n.natAbs 0 = Nat.toDigits 10 n.natAbs := by
    have hzero : 0 + 1 - (Nat.toDigits 10 n.natAbs).length = 0 := by omega
    unfold pointedText
    dsimp only
    rw [hzero, List.replicate_zero, List.nil_append, Nat.sub_zero, List.take_length, if_pos rfl, List.append_nil]
  rw [text, hnegative, hmantissa, hscale, hpointed, intText]
  by_cases hn : n < 0
  · rw [if_pos (decide_eq_true hn), if_pos hn]
    exact String.ofList_append
  · rw [if_neg (by simpa using hn), if_neg hn]
    rfl

namespace Wire

open Parameter (convert toDecimal)

/-- The decimal of a value, which may be a zero but not a negative one. -/
theorem exists_toDecimal {v : Value} {d : String} (h : v.Spells d) :
    ∃ e : Decimal, toDecimal v = .ok e ∧ (if e.mantissa = 0 then .zero false else e : Decimal).text = d := by
  cases h with
  | int n =>
    have hlow := n.low_le
    have hhigh := n.lt_high
    have hfit : n.val.natAbs < 2 ^ 96 := by omega
    have he : Decimal.ofInt? n.val = some ⟨decide (n.val < 0), n.val.natAbs, 0, hfit, by decide⟩ :=
      dif_pos ⟨hfit, by decide⟩
    refine ⟨_, Parameter.orElse_eq_ok_iff.2 he, ?_⟩
    split
    · next hzero =>
      rw [Int.natAbs_eq_zero.1 hzero]
      decide
    · exact Decimal.text_ofInt? he
  | @text s before after whole fraction negative hbefore hafter hs h =>
    obtain ⟨e, hread, hne, htext⟩ := Decimal.exists_readPlain? h negative
    refine ⟨e, Parameter.orElse_eq_ok_iff.2 ?_, by rw [if_neg hne, htext]⟩
    rw [hs, Text.trimChars_between hbefore hafter, Text.trimChars_of_forall (h.not_blank negative)]
    show (Decimal.readPlain? _ <|> _) = _
    rw [hread]
    rfl

/-- A plain decimal between blanks, or an integer, is bound as a decimal at any position, and a column reads the bytes
of the parameter as the text of the decimal, with all its digits. -/
theorem exists_readBackNumeric (position : Nat) {v : Value} {d : String} (h : v.Spells d) :
    ∃ p w, bindAt position (SqlType.ofServer "numeric") v = .ok p ∧ encode "numeric" p = some (some w) ∧
      readCell? "numeric" (some w) = some (.text d) := by
  obtain ⟨e, he, htext⟩ := exists_toDecimal h
  have hconvert : convert (SqlType.ofServer "numeric") v = .ok (.numeric e) := by
    show (toDecimal v).map Parameter.numeric = _
    rw [he, Except.map]
  refine ⟨.numeric e, numericBytes e, bindAt_of_convert h.isNull_eq hconvert, rfl, ?_⟩
  rw [readCell?, decode?_numeric rfl, readNumeric?_numericBytes, Option.map_some, htext]

/-- A negative number of twenty-nine digits, all ninety-six bits of it set, one of them before the point; and the lowest
integer of sixty-four bits. -/
theorem exists_readBackNumeric_limits :
    (∃ p w, bindAt 1 (SqlType.ofServer "numeric") (.text "\t-7.9228162514264337593543950335 ") = .ok p ∧
      encode "numeric" p = some (some w) ∧
      readCell? "numeric" (some w) = some (.text "-7.9228162514264337593543950335")) ∧
    ∃ p w, bindAt 2 (SqlType.ofServer "numeric") (.int ⟨-2 ^ 63, by decide, by decide⟩) = .ok p ∧
      encode "numeric" p = some (some w) ∧ readCell? "numeric" (some w) = some (.text "-9223372036854775808") := by
  constructor
  · have hplain : Decimal.IsPlain ['7'] "9228162514264337593543950335".toList :=
      ⟨List.cons_ne_nil _ _, List.all_eq_true.1 (by decide +kernel), by decide, by decide +kernel, by decide +kernel,
        by decide +kernel⟩
    have htext : String.ofList (Decimal.plainText true ['7'] "9228162514264337593543950335".toList) =
        "-7.9228162514264337593543950335" := by decide +kernel
    have hspells : Value.Spells (.text "\t-7.9228162514264337593543950335 ") _ :=
      @Value.Spells.text _ ['\t'] [' '] _ _ true (List.forall_mem_singleton.2 rfl) (List.forall_mem_singleton.2 rfl)
        (by decide +kernel) hplain
    rw [htext] at hspells
    exact exists_readBackNumeric 1 hspells
  · have htext : intText (-2 ^ 63) = "-9223372036854775808" := by decide +kernel
    rw [← htext]
    exact exists_readBackNumeric 2 (.int ⟨-2 ^ 63, by decide, by decide⟩)

end Wire

end TypedSql
