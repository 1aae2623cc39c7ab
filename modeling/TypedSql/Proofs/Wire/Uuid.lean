import TypedSql.Proofs.Text.Blank
import TypedSql.Wire.Uuid

/-!
# Identifiers read back from their text

* `hexBytes?_hex` : bytes are read off their digits;
* `length_of_readUuid?` : what is read is sixteen bytes long;
* `readUuid?_uuidText?` : the hyphenated form of sixteen bytes is read as these bytes.
-/

namespace TypedSql.Wire

/-! ## Digits -/

theorem hexValue?_digitChar : ∀ n < 16, Json.Lexeme.hexValue? (Nat.digitChar n) = some n := by
  decide

theorem digitChar_ne : ∀ n < 16, Nat.digitChar n ≠ '-' ∧ Nat.digitChar n ≠ 'u' ∧
    Text.isBlank (Nat.digitChar n) = false := by
  decide

theorem hexBytes?_hex (bs : List UInt8) : hexBytes? (bs.flatMap hexByte) = some bs := by
  induction bs with
  | nil => rfl
  | cons b bs ih =>
    have hb : b.toNat < 256 := b.toNat_lt_size
    have hhigh := hexValue?_digitChar (b.toNat / 16) (by omega)
    have hlow := hexValue?_digitChar (b.toNat % 16) (by omega)
    have hbyte : 16 * (b.toNat / 16) + b.toNat % 16 = b.toNat := by omega
    rw [List.flatMap_cons, hexByte, List.cons_append, List.cons_append, List.nil_append, hexBytes?, hhigh, hlow, ih]
    dsimp only [bind, pure, Option.bind]
    rw [hbyte, UInt8.ofNat_toNat]

theorem length_hex (bs : List UInt8) : (bs.flatMap hexByte).length = 2 * bs.length := by
  induction bs with
  | nil => rfl
  | cons b bs ih =>
    rw [List.flatMap_cons, List.length_append, ih, List.length_cons, hexByte]
    simp
    omega

theorem mem_hex {bs : List UInt8} {c : Char} (h : c ∈ bs.flatMap hexByte) :
    c ≠ '-' ∧ c ≠ 'u' ∧ Text.isBlank c = false := by
  obtain ⟨b, _, hc⟩ := List.mem_flatMap.1 h
  have hb : b.toNat < 256 := b.toNat_lt_size
  simp only [hexByte, List.mem_cons, List.not_mem_nil, or_false] at hc
  rcases hc with rfl | rfl
  · exact digitChar_ne _ (by omega)
  · exact digitChar_ne _ (by omega)

theorem length_of_hexBytes? {s : List Char} {bs : List UInt8} (h : hexBytes? s = some bs) :
    s.length = 2 * bs.length := by
  fun_induction hexBytes? s generalizing bs with
  | case1 =>
    cases h
    rfl
  | case2 => cases h
  | case3 a b s ih =>
    obtain ⟨high, _, h⟩ := Option.bind_eq_some_iff.1 h
    obtain ⟨low, _, h⟩ := Option.bind_eq_some_iff.1 h
    obtain ⟨rest, hrest, h⟩ := Option.bind_eq_some_iff.1 h
    cases h
    have hlength := ih hrest
    simp only [List.length_cons]
    omega

/-! ## The hyphenated form -/

theorem length_of_readHyphenated? {s : List Char} {bs : List UInt8} (h : readHyphenated? s = some bs) :
    bs.length = 16 := by
  unfold readHyphenated? at h
  split at h
  · next hs =>
    have hlength := length_of_hexBytes? h
    simp only [List.length_append, List.length_take, List.length_drop, hs.1] at hlength
    omega
  · cases h

theorem length_of_readUuid? {s : List Char} {bs : List UInt8} (h : readUuid? s = some bs) : bs.length = 16 := by
  unfold readUuid? at h
  split at h
  · next hs =>
    have hlength := length_of_hexBytes? h
    omega
  split at h
  · exact length_of_readHyphenated? h
  split at h
  · exact length_of_readHyphenated? h
  · exact length_of_readHyphenated? h

theorem readHyphenated?_append {a b c d e : List Char} (ha : a.length = 8) (hb : b.length = 4) (hc : c.length = 4)
    (hd : d.length = 4) (he : e.length = 12) :
    readHyphenated? (a ++ '-' :: b ++ '-' :: c ++ '-' :: d ++ '-' :: e) = hexBytes? (a ++ b ++ c ++ d ++ e) := by
  unfold readHyphenated?
  rw [if_pos (by simp [ha, hb, hc, hd, he])]
  simp [List.drop_append, List.drop_eq_nil_of_le, ha, hb, hc, hd]

theorem readUuid?_hyphenated {a b c d e : List UInt8} (ha : a.length = 4) (hb : b.length = 2) (hc : c.length = 2)
    (hd : d.length = 2) (he : e.length = 6) :
    readUuid? (Text.trimChars (a.flatMap hexByte ++ '-' :: b.flatMap hexByte ++ '-' :: c.flatMap hexByte ++
      '-' :: d.flatMap hexByte ++ '-' :: e.flatMap hexByte)) = some (a ++ b ++ c ++ d ++ e) := by
  have hlength : ∀ {x : List UInt8} {n : Nat}, x.length = n → (x.flatMap hexByte).length = 2 * n := by
    rintro x n rfl
    exact length_hex x
  have hread := readHyphenated?_append (hlength ha) (hlength hb) (hlength hc) (hlength hd) (hlength he)
  rw [← List.flatMap_append, ← List.flatMap_append, ← List.flatMap_append, ← List.flatMap_append, hexBytes?_hex]
    at hread
  generalize hs : a.flatMap hexByte ++ '-' :: b.flatMap hexByte ++ '-' :: c.flatMap hexByte ++
    '-' :: d.flatMap hexByte ++ '-' :: e.flatMap hexByte = s at *
  have hs36 : s.length = 36 := by
    rw [← hs]
    simp only [List.length_append, List.length_cons, hlength ha, hlength hb, hlength hc, hlength hd, hlength he]
  have hmem : ∀ c ∈ s, Text.isBlank c = false ∧ c ≠ 'u' := by
    intro c hm
    rw [← hs] at hm
    simp only [List.mem_append, List.mem_cons] at hm
    have hhex : ∀ {x : List UInt8}, c ∈ x.flatMap hexByte → Text.isBlank c = false ∧ c ≠ 'u' :=
      fun h => ⟨(mem_hex h).2.2, (mem_hex h).2.1⟩
    have hhyphen : c = '-' → Text.isBlank c = false ∧ c ≠ 'u' := by
      rintro rfl
      decide
    rcases hm with (((h | h | h) | h | h) | h | h) | h | h <;> first | exact hhex h | exact hhyphen h
  rw [Text.trimChars_of_forall fun c hm => (hmem c hm).1]
  unfold readUuid?
  rw [if_neg (by omega), if_neg (by omega), if_neg, hread]
  intro htake
  have hu : 'u' ∈ s := by
    apply List.mem_of_mem_take (i := 9)
    rw [htake]
    decide
  exact (hmem 'u' hu).2 rfl

/-- The five parts of sixteen bytes in the hyphenated form. -/
theorem parts_append (bs : List UInt8) :
    bs.take 4 ++ (bs.drop 4).take 2 ++ (bs.drop 6).take 2 ++ (bs.drop 8).take 2 ++ bs.drop 10 = bs := by
  have h4 := List.take_append_drop 4 bs
  have h6 := List.take_append_drop 2 (bs.drop 4)
  have h8 := List.take_append_drop 2 (bs.drop 6)
  have h10 := List.take_append_drop 2 (bs.drop 8)
  rw [List.drop_drop] at h6 h8 h10
  rw [List.append_assoc, List.append_assoc, List.append_assoc, h10, h8, h6, h4]

theorem readUuid?_uuidText? {bs : List UInt8} (h : bs.length = 16) :
    ∃ s, uuidText? bs = some s ∧ readUuid? (Text.trimChars s.toList) = some bs := by
  have hread := @readUuid?_hyphenated (bs.take 4) ((bs.drop 4).take 2) ((bs.drop 6).take 2) ((bs.drop 8).take 2)
    (bs.drop 10) (by simp [h]) (by simp [h]) (by simp [h]) (by simp [h]) (by simp [h])
  rw [parts_append] at hread
  unfold uuidText?
  rw [if_pos h]
  refine ⟨_, rfl, ?_⟩
  rw [String.toList_ofList]
  exact hread

end TypedSql.Wire
