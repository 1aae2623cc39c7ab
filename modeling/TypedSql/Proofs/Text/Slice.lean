import Mathlib.Data.List.Infix
import Mathlib.Data.String.Basic

/-!
# Parts of a text by byte offsets

* `cutAt? n s` : the text `s` cut behind its first `n` bytes, if a character ends there;
* `slice s i j` : the part of `s` between two byte offsets, or a fault if they do not fall between characters;
* `find? stop s` : the byte offset of the first occurrence of `stop`;
* `isValid_iff` : an offset between characters is one behind whole characters;
* `exists_slice_iff` : two offsets in their order have a part between them exactly if both fall between characters.
-/

namespace TypedSql.Text

open String (utf8Len utf8Len_nil utf8Len_cons utf8Len_append utf8Len_eq_zero)

variable {s t u : List Char} {i j n : Nat}

/-! ## Cutting -/

/-- A text cut at a byte offset; not within a character, nor behind the end. -/
def cutAt? : Nat → List Char → Option (List Char × List Char)
  | 0, s => some ([], s)
  | _ + 1, [] => none
  | n + 1, c :: s =>
    if c.utf8Size ≤ n + 1 then (cutAt? (n + 1 - c.utf8Size) s).map fun (t, u) => (c :: t, u) else none

theorem cutAt?_utf8Len (t u : List Char) : cutAt? (utf8Len t) (t ++ u) = some (t, u) := by
  induction t with
  | nil => cases u <;> rfl
  | cons c t ih =>
    have hpos := c.utf8Size_pos
    have hlen := utf8Len_cons c t
    obtain ⟨n, hn⟩ : ∃ n, utf8Len (c :: t) = n + 1 := Nat.exists_eq_succ_of_ne_zero (by omega)
    rw [hn, List.cons_append, cutAt?, if_pos (by omega), show n + 1 - c.utf8Size = utf8Len t by omega, ih]
    rfl

theorem cutAt?_eq_some_iff : cutAt? n s = some (t, u) ↔ t ++ u = s ∧ utf8Len t = n := by
  constructor
  · intro h
    fun_induction cutAt? n s generalizing t with
    | case1 s =>
      cases h
      exact ⟨rfl, rfl⟩
    | case2 => cases h
    | case3 n c s hc ih =>
      obtain ⟨⟨v, w⟩, hvw, hp⟩ := Option.map_eq_some_iff.1 h
      cases hp
      obtain ⟨rfl, hlen⟩ := ih hvw
      exact ⟨rfl, by rw [utf8Len_cons]; omega⟩
    | case4 => cases h
  · rintro ⟨rfl, rfl⟩
    exact cutAt?_utf8Len t u

/-! ## Parts -/

/-- Two offsets between which a text has no part: one lies within a character or behind the end, or they are not in
their order. -/
structure Misplaced where
  text : List Char
  first : Nat
  last : Nat
deriving DecidableEq

/-- The part of a text between two byte offsets. -/
def slice (s : List Char) (i j : Nat) : Except Misplaced (List Char) :=
  match (cutAt? j s).bind fun (t, _) => cutAt? i t with
  | some (_, u) => .ok u
  | none => .error ⟨s, i, j⟩

theorem slice_eq_ok_iff : slice s i j = .ok t ↔
    ∃ before after, before ++ t ++ after = s ∧ utf8Len before = i ∧ utf8Len (before ++ t) = j := by
  have hcut : slice s i j = .ok t ↔ ∃ before, ((cutAt? j s).bind fun (t, _) => cutAt? i t) = some (before, t) := by
    unfold slice
    split
    · next h => simp [h]
    · next h => simp [h]
  rw [hcut]
  constructor
  · rintro ⟨before, h⟩
    obtain ⟨⟨v, after⟩, hv, hbefore⟩ := Option.bind_eq_some_iff.1 h
    obtain ⟨rfl, hj⟩ := cutAt?_eq_some_iff.1 hv
    obtain ⟨rfl, hi⟩ := cutAt?_eq_some_iff.1 hbefore
    exact ⟨before, after, rfl, hi, hj⟩
  · rintro ⟨before, after, rfl, rfl, rfl⟩
    refine ⟨before, ?_⟩
    rw [cutAt?_utf8Len]
    exact cutAt?_utf8Len before t

/-- A part up to an offset. -/
theorem slice_left (h : utf8Len t = n) (u : List Char) : slice (t ++ u) 0 n = .ok t :=
  slice_eq_ok_iff.2 ⟨[], u, rfl, rfl, h⟩

/-- A part from an offset on. -/
theorem slice_right (h : utf8Len t = n) (u : List Char) : slice (t ++ u) n (utf8Len (t ++ u)) = .ok u :=
  slice_eq_ok_iff.2 ⟨t, [], List.append_nil _, h, rfl⟩

/-! ## Offsets between characters -/

theorem isValid_iff : String.Pos.Raw.IsValid (String.ofList s) ⟨n⟩ ↔ ∃ t u, t ++ u = s ∧ utf8Len t = n := by
  rw [String.Pos.Raw.isValid_ofList]
  simp only [String.utf8ByteSize_ofList]
  constructor
  · rintro ⟨k, rfl⟩
    exact ⟨s.take k, s.drop k, List.take_append_drop k s, rfl⟩
  · rintro ⟨t, u, rfl, rfl⟩
    exact ⟨t.length, by rw [List.take_left]⟩

/-- A part can be taken between any two offsets, in their order, that fall between characters, and between no others. -/
theorem exists_slice_iff : (∃ t, slice s i j = .ok t) ↔
    i ≤ j ∧ String.Pos.Raw.IsValid (String.ofList s) ⟨i⟩ ∧ String.Pos.Raw.IsValid (String.ofList s) ⟨j⟩ := by
  simp only [slice_eq_ok_iff, isValid_iff]
  constructor
  · rintro ⟨t, before, after, rfl, rfl, rfl⟩
    refine ⟨?_, ⟨before, t ++ after, (List.append_assoc before t after).symm, rfl⟩, before ++ t, after, rfl, rfl⟩
    rw [utf8Len_append]
    exact Nat.le_add_right _ _
  · rintro ⟨hle, ⟨t, u, rfl, rfl⟩, v, w, hvw, rfl⟩
    rcases List.prefix_or_prefix_of_prefix ⟨u, rfl⟩ ⟨w, hvw⟩ with ⟨x, rfl⟩ | ⟨x, rfl⟩
    · exact ⟨x, t, w, hvw, rfl, rfl⟩
    · rw [utf8Len_append] at hle
      obtain rfl : x = [] := utf8Len_eq_zero.1 (by omega)
      rw [List.append_nil] at hvw ⊢
      exact ⟨[], v, w, by rw [List.append_nil, hvw], rfl, by rw [List.append_nil]⟩

example : slice ['é', 'a'] 1 3 = .error ⟨['é', 'a'], 1, 3⟩ := by rfl

/-! ## The first occurrence -/

/-- The byte offset of the first occurrence of a text in another. -/
def find? (stop : List Char) : List Char → Option Nat
  | [] => if stop.isEmpty then some 0 else none
  | c :: s => if stop.isPrefixOf (c :: s) then some 0 else (find? stop s).map (· + c.utf8Size)

end TypedSql.Text
