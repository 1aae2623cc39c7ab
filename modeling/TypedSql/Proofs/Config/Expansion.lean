import Mathlib.Data.List.TakeWhile
import TypedSql.Config.Expansion
import TypedSql.Proofs.Traversal

/-!
# The expansion of an address as a grammar

* `Config.Cut s ps` : the text `s` is made of the pieces `ps`, cut off from left to right;
* `Config.cut_iff` : every text is cut in this way, and in one way only;
* `Config.Stands`, `Config.Fails` : what a piece stands for, and why it stands for nothing;
* `Config.Expands` : an expansion is what the pieces stand for, one after the other;
* `Config.Lacks` : there is none as some piece stands for nothing, the first of these;
* `Config.expand_eq_ok_iff`, `Config.expand_eq_error_iff` : `expand` finds the one or the other.
-/

namespace TypedSql.Config

/-! ## Pieces -/

/-- A text is made of pieces: a dollar and a brace open a reference, which reaches to the first closing brace, or to the
end of the text if there is none; any other character stands for itself. -/
inductive Cut : List Char → List Piece → Prop where
  | nil : Cut [] []
  | reference {key rest : List Char} {ps : List Piece} (hkey : '\x7d' ∉ key) (hrest : Cut rest ps) :
      Cut ('$' :: '\x7b' :: (key ++ '\x7d' :: rest)) (.reference key :: ps)
  | unclosed {key : List Char} (hkey : '\x7d' ∉ key) : Cut ('$' :: '\x7b' :: key) [.unclosed key]
  | literal {c : Char} {rest : List Char} {ps : List Piece} (hc : ¬ (c = '$' ∧ rest.head? = some '\x7b'))
      (hrest : Cut rest ps) : Cut (c :: rest) (.literal c :: ps)

theorem reference_closed {key : List Char} (h : '\x7d' ∉ key) (rest : List Char) :
    reference (key ++ '\x7d' :: rest) = (.reference key, rest) := by
  have hne : ∀ c ∈ key, (c != '\x7d') = true := fun c hc => bne_iff_ne.2 fun e => h (e ▸ hc)
  rw [reference, List.dropWhile_append_of_pos hne, List.takeWhile_append_of_pos hne]
  simp

theorem reference_unclosed {key : List Char} (h : '\x7d' ∉ key) : reference key = (.unclosed key, []) := by
  have hnil : key.dropWhile (· != '\x7d') = [] :=
    List.dropWhile_eq_nil_iff.2 fun c hc => bne_iff_ne.2 fun e => h (e ▸ hc)
  rw [reference, hnil]

theorem next_reference (s : List Char) : next '$' ('\x7b' :: s) = reference s :=
  if_pos ⟨rfl, rfl⟩

theorem pieces_of_cut {s : List Char} {ps : List Piece} (h : Cut s ps) : ps = pieces s := by
  induction h with
  | nil => rw [pieces]
  | reference hkey _ ih => rw [pieces, next_reference, reference_closed hkey, ih]
  | unclosed hkey => rw [pieces, next_reference, reference_unclosed hkey, pieces]
  | literal hc _ ih => rw [pieces, next, if_neg hc, ih]

theorem cut_pieces (s : List Char) : Cut s (pieces s) := by
  fun_induction pieces s with
  | case1 => exact .nil
  | case2 c s ih =>
    by_cases hc : c = '$' ∧ s.head? = some '\x7b'
    · obtain ⟨rfl, hs⟩ := hc
      obtain ⟨t, rfl⟩ := List.head?_eq_some_iff.1 hs
      rw [next_reference] at ih ⊢
      by_cases hclosed : '\x7d' ∈ t
      · obtain ⟨key, rest, rfl, hkey⟩ := List.eq_append_cons_of_mem hclosed
        rw [reference_closed hkey] at ih ⊢
        exact .reference hkey ih
      · rw [reference_unclosed hclosed, pieces]
        exact .unclosed hclosed
    · rw [next, if_neg hc] at ih ⊢
      exact .literal hc ih

theorem cut_iff {s : List Char} {ps : List Piece} : Cut s ps ↔ ps = pieces s :=
  ⟨pieces_of_cut, fun h => h ▸ cut_pieces s⟩

/-! ## Expansion -/

section
variable (lookup : Lookup)

/-- What a piece stands for: a character for itself, and a reference for what is looked up under its key. -/
inductive Stands : Piece → List Char → Prop where
  | literal (c : Char) : Stands (.literal c) [c]
  | reference {key : List Char} {value : String} (hkey : key ≠ []) (h : lookup (String.ofList key) = some value) :
      Stands (.reference key) value.toList

/-- Why a piece stands for nothing: it is a reference that is never closed, or has an empty or an unknown key. -/
inductive Fails : Piece → Fault → Prop where
  | unclosed (key : List Char) : Fails (.unclosed key) (.unterminated (String.ofList key))
  | emptyKey : Fails (.reference []) .emptyKey
  | unknownKey {key : List Char} (hkey : key ≠ []) (h : lookup (String.ofList key) = none) :
      Fails (.reference key) (.unknownKey (String.ofList key))

/-- The expansion of a text is what its pieces stand for, one after the other. What a reference stands for is taken as
it is. -/
def Expands (s t : String) : Prop :=
  ∃ ps parts, Cut s.toList ps ∧ List.Forall₂ (Stands lookup) ps parts ∧ t.toList = parts.flatten

/-- A text has no expansion as a piece of it stands for nothing, the first one to do so. -/
def Lacks (s : String) (f : Fault) : Prop :=
  ∃ before p after, Cut s.toList (before ++ p :: after) ∧ Fails lookup p f ∧ ∀ q ∈ before, ∃ part, Stands lookup q part

end

section
variable {lookup : Lookup}

theorem expansion_reference {key : List Char} (hkey : key ≠ []) :
    (Piece.reference key).expansion lookup =
      match lookup (String.ofList key) with
      | some value => .ok value.toList
      | none => .error (.unknownKey (String.ofList key)) := by
  cases key with
  | nil => exact absurd rfl hkey
  | cons c key => rfl

theorem expansion_eq_ok_iff {p : Piece} {text : List Char} : p.expansion lookup = .ok text ↔ Stands lookup p text := by
  constructor
  · intro h
    cases p with
    | literal c =>
      cases h
      exact .literal c
    | unclosed key => cases h
    | reference key =>
      by_cases hkey : key = []
      · subst hkey
        cases h
      · rw [expansion_reference hkey] at h
        split at h
        · next value hvalue =>
          cases h
          exact .reference hkey hvalue
        · cases h
  · rintro (c | @⟨key, value, hkey, hvalue⟩)
    · rfl
    · rw [expansion_reference hkey, hvalue]

theorem expansion_eq_error_iff {p : Piece} {f : Fault} : p.expansion lookup = .error f ↔ Fails lookup p f := by
  constructor
  · intro h
    cases p with
    | literal c => cases h
    | unclosed key =>
      cases h
      exact .unclosed key
    | reference key =>
      by_cases hkey : key = []
      · subst hkey
        cases h
        exact .emptyKey
      · rw [expansion_reference hkey] at h
        split at h
        · cases h
        · next hnone =>
          cases h
          exact .unknownKey hkey hnone
  · rintro (key | _ | @⟨key, hkey, hnone⟩)
    · rfl
    · rfl
    · rw [expansion_reference hkey, hnone]

/-! ## Texts -/

theorem expand_eq_map (lookup : Lookup) (s : String) : expand lookup s =
    ((pieces s.toList).mapM (Piece.expansion lookup)).map fun parts => String.ofList parts.flatten :=
  bind_pure_comp _ _

theorem expand_eq_ok_iff {s t : String} : expand lookup s = .ok t ↔ Expands lookup s t := by
  rw [expand_eq_map, map_eq_ok_iff]
  simp only [mapM_eq_ok_iff_forall₂, expansion_eq_ok_iff]
  constructor
  · rintro ⟨parts, hparts, rfl⟩
    exact ⟨pieces s.toList, parts, cut_pieces _, hparts, String.toList_ofList⟩
  · rintro ⟨ps, parts, hcut, hparts, ht⟩
    obtain rfl := cut_iff.1 hcut
    exact ⟨parts, hparts, by rw [← ht, String.ofList_toList]⟩

theorem expand_eq_error_iff {s : String} {f : Fault} : expand lookup s = .error f ↔ Lacks lookup s f := by
  rw [expand_eq_map, map_eq_error_iff, mapM_eq_error_iff_append]
  simp only [expansion_eq_error_iff, expansion_eq_ok_iff, Lacks, cut_iff, eq_comm (b := pieces s.toList)]

end

end TypedSql.Config
