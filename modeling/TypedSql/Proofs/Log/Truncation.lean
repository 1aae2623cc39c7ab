import Mathlib.Order.Bounds.Basic
import TypedSql.Log
import TypedSql.Proofs.Text.Slice

/-!
# Texts cut to a limit

A text above the limit is told as its longest start of whole characters within the limit, and three points. The end of
that start can be found by byte offsets alone, with a search back from the limit for a place between characters.

* `IsLongest limit s t` : `t` is the longest start of `s` with at most `limit` bytes;
* `isLongest_fitting` : what `fitting` keeps is that start;
* `searchBack` : the search back from an offset, with the number of its steps;
* `isGreatest_searchBack` : it stops on the last place between characters that it can reach;
* `startWithin`, `truncatedAt` : the longest start and the cut text, as the search finds them, or a fault;
* `IsLongest.cut` : the search stops behind the longest start after three steps or fewer, and no fault arises;
* `truncated_isLongest` : which texts are told in full, and what is told of the others.
-/

namespace TypedSql.SqlLog

open String (utf8Len utf8Len_nil utf8Len_cons utf8Len_append utf8Len_le_of_prefix)
open String.Pos.Raw (IsValid isValid_eq_true_iff)
open Text (Misplaced slice slice_left isValid_iff)

variable {limit : Nat} {s t : List Char}

/-! ## The longest start within a limit -/

/-- `t` is the longest start of `s` with at most `limit` bytes: each other one is a start of it. -/
structure IsLongest (limit : Nat) (s t : List Char) : Prop where
  start : t <+: s
  within : utf8Len t ≤ limit
  longest : ∀ u, u <+: s → utf8Len u ≤ limit → u <+: t

theorem isLongest_fitting (limit : Nat) (s : List Char) : IsLongest limit s (fitting limit s) := by
  fun_induction fitting limit s with
  | case1 limit => exact ⟨List.prefix_rfl, Nat.zero_le limit, fun u hu _ => hu⟩
  | case2 limit c s hc ih =>
    refine ⟨(List.prefix_cons_inj c).2 ih.start, ?_, ?_⟩
    · have := ih.within
      rw [utf8Len_cons]
      omega
    · intro u hu hlen
      rcases List.prefix_cons_iff.1 hu with rfl | ⟨v, rfl, hv⟩
      · exact List.nil_prefix
      · rw [utf8Len_cons] at hlen
        exact (List.prefix_cons_inj c).2 (ih.longest v hv (by omega))
  | case3 limit c s hc =>
    refine ⟨List.nil_prefix, Nat.zero_le limit, ?_⟩
    intro u hu hlen
    rcases List.prefix_cons_iff.1 hu with rfl | ⟨v, rfl, -⟩
    · exact List.prefix_rfl
    · rw [utf8Len_cons] at hlen
      omega

namespace IsLongest

theorem eq_self (h : IsLongest limit s t) (hs : utf8Len s ≤ limit) : t = s :=
  h.start.eq_of_length_le (h.longest s List.prefix_rfl hs).length_le

/-- Behind the longest start of a longer text there is a character, and the limit lies before its end. -/
theorem exists_next (h : IsLongest limit s t) (hs : limit < utf8Len s) :
    ∃ c rest, t ++ c :: rest = s ∧ limit < utf8Len t + c.utf8Size := by
  obtain ⟨u, rfl⟩ := h.start
  cases u with
  | nil =>
    have := h.within
    rw [List.append_nil] at hs
    omega
  | cons c rest =>
    refine ⟨c, rest, rfl, ?_⟩
    by_contra hle
    -- else that character would belong to the longest start
    have hlen : utf8Len (t ++ [c]) ≤ limit := by
      rw [utf8Len_append, utf8Len_cons, utf8Len_nil]
      omega
    have hstart : t ++ [c] <+: t := h.longest (t ++ [c]) ⟨rest, by simp⟩ hlen
    have := hstart.length_le
    simp at this

/-- It is empty exactly if the first character is longer than the limit. -/
theorem eq_nil_iff (h : IsLongest limit s t) (hs : limit < utf8Len s) :
    t = [] ↔ ∃ c ∈ s.head?, limit < c.utf8Size := by
  obtain ⟨c, rest, rfl, hc⟩ := h.exists_next hs
  constructor
  · rintro rfl
    exact ⟨c, rfl, by simpa using hc⟩
  · rintro ⟨d, hd, hlong⟩
    cases t with
    | nil => rfl
    | cons e t =>
      obtain rfl : e = d := by simpa using hd
      have := h.within
      rw [utf8Len_cons] at this
      omega

/-- Its end is the last place between characters up to the limit. -/
theorem isGreatest (h : IsLongest limit s t) :
    IsGreatest {i | i ≤ limit ∧ IsValid (String.ofList s) ⟨i⟩} (utf8Len t) := by
  obtain ⟨rest, hrest⟩ := h.start
  refine ⟨⟨h.within, isValid_iff.2 ⟨t, rest, hrest, rfl⟩⟩, ?_⟩
  rintro i ⟨hi, hvalid⟩
  obtain ⟨u, v, huv, rfl⟩ := isValid_iff.1 hvalid
  exact utf8Len_le_of_prefix (h.longest u ⟨v, huv⟩ hi)

end IsLongest

/-! ## The search back -/

/-- Where a search stops, and after how many steps. -/
structure Stop where
  offset : Nat
  steps : Nat
deriving DecidableEq

/-- The search back from a byte offset, byte by byte, for a place between characters, which the byte there tells; it does
not go beyond the start of the text. -/
def searchBack (sql : String) : Nat → Stop
  | 0 => ⟨0, 0⟩
  | n + 1 =>
    if String.Pos.Raw.isValid sql ⟨n + 1⟩ then ⟨n + 1, 0⟩
    else
      let stop := searchBack sql n
      { stop with steps := stop.steps + 1 }

theorem offset_add_steps (sql : String) (n : Nat) : (searchBack sql n).offset + (searchBack sql n).steps = n := by
  induction n with
  | zero => rfl
  | succ n ih =>
    rw [searchBack]
    split
    · rfl
    · dsimp only
      omega

theorem isGreatest_searchBack (sql : String) (n : Nat) :
    IsGreatest {i | i ≤ n ∧ IsValid sql ⟨i⟩} (searchBack sql n).offset := by
  induction n with
  | zero => exact ⟨⟨Nat.le_refl 0, String.Pos.Raw.isValid_zero⟩, fun i hi => hi.1⟩
  | succ n ih =>
    rw [searchBack]
    split
    · next hvalid => exact ⟨⟨Nat.le_refl _, isValid_eq_true_iff.1 hvalid⟩, fun i hi => hi.1⟩
    · next hvalid =>
      -- a step back leaves no place between characters behind
      refine ⟨⟨Nat.le_succ_of_le ih.1.1, ih.1.2⟩, ?_⟩
      rintro i ⟨hi, hplace⟩
      have hne : i ≠ n + 1 := by
        rintro rfl
        exact hvalid (isValid_eq_true_iff.2 hplace)
      exact ih.2 ⟨by omega, hplace⟩

/-! ## The cut by byte offsets -/

/-- The longest start of a text within the limit, as the search finds it. -/
def startWithin (limit : Nat) (s : List Char) : Except Misplaced (List Char) :=
  if utf8Len s ≤ limit then return s
  else slice s 0 (searchBack (String.ofList s) limit).offset

/-- A text cut to the limit by byte offsets, if it is longer. -/
def truncatedAt (log : SqlLog) (sql : String) : Except Misplaced String :=
  match log.maxLength with
  | none => return sql
  | some limit =>
    if limit < sql.utf8ByteSize then do
      let kept ← startWithin limit sql.toList
      return String.ofList kept ++ "..."
    else return sql

/-- The search back from the limit stops behind `t`, at a place between characters and after three steps or fewer; and
the part up to there can be taken. -/
structure Cut (limit : Nat) (s t : List Char) (stop : Stop) : Prop where
  search : searchBack (String.ofList s) limit = stop
  steps : stop.steps ≤ 3
  place : IsValid (String.ofList s) ⟨stop.offset⟩
  part : slice s 0 stop.offset = .ok t

namespace IsLongest

theorem offset_eq (h : IsLongest limit s t) : (searchBack (String.ofList s) limit).offset = utf8Len t :=
  (isGreatest_searchBack (String.ofList s) limit).unique h.isGreatest

theorem slice_offset (h : IsLongest limit s t) : slice s 0 (searchBack (String.ofList s) limit).offset = .ok t := by
  obtain ⟨rest, rfl⟩ := h.start
  exact slice_left h.offset_eq.symm rest

theorem cut (h : IsLongest limit s t) (hs : limit < utf8Len s) :
    Cut limit s t (searchBack (String.ofList s) limit) where
  search := rfl
  steps := by
    -- the limit lies within the character behind `t`, which has four bytes or fewer
    obtain ⟨c, -, -, hc⟩ := h.exists_next hs
    have hsum := offset_add_steps (String.ofList s) limit
    rw [h.offset_eq] at hsum
    have hfour := c.utf8Size_le_four
    omega
  place := (isGreatest_searchBack (String.ofList s) limit).1.2
  part := h.slice_offset

theorem startWithin_eq (h : IsLongest limit s t) : startWithin limit s = .ok t := by
  unfold startWithin
  split
  · next hs =>
    rw [h.eq_self hs]
    rfl
  · exact h.slice_offset

example : startWithin 3 ['é', 'é', 'é'] = .ok ['é'] := by decide

end IsLongest

/-! ## Texts that are told -/

theorem truncatedAt_eq (log : SqlLog) (sql : String) : log.truncatedAt sql = .ok (log.truncated sql) := by
  unfold truncatedAt truncated
  cases log.maxLength with
  | none => rfl
  | some limit =>
    dsimp only
    by_cases hsql : limit < sql.utf8ByteSize
    · rw [if_pos hsql, if_pos hsql, (isLongest_fitting limit sql.toList).startWithin_eq]
      rfl
    · rw [if_neg hsql, if_neg hsql]
      rfl

theorem truncated_of_le {log : SqlLog} {sql : String} (h : ∀ limit ∈ log.maxLength, sql.utf8ByteSize ≤ limit) :
    log.truncated sql = sql := by
  unfold truncated
  split
  · rfl
  · next limit hlimit => rw [if_neg (Nat.not_lt.2 (h limit hlimit))]

theorem truncated_of_lt {log : SqlLog} {sql : String} (hlimit : limit ∈ log.maxLength) (h : limit < sql.utf8ByteSize) :
    log.truncated sql = String.ofList (fitting limit sql.toList) ++ "..." := by
  rw [truncated, hlimit]
  exact if_pos h

/-- A text within the limit is told in full, as are all without a limit. Of any other the longest start of whole
characters within the limit is told, and three points. Byte offsets lead to the same, with no part misplaced: the search
back from the limit stops between characters after at most three steps. -/
theorem truncated_isLongest (log : SqlLog) (sql : String) :
    log.truncatedAt sql = .ok (log.truncated sql) ∧
      ((∀ limit ∈ log.maxLength, sql.utf8ByteSize ≤ limit) → log.truncated sql = sql) ∧
      ∀ limit ∈ log.maxLength, limit < sql.utf8ByteSize →
        ∃ p stop, log.truncated sql = String.ofList p ++ "..." ∧ IsLongest limit sql.toList p ∧
          (p = [] ↔ ∃ c ∈ sql.toList.head?, limit < c.utf8Size) ∧ Cut limit sql.toList p stop := by
  refine ⟨truncatedAt_eq log sql, truncated_of_le, ?_⟩
  intro limit hlimit hsql
  have hlongest := isLongest_fitting limit sql.toList
  have hlen : limit < utf8Len sql.toList := by
    rwa [← String.utf8ByteSize_ofList, String.ofList_toList]
  exact ⟨_, _, truncated_of_lt hlimit hsql, hlongest, hlongest.eq_nil_iff hlen, hlongest.cut hlen⟩

/-- A limit on the last byte of a character of four bytes, and one on the end of the text. -/
theorem truncated_isLongest_withinCharacter :
    5 < "é😀".utf8ByteSize ∧ SqlLog.truncated ⟨some 5⟩ "é😀" = "é..." ∧ Cut 5 ['é', '😀'] ['é'] ⟨2, 3⟩ ∧
      "é😀".utf8ByteSize ≤ 6 ∧ SqlLog.truncated ⟨some 6⟩ "é😀" = "é😀" := by
  have hlong : 5 < "é😀".utf8ByteSize := by decide
  have hwhole : ∀ limit ∈ (⟨some 6⟩ : SqlLog).maxLength, "é😀".utf8ByteSize ≤ limit := by decide
  obtain ⟨p, stop, htold, -, -, hcut⟩ := (truncated_isLongest ⟨some 5⟩ "é😀").2.2 5 rfl hlong
  obtain rfl : stop = ⟨2, 3⟩ := hcut.search.symm.trans (by decide)
  obtain rfl : p = ['é'] := Except.ok.inj (hcut.part.symm.trans (by decide))
  exact ⟨hlong, htold, hcut, hwhole 6 rfl, (truncated_isLongest ⟨some 6⟩ "é😀").2.1 hwhole⟩

end TypedSql.SqlLog
