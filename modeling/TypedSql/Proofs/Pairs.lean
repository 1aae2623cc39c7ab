import Mathlib.Data.List.Basic
import Mathlib.Data.List.Induction
import TypedSql.Pairs

/-!
# Entries put in and taken away

* `Pairs.get?_eq_some_iff` : what stands under a name, where no name stands twice;
* `Pairs.get?_erase_self`, `Pairs.get?_erase_of_ne`, `Pairs.nodup_erase` : what `erase` changes;
* `Pairs.count_put`, `Pairs.count_erase` : no value is lost, and none is made;
* `Pairs.putAll` : entries put one after the other;
* `Pairs.putAll_putAll` : to put a list of entries together first, and then its result, comes to the same;
* `Pairs.putAll_of_nodup` : entries with different names stay as they are;
* `Pairs.settled`, `Pairs.putAll_nil` : what is put settles with each name once, where it occurs first, and with its last
  value;
* `Pairs.Before`, `Pairs.pairwise_sorted` : sorted entries stand in the order of their names.
-/

namespace TypedSql

namespace Pairs
variable {α β : Type}

/-! ## Names and values -/

theorem get?_eq_some_iff {name : String} {v : α} {ps : List (String × α)} (h : (names ps).Nodup) :
    get? name ps = some v ↔ (name, v) ∈ ps := by
  induction ps with
  | nil => simp [get?]
  | cons p ps ih =>
    rw [names_cons, List.nodup_cons] at h
    by_cases hp : p.1 = name
    · have hnot : (name, v) ∉ ps := fun hm => h.1 (hp ▸ List.mem_map.2 ⟨(name, v), hm, rfl⟩)
      simp [get?, hp, hnot, Prod.ext_iff, eq_comm]
    · simp [get?, hp, ih h.2, Prod.ext_iff, Ne.symm hp]

theorem get?_eq_none_iff {name : String} {ps : List (String × α)} : get? name ps = none ↔ name ∉ names ps := by
  induction ps with
  | nil => simp [get?, names]
  | cons p ps ih =>
    rw [names_cons]
    by_cases h : p.1 = name
    · simp [get?, h]
    · simp [get?, h, ih, Ne.symm h]

theorem names_erase (name : String) (ps : List (String × α)) : names (erase name ps) = (names ps).erase name := by
  induction ps with
  | nil => rfl
  | cons p ps ih =>
    rw [names_cons, List.erase_cons, erase]
    by_cases h : p.1 = name
    · simp [h]
    · simp [h, names_cons, ih]

theorem nodup_erase (name : String) {ps : List (String × α)} (h : (names ps).Nodup) :
    (names (erase name ps)).Nodup := by
  rw [names_erase]
  exact h.erase name

theorem get?_erase_self {name : String} {ps : List (String × α)} (h : (names ps).Nodup) :
    get? name (erase name ps) = none := by
  rw [get?_eq_none_iff, names_erase]
  exact h.not_mem_erase

theorem get?_erase_of_ne {name other : String} (h : other ≠ name) (ps : List (String × α)) :
    get? other (erase name ps) = get? other ps := by
  induction ps with
  | nil => rfl
  | cons p ps ih =>
    by_cases hp : p.1 = name
    · simp [erase, get?, hp, Ne.symm h]
    · simp [erase, get?, hp, ih]

section
variable [DecidableEq α]

/-- What is put in stands beside all that was there, but for what it takes the place of. -/
theorem count_put (name : String) (v w : α) (ps : List (String × α)) :
    ((put name v ps).map Prod.snd).count w + (get? name ps).toList.count w = (ps.map Prod.snd).count w + [v].count w := by
  induction ps with
  | nil => simp [put, get?]
  | cons p ps ih =>
    by_cases h : p.1 = name
    · simp only [put, get?, h, if_true, List.map_cons, List.count_cons, Option.toList_some, List.count_nil]
      omega
    · simp only [put, get?, h, if_false, List.map_cons, List.count_cons] at ih ⊢
      omega

theorem count_erase (name : String) (w : α) (ps : List (String × α)) :
    ((erase name ps).map Prod.snd).count w + (get? name ps).toList.count w = (ps.map Prod.snd).count w := by
  induction ps with
  | nil => simp [erase, get?]
  | cons p ps ih =>
    by_cases h : p.1 = name
    · simp [erase, get?, h, List.count_cons]
    · simp only [erase, get?, h, if_false, List.map_cons, List.count_cons] at ih ⊢
      omega

end

/-! ## Putting many entries -/

/-- Put entries one after the other. -/
def putAll (ps qs : List (String × α)) : List (String × α) :=
  qs.foldl (fun ps q => put q.1 q.2 ps) ps

theorem putAll_cons (ps : List (String × α)) (q : String × α) (qs : List (String × α)) :
    putAll ps (q :: qs) = putAll (put q.1 q.2 ps) qs := rfl

theorem putAll_append (ps qs rs : List (String × α)) : putAll ps (qs ++ rs) = putAll (putAll ps qs) rs := by
  unfold putAll
  rw [List.foldl_append]

theorem put_put_self (name : String) (v w : α) (ps : List (String × α)) :
    put name v (put name w ps) = put name v ps := by
  induction ps with
  | nil => simp [put]
  | cons p ps ih => by_cases h : p.1 = name <;> simp [put, h, ih]

/-- The order does not matter when one of the two names has its place already. -/
theorem put_comm {name other : String} (h : other ≠ name) (v w : α) {ps : List (String × α)} (hm : name ∈ names ps) :
    put name v (put other w ps) = put other w (put name v ps) := by
  induction ps with
  | nil => cases hm
  | cons p ps ih =>
    by_cases hp : p.1 = name
    · have hother : p.1 ≠ other := fun e => h (e.symm.trans hp)
      simp [put, hp, Ne.symm h]
    · have htail : name ∈ names ps := by
        rcases List.mem_cons.1 hm with e | e
        · exact absurd e.symm hp
        · exact e
      by_cases hother : p.1 = other
      · simp [put, hother, h]
      · simp [put, hp, hother, ih htail]

theorem mem_names_put (name : String) (v : α) (ps : List (String × α)) : name ∈ names (put name v ps) := by
  rw [names_put]
  split
  · assumption
  · simp

theorem put_putAll {name : String} (v : α) {ps : List (String × α)} (hm : name ∈ names ps) {qs : List (String × α)}
    (hq : name ∉ names qs) : putAll (put name v ps) qs = put name v (putAll ps qs) := by
  induction qs generalizing ps with
  | nil => rfl
  | cons q qs ih =>
    rw [names_cons, List.mem_cons, not_or] at hq
    have hput : name ∈ names (put q.1 q.2 ps) := by
      rw [names_put]
      split
      · exact hm
      · exact List.mem_append_left _ hm
    rw [putAll_cons, putAll_cons, ← put_comm (Ne.symm hq.1) v q.2 hm, ih hput hq.2]

theorem putAll_put {name : String} (v : α) (ps : List (String × α)) {qs : List (String × α)}
    (hq : (names qs).Nodup) : putAll ps (put name v qs) = put name v (putAll ps qs) := by
  induction qs generalizing ps with
  | nil => rfl
  | cons q qs ih =>
    rw [names_cons, List.nodup_cons] at hq
    rw [put]
    split
    · next h =>
      subst h
      rw [putAll_cons, putAll_cons, ← put_putAll v (mem_names_put _ _ _) hq.1, put_put_self]
    · rw [putAll_cons, putAll_cons, ih _ hq.2]

theorem putAll_putAll (ps qs : List (String × α)) {ms : List (String × α)} (hms : (names ms).Nodup) :
    putAll ps (putAll ms qs) = putAll (putAll ps ms) qs := by
  induction qs generalizing ms with
  | nil => rfl
  | cons q qs ih => rw [putAll_cons, ih (nodup_put q.1 q.2 hms), putAll_put q.2 ps hms, putAll_cons]

theorem put_of_not_mem {name : String} (v : α) {ps : List (String × α)} (h : name ∉ names ps) :
    put name v ps = ps ++ [(name, v)] := by
  induction ps with
  | nil => rfl
  | cons p ps ih =>
    rw [names_cons, List.mem_cons, not_or] at h
    simp [put, Ne.symm h.1, ih h.2]

/-- New entries with different names go to the end as they are. -/
theorem putAll_of_nodup {ps qs : List (String × α)} (h : (names (ps ++ qs)).Nodup) : putAll ps qs = ps ++ qs := by
  induction qs generalizing ps with
  | nil => simp [putAll]
  | cons q qs ih =>
    have hq : names (ps ++ q :: qs) = names (ps ++ [q] ++ qs) := by simp
    have hnot : q.1 ∉ names ps := by
      rw [names, List.map_append, List.map_cons] at h
      exact fun hm => (List.nodup_append.1 h).2.2 q.1 hm q.1 List.mem_cons_self rfl
    rw [putAll_cons, put_of_not_mem q.2 hnot, ih (hq ▸ h)]
    simp

theorem get?_map (f : α → β) (name : String) (ps : List (String × α)) :
    get? name (ps.map fun p => (p.1, f p.2)) = (get? name ps).map f := by
  induction ps with
  | nil => rfl
  | cons p ps ih =>
    rw [List.map_cons, get?, get?]
    split
    · rfl
    · exact ih

theorem map_put (f : α → β) (name : String) (v : α) (ps : List (String × α)) :
    (put name v ps).map (fun p => (p.1, f p.2)) = put name (f v) (ps.map fun p => (p.1, f p.2)) := by
  induction ps with
  | nil => rfl
  | cons p ps ih => by_cases h : p.1 = name <;> simp [put, h, ih]

theorem map_putAll (f : α → β) (ps qs : List (String × α)) :
    (putAll ps qs).map (fun p => (p.1, f p.2)) =
      putAll (ps.map fun p => (p.1, f p.2)) (qs.map fun p => (p.1, f p.2)) := by
  induction qs generalizing ps with
  | nil => rfl
  | cons q qs ih => rw [putAll_cons, ih, map_put, List.map_cons, putAll_cons]

theorem filter_put (keep : String → Bool) (name : String) (v : α) (ps : List (String × α)) :
    (put name v ps).filter (fun p => keep p.1) =
      if keep name then put name v (ps.filter fun p => keep p.1) else ps.filter fun p => keep p.1 := by
  induction ps with
  | nil => by_cases h : keep name <;> simp [put, h]
  | cons p ps ih =>
    by_cases hp : p.1 = name
    · by_cases h : keep name <;> simp [put, hp, h]
    · by_cases h : keep name <;> by_cases hk : keep p.1 <;> simp [put, hp, h, hk, ih]

theorem filter_putAll (keep : String → Bool) (ps qs : List (String × α)) :
    (putAll ps qs).filter (fun p => keep p.1) =
      putAll (ps.filter fun p => keep p.1) (qs.filter fun p => keep p.1) := by
  induction qs generalizing ps with
  | nil => rfl
  | cons q qs ih =>
    rw [putAll_cons, ih, filter_put]
    by_cases h : keep q.1
    · rw [if_pos h, List.filter_cons_of_pos (by simpa using h), putAll_cons]
    · rw [if_neg h, List.filter_cons_of_neg (by simpa using h)]

theorem get?_putAll_of_not_mem {name : String} {qs : List (String × α)} (h : name ∉ names qs)
    (ps : List (String × α)) : get? name (putAll ps qs) = get? name ps := by
  induction qs generalizing ps with
  | nil => rfl
  | cons q qs ih =>
    rw [names_cons, List.mem_cons, not_or] at h
    rw [putAll_cons, ih h.2, get?_put_of_ne h.1]

/-! ## Last values at first places -/

/-- Each name once, at the place of its first entry and with the value of its last one. -/
def settled (ps : List (String × α)) : List (String × α) :=
  (names ps).eraseDups.filterMap fun name => (get? name ps.reverse).map (name, ·)

/-- Entries with different names are given by their names and the value of each. -/
theorem filterMap_get? {ps : List (String × α)} (h : (names ps).Nodup) :
    (names ps).filterMap (fun name => (get? name ps).map (name, ·)) = ps := by
  induction ps with
  | nil => rfl
  | cons p ps ih =>
    rw [names_cons, List.nodup_cons] at h
    have htail : (names ps).filterMap (fun name => (get? name (p :: ps)).map (name, ·)) = ps := by
      rw [← List.filterMap_congr fun name hm => ?_, ih h.2]
      have hne : p.1 ≠ name := fun e => h.1 (e ▸ hm)
      simp [get?, hne]
    rw [names_cons, List.filterMap_cons, htail]
    simp [get?]

theorem names_putAll (ps : List (String × α)) : names (putAll [] ps) = (names ps).eraseDups := by
  induction ps using List.reverseRecOn with
  | nil => rfl
  | append_singleton ps q ih =>
    have hq : names (ps ++ [q]) = names ps ++ [q.1] := by simp [names]
    rw [putAll_append, putAll_cons, putAll, List.foldl_nil, names_put, ih, hq, List.eraseDups_append]
    by_cases h : q.1 ∈ names ps <;> simp [List.removeAll, h, List.eraseDups_cons]

theorem get?_putAll (name : String) (ps : List (String × α)) : get? name (putAll [] ps) = get? name ps.reverse := by
  induction ps using List.reverseRecOn with
  | nil => rfl
  | append_singleton ps q ih =>
    rw [putAll_append, putAll_cons, putAll, List.foldl_nil, List.reverse_append, List.reverse_singleton,
      List.singleton_append, get?]
    split
    · next h => rw [← h, get?_put_self]
    · next h => rw [get?_put_of_ne (Ne.symm h), ih]

theorem nodup_putAll (ps : List (String × α)) : (names (putAll [] ps)).Nodup := by
  induction ps using List.reverseRecOn with
  | nil => exact List.nodup_nil
  | append_singleton ps q ih =>
    rw [putAll_append]
    exact nodup_put q.1 q.2 ih

/-- Entries put one after the other: a later one changes the value of its name, and never its place. -/
theorem putAll_nil (ps : List (String × α)) : putAll [] ps = settled ps := by
  rw [← filterMap_get? (nodup_putAll ps), names_putAll, settled]
  simp only [get?_putAll]

example : settled [("a", 1), ("b", 2), ("a", 3)] = [("a", 3), ("b", 2)] := by decide

/-! ## The order of names -/

/-- One entry stands before another: its name comes first. -/
def Before (p q : String × α) : Prop :=
  p.1 ≤ q.1 ∧ p.1 ≠ q.1

theorem pairwise_sorted {ps : List (String × α)} (h : (names ps).Nodup) : (sorted ps).Pairwise Before := by
  have hle := @List.pairwise_mergeSort _ (fun p q : String × α => decide (p.1 ≤ q.1))
    (fun p q r hpq hqr => by
      rw [decide_eq_true_eq] at hpq hqr ⊢
      exact String.le_trans hpq hqr)
    (fun p q => by
      rw [Bool.or_eq_true, decide_eq_true_eq, decide_eq_true_eq]
      exact String.le_total p.1 q.1) ps
  have hne : (sorted ps).Pairwise fun p q => p.1 ≠ q.1 :=
    ((List.mergeSort_perm ps _).pairwise_iff fun h => h.symm).2 (List.pairwise_map.1 h)
  exact (hle.imp fun hpq => of_decide_eq_true hpq).and hne

/-- There is one order in which the names of all entries come one after the other. -/
theorem sorted_eq_of_perm {ps qs : List (String × α)} (hperm : qs.Perm ps) (h : qs.Pairwise Before) :
    sorted ps = qs := by
  have hnodup : (names ps).Nodup :=
    (hperm.map Prod.fst).nodup_iff.1 (List.pairwise_map.2 (h.imp And.right))
  exact ((List.mergeSort_perm ps _).trans hperm.symm).eq_of_pairwise
    (fun p q _ _ hpq hqp => absurd (String.le_antisymm hpq.1 hqp.1) hpq.2) (pairwise_sorted hnodup) h

end Pairs

end TypedSql
