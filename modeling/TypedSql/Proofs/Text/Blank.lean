import TypedSql.Text.Blank

/-!
# Texts without blanks at their ends

* `trimStart_eq_self`, `trimChars_eq_self` : a text that neither starts nor ends with a blank is left as it is;
* `trimChars_between` : blanks around a text make no difference;
* `exists_trimChars` : only blanks are taken away.
-/

namespace TypedSql.Text

theorem trimStart_eq_self {s : List Char} (h : ∀ c ∈ s.head?, isBlank c = false) : trimStart s = s := by
  unfold trimStart
  cases s with
  | nil => rfl
  | cons c s => rw [List.dropWhile_cons_of_neg (by simp [h c rfl])]

theorem trimEnd_eq_self {s : List Char} (h : ∀ c ∈ s.getLast?, isBlank c = false) : trimEnd s = s := by
  unfold trimEnd
  have hstart : s.reverse.dropWhile isBlank = s.reverse := by
    apply trimStart_eq_self
    intro c hc
    apply h
    rwa [List.head?_reverse] at hc
  rw [hstart, List.reverse_reverse]

theorem trimChars_eq_self {s : List Char} (hhead : ∀ c ∈ s.head?, isBlank c = false)
    (hlast : ∀ c ∈ s.getLast?, isBlank c = false) : trimChars s = s := by
  rw [trimChars, trimStart_eq_self hhead, trimEnd_eq_self hlast]

theorem trimChars_of_forall {s : List Char} (h : ∀ c ∈ s, isBlank c = false) : trimChars s = s :=
  trimChars_eq_self (fun c hc => h c (List.mem_of_mem_head? hc)) (fun c hc => h c (List.mem_of_mem_getLast? hc))

theorem trimStart_append {before : List Char} (h : ∀ c ∈ before, isBlank c = true) (s : List Char) :
    trimStart (before ++ s) = trimStart s := by
  unfold trimStart
  exact List.dropWhile_append_of_pos h

theorem trimEnd_append {after : List Char} (h : ∀ c ∈ after, isBlank c = true) (s : List Char) :
    trimEnd (s ++ after) = trimEnd s := by
  unfold trimEnd
  rw [List.reverse_append, List.dropWhile_append_of_pos]
  intro c hc
  exact h c (List.mem_reverse.1 hc)

theorem trimChars_between {before after : List Char} (hbefore : ∀ c ∈ before, isBlank c = true)
    (hafter : ∀ c ∈ after, isBlank c = true) (s : List Char) :
    trimChars (before ++ (s ++ after)) = trimChars s := by
  unfold trimChars
  rw [trimStart_append hbefore]
  -- a text of blanks only is gone before its end is looked at
  by_cases h : s.dropWhile isBlank = []
  · have hblank : trimStart after = [] := by
      have hall := trimStart_append hafter []
      rwa [List.append_nil] at hall
    rw [trimStart, List.dropWhile_append, h, List.isEmpty_nil, if_pos rfl, trimStart, h]
    exact congrArg trimEnd hblank
  · rw [trimStart, List.dropWhile_append, if_neg (by simpa using h), trimEnd_append hafter]
    rfl

/-- A text is what is left of it between the blanks at its two ends. -/
theorem exists_trimChars (s : List Char) : ∃ before after, (∀ c ∈ before, isBlank c = true) ∧
    (∀ c ∈ after, isBlank c = true) ∧ s = before ++ (trimChars s ++ after) := by
  refine ⟨s.takeWhile isBlank, ((trimStart s).reverse.takeWhile isBlank).reverse, List.all_eq_true.1 List.all_takeWhile,
    ?_, ?_⟩
  · intro c hc
    exact List.all_eq_true.1 List.all_takeWhile c (List.mem_reverse.1 hc)
  · rw [trimChars, trimEnd, ← List.reverse_append, List.takeWhile_append_dropWhile, List.reverse_reverse, trimStart,
      List.takeWhile_append_dropWhile]

end TypedSql.Text
