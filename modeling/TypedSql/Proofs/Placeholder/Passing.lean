import TypedSql.Placeholder

/-!
# What the scan for placeholders passes over

* `Passes s rest` : the scan, arriving at `s` before `rest`, finds no placeholder in `s` and goes on at `rest`;
* `Passive s` : `s` is passed over whatever follows it;
* `Passes.append` : texts that are passed over may be put together;
* `marks_append_of_not_mem`, `render_append_of_not_mem` : they hold no marks, and stay as they are when the
  placeholders are numbered.
-/

namespace TypedSql.Placeholder

/-! ## What is passed over -/

/-- The scan cuts `s`, before `rest`, into segments that are no placeholders. -/
def Passes (s rest : List Char) : Prop :=
  ∃ gs, .slot ∉ gs ∧ gs.flatMap Segment.chars = s ∧ segments (s ++ rest) = gs ++ segments rest

/-- The scan passes over `s`, whatever follows. -/
def Passive (s : List Char) : Prop :=
  ∀ rest, Passes s rest

theorem Passes.nil (rest : List Char) : Passes [] rest :=
  ⟨[], by simp, rfl, rfl⟩

theorem Passes.append {s t rest : List Char} (hs : Passes s (t ++ rest)) (ht : Passes t rest) :
    Passes (s ++ t) rest := by
  obtain ⟨gs, hgs, rfl, hs⟩ := hs
  obtain ⟨hs', hhs, rfl, ht⟩ := ht
  refine ⟨gs ++ hs', by simp [hgs, hhs], by simp, ?_⟩
  rw [List.append_assoc, hs, ht, List.append_assoc]

theorem Passes.cons {c : Char} {s rest : List Char} {g : Segment} (hg : g ≠ .slot)
    (h : next c (s ++ rest) = (g, rest)) (hc : g.chars = c :: s) : Passes (c :: s) rest := by
  refine ⟨[g], by simpa using hg.symm, by simpa using hc, ?_⟩
  rw [List.cons_append, segments, h]
  rfl

/-! ## Plain characters and quotes -/

theorem through_of_not_mem {q : Char} {body : List Char} (h : q ∉ body) (rest : List Char) :
    through [q] (body ++ q :: rest) = (body ++ [q], rest) := by
  induction body with
  | nil => simp [through]
  | cons c body ih =>
    simp only [List.mem_cons, not_or] at h
    rw [List.cons_append, through, if_neg (by simpa using h.1), ih h.2]
    rfl

theorem next_other {c : Char} {s : List Char} (hc : c ≠ '\x27' ∧ c ≠ '"' ∧ c ≠ '?' ∧ c ≠ '$')
    (hline : c = '-' → s.head? ≠ some '-') (hblock : c = '/' → s.head? ≠ some '*') :
    next c s = (.other c, s) := by
  obtain ⟨h1, h2, h3, h4⟩ := hc
  unfold next
  rw [if_neg h3, if_neg (not_or.2 ⟨h1, h2⟩), if_neg (fun h => hline h.1 h.2), if_neg (fun h => hblock h.1 h.2),
    if_neg h4]

theorem next_quote {q : Char} {body : List Char} (hq : q = '\x27' ∨ q = '"') (h : q ∉ body) (rest : List Char) :
    next q (body ++ q :: rest) = (.quoted (q :: (body ++ [q])), rest) := by
  unfold next
  rw [if_neg (by rcases hq with rfl | rfl <;> decide), if_pos hq, through_of_not_mem h]

theorem passes_quote {q : Char} {body : List Char} (hq : q = '\x27' ∨ q = '"') (h : q ∉ body) (rest : List Char) :
    Passes (q :: (body ++ [q])) rest := by
  refine Passes.cons (g := .quoted (q :: (body ++ [q]))) (by simp) ?_ rfl
  simpa using next_quote hq h rest

theorem through_of_not_mem_all {q : Char} {body : List Char} (h : q ∉ body) : through [q] body = (body, []) := by
  induction body with
  | nil => rfl
  | cons c body ih =>
    simp only [List.mem_cons, not_or] at h
    rw [through, if_neg (by simpa using h.1), ih h.2]

/-- A quote without its closing mark. -/
theorem passes_openQuote {q : Char} {body : List Char} (hq : q = '\x27' ∨ q = '"') (h : q ∉ body) :
    Passes (q :: body) [] := by
  refine Passes.cons (g := .quoted (q :: body)) (by simp) ?_ rfl
  unfold next
  rw [List.append_nil, if_neg (by rcases hq with rfl | rfl <;> decide), if_pos hq, through_of_not_mem_all h]

theorem passes_other {c : Char} {rest : List Char} (h : next c rest = (.other c, rest)) : Passes [c] rest :=
  Passes.cons (g := .other c) (by simp) h rfl

/-- Characters that neither stand for a placeholder nor open a region. -/
theorem passes_of_forall_ne {s : List Char}
    (h : ∀ c ∈ s, c ≠ '\x27' ∧ c ≠ '"' ∧ c ≠ '?' ∧ c ≠ '$' ∧ c ≠ '-' ∧ c ≠ '/') (rest : List Char) : Passes s rest := by
  induction s with
  | nil => exact Passes.nil rest
  | cons c s ih =>
    obtain ⟨h1, h2, h3, h4, h5, h6⟩ := h c (by simp)
    have hnext : next c (s ++ rest) = (.other c, s ++ rest) :=
      next_other ⟨h1, h2, h3, h4⟩ (fun hc => absurd hc h5) (fun hc => absurd hc h6)
    exact (passes_other hnext).append (ih fun d hd => h d (List.mem_cons_of_mem c hd))

/-! ## Marks and numbers -/

/-- For each character, whether it is a placeholder. -/
def marks (gs : List Segment) : List Bool :=
  gs.flatMap fun g => g.chars.map fun _ => g == .slot

theorem segments_slot (s : List Char) : segments ('?' :: s) = .slot :: segments s := by
  rw [segments]
  rfl

theorem marks_append_of_not_mem {gs : List Segment} (h : .slot ∉ gs) (hs : List Segment) :
    marks (gs ++ hs) = ((gs.flatMap Segment.chars).map fun _ => false) ++ marks hs := by
  induction gs with
  | nil => rfl
  | cons g gs ih =>
    simp only [List.mem_cons, not_or] at h
    have hg : (g == .slot) = false := beq_eq_false_iff_ne.2 (Ne.symm h.1)
    rw [List.cons_append, marks, List.flatMap_cons, ← marks, ih h.2, hg, List.flatMap_cons, List.map_append,
      List.append_assoc]

theorem render_append_of_not_mem {gs : List Segment} (h : .slot ∉ gs) (n : Nat) (hs : List Segment) :
    render n (gs ++ hs) = gs.flatMap Segment.chars ++ render n hs := by
  induction gs with
  | nil => rfl
  | cons g gs ih =>
    simp only [List.mem_cons, not_or] at h
    cases g with
    | slot => exact absurd rfl h.1
    | _ =>
      rw [List.cons_append, render, ih h.2, List.flatMap_cons, List.append_assoc]
      simp

end TypedSql.Placeholder
