import TypedSql.Proofs.Placeholder.Segmentation
import TypedSql.Proofs.Text.Slice

/-!
# The scan for placeholders by byte offsets

The scan can be made with nothing but searches for byte offsets and parts between these.

* `dollarQuotedLength?`, `skip` : how many bytes the first segment of a text takes up, as the searches find it;
* `Scan`, `Scan.step`, `Scan.after` : the state of the scan, one iteration of it, and several;
* `skip_of_starts` : no part is misplaced, and what is skipped is the first segment;
* `Scan.step_of_starts` : an iteration cuts off the first segment and writes it, or its number;
* `Scan.Reached`, `Scan.exists_after` : so iterations write the numbered text, segment by segment;
* `Scan.after_advances` : each moves on by whole characters, and they come to an end.
-/

namespace TypedSql.Placeholder

open String (utf8Len utf8Len_nil utf8Len_cons utf8Len_append utf8Len_eq_zero)
open Text (Misplaced slice find? slice_eq_ok_iff slice_left slice_right)

/-! ## The scan -/

/-- The length of the dollar quote that a text starts with, whose first dollar has been seen. -/
def dollarQuotedLength? (s : List Char) : Except Misplaced (Option Nat) := do
  let behind ← slice s 1 (utf8Len s)
  match find? ['$'] behind with
  | none => return none
  | some i =>
    let close := i + 1
    let tag ← slice s 1 close
    if isTag tag then
      let mark ← slice s 0 (close + 1)
      let body ← slice s (utf8Len mark) (utf8Len s)
      match find? mark body with
      | none => return some (utf8Len s)
      | some k => return some (utf8Len mark + k + utf8Len mark)
    else return none

/-- How far the scan moves on in a text that starts with the character `c`, which is no placeholder. -/
def skip (c : Char) (s : List Char) : Except Misplaced Nat :=
  if c = '\x27' ∨ c = '"' then do
    let behind ← slice s 1 (utf8Len s)
    return (find? [c] behind).elim (utf8Len s) (· + 2)
  else if c = '-' ∧ ['-', '-'].isPrefixOf s then
    return (find? ['\n'] s).elim (utf8Len s) (· + 1)
  else if c = '/' ∧ ['/', '*'].isPrefixOf s then do
    let behind ← slice s 2 (utf8Len s)
    return (find? ['*', '/'] behind).elim (utf8Len s) (· + 4)
  else if c = '$' then do
    let length ← dollarQuotedLength? s
    return length.getD 1
  else return c.utf8Size

/-- What has been written, how many placeholders it holds, and what is left to be read. -/
structure Scan where
  written : List Char
  count : Nat
  rest : List Char
deriving DecidableEq

namespace Scan

def start (sql : String) : Scan :=
  ⟨[], 0, sql.toList⟩

/-- One iteration; without anything left there is none. -/
def step (k : Scan) : Except Misplaced Scan :=
  match k.rest with
  | [] => return k
  | c :: _ =>
    if c = '?' then do
      let rest ← slice k.rest 1 (utf8Len k.rest)
      return ⟨k.written ++ '$' :: Nat.toDigits 10 (k.count + 1), k.count + 1, rest⟩
    else do
      let n ← skip c k.rest
      let text ← slice k.rest 0 n
      let rest ← slice k.rest n (utf8Len k.rest)
      return ⟨k.written ++ text, k.count, rest⟩

/-- The state after a number of iterations. -/
def after (sql : String) : Nat → Except Misplaced Scan
  | 0 => .ok (start sql)
  | i + 1 => after sql i >>= step

end Scan

/-! ## Searches -/

/-- A search finds the place up to which `through` reads. -/
theorem utf8Len_through (stop s : List Char) :
    utf8Len (through stop s).1 = (find? stop s).elim (utf8Len s) (· + utf8Len stop) := by
  induction s with
  | nil => cases stop <;> rfl
  | cons c s ih =>
    rw [through, find?]
    split
    · simp
    · rw [utf8Len_cons, ih]
      cases find? stop s with
      | none => simp
      | some i =>
        simp only [Option.map_some, Option.elim_some]
        omega

theorem find?_of_not_mem {c : Char} {s : List Char} (h : c ∉ s) : find? [c] s = none := by
  induction s with
  | nil => rfl
  | cons d s ih =>
    rw [List.mem_cons, not_or] at h
    rw [find?, if_neg (by simpa using h.1), ih h.2, Option.map_none]

theorem find?_append_cons {c : Char} {s : List Char} (h : c ∉ s) (t : List Char) :
    find? [c] (s ++ c :: t) = some (utf8Len s) := by
  induction s with
  | nil => simp [find?]
  | cons d s ih =>
    rw [List.mem_cons, not_or] at h
    rw [List.cons_append, find?, if_neg (by simpa using h.1), ih h.2, Option.map_some, utf8Len_cons]

/-! ## Dollar quotes -/

theorem tag?_of_not_mem {s : List Char} (h : '$' ∉ s) : tag? s = none := by
  cases ht : tag? s with
  | none => rfl
  | some p =>
    obtain ⟨-, rfl⟩ := tag?_eq_some_iff.1 ht
    simp at h

theorem tag?_append_cons {tag : List Char} (h : '$' ∉ tag) (body : List Char) :
    tag? (tag ++ '$' :: body) = if isTag tag then some (tag, body) else none := by
  have hne : ∀ c ∈ tag, (c != '$') = true := fun c hc => bne_iff_ne.2 fun e => h (e ▸ hc)
  obtain ⟨htake, hdrop⟩ := @span_append_cons (· != '$') tag body '$' hne rfl
  unfold tag?
  rw [htake, hdrop]

theorem utf8Len_delimiter (tag : List Char) : utf8Len (delimiter tag) = utf8Len tag + 1 + 1 := by
  rw [delimiter, List.cons_append, utf8Len_cons, utf8Len_append]
  rfl

theorem dollarQuotedLength?_eq (s : List Char) : dollarQuotedLength? ('$' :: s) =
    .ok ((tag? s).map fun (tag, body) => utf8Len (delimiter tag ++ (through (delimiter tag) body).1)) := by
  have hbehind : slice ('$' :: s) 1 (utf8Len ('$' :: s)) = .ok s := @slice_right ['$'] 1 rfl s
  unfold dollarQuotedLength?
  simp only [hbehind, bind, Except.bind]
  by_cases hs : '$' ∈ s
  · obtain ⟨tag, body, rfl, hnot⟩ := List.eq_append_cons_of_mem hs
    have htag : slice ('$' :: (tag ++ '$' :: body)) 1 (utf8Len tag + 1) = .ok tag :=
      slice_eq_ok_iff.2 ⟨['$'], '$' :: body, rfl, rfl, utf8Len_cons '$' tag⟩
    simp only [find?_append_cons hnot, tag?_append_cons hnot, htag]
    split
    · have happend : '$' :: (tag ++ '$' :: body) = delimiter tag ++ body := by simp [delimiter]
      have hmark : slice (delimiter tag ++ body) 0 (utf8Len tag + 1 + 1) = .ok (delimiter tag) :=
        slice_left (utf8Len_delimiter tag) body
      simp only [happend, hmark, slice_right rfl body]
      rw [Option.map_some, utf8Len_append, utf8Len_append, utf8Len_through]
      cases find? (delimiter tag) body with
      | none => rfl
      | some k => exact congrArg (fun n => Except.ok (some n)) (Nat.add_assoc _ _ _)
    · rfl
  · simp only [tag?_of_not_mem hs, find?_of_not_mem hs]
    rfl

/-! ## Segments -/

theorem Starts.eq_slot_iff {s rest : List Char} {g : Segment} (h : Starts s g rest) :
    g = .slot ↔ s.head? = some '?' := by
  cases h with
  | slot => simp
  | quoted hq => rcases hq with rfl | rfl <;> simp
  | lineComment | blockComment => simp
  | dollarQuoted => simp [delimiter]
  | other h =>
    constructor
    · intro hg
      cases hg
    · intro hc
      obtain rfl := Option.some.inj hc
      exact absurd (.slot _) h

theorem isPrefixOf_pair_iff {a b : Char} {s : List Char} :
    [a, b].isPrefixOf (a :: s) = true ↔ s.head? = some b := by
  cases s with
  | nil => simp
  | cons c s =>
    rw [List.head?_cons, Option.some.injEq, @eq_comm _ c b]
    simp

theorem skip_quote {q : Char} (hq : q = '\x27' ∨ q = '"') (s : List Char) :
    skip q (q :: s) = .ok (utf8Len (q :: (through [q] s).1)) := by
  have hsize : q.utf8Size = 1 := by rcases hq with rfl | rfl <;> rfl
  have hbehind : slice (q :: s) 1 (utf8Len (q :: s)) = .ok s := @slice_right [q] 1 (by simp [hsize]) s
  have hskip : skip q (q :: s) = .ok ((find? [q] s).elim (utf8Len (q :: s)) (· + 2)) := by
    rw [skip, if_pos hq, hbehind]
    rfl
  rw [hskip, utf8Len_cons, utf8Len_cons, utf8Len_through, utf8Len_cons, hsize]
  cases find? [q] s <;> rfl

theorem skip_lineComment (s : List Char) :
    skip '-' ('-' :: '-' :: s) = .ok (utf8Len ('-' :: '-' :: (through ['\n'] s).1)) := by
  have hthrough : '-' :: '-' :: (through ['\n'] s).1 = (through ['\n'] ('-' :: '-' :: s)).1 := by
    rw [through, if_neg (by simp), through, if_neg (by simp)]
  rw [skip, if_neg (by decide), if_pos ⟨rfl, isPrefixOf_pair_iff.2 rfl⟩, hthrough, utf8Len_through]
  rfl

theorem skip_blockComment (s : List Char) :
    skip '/' ('/' :: '*' :: s) = .ok (utf8Len ('/' :: '*' :: (through ['*', '/'] s).1)) := by
  have hbehind : slice ('/' :: '*' :: s) 2 (utf8Len ('/' :: '*' :: s)) = .ok s := @slice_right ['/', '*'] 2 rfl s
  have hskip : skip '/' ('/' :: '*' :: s) =
      .ok ((find? ['*', '/'] s).elim (utf8Len ('/' :: '*' :: s)) (· + 4)) := by
    rw [skip, if_neg (by decide), if_neg (by simp), if_pos ⟨rfl, isPrefixOf_pair_iff.2 rfl⟩, hbehind]
    rfl
  rw [hskip, utf8Len_cons, utf8Len_cons, utf8Len_cons, utf8Len_cons, utf8Len_through]
  cases find? ['*', '/'] s <;> rfl

theorem skip_dollar (s : List Char) : skip '$' ('$' :: s) =
    .ok (((tag? s).map fun (tag, body) => utf8Len (delimiter tag ++ (through (delimiter tag) body).1)).getD 1) := by
  rw [skip, if_neg (by decide), if_neg (by simp), if_neg (by simp), if_pos rfl, dollarQuotedLength?_eq]
  rfl

theorem skip_other {c : Char} {s : List Char} (h : ¬ Opens (c :: s)) : skip c (c :: s) = .ok c.utf8Size := by
  simp only [opens_cons_iff, not_or] at h
  obtain ⟨-, hquote, hline, hblock, hdollar⟩ := h
  by_cases hc : c = '$'
  · subst hc
    have ht : tag? s = none := by simpa using hdollar
    rw [skip_dollar, ht]
    rfl
  · rw [skip, if_neg (not_or.2 hquote), if_neg, if_neg, if_neg hc]
    · rfl
    · rintro ⟨rfl, hs⟩
      exact hblock ⟨rfl, isPrefixOf_pair_iff.1 hs⟩
    · rintro ⟨rfl, hs⟩
      exact hline ⟨rfl, isPrefixOf_pair_iff.1 hs⟩

/-- No part is misplaced, and what is skipped is the first segment. -/
theorem skip_of_starts {c : Char} {s rest : List Char} {g : Segment} (h : Starts (c :: s) g rest) (hc : c ≠ '?') :
    skip c (c :: s) = .ok (utf8Len g.chars) := by
  generalize hu : c :: s = u at h
  cases h with
  | slot => exact absurd (List.cons.inj hu).1 hc
  | @quoted q t body _ hq h =>
    obtain ⟨rfl, rfl⟩ := List.cons.inj hu
    rw [skip_quote hq, (through_eq_iff (List.cons_ne_nil _ _)).2 h]
    rfl
  | @lineComment t body _ h =>
    obtain ⟨rfl, rfl⟩ := List.cons.inj hu
    rw [skip_lineComment, (through_eq_iff (List.cons_ne_nil _ _)).2 h]
    rfl
  | @blockComment t body _ h =>
    obtain ⟨rfl, rfl⟩ := List.cons.inj hu
    rw [skip_blockComment, (through_eq_iff (List.cons_ne_nil _ _)).2 h]
    rfl
  | @dollarQuoted tag t body _ ht h =>
    obtain ⟨rfl, hs⟩ := List.cons.inj hu
    have htag : tag? s = some (tag, t) := tag?_eq_some_iff.2 ⟨ht, by simp [hs]⟩
    have htext : (through (delimiter tag) t).1 = body := congrArg Prod.fst ((through_eq_iff (List.cons_ne_nil _ _)).2 h)
    rw [← hu, skip_dollar, htag, Option.map_some, Option.getD_some]
    dsimp only
    rw [htext]
    rfl
  | @other d t h =>
    obtain ⟨rfl, rfl⟩ := List.cons.inj hu
    rw [skip_other h, Segment.chars, utf8Len_cons, utf8Len_nil, Nat.zero_add]

/-! ## Iterations -/

namespace Scan

/-- An iteration on what is left moves on by `n` bytes: by one for a placeholder, and else as far as is skipped. No part
that it takes is misplaced, and the bytes are those of whole characters, one or more. -/
structure Advances (k : Scan) (n : Nat) (next : Scan) : Prop where
  step : k.step = .ok next
  slot : k.rest.head? = some '?' → n = 1
  skip : ∀ c, k.rest.head? = some c → c ≠ '?' → skip c k.rest = .ok n
  quote : k.rest.head? = some '$' → ∃ length, dollarQuotedLength? k.rest = .ok length ∧ n = length.getD 1
  positive : 1 ≤ n
  within : n ≤ (String.ofList k.rest).utf8ByteSize
  boundary : String.Pos.Raw.IsValid (String.ofList k.rest) ⟨n⟩
  rest : slice k.rest n (utf8Len k.rest) = .ok next.rest

/-- The scan once the segment `g` has been cut off, before the rest of the text. -/
def passed (k : Scan) (g : Segment) (rest : List Char) : Scan :=
  if g = .slot then ⟨k.written ++ '$' :: Nat.toDigits 10 (k.count + 1), k.count + 1, rest⟩
  else ⟨k.written ++ g.chars, k.count, rest⟩

@[simp] theorem rest_passed (k : Scan) (g : Segment) (rest : List Char) : (k.passed g rest).rest = rest := by
  unfold passed
  split <;> rfl

section
variable {k : Scan} {g : Segment} {rest : List Char}

theorem step_of_starts (h : Starts k.rest g rest) : k.step = .ok (k.passed g rest) := by
  obtain ⟨c, s, hs, -⟩ := h.next_eq
  have hslot := h.eq_slot_iff
  have happend := h.append_eq
  rw [hs] at h hslot happend
  unfold step passed
  rw [hs]
  by_cases hc : c = '?'
  · subst hc
    obtain rfl : g = .slot := hslot.2 rfl
    obtain rfl : rest = s := (List.cons.inj happend).2
    have hrest : slice ('?' :: rest) 1 (utf8Len ('?' :: rest)) = .ok rest := @slice_right ['?'] 1 rfl rest
    dsimp only
    rw [if_pos rfl, if_pos rfl, hrest]
    rfl
  · have hg : g ≠ .slot := fun hg => hc (Option.some.inj (hslot.1 hg))
    have hskip := skip_of_starts h hc
    rw [← happend] at hskip
    dsimp only
    rw [if_neg hc, if_neg hg, ← happend, hskip]
    show slice _ 0 _ >>= _ = _
    rw [slice_left rfl rest]
    show slice _ _ _ >>= _ = _
    rw [slice_right rfl rest]
    rfl

/-- An iteration with something left to read cuts off the first segment. -/
theorem advances_of_starts (h : Starts k.rest g rest) : k.Advances (utf8Len g.chars) (k.passed g rest) where
  step := step_of_starts h
  slot := by
    intro hc
    rw [h.eq_slot_iff.2 hc]
    rfl
  skip := by
    intro c hc hne
    obtain ⟨s, hs⟩ := List.head?_eq_some_iff.1 hc
    rw [hs] at h ⊢
    exact skip_of_starts h hne
  quote := by
    intro hc
    obtain ⟨s, hs⟩ := List.head?_eq_some_iff.1 hc
    rw [hs] at h ⊢
    refine ⟨_, dollarQuotedLength?_eq s, ?_⟩
    exact Except.ok.inj ((skip_of_starts h (by decide)).symm.trans (skip_dollar s))
  positive := Nat.pos_of_ne_zero fun hz => h.chars_ne_nil (utf8Len_eq_zero.1 hz)
  within := by
    rw [String.utf8ByteSize_ofList, ← h.append_eq, utf8Len_append]
    exact Nat.le_add_right _ _
  boundary := Text.isValid_iff.2 ⟨g.chars, rest, h.append_eq, rfl⟩
  rest := by
    rw [rest_passed, ← h.append_eq]
    exact slice_right rfl rest

end

/-! ## Several iterations -/

/-- After `i` iterations the first `i` segments are cut off and written. -/
structure Reached (sql : String) (i : Nat) (k : Scan) : Prop where
  rest : segments k.rest = (segments sql.toList).drop i
  written : k.written ++ render (k.count + 1) (segments k.rest) = render 1 (segments sql.toList)

theorem reached_start (sql : String) : Reached sql 0 (start sql) :=
  ⟨rfl, rfl⟩

theorem written_passed (k : Scan) (g : Segment) (rest : List Char) (gs : List Segment) :
    (k.passed g rest).written ++ render ((k.passed g rest).count + 1) gs =
      k.written ++ render (k.count + 1) (g :: gs) := by
  unfold passed
  split
  · next hg =>
    subst hg
    simp [render]
  · next hg => rw [render_cons_of_ne hg, List.append_assoc]

theorem Reached.step {sql : String} {i : Nat} {k : Scan} (h : Reached sql i k) :
    ∃ next, k.step = .ok next ∧ Reached sql (i + 1) next := by
  have hsegments := h.rest
  have hwritten := h.written
  cases hrest : k.rest with
  | nil =>
    refine ⟨k, by rw [Scan.step, hrest]; rfl, ?_, hwritten⟩
    rw [hrest] at hsegments ⊢
    rw [← List.tail_drop, ← hsegments, segments, List.tail_nil]
  | cons c s =>
    have hstarts : Starts k.rest (next c s).1 (next c s).2 := hrest ▸ starts_next c s
    refine ⟨_, step_of_starts hstarts, ?_, ?_⟩
    · rw [rest_passed, ← List.tail_drop, ← hsegments, hrest, segments, List.tail_cons]
    · rw [written_passed, rest_passed, ← hwritten, hrest, segments]

theorem exists_after (sql : String) (i : Nat) : ∃ k, after sql i = .ok k ∧ Reached sql i k := by
  induction i with
  | zero => exact ⟨start sql, rfl, reached_start sql⟩
  | succ i ih =>
    obtain ⟨k, hk, hreached⟩ := ih
    obtain ⟨next, hnext, hreached⟩ := hreached.step
    refine ⟨next, ?_, hreached⟩
    rw [after, hk]
    exact hnext

theorem length_segments_le (s : List Char) : (segments s).length ≤ s.length := by
  fun_induction segments s with
  | case1 => exact Nat.le_refl 0
  | case2 c s ih =>
    have := length_next_lt c s
    rw [List.length_cons]
    omega

/-- Once all segments are cut off nothing is left, and the numbered text is written. -/
theorem Reached.eq_numbered {sql : String} {k : Scan} (h : Reached sql (segments sql.toList).length k) :
    k.rest = [] ∧ k.written = (numbered sql).toList := by
  have hsegments := h.rest
  have hwritten := h.written
  rw [List.drop_length] at hsegments
  rw [hsegments, render, List.append_nil] at hwritten
  constructor
  · cases hrest : k.rest with
    | nil => rfl
    | cons c s =>
      rw [hrest, segments] at hsegments
      cases hsegments
  · rw [hwritten, numbered, String.toList_ofList]

/-- Every iteration with something left to read moves on by a whole number of characters, with no part misplaced; and
after no more iterations than there are characters nothing is left, and the numbered text is written. -/
theorem after_advances (sql : String) :
    (∀ i, ∃ k, after sql i = .ok k ∧ (k.rest ≠ [] → ∃ n next, k.Advances n next)) ∧
      ∃ i ≤ sql.length, ∃ k, after sql i = .ok k ∧ k.rest = [] ∧ k.written = (numbered sql).toList := by
  constructor
  · intro i
    obtain ⟨k, hk, -⟩ := exists_after sql i
    refine ⟨k, hk, fun hrest => ?_⟩
    obtain ⟨c, s, hs⟩ := List.exists_cons_of_ne_nil hrest
    exact ⟨_, _, advances_of_starts (hs ▸ starts_next c s)⟩
  · obtain ⟨k, hk, hreached⟩ := exists_after sql (segments sql.toList).length
    obtain ⟨hrest, hwritten⟩ := hreached.eq_numbered
    refine ⟨_, ?_, k, hk, hrest, hwritten⟩
    rw [← String.length_toList]
    exact length_segments_le sql.toList

end Scan

end TypedSql.Placeholder
