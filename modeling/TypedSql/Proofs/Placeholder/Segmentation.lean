import Mathlib.Data.List.Infix
import TypedSql.Proofs.Placeholder.Passing

/-!
# The cut into segments as a grammar

* `Through stop s text rest` : `text` is `s` through the first occurrence of `stop`, or all of `s` if there is none;
* `Starts s g rest` : `g` is the first segment of `s`, and `rest` follows it;
* `Segmented s gs` : `s` is made of the segments `gs`, cut off from left to right;
* `segmented_iff` : every text is cut in this way, and in one way only;
* `numbered_segmented` : a numbered text is that of its segments, a dollar and its number for each placeholder.
-/

namespace TypedSql.Placeholder

/-! ## The first occurrence -/

/-- `text` is `s` through the first occurrence of `stop`, before `rest`; without an occurrence it is all of `s`. -/
inductive Through (stop : List Char) : List Char → List Char → List Char → Prop where
  | found {before rest : List Char}
      (first : ∀ p q, p ++ stop ++ q = before ++ stop ++ rest → before.length ≤ p.length) :
      Through stop (before ++ stop ++ rest) (before ++ stop) rest
  | missing {s : List Char} (h : ¬ stop <:+: s) : Through stop s s []

namespace Through
variable {stop s text rest : List Char}

theorem append_eq (h : Through stop s text rest) : text ++ rest = s := by
  cases h with
  | found => rfl
  | missing => exact List.append_nil _

theorem unique {text' rest' : List Char} (h : Through stop s text rest) (h' : Through stop s text' rest') :
    (text, rest) = (text', rest') := by
  rcases h with @⟨before, _, first⟩ | hnone
  · generalize hs : before ++ stop ++ rest = u at h' first
    rcases h' with @⟨before', _, first'⟩ | hnone
    · have hle := first before' rest' rfl
      have hge := first' before rest hs
      rw [List.append_assoc, List.append_assoc] at hs
      obtain ⟨rfl, htail⟩ := List.append_inj hs (le_antisymm hle hge)
      rw [List.append_cancel_left htail]
    · exact absurd ⟨before, rest, hs⟩ hnone
  · rcases h' with @⟨before', _, -⟩ | -
    · exact absurd ⟨before', rest', rfl⟩ hnone
    · rfl

/-- The first occurrence stays the first, whatever stands behind it. -/
theorem replace (h : Through stop s text rest) {rest' : List Char} (hnil : rest = [] → rest' = []) :
    Through stop (text ++ rest') text rest' := by
  cases h with
  | @found before _ first =>
    refine .found fun p q hpq => ?_
    by_contra hlt
    rw [not_le] at hlt
    -- an earlier occurrence would end before the first one ends, and so it was there already
    have hprefix : p ++ stop <+: before ++ stop :=
      List.prefix_of_prefix_length_le ⟨q, hpq⟩ ⟨rest', rfl⟩ (by simp only [List.length_append]; omega)
    obtain ⟨t, ht⟩ := hprefix
    have hle := first p (t ++ rest) (by rw [← ht, List.append_assoc _ t])
    omega
  | missing hnone =>
    rw [hnil rfl, List.append_nil]
    exact .missing hnone

end Through

theorem through_spec {stop : List Char} (hstop : stop ≠ []) (s : List Char) :
    Through stop s (through stop s).1 (through stop s).2 := by
  induction s with
  | nil => exact .missing (by simpa using hstop)
  | cons c s ih =>
    rw [through]
    split
    · next hp =>
      obtain ⟨t, ht⟩ := List.isPrefixOf_iff_prefix.1 hp
      rw [← ht, List.drop_left]
      exact @Through.found stop [] _ fun p q _ => Nat.zero_le _
    · next hp =>
      rw [List.isPrefixOf_iff_prefix] at hp
      show Through stop (c :: s) (c :: (through stop s).1) (through stop s).2
      generalize (through stop s).1 = text at ih ⊢
      generalize (through stop s).2 = rest at ih ⊢
      cases ih with
      | @found before _ first =>
        refine @Through.found stop (c :: before) _ fun p q hpq => ?_
        cases p with
        | nil => exact absurd ⟨q, by simpa using hpq⟩ hp
        | cons d p =>
          simp only [List.cons_append, List.cons.injEq] at hpq
          exact Nat.succ_le_succ (first p q hpq.2)
      | missing hnone =>
        refine .missing fun hi => ?_
        rcases List.infix_cons_iff.1 hi with hi | hi
        · exact hp hi
        · exact hnone hi

theorem through_eq_iff {stop : List Char} (hstop : stop ≠ []) {s text rest : List Char} :
    through stop s = (text, rest) ↔ Through stop s text rest := by
  constructor
  · intro h
    have hspec := through_spec hstop s
    rwa [h] at hspec
  · exact fun h => (through_spec hstop s).unique h

/-! ## The first segment -/

/-- What opens a segment of more than one character, or is a placeholder. -/
inductive Opens : List Char → Prop where
  | slot (s : List Char) : Opens ('?' :: s)
  | quote {q : Char} (hq : q = '\x27' ∨ q = '"') (s : List Char) : Opens (q :: s)
  | lineComment (s : List Char) : Opens ('-' :: '-' :: s)
  | blockComment (s : List Char) : Opens ('/' :: '*' :: s)
  | dollarQuote {tag : List Char} (ht : isTag tag = true) (s : List Char) : Opens (delimiter tag ++ s)

/-- `g` is the first segment of a text, before the rest of it. Each region runs through the first occurrence of its
closing mark behind the opening one. -/
inductive Starts : List Char → Segment → List Char → Prop where
  | slot (s : List Char) : Starts ('?' :: s) .slot s
  | quoted {q : Char} {s body rest : List Char} (hq : q = '\x27' ∨ q = '"') (h : Through [q] s body rest) :
      Starts (q :: s) (.quoted (q :: body)) rest
  | lineComment {s body rest : List Char} (h : Through ['\n'] s body rest) :
      Starts ('-' :: '-' :: s) (.lineComment ('-' :: '-' :: body)) rest
  | blockComment {s body rest : List Char} (h : Through ['*', '/'] s body rest) :
      Starts ('/' :: '*' :: s) (.blockComment ('/' :: '*' :: body)) rest
  | dollarQuoted {tag s body rest : List Char} (ht : isTag tag = true) (h : Through (delimiter tag) s body rest) :
      Starts (delimiter tag ++ s) (.dollarQuoted (delimiter tag ++ body)) rest
  | other {c : Char} {s : List Char} (h : ¬ Opens (c :: s)) : Starts (c :: s) (.other c) s

theorem Starts.append_eq {s rest : List Char} {g : Segment} (h : Starts s g rest) : g.chars ++ rest = s := by
  cases h with
  | slot | other => rfl
  | quoted _ h | lineComment h | blockComment h => simp only [Segment.chars, List.cons_append, h.append_eq]
  | dollarQuoted _ h => rw [Segment.chars, List.append_assoc, h.append_eq]

theorem Starts.chars_ne_nil {s rest : List Char} {g : Segment} (h : Starts s g rest) : g.chars ≠ [] := by
  cases h <;> simp [Segment.chars, delimiter]

theorem dollar_not_mem_of_isTag {tag : List Char} (h : isTag tag = true) : '$' ∉ tag := by
  intro hd
  have hall := List.all_eq_true.1 (Bool.and_eq_true_iff.1 h).1 '$' hd
  exact absurd hall (by decide)

theorem span_append_cons {p : Char → Bool} {s t : List Char} {c : Char} (hs : ∀ d ∈ s, p d = true) (hc : p c = false) :
    (s ++ c :: t).takeWhile p = s ∧ (s ++ c :: t).dropWhile p = c :: t := by
  rw [List.takeWhile_append_of_pos hs, List.dropWhile_append_of_pos hs, List.takeWhile_cons_of_neg (by simp [hc]),
    List.dropWhile_cons_of_neg (by simp [hc])]
  simp

theorem tag?_eq_some_iff {s tag body : List Char} :
    tag? s = some (tag, body) ↔ isTag tag = true ∧ tag ++ '$' :: body = s := by
  constructor
  · intro h
    refine ⟨?_, tag?_append h⟩
    unfold tag? at h
    split at h
    · cases h
    · split at h
      · next ht => cases h; exact ht
      · cases h
  · rintro ⟨ht, rfl⟩
    have hne : ∀ c ∈ tag, (c != '$') = true := by
      intro c hc
      rw [bne_iff_ne]
      rintro rfl
      exact dollar_not_mem_of_isTag ht hc
    obtain ⟨htake, hdrop⟩ := @span_append_cons (· != '$') tag body '$' hne rfl
    unfold tag?
    rw [htake, hdrop]
    exact if_pos ht

theorem opens_cons_iff {c : Char} {s : List Char} : Opens (c :: s) ↔ c = '?' ∨ (c = '\x27' ∨ c = '"') ∨
    (c = '-' ∧ s.head? = some '-') ∨ (c = '/' ∧ s.head? = some '*') ∨ (c = '$' ∧ tag? s ≠ none) := by
  constructor
  · intro h
    cases h with
    | slot => exact .inl rfl
    | quote hq => exact .inr (.inl hq)
    | lineComment => exact .inr (.inr (.inl ⟨rfl, rfl⟩))
    | blockComment => exact .inr (.inr (.inr (.inl ⟨rfl, rfl⟩)))
    | @dollarQuote tag ht t =>
      refine .inr (.inr (.inr (.inr ⟨rfl, ?_⟩)))
      show tag? (tag ++ ['$'] ++ t) ≠ none
      rw [tag?_eq_some_iff.2 ⟨ht, (List.append_assoc tag ['$'] t).symm⟩]
      simp
  · rintro (rfl | hq | ⟨rfl, hs⟩ | ⟨rfl, hs⟩ | ⟨rfl, hs⟩)
    · exact .slot s
    · exact .quote hq s
    · obtain ⟨t, rfl⟩ := List.head?_eq_some_iff.1 hs
      exact .lineComment t
    · obtain ⟨t, rfl⟩ := List.head?_eq_some_iff.1 hs
      exact .blockComment t
    · obtain ⟨⟨tag, body⟩, hsome⟩ := Option.ne_none_iff_exists'.1 hs
      obtain ⟨ht, rfl⟩ := tag?_eq_some_iff.1 hsome
      have hopens := Opens.dollarQuote ht body
      simpa [delimiter] using hopens

theorem starts_next (c : Char) (s : List Char) : Starts (c :: s) (next c s).1 (next c s).2 := by
  unfold next
  by_cases hslot : c = '?'
  · subst hslot
    exact .slot s
  rw [if_neg hslot]
  by_cases hquote : c = '\x27' ∨ c = '"'
  · rw [if_pos hquote]
    exact .quoted hquote (through_spec (by simp) s)
  rw [if_neg hquote]
  by_cases hline : c = '-' ∧ s.head? = some '-'
  · rw [if_pos hline]
    obtain ⟨rfl, hs⟩ := hline
    obtain ⟨t, rfl⟩ := List.head?_eq_some_iff.1 hs
    rw [through, if_neg (by simp)]
    exact .lineComment (through_spec (by simp) t)
  rw [if_neg hline]
  by_cases hblock : c = '/' ∧ s.head? = some '*'
  · rw [if_pos hblock]
    obtain ⟨rfl, hs⟩ := hblock
    obtain ⟨t, rfl⟩ := List.head?_eq_some_iff.1 hs
    exact .blockComment (through_spec (by simp) t)
  rw [if_neg hblock]
  have hother : ¬ (c = '$' ∧ tag? s ≠ none) → Starts (c :: s) (.other c) s := by
    intro hdollar
    refine .other fun ho => ?_
    rcases opens_cons_iff.1 ho with h | h | h | h | h
    · exact hslot h
    · exact hquote h
    · exact hline h
    · exact hblock h
    · exact hdollar h
  by_cases hdollar : c = '$'
  · subst hdollar
    rw [if_pos rfl]
    cases ht : tag? s with
    | none => exact hother (by simp [ht])
    | some p =>
      obtain ⟨tag, body⟩ := p
      obtain ⟨htag, rfl⟩ := tag?_eq_some_iff.1 ht
      have hs : '$' :: (tag ++ '$' :: body) = delimiter tag ++ body := by simp [delimiter]
      rw [hs]
      exact .dollarQuoted htag (through_spec (by simp [delimiter]) body)
  · rw [if_neg hdollar]
    exact hother fun h => hdollar h.1

theorem Starts.opens_or_other {s rest : List Char} {g : Segment} (h : Starts s g rest) :
    Opens s ∨ ∃ c, s = c :: rest ∧ g = .other c := by
  cases h with
  | slot => exact .inl (.slot rest)
  | @quoted q s _ _ hq => exact .inl (.quote hq s)
  | @lineComment s => exact .inl (.lineComment s)
  | @blockComment s => exact .inl (.blockComment s)
  | @dollarQuoted tag s _ _ ht => exact .inl (.dollarQuote ht s)
  | @other c => exact .inr ⟨c, rfl, rfl⟩

/-- No text has another first segment than the one that is cut off. -/
theorem Starts.next_eq {s rest : List Char} {g : Segment} (h : Starts s g rest) :
    ∃ c t, s = c :: t ∧ next c t = (g, rest) := by
  cases h with
  | slot => exact ⟨'?', rest, rfl, rfl⟩
  | @quoted q s body _ hq h =>
    refine ⟨q, s, rfl, ?_⟩
    rw [next, if_neg (by rcases hq with rfl | rfl <;> decide), if_pos hq, (through_eq_iff (by simp)).2 h]
  | @lineComment s body _ h =>
    refine ⟨'-', '-' :: s, rfl, ?_⟩
    have hbody : through ['\n'] ('-' :: s) = ('-' :: body, rest) := by
      rw [through, if_neg (by simp), (through_eq_iff (by simp)).2 h]
    rw [next, if_neg (by decide), if_neg (by decide), if_pos ⟨rfl, rfl⟩, hbody]
  | @blockComment s body _ h =>
    refine ⟨'/', '*' :: s, rfl, ?_⟩
    rw [next, if_neg (by decide), if_neg (by decide), if_neg (by simp), if_pos ⟨rfl, rfl⟩, List.tail_cons,
      (through_eq_iff (by simp)).2 h]
  | @dollarQuoted tag s body _ ht h =>
    refine ⟨'$', tag ++ '$' :: s, by simp [delimiter], ?_⟩
    rw [next, if_neg (by decide), if_neg (by decide), if_neg (by simp), if_neg (by simp), if_pos rfl,
      tag?_eq_some_iff.2 ⟨ht, rfl⟩]
    dsimp only
    rw [(through_eq_iff (by simp [delimiter])).2 h]
  | @other c _ h =>
    refine ⟨c, rest, rfl, ?_⟩
    rcases (starts_next c rest).opens_or_other with ho | ⟨d, hd, hg⟩
    · exact absurd ho h
    · obtain ⟨rfl, hrest⟩ := List.cons.inj hd
      exact Prod.ext hg hrest.symm

/-! ## The cut -/

/-- A text is made of segments, each of them the first one of what is left. -/
inductive Segmented : List Char → List Segment → Prop where
  | nil : Segmented [] []
  | cons {s rest : List Char} {g : Segment} {gs : List Segment} (h : Starts s g rest) (hs : Segmented rest gs) :
      Segmented s (g :: gs)

theorem segmented_segments (s : List Char) : Segmented s (segments s) := by
  fun_induction segments s with
  | case1 => exact .nil
  | case2 c s ih => exact .cons (starts_next c s) ih

theorem segmented_iff {s : List Char} {gs : List Segment} : Segmented s gs ↔ gs = segments s := by
  constructor
  · intro h
    induction h with
    | nil => rw [segments]
    | cons h _ ih =>
      obtain ⟨c, t, rfl, hnext⟩ := h.next_eq
      rw [segments, hnext, ih]
  · rintro rfl
    exact segmented_segments s

theorem Segmented.exists_starts {s : List Char} {gs : List Segment} (h : Segmented s gs) {g : Segment} (hg : g ∈ gs) :
    ∃ t rest, Starts t g rest := by
  induction h with
  | nil => cases hg
  | cons h _ ih =>
    rcases List.mem_cons.1 hg with rfl | hg
    · exact ⟨_, _, h⟩
    · exact ih hg

/-! ## The numbers -/

/-- A quote, a comment, or a dollar quote. -/
def Segment.IsRegion : Segment → Prop
  | slot | other _ => False
  | quoted _ | lineComment _ | blockComment _ | dollarQuoted _ => True

/-- The text of each segment of a numbered text: a dollar and the number for a placeholder, which is one more than there
are before it. -/
def numberedTexts (gs : List Segment) : List (List Char) :=
  gs.mapIdx fun i g => if g = .slot then '$' :: Nat.toDigits 10 (slotCount (gs.take i) + 1) else g.chars

theorem render_cons_of_ne {g : Segment} (h : g ≠ .slot) (n : Nat) (gs : List Segment) :
    render n (g :: gs) = g.chars ++ render n gs := by
  cases g <;> first | rfl | exact absurd rfl h

theorem render_eq_flatten (n : Nat) (gs : List Segment) :
    render n gs = (gs.mapIdx fun i g =>
      if g = .slot then '$' :: Nat.toDigits 10 (slotCount (gs.take i) + n) else g.chars).flatten := by
  induction gs generalizing n with
  | nil => rfl
  | cons g gs ih =>
    rw [List.mapIdx_cons, List.flatten_cons]
    by_cases hg : g = .slot
    · subst hg
      rw [render, ih, if_pos rfl]
      simp [slotCount, Nat.add_assoc, Nat.add_comm 1]
    · rw [render_cons_of_ne hg, ih, if_neg hg]
      simp [slotCount, hg]

theorem numbered_eq_flatten (sql : String) : (numbered sql).toList = (numberedTexts (segments sql.toList)).flatten := by
  rw [numbered, String.toList_ofList, render_eq_flatten, numberedTexts]

/-- Each number up to that of the placeholders is the number of one of them. -/
theorem exists_slotCount_take {gs : List Segment} {k : Nat} (hk : k < slotCount gs) :
    ∃ i : Nat, gs[i]? = some .slot ∧ slotCount (gs.take i) = k := by
  induction gs generalizing k with
  | nil => simp [slotCount] at hk
  | cons g gs ih =>
    by_cases hg : g = .slot
    · subst hg
      cases k with
      | zero => exact ⟨0, rfl, rfl⟩
      | succ k =>
        obtain ⟨i, hi, hcount⟩ := ih (k := k) (by simpa [slotCount] using hk)
        exact ⟨i + 1, hi, by simpa [slotCount] using hcount⟩
    · obtain ⟨i, hi, hcount⟩ := ih (k := k) (by simpa [slotCount, hg] using hk)
      exact ⟨i + 1, hi, by simpa [slotCount, hg] using hcount⟩

theorem isRegion_of_mem {s : List Char} {g : Segment} (hg : g ∈ segments s) (hslot : g ≠ .slot) (hc : '?' ∈ g.chars) :
    g.IsRegion := by
  obtain ⟨t, rest, h⟩ := (segmented_segments s).exists_starts hg
  cases h with
  | slot => exact absurd rfl hslot
  | quoted | lineComment | blockComment | dollarQuoted => trivial
  | other ho =>
    obtain rfl := List.mem_singleton.1 hc
    exact absurd (Opens.slot _) ho

theorem numbered_eq_self {sql : String} (h : .slot ∉ segments sql.toList) : numbered sql = sql := by
  have hrender := render_append_of_not_mem h 1 []
  rw [List.append_nil, flatMap_chars_segments, render, List.append_nil] at hrender
  rw [numbered, hrender, String.ofList_toList]

/-- Every text has one cut into segments. It is numbered segment by segment: the placeholders get the numbers from one
on, and all else is left alone, so that the question marks that are left stand in quotes and comments. -/
theorem numbered_segmented (sql : String) : ∃ gs, (∀ hs, Segmented sql.toList hs ↔ hs = gs) ∧
    gs.flatMap Segment.chars = sql.toList ∧
    (numbered sql).toList = (numberedTexts gs).flatten ∧
    (∀ k < slotCount gs, ∃ i : Nat, gs[i]? = some .slot ∧ (numberedTexts gs)[i]? = some ('$' :: Nat.toDigits 10 (k + 1))) ∧
    (∀ (i : Nat) text, (numberedTexts gs)[i]? = some text → '?' ∈ text → ∃ g, gs[i]? = some g ∧ g.IsRegion) ∧
    (.slot ∉ gs → numbered sql = sql) := by
  refine ⟨segments sql.toList, fun hs => segmented_iff, flatMap_chars_segments _, numbered_eq_flatten sql, ?_, ?_,
    numbered_eq_self⟩
  · intro k hk
    obtain ⟨i, hi, hcount⟩ := exists_slotCount_take hk
    exact ⟨i, hi, by simp [numberedTexts, hi, hcount]⟩
  · intro i text hi hmem
    rw [numberedTexts, List.getElem?_mapIdx, Option.map_eq_some_iff] at hi
    obtain ⟨g, hg, rfl⟩ := hi
    refine ⟨g, hg, ?_⟩
    split at hmem
    · rcases List.mem_cons.1 hmem with h | h
      · exact absurd h (by decide)
      · exact absurd (Nat.isDigit_of_mem_toDigits (by decide) (by decide) h) (by decide)
    · next hslot => exact isRegion_of_mem (List.mem_of_getElem? hg) hslot hmem

/-- The closing mark of a comment does not share its star with the opening one, nor that of a dollar quote its dollar. -/
example : segments "/*/?*/?".toList = [.blockComment "/*/?*/".toList, .slot] ∧
    segments "$a$a$?".toList = [.dollarQuoted "$a$a$?".toList] ∧
    segments "'''?'?".toList = [.quoted "''".toList, .quoted "'?'".toList, .slot] := by
  decide +kernel

end TypedSql.Placeholder
