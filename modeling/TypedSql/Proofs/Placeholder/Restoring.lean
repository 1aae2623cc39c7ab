import TypedSql.Proofs.Number.Digits
import TypedSql.Proofs.Placeholder.Segmentation

/-!
# Texts restored from their numbers

* `elements gs` : the parameters of a cut text, each a dollar with all the digits behind it, and its other segments;
* `Starts.replace` : a segment is cut off in the same way before another text, if that opens nothing with its end;
* `segmented_render` : a numbered text without dollars of its own is cut at the same places;
* `elements_numberedSegments` : its parameters are the numbers, unless a digit follows one of them;
* `numbered_restored` : it gives back the numbers and the text that they were put in, and is not numbered again.
-/

namespace TypedSql.Placeholder

/-! ## Reading parameters -/

/-- A dollar with the digits behind it, or a segment of a text. -/
inductive Element where
  | parameter (digits : List Char)
  | segment (g : Segment)

namespace Element

def chars : Element → List Char
  | parameter digits => '$' :: digits
  | segment g => g.chars

/-- The number of a parameter. -/
def number? : Element → Option Nat
  | parameter digits => some (digitsValue digits)
  | segment _ => none

/-- A placeholder for a parameter, and the segment itself for all else. -/
def restored : Element → List Char
  | parameter _ => ['?']
  | segment g => g.chars

end Element

/-- The digits at the start of a cut text, outside all regions. -/
def leadingDigits : List Segment → List Char
  | .other c :: gs => if c.isDigit then c :: leadingDigits gs else []
  | _ => []

/-- A cut text with its parameters. -/
def elements : List Segment → List Element
  | [] => []
  | g :: gs =>
    if g = .other '$' ∧ leadingDigits gs ≠ [] then
      .parameter (leadingDigits gs) :: elements (gs.drop (leadingDigits gs).length)
    else .segment g :: elements gs
termination_by gs => gs.length
decreasing_by all_goals simp only [List.length_drop, List.length_cons]; omega

theorem leadingDigits_append (gs : List Segment) :
    leadingDigits gs ++ (gs.drop (leadingDigits gs).length).flatMap Segment.chars = gs.flatMap Segment.chars := by
  fun_induction leadingDigits gs with
  | case1 c gs hc ih => simpa [Segment.chars] using ih
  | case2 | case3 => simp

/-- Nothing is lost. -/
theorem flatMap_chars_elements (gs : List Segment) : (elements gs).flatMap Element.chars = gs.flatMap Segment.chars := by
  fun_induction elements gs with
  | case1 => rfl
  | case2 g gs h ih =>
    rw [List.flatMap_cons, ih, Element.chars, List.cons_append, leadingDigits_append, List.flatMap_cons, h.1]
    rfl
  | case3 g gs _ ih => rw [List.flatMap_cons, ih, Element.chars, List.flatMap_cons]

/-! ## The cut of a numbered text -/

/-- The segments of a numbered text, the placeholders numbered from `n` on. -/
def numberedSegments (n : Nat) : List Segment → List Segment
  | [] => []
  | .slot :: gs => .other '$' :: (Nat.toDigits 10 n).map .other ++ numberedSegments (n + 1) gs
  | g :: gs => g :: numberedSegments n gs

theorem numberedSegments_cons_of_ne {g : Segment} (h : g ≠ .slot) (n : Nat) (gs : List Segment) :
    numberedSegments n (g :: gs) = g :: numberedSegments n gs := by
  cases g <;> first | rfl | exact absurd rfl h

theorem slot_not_mem_numberedSegments (n : Nat) (gs : List Segment) : .slot ∉ numberedSegments n gs := by
  fun_induction numberedSegments n gs with
  | case1 => simp
  | case2 n gs ih => simpa using ih
  | case3 n g gs hg ih => simpa [Ne.symm (hg ·)] using ih

theorem dollarQuoted_of_mem_numberedSegments {text : List Char} {n : Nat} {gs : List Segment}
    (h : .dollarQuoted text ∈ numberedSegments n gs) : .dollarQuoted text ∈ gs := by
  fun_induction numberedSegments n gs with
  | case1 => exact h
  | case2 n gs ih => simpa using ih (by simpa using h)
  | case3 n g gs hg ih =>
    rcases List.mem_cons.1 h with rfl | h
    · exact List.mem_cons_self
    · exact List.mem_cons_of_mem g (ih h)

theorem not_opens_digit {c : Char} (hc : c.isDigit = true) (s : List Char) : ¬ Opens (c :: s) := by
  rw [opens_cons_iff]
  rintro (rfl | (rfl | rfl) | ⟨rfl, -⟩ | ⟨rfl, -⟩ | ⟨rfl, -⟩) <;> exact absurd hc (by decide)

theorem Segmented.digits {ds : List Char} (hds : ∀ c ∈ ds, c.isDigit = true) {s : List Char} {gs : List Segment}
    (h : Segmented s gs) : Segmented (ds ++ s) (ds.map .other ++ gs) := by
  induction ds with
  | nil => exact h
  | cons c ds ih =>
    exact .cons (.other (not_opens_digit (hds c List.mem_cons_self) _)) (ih fun d hd => hds d (List.mem_cons_of_mem c hd))

/-- No dollar quote opens at a dollar before a digit. -/
theorem not_opens_dollar_digit {c : Char} (hc : c.isDigit = true) (s : List Char) : ¬ Opens ('$' :: c :: s) := by
  have hnone : tag? (c :: s) = none := by
    rw [Option.eq_none_iff_forall_ne_some]
    rintro ⟨tag, body⟩ h
    obtain ⟨ht, hs⟩ := tag?_eq_some_iff.1 h
    cases tag with
    | nil =>
      obtain ⟨rfl, -⟩ := List.cons.inj hs
      exact absurd hc (by decide)
    | cons d tag =>
      obtain ⟨rfl, -⟩ := List.cons.inj hs
      simp [isTag, hc] at ht
  simp [opens_cons_iff, hnone]

/-- A segment is cut off before another text as it was before `rest`, if the other one starts with the same character or
with a dollar. -/
theorem Starts.replace {s rest rest' : List Char} {g : Segment} (h : Starts s g rest) (hdollar : '$' ∉ g.chars)
    (hnil : rest = [] → rest' = []) (hhead : rest'.head? = rest.head? ∨ rest'.head? = some '$') :
    Starts (g.chars ++ rest') g rest' := by
  cases h with
  | slot => exact .slot rest'
  | quoted hq h => exact .quoted hq (h.replace hnil)
  | lineComment h => exact .lineComment (h.replace hnil)
  | blockComment h => exact .blockComment (h.replace hnil)
  | dollarQuoted => exact absurd List.mem_cons_self hdollar
  | @other c _ h =>
    refine .other fun ho => h ?_
    change Opens (c :: rest') at ho
    rw [opens_cons_iff] at ho ⊢
    -- a dash or a star behind `c` was there before
    have hbehind : ∀ d, d ≠ '$' → rest'.head? = some d → rest.head? = some d := by
      intro d hd hd'
      rcases hhead with hhead | hhead
      · rw [← hhead, hd']
      · exact absurd (Option.some.inj (hd'.symm.trans hhead)) hd
    rcases ho with ho | ho | ⟨hc, ho⟩ | ⟨hc, ho⟩ | ⟨rfl, -⟩
    · exact .inl ho
    · exact .inr (.inl ho)
    · exact .inr (.inr (.inl ⟨hc, hbehind '-' (by decide) ho⟩))
    · exact .inr (.inr (.inr (.inl ⟨hc, hbehind '*' (by decide) ho⟩)))
    · exact absurd List.mem_cons_self hdollar

/-- A numbered text starts as the text itself does, or with a number. -/
theorem head?_render {s : List Char} {gs : List Segment} (h : Segmented s gs) (n : Nat) :
    (render n gs).head? = s.head? ∨ (render n gs).head? = some '$' := by
  cases h with
  | nil => exact .inl rfl
  | @cons _ rest g gs h =>
    by_cases hg : g = .slot
    · subst hg
      exact .inr rfl
    · obtain ⟨c, t, hc⟩ := List.exists_cons_of_ne_nil h.chars_ne_nil
      rw [render_cons_of_ne hg, ← h.append_eq, hc]
      exact .inl rfl

theorem segmented_render {s : List Char} {gs : List Segment} (h : Segmented s gs) (hdollar : '$' ∉ s) (n : Nat) :
    Segmented (render n gs) (numberedSegments n gs) := by
  induction h generalizing n with
  | nil => exact .nil
  | @cons s rest g gs h hs ih =>
    rw [← h.append_eq, List.mem_append, not_or] at hdollar
    by_cases hg : g = .slot
    · subst hg
      obtain ⟨d, ds, hds⟩ := List.exists_cons_of_ne_nil (Nat.toDigits_ne_nil (b := 10) (n := n))
      have hdigits : ∀ c ∈ Nat.toDigits 10 n, c.isDigit = true :=
        fun c hc => Nat.isDigit_of_mem_toDigits (by decide) (by decide) hc
      refine .cons (.other ?_) ((ih hdollar.2 (n + 1)).digits hdigits)
      rw [hds]
      exact not_opens_dollar_digit (hdigits d (hds ▸ List.mem_cons_self)) _
    · rw [render_cons_of_ne hg, numberedSegments_cons_of_ne hg]
      refine .cons (h.replace hdollar.1 ?_ (head?_render hs n)) (ih hdollar.2 n)
      rintro rfl
      cases hs with
      | nil => rfl
      | cons h => exact absurd (List.append_eq_nil_iff.1 h.append_eq).1 h.chars_ne_nil

/-! ## The parameters of a numbered text -/

/-- No digit follows a placeholder. -/
def Spaced (gs : List Segment) : Prop :=
  ∀ before after, gs = before ++ .slot :: after → ∀ c ∈ (after.flatMap Segment.chars).head?, c.isDigit = false

theorem Spaced.nil : Spaced [] := by
  intro before after h
  simp at h

theorem spaced_cons_iff {g : Segment} {gs : List Segment} : Spaced (g :: gs) ↔
    (g = .slot → ∀ c ∈ (gs.flatMap Segment.chars).head?, c.isDigit = false) ∧ Spaced gs := by
  constructor
  · intro h
    refine ⟨?_, fun before after hgs => h (g :: before) after (by rw [hgs, List.cons_append])⟩
    rintro rfl
    exact h [] gs rfl
  · rintro ⟨hfirst, hrest⟩ before after hgs
    cases before with
    | nil =>
      obtain ⟨rfl, rfl⟩ := List.cons.inj hgs
      exact hfirst rfl
    | cons _ before => exact hrest before after (List.cons.inj hgs).2

theorem leadingDigits_append_of {ds : List Char} (hds : ∀ c ∈ ds, c.isDigit = true) {gs : List Segment}
    (h : leadingDigits gs = []) : leadingDigits (ds.map .other ++ gs) = ds := by
  induction ds with
  | nil => exact h
  | cons c ds ih =>
    rw [List.map_cons, List.cons_append, leadingDigits, if_pos (hds c List.mem_cons_self),
      ih fun d hd => hds d (List.mem_cons_of_mem c hd)]

theorem leadingDigits_numberedSegments {gs : List Segment}
    (h : ∀ c ∈ (gs.flatMap Segment.chars).head?, c.isDigit = false) (n : Nat) :
    leadingDigits (numberedSegments n gs) = [] := by
  cases gs with
  | nil => rfl
  | cons g gs =>
    cases g with
    | other c =>
      have hc : c.isDigit = false := h c rfl
      rw [numberedSegments_cons_of_ne (by simp), leadingDigits, if_neg (by simp [hc])]
    | slot => rfl
    | _ => rfl

/-- The elements of a numbered text: a parameter with the digits of its number for each placeholder. -/
def numberedElements (n : Nat) : List Segment → List Element
  | [] => []
  | .slot :: gs => .parameter (Nat.toDigits 10 n) :: numberedElements (n + 1) gs
  | g :: gs => .segment g :: numberedElements n gs

theorem elements_numberedSegments {gs : List Segment} (hspaced : Spaced gs) (hdollar : .other '$' ∉ gs) (n : Nat) :
    elements (numberedSegments n gs) = numberedElements n gs := by
  fun_induction numberedElements n gs with
  | case1 => rw [numberedSegments, elements]
  | case2 n gs ih =>
    simp only [List.mem_cons, not_or] at hdollar
    obtain ⟨hfirst, htail⟩ := spaced_cons_iff.1 hspaced
    have hdigits : ∀ c ∈ Nat.toDigits 10 n, c.isDigit = true :=
      fun c hc => Nat.isDigit_of_mem_toDigits (by decide) (by decide) hc
    have hrest := leadingDigits_numberedSegments (hfirst rfl) (n + 1)
    have hlead := leadingDigits_append_of hdigits hrest
    rw [numberedSegments, List.cons_append, elements, hlead, if_pos ⟨rfl, Nat.toDigits_ne_nil⟩,
      ← ih htail hdollar.2, List.drop_left' (List.length_map _)]
  | case3 n g gs hg ih =>
    simp only [List.mem_cons, not_or] at hdollar
    rw [numberedSegments_cons_of_ne (hg ·), elements, if_neg (fun h => hdollar.1 h.1.symm),
      ih (spaced_cons_iff.1 hspaced).2 hdollar.2]

theorem numbers_numberedElements (n : Nat) (gs : List Segment) :
    (numberedElements n gs).filterMap Element.number? = List.range' n (slotCount gs) := by
  fun_induction numberedElements n gs with
  | case1 => rfl
  | case2 n gs ih =>
    have hnumber : (Element.parameter (Nat.toDigits 10 n)).number? = some n := congrArg some (digitsValue_toDigits n)
    rw [List.filterMap_cons_some hnumber, ih, slotCount, slotCount, List.count_cons_self, List.range'_succ]
  | case3 n g gs hg ih =>
    rw [List.filterMap_cons_none rfl, ih, slotCount, slotCount, List.count_cons_of_ne (hg ·)]

theorem restored_numberedElements (n : Nat) (gs : List Segment) :
    (numberedElements n gs).flatMap Element.restored = gs.flatMap Segment.chars := by
  fun_induction numberedElements n gs with
  | case1 => rfl
  | case2 n gs ih => rw [List.flatMap_cons, ih, List.flatMap_cons]; rfl
  | case3 n g gs hg ih => rw [List.flatMap_cons, ih, List.flatMap_cons]; rfl

theorem segments_numbered {sql : String} (hdollar : '$' ∉ sql.toList) :
    segments (numbered sql).toList = numberedSegments 1 (segments sql.toList) := by
  rw [numbered, String.toList_ofList]
  exact (segmented_iff.1 (segmented_render (segmented_segments _) hdollar 1)).symm

theorem not_mem_segments {s : List Char} {c : Char} (hc : c ∉ s) {g : Segment} (hg : c ∈ g.chars) : g ∉ segments s := by
  intro hmem
  rw [← flatMap_chars_segments s] at hc
  exact hc (List.mem_flatMap.2 ⟨g, hmem, hg⟩)

/-- In a text without dollars, the numbers of its placeholders can be read again: the numbered text is cut into elements
whose parameters are those from one on, and with a question mark in the place of each the text is as it was. A numbered
text has no placeholders left. -/
theorem numbered_restored {sql : String} (hdollar : '$' ∉ sql.toList) (hspaced : Spaced (segments sql.toList)) :
    let gs := segments (numbered sql).toList
    (elements gs).flatMap Element.chars = (numbered sql).toList ∧
      (elements gs).filterMap Element.number? = List.range' 1 (slotCount (segments sql.toList)) ∧
      (elements gs).flatMap Element.restored = sql.toList ∧
      (∀ text, .dollarQuoted text ∉ gs) ∧
      numbered (numbered sql) = numbered sql := by
  intro gs
  have hgs : gs = numberedSegments 1 (segments sql.toList) := segments_numbered hdollar
  have helements : elements gs = numberedElements 1 (segments sql.toList) := by
    rw [hgs]
    exact elements_numberedSegments hspaced (not_mem_segments hdollar (List.mem_singleton.2 rfl)) 1
  refine ⟨?_, ?_, ?_, ?_, ?_⟩
  · rw [flatMap_chars_elements, flatMap_chars_segments]
  · rw [helements, numbers_numberedElements]
  · rw [helements, restored_numberedElements, flatMap_chars_segments]
  · intro text htext
    have hmem := dollarQuoted_of_mem_numberedSegments (hgs ▸ htext)
    obtain ⟨t, rest, h⟩ := (segmented_segments _).exists_starts hmem
    cases h
    exact not_mem_segments hdollar (by simp [Segment.chars, delimiter]) hmem
  · have hslot : .slot ∉ gs := hgs ▸ slot_not_mem_numberedSegments 1 _
    exact numbered_eq_self hslot

/-- Placeholders beside quotes and comments with question marks and digits. -/
theorem numbered_restored_comments :
    let sql := "?-?/?,'?1'?\"?\"--?2\n?/*?3*/??????"
    let gs := segments (numbered sql).toList
    '$' ∉ sql.toList ∧ Spaced (segments sql.toList) ∧
      numbered sql = "$1-$2/$3,'?1'$4\"?\"--?2\n$5/*?3*/$6$7$8$9$10$11" ∧
      (elements gs).filterMap Element.number? = [1, 2, 3, 4, 5, 6, 7, 8, 9, 10, 11] ∧
      (elements gs).flatMap Element.restored = sql.toList ∧ numbered (numbered sql) = numbered sql := by
  intro sql gs
  have hsegments : segments sql.toList =
      [.slot, .other '-', .slot, .other '/', .slot, .other ',', .quoted "'?1'".toList, .slot, .quoted "\"?\"".toList,
        .lineComment "--?2\n".toList, .slot, .blockComment "/*?3*/".toList, .slot, .slot,
        .slot, .slot, .slot, .slot] := by
    decide +kernel
  have hdollar : '$' ∉ sql.toList := by decide
  have hspaced : Spaced (segments sql.toList) := by
    rw [hsegments]
    simp [spaced_cons_iff, Spaced.nil, Segment.chars]
  obtain ⟨-, hnumbers, htext, -, hagain⟩ := numbered_restored hdollar hspaced
  refine ⟨hdollar, hspaced, ?_, ?_, htext, hagain⟩
  · rw [numbered, hsegments]
    rfl
  · rw [hnumbers, hsegments]
    rfl

end TypedSql.Placeholder
