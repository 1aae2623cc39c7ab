import Mathlib.Data.List.Infix
import TypedSql.Proofs.Placeholder.Lexical
import TypedSql.Proofs.Placeholder.Passing
import TypedSql.Proofs.Placeholder.Segmentation

/-!
# Placeholders against the lexical structure of PostgreSQL

* `Token.Regular` : a token that the scan for placeholders cuts as PostgreSQL reads it;
* `Legible ts` : the tokens are regular as far as there are question marks;
* `passes_token` : a regular token is passed over, unless it is a question mark;
* `numbered_eq_render_tokens` : in a legible text, the placeholders are the question marks that are tokens.
-/

namespace TypedSql.Lexical

open Placeholder (Passes Segment segments next through tag? tag?_eq_some_iff span_append_cons isTag delimiter
  numbered)

/-- Whether a backslash escapes a quote. -/
def escapesQuote : List Char → Bool
  | [] => false
  | [_] => false
  | c :: d :: s => if c = '\\' then d == '\x27' || escapesQuote s else escapesQuote (d :: s)

/-- No escape of a quote in a constant, no line comment that ends at a carriage return, no comment in a comment, only
letters, numerals and underscores in the tag of a dollar quote, and nothing like a dollar quote in a word. -/
def Token.Regular : Token → Prop
  | escapeConstant text => escapesQuote text = false
  | lineComment text => text.getLast? ≠ some '\r'
  | blockComment text => ¬ ['/', '*'] <:+: text.drop 2
  | dollarConstant tag _ => isTag tag = true
  | word text => ∀ tag, isTag tag = true → ¬ delimiter tag <:+: text
  | _ => True

/-- Each token that holds or precedes a question mark is regular. -/
def Legible : List Token → Prop
  | [] => True
  | t :: ts => ('?' ∈ (t :: ts).flatMap Token.chars → t.Regular) ∧ Legible ts

/-! ## Quotes -/

theorem escapesQuote_cons {c : Char} (hc : c ≠ '\\') (s : List Char) : escapesQuote (c :: s) = escapesQuote s := by
  cases s with
  | nil => rfl
  | cons d s => rw [escapesQuote, if_neg hc]

theorem passes_literal {q : Char} (hq : q = '\x27' ∨ q = '"') {escapes : Bool} (s : List Char) {body : List Char}
    (hb : q ∉ body) (he : escapes = true → q = '\x27' ∧ escapesQuote (literal q escapes s).1 = false) :
    Passes (q :: (body ++ (literal q escapes s).1)) (literal q escapes s).2 := by
  fun_induction literal q escapes s generalizing body with
  | case1 => simpa using Placeholder.passes_openQuote hq hb
  | case2 c =>
    by_cases hc : c = q
    · subst hc
      exact Placeholder.passes_quote hq hb []
    · exact Placeholder.passes_openQuote hq (by simp [hb, Ne.symm hc])
  | case3 c d s hcd ih =>
    rw [Bool.or_eq_true, Bool.and_eq_true, Bool.and_eq_true, beq_iff_eq, beq_iff_eq, beq_iff_eq] at hcd
    rcases hcd with ⟨hesc, rfl⟩ | ⟨rfl, rfl⟩
    · -- the escaped character is no quote
      obtain ⟨rfl, hne⟩ := he hesc
      rw [escapesQuote, if_pos rfl, Bool.or_eq_false_iff, beq_eq_false_iff_ne] at hne
      have hrest := @ih (body ++ ['\\', d]) (by simp [hb, Ne.symm hne.1]) fun _ => ⟨rfl, hne.2⟩
      simpa using hrest
    · -- a doubled mark closes one quote and opens the next
      have hrest := @ih [] (by simp) fun hesc => by
        obtain ⟨rfl, hne⟩ := he hesc
        rw [escapesQuote_cons (by decide), escapesQuote_cons (by decide)] at hne
        exact ⟨rfl, hne⟩
      have hquote := Placeholder.passes_quote hq hb (d :: (literal d escapes s).1 ++ (literal d escapes s).2)
      simpa using hquote.append hrest
  | case4 d s hcd =>
    exact Placeholder.passes_quote hq hb (d :: s)
  | case5 c d s hcd hc ih =>
    have hrest := @ih (body ++ [c]) (by simp [hb, Ne.symm hc]) fun hesc => by
      obtain ⟨hq', hne⟩ := he hesc
      have hback : c ≠ '\\' := by
        rintro rfl
        exact hcd (by simp [hesc])
      rw [escapesQuote_cons hback] at hne
      exact ⟨hq', hne⟩
    simpa using hrest

/-! ## Comments -/

theorem through_newline {s : List Char} (h : (line s).1.getLast? ≠ some '\r') : through ['\n'] s = line s := by
  fun_induction line s with
  | case1 => rfl
  | case2 s => rfl
  | case3 c s hne hc =>
    rcases hc with rfl | rfl
    · simp [through]
    · exact absurd rfl h
  | case4 c s hne hc ih =>
    have hlast : (line s).1.getLast? ≠ some '\r' := by
      cases hs : (line s).1 with
      | nil => simp
      | cons d t => simpa [hs] using h
    have hnl : c ≠ '\n' := fun h => hc (.inl h)
    rw [through, if_neg (by simpa using hnl.symm), ih hlast]

theorem through_star_slash {s : List Char} (h : ¬ ['/', '*'] <:+: (comment 0 s).1) :
    through ['*', '/'] s = comment 0 s := by
  induction s with
  | nil => rfl
  | cons c s ih =>
    cases s with
    | nil => simp [through, comment]
    | cons d s =>
      rw [comment] at h ⊢
      by_cases hend : c = '*' ∧ d = '/'
      · obtain ⟨rfl, rfl⟩ := hend
        simp [through]
      · rw [if_neg hend] at h ⊢
        by_cases hopen : c = '/' ∧ d = '*'
        · obtain ⟨rfl, rfl⟩ := hopen
          exact absurd ⟨[], _, rfl⟩ h
        · rw [if_neg hopen] at h ⊢
          have hstop : ¬ ['*', '/'].isPrefixOf (c :: d :: s) = true := by
            intro hp
            simp only [List.isPrefixOf, Bool.and_eq_true, beq_iff_eq, and_true] at hp
            exact hend ⟨hp.1.symm, hp.2.symm⟩
          rw [through, if_neg hstop, ih fun hi => h (hi.trans (List.suffix_cons c _).isInfix)]

/-! ## Words and dollars -/

theorem continuesTag_of_isTag {tag : List Char} (h : isTag tag = true) {c : Char} (hc : c ∈ tag) :
    continuesTag c = true := by
  have hall := (Bool.and_eq_true_iff.1 h).1
  have hchar := List.all_eq_true.1 hall c hc
  rw [Bool.or_eq_true, beq_iff_eq] at hchar
  rcases hchar with hchar | rfl
  · by_cases hascii : c.val < 128
    · rw [Text.isAlphanumeric_of_ascii hascii, Char.isAlphanum, Bool.or_eq_true] at hchar
      rcases hchar with ha | hd
      · simp [continuesTag, startsWord, ha]
      · simp [continuesTag, hd]
    · have hlarge : 128 ≤ c.val := UInt32.not_lt.1 hascii
      simp [continuesTag, startsWord, hlarge]
  · decide

theorem tag?_of_opening? {s tag body : List Char} (h : opening? s = some (tag, body)) (ht : isTag tag = true) :
    tag? s = some (tag, body) :=
  tag?_eq_some_iff.2 ⟨ht, (opening?_eq_some h).1⟩

theorem tag?_eq_none {s : List Char} (h : opening? s = none) : tag? s = none := by
  rw [Option.eq_none_iff_forall_ne_some]
  rintro ⟨tag, body⟩ ht
  obtain ⟨htag, rfl⟩ := tag?_eq_some_iff.1 ht
  obtain ⟨htake, hdrop⟩ :=
    @span_append_cons continuesTag tag body '$' (fun d hd => continuesTag_of_isTag htag hd) (by decide)
  have hdigit : (tag ++ '$' :: body).head?.any Char.isDigit = false := by
    have hhead := (Bool.and_eq_true_iff.1 htag).2
    cases tag with
    | nil => rfl
    | cons c tag => simpa using hhead
  unfold opening? at h
  rw [hdrop, htake, hdigit, if_neg (by decide)] at h
  cases h

theorem next_dollar {s : List Char} (h : tag? s = none) : next '$' s = (.other '$', s) := by
  unfold next
  rw [h]
  simp

theorem ne_of_continuesTag {c : Char} (h : continuesTag c = true) :
    c ≠ '\x27' ∧ c ≠ '"' ∧ c ≠ '?' ∧ c ≠ '$' ∧ c ≠ '-' ∧ c ≠ '/' := by
  refine ⟨?_, ?_, ?_, ?_, ?_, ?_⟩ <;> (rintro rfl; exact absurd h (by decide))

theorem continuesTag_of_continuesWord {c : Char} (h : continuesWord c = true) (hc : c ≠ '$') :
    continuesTag c = true := by
  rw [continuesWord, Bool.or_eq_true, beq_iff_eq] at h
  exact h.resolve_right hc

/-- What the scan takes for a tag at a dollar in a word does not reach beyond the word. -/
theorem tag?_eq_none_of_word {s rest : List Char} (hrest : ∀ c ∈ rest.head?, continuesWord c = false)
    (h : ∀ tag, isTag tag = true → ¬ delimiter tag <:+: '$' :: s) : tag? (s ++ rest) = none := by
  rw [Option.eq_none_iff_forall_ne_some]
  rintro ⟨tag, body⟩ ht
  obtain ⟨htag, happend⟩ := tag?_eq_some_iff.1 ht
  have hhead : ∀ c t, rest = c :: t → continuesWord c = true → False := by
    rintro c t rfl hc
    exact absurd (hrest c rfl) (by simp [hc])
  rcases List.append_eq_append_iff.1 happend with ⟨as, rfl, has⟩ | ⟨bs, rfl, hbs⟩
  · cases as with
    | nil => exact hhead '$' body has.symm (by decide)
    | cons c as =>
      obtain ⟨rfl, -⟩ := List.cons.inj has
      exact h tag htag ⟨[], as, by simp [delimiter]⟩
  · cases bs with
    | nil => exact hhead '$' body hbs (by decide)
    | cons c bs =>
      have hc : continuesTag c = true := continuesTag_of_isTag htag (by simp)
      exact hhead c _ hbs (by simp [continuesWord, hc])

theorem passes_word {s rest : List Char} (hs : ∀ c ∈ s, continuesWord c = true)
    (hrest : ∀ c ∈ rest.head?, continuesWord c = false) (h : ∀ tag, isTag tag = true → ¬ delimiter tag <:+: s) :
    Passes s rest := by
  induction s with
  | nil => exact Passes.nil rest
  | cons c s ih =>
    have htail := ih (fun d hd => hs d (List.mem_cons_of_mem c hd))
      fun tag ht hi => h tag ht (hi.trans (List.suffix_cons c s).isInfix)
    by_cases hc : c = '$'
    · subst hc
      exact (Placeholder.passes_other (next_dollar (tag?_eq_none_of_word hrest h))).append htail
    · have hne := ne_of_continuesTag (continuesTag_of_continuesWord (hs c (by simp)) hc)
      have hone : Passes [c] (s ++ rest) := Placeholder.passes_of_forall_ne (by simpa using hne) _
      exact hone.append htail

/-! ## Tokens -/

theorem passes_takeWhile (s rest : List Char) : Passes (s.takeWhile continuesTag) rest :=
  Placeholder.passes_of_forall_ne (fun _ hc => ne_of_continuesTag (List.all_eq_true.1 List.all_takeWhile _ hc)) rest

theorem passes_fraction (s rest : List Char) : Passes (fraction s).1 rest := by
  unfold fraction
  split
  · split
    · exact Passes.nil rest
    · next t _ =>
      have hpoint : Passes ['.'] (t.takeWhile continuesTag ++ rest) :=
        Placeholder.passes_of_forall_ne (List.forall_mem_singleton.2 (by decide)) _
      exact hpoint.append (passes_takeWhile t rest)
  · exact Passes.nil rest

theorem passes_lineComment {c : Char} {s : List Char} (hc : c = '-' ∧ s.head? = some '-')
    (h : (Token.lineComment (c :: (line s).1)).Regular) : Passes (c :: (line s).1) (line s).2 := by
  have hlast : (line s).1.getLast? ≠ some '\r' := by
    cases hs : (line s).1 with
    | nil => simp
    | cons d t => simpa [Token.Regular, hs] using h
  refine Passes.cons (g := .lineComment (c :: (line s).1)) (by simp) ?_ rfl
  unfold next
  rw [line_append, if_neg (by rw [hc.1]; decide), if_neg (by rw [hc.1]; decide), if_pos hc, through_newline hlast]

theorem passes_blockComment {c : Char} {s : List Char} (hc : c = '/' ∧ s.head? = some '*')
    (h : (Token.blockComment (c :: '*' :: (comment 0 s.tail).1)).Regular) :
    Passes (c :: '*' :: (comment 0 s.tail).1) (comment 0 s.tail).2 := by
  obtain ⟨rfl, hs⟩ := hc
  obtain ⟨t, rfl⟩ := List.head?_eq_some_iff.1 hs
  rw [List.tail_cons] at h ⊢
  refine Passes.cons (g := .blockComment ('/' :: '*' :: (comment 0 t).1)) (by simp) ?_ rfl
  unfold next
  rw [List.cons_append, comment_append, if_neg (by decide), if_neg (by decide), if_neg (by simp), if_pos ⟨rfl, rfl⟩,
    List.tail_cons, through_star_slash h]

theorem passes_dollarConstant {s tag body : List Char} (ho : opening? s = some (tag, body)) (h : isTag tag = true) :
    Passes (delimiter tag ++ (through (delimiter tag) body).1) (through (delimiter tag) body).2 := by
  have hdelimiter : delimiter tag ++ (through (delimiter tag) body).1 =
      '$' :: (tag ++ '$' :: (through (delimiter tag) body).1) := by
    simp [delimiter]
  have hs : tag ++ '$' :: (through (delimiter tag) body).1 ++ (through (delimiter tag) body).2 = s := by
    rw [List.append_assoc, List.cons_append, Placeholder.through_append, (opening?_eq_some ho).1]
  rw [hdelimiter]
  refine Passes.cons (g := .dollarQuoted (delimiter tag ++ (through (delimiter tag) body).1)) (by simp) ?_ hdelimiter
  unfold next
  rw [hs, tag?_of_opening? ho h]
  simp

/-- A dollar that opens nothing, with the digits behind it. -/
theorem passes_parameter {s : List Char} (ho : opening? s = none) :
    Passes ('$' :: s.takeWhile Char.isDigit) (s.dropWhile Char.isDigit) := by
  have hdigits : Passes (s.takeWhile Char.isDigit) (s.dropWhile Char.isDigit) := by
    refine Placeholder.passes_of_forall_ne (fun c hc => ?_) _
    have hdigit := List.all_eq_true.1 List.all_takeWhile c hc
    exact ne_of_continuesTag (by simp [continuesTag, hdigit])
  have hdollar : Passes ['$'] (s.takeWhile Char.isDigit ++ s.dropWhile Char.isDigit) := by
    rw [List.takeWhile_append_dropWhile]
    exact Placeholder.passes_other (next_dollar (tag?_eq_none ho))
  exact hdollar.append hdigits

/-- The scan cuts a regular token off, in one piece or several, and finds no placeholder in it. -/
theorem passes_token {k : Context} {c : Char} {s : List Char} (hc : c ≠ '?') (h : (token k c s).1.Regular) :
    Passes (token k c s).1.chars (token k c s).2.2 := by
  unfold token at h ⊢
  rw [if_neg hc] at h ⊢
  by_cases hq : c = '\x27'
  · subst hq
    rw [if_pos rfl] at h ⊢
    by_cases hk : k.escapes
    · rw [if_pos hk, Token.Regular, escapesQuote_cons (by decide)] at h
      rw [if_pos hk]
      exact passes_literal (.inl rfl) s List.not_mem_nil fun _ => ⟨rfl, h⟩
    · rw [if_neg hk]
      exact passes_literal (.inl rfl) s List.not_mem_nil nofun
  rw [if_neg hq] at h ⊢
  by_cases hd : c = '"'
  · subst hd
    exact passes_literal (.inr rfl) s List.not_mem_nil nofun
  rw [if_neg hd] at h ⊢
  by_cases hline : c = '-' ∧ s.head? = some '-'
  · rw [if_pos hline] at h ⊢
    exact passes_lineComment hline h
  rw [if_neg hline] at h ⊢
  by_cases hblock : c = '/' ∧ s.head? = some '*'
  · rw [if_pos hblock] at h ⊢
    exact passes_blockComment hblock h
  rw [if_neg hblock] at h ⊢
  by_cases hdollar : c = '$'
  · subst hdollar
    rw [if_pos rfl] at h ⊢
    cases ho : opening? s with
    | some p =>
      rw [ho] at h
      exact passes_dollarConstant ho h
    | none => exact passes_parameter ho
  rw [if_neg hdollar] at h ⊢
  by_cases hword : startsWord c
  · rw [if_pos hword] at h ⊢
    refine passes_word ?_ (fun d hd => ?_) h
    · intro d hd
      rcases List.mem_cons.1 hd with rfl | hd
      · simp [continuesWord, continuesTag, hword]
      · exact List.all_eq_true.1 List.all_takeWhile d hd
    · have hhead := List.head?_dropWhile_not continuesWord s
      rw [hd] at hhead
      simpa using hhead
  rw [if_neg hword] at h ⊢
  by_cases hdigit : c.isDigit
  · rw [if_pos hdigit]
    have hc : Passes [c] (s.takeWhile continuesTag ++ (fraction (s.dropWhile continuesTag)).1 ++
        (fraction (s.dropWhile continuesTag)).2) :=
      Placeholder.passes_of_forall_ne (by simpa using ne_of_continuesTag (by simp [continuesTag, hdigit])) _
    exact hc.append ((passes_takeWhile s _).append (passes_fraction _ _))
  rw [if_neg hdigit] at h ⊢
  by_cases hpoint : c = '.' ∧ s.head?.any Char.isDigit
  · rw [if_pos hpoint]
    obtain ⟨rfl, -⟩ := hpoint
    have hc : Passes ['.'] (s.takeWhile continuesTag ++ s.dropWhile continuesTag) :=
      Placeholder.passes_of_forall_ne (List.forall_mem_singleton.2 (by decide)) _
    exact hc.append (passes_takeWhile s _)
  · rw [if_neg hpoint]
    exact Placeholder.passes_other
      (Placeholder.next_other ⟨hq, hd, hc, hdollar⟩ (fun h1 h2 => hline ⟨h1, h2⟩) (fun h1 h2 => hblock ⟨h1, h2⟩))

/-! ## Texts -/

/-- For each character, whether it is a question mark outside all regions. -/
def marks (ts : List Token) : List Bool :=
  ts.flatMap fun t => t.chars.map fun _ => t == .slot

/-- The written tokens, the question marks outside all regions numbered from `n` on. -/
def render (n : Nat) : List Token → List Char
  | [] => []
  | .slot :: ts => '$' :: Nat.toDigits 10 n ++ render (n + 1) ts
  | t :: ts => t.chars ++ render n ts

theorem marks_cons_of_ne {t : Token} (h : t ≠ .slot) (ts : List Token) :
    marks (t :: ts) = (t.chars.map fun _ => false) ++ marks ts := by
  simp [marks, h]

theorem render_cons_of_ne {t : Token} (h : t ≠ .slot) (n : Nat) (ts : List Token) :
    render n (t :: ts) = t.chars ++ render n ts := by
  cases t <;> first | rfl | exact absurd rfl h

theorem marks_and_render_of_not_mem {ts : List Token} (h : .slot ∉ ts) (n : Nat) :
    marks ts = ((ts.flatMap Token.chars).map fun _ => false) ∧ render n ts = ts.flatMap Token.chars := by
  induction ts with
  | nil => exact ⟨rfl, rfl⟩
  | cons t ts ih =>
    simp only [List.mem_cons, not_or] at h
    obtain ⟨hm, hr⟩ := ih h.2
    have ht : t ≠ .slot := Ne.symm h.1
    rw [marks_cons_of_ne ht, render_cons_of_ne ht, hm, hr, List.flatMap_cons, List.map_append]
    exact ⟨rfl, rfl⟩

theorem token_ne_slot {k : Context} {c : Char} (hc : c ≠ '?') (s : List Char) : (token k c s).1 ≠ .slot := by
  intro h
  have happ := token_append k c s
  rw [h] at happ
  exact hc (List.cons.inj happ).1.symm

theorem tokens_slot (k : Context) (s : List Char) : tokens k ('?' :: s) = .slot :: tokens .fresh s := by
  rw [tokens]
  rfl

/-- Over the rest of a text, from a place where both readings have come to the end of a token. -/
theorem marks_and_render_segments {k : Context} {s : List Char} (h : Legible (tokens k s)) :
    Placeholder.marks (segments s) = marks (tokens k s) ∧
      ∀ n, Placeholder.render n (segments s) = render n (tokens k s) := by
  induction hn : s.length using Nat.strongRecOn generalizing k s with
  | _ n ih =>
  by_cases hmem : '?' ∈ s
  · cases s with
    | nil => cases hmem
    | cons c s =>
      by_cases hc : c = '?'
      · subst hc
        rw [tokens_slot] at h ⊢
        obtain ⟨hm, hr⟩ := ih s.length (by simp [← hn]) h.2 rfl
        rw [Placeholder.segments_slot]
        refine ⟨congrArg (true :: ·) hm, fun n => ?_⟩
        rw [Placeholder.render, render, hr]
      · have hchars := flatMap_chars_tokens k (c :: s)
        rw [tokens] at h hchars ⊢
        have hpass := passes_token hc (h.1 (by rw [hchars]; exact hmem))
        have hlt := length_token_lt k c s
        obtain ⟨gs, hgs, hflat, hseg⟩ := hpass
        obtain ⟨hm, hr⟩ := ih _ (by omega) h.2 rfl
        rw [token_append] at hseg
        have hne : (token k c s).1 ≠ .slot := token_ne_slot hc s
        rw [hseg, marks_cons_of_ne hne, Placeholder.marks_append_of_not_mem hgs, hflat, hm]
        refine ⟨rfl, fun n => ?_⟩
        rw [render_cons_of_ne hne, Placeholder.render_append_of_not_mem hgs, hflat, hr]
  · -- without a question mark there are no placeholders in either reading
    have hsegments : .slot ∉ segments s := by
      intro hm
      rw [← Placeholder.flatMap_chars_segments s] at hmem
      exact hmem (List.mem_flatMap.2 ⟨.slot, hm, List.mem_singleton.2 rfl⟩)
    have htokens : .slot ∉ tokens k s := by
      intro hm
      rw [← flatMap_chars_tokens k s] at hmem
      exact hmem (List.mem_flatMap.2 ⟨.slot, hm, List.mem_singleton.2 rfl⟩)
    constructor
    · have hm := Placeholder.marks_append_of_not_mem hsegments []
      rw [List.append_nil, Placeholder.flatMap_chars_segments] at hm
      rw [hm, (marks_and_render_of_not_mem htokens 0).1, flatMap_chars_tokens]
      exact List.append_nil _
    · intro n
      have hr := Placeholder.render_append_of_not_mem hsegments n []
      rw [List.append_nil, Placeholder.flatMap_chars_segments] at hr
      rw [hr, (marks_and_render_of_not_mem htokens n).2, flatMap_chars_tokens]
      exact List.append_nil _

/-- In a legible text, the placeholders are the question marks outside all regions, and they are numbered in their
order; all else is left alone. -/
theorem numbered_eq_render_tokens {sql : String} (h : Legible (tokens .fresh sql.toList)) :
    Placeholder.marks (segments sql.toList) = marks (tokens .fresh sql.toList) ∧
      (numbered sql).toList = render 1 (tokens .fresh sql.toList) := by
  obtain ⟨hm, hr⟩ := marks_and_render_segments h
  refine ⟨hm, ?_⟩
  rw [numbered, String.toList_ofList, hr]

theorem regular_word {text : List Char} (h : text.count '$' < 2) : (Token.word text).Regular := by
  intro tag _ hi
  have hcount := hi.sublist.count_le '$'
  have htwo : 2 ≤ (delimiter tag).count '$' := by simp [delimiter]
  omega

/-- Regions of all kinds before the last question mark, and a comment in a comment behind it. -/
def regions : String :=
  "a$1 E'\\n?' 'it''s ?' \"?\" -- ?\n/* ? */ $t$?$t$ 1e5 $1 ? /* /* */ */"

theorem numbered_eq_render_tokens_regions :
    Legible (tokens .fresh regions.toList) ∧
      (numbered regions).toList =
        "a$1 E'\\n?' 'it''s ?' \"?\" -- ?\n/* ? */ $t$?$t$ 1e5 $1 $1 /* /* */ */".toList := by
  have ht : tokens .fresh regions.toList =
      [.word "a$1".toList, .other ' ', .word ['E'], .escapeConstant "'\\n?'".toList, .other ' ',
        .constant "'it''s ?'".toList, .other ' ', .quotedName "\"?\"".toList, .other ' ', .lineComment "-- ?\n".toList,
        .blockComment "/* ? */".toList, .other ' ', .dollarConstant ['t'] "?$t$".toList, .other ' ',
        .number "1e5".toList, .other ' ', .parameter "$1".toList, .other ' ', .slot, .other ' ',
        .blockComment "/* /* */ */".toList] := by
    decide +kernel
  have hl : Legible (tokens .fresh regions.toList) := by
    rw [ht]
    refine ⟨fun _ => regular_word (by decide), fun _ => trivial, fun _ => regular_word (by decide), fun _ => ?_,
      fun _ => trivial, fun _ => trivial, fun _ => trivial, fun _ => trivial, fun _ => trivial, fun _ => ?_, fun _ => ?_,
      fun _ => trivial, fun _ => ?_, fun _ => trivial, fun _ => trivial, fun _ => trivial, fun _ => trivial,
      fun _ => trivial, fun _ => trivial, fun _ => trivial, fun h => ?_, trivial⟩
    · show escapesQuote "'\\n?'".toList = false
      decide
    · show "-- ?\n".toList.getLast? ≠ some '\r'
      decide
    · show ¬ ['/', '*'] <:+: "/* ? */".toList.drop 2
      decide
    · show isTag ['t'] = true
      decide
    · exact absurd h (by decide)
  exact ⟨hl, (numbered_eq_render_tokens hl).2.trans (by rw [ht]; decide)⟩

/-- The question marks that the scan finds are not those outside all regions. -/
def Misread (sql : String) : Prop :=
  Placeholder.marks (segments sql.toList) ≠ marks (tokens .fresh sql.toList)

/-- A comment in a comment, an escaped quote, a dollar within a word, a line that ends at a carriage return, and a tag
with a sign in it. -/
theorem marks_ne_of_irregular :
    Misread "/* a /* b */ ? */" ∧ Misread "E'\\'?'" ∧ Misread "a$b$ ? $b$" ∧ Misread "--\r?" ∧ Misread "$€$ ? $€$" := by
  unfold Misread
  decide +kernel

end TypedSql.Lexical
