import Mathlib.Data.List.SplitBy
import TypedSql.Text.CamelCase

/-!
# Camel case, read back

* `spelling` : the words of a name in lower case, which are all that camel case keeps;
* `humps` : a text cut before each capital;
* `IsLettered` : a name in ASCII with a word, whose words after the first start with a letter;
* `humps_camelCase` : the humps of a name in camel case, in lower case, are its spelling;
* `camelCase_eq_iff` : two names have the same camel case if and only if they have the same spelling.
-/

namespace TypedSql.Text

/-! ## Words -/

theorem splitOn_eq (separator : Char) (s : List Char) : splitOn separator s = s.splitOn separator := by
  induction s with
  | nil => rfl
  | cons c s ih =>
    rw [List.splitOn_cons_eq_if_modifyHead, ← ih]
    by_cases h : c = separator
    · rw [h, splitOn_separator, if_pos (beq_self_eq_true separator)]
    · rw [splitOn_of_ne h, if_neg (by simpa using h)]
      rfl

theorem of_mem_splitOn {separator : Char} {s w : List Char} (hw : w ∈ splitOn separator s) {c : Char} (hc : c ∈ w) :
    c ∈ s ∧ c ≠ separator := by
  induction s generalizing w with
  | nil =>
    obtain rfl : w = [] := by simpa [splitOn, splitFrom] using hw
    cases hc
  | cons d s ih =>
    have hrest : ∀ v ∈ splitOn separator s, c ∈ v → c ∈ d :: s ∧ c ≠ separator :=
      fun v hv hc => ⟨List.mem_cons_of_mem d (ih hv hc).1, (ih hv hc).2⟩
    by_cases hd : d = separator
    · rw [hd, splitOn_separator, List.mem_cons] at hw
      rcases hw with rfl | hw
      · cases hc
      · exact hrest w hw hc
    · rw [splitOn_of_ne hd, List.mem_cons] at hw
      rcases hw with rfl | hw
      · rcases List.mem_cons.1 hc with rfl | hc
        · exact ⟨List.mem_cons_self, hd⟩
        · exact hrest _ List.mem_cons_self hc
      · exact hrest w (List.mem_cons_of_mem _ hw) hc

theorem of_mem_words {s w : List Char} (hw : w ∈ words s) : w ≠ [] ∧ ∀ c ∈ w, c ∈ s ∧ c ≠ '_' := by
  obtain ⟨hsplit, hne⟩ := List.mem_filter.1 hw
  exact ⟨by simpa using hne, fun c hc => of_mem_splitOn hsplit hc⟩

/-- Only a name of underscores has no words. -/
theorem words_eq_nil_iff {s : List Char} : words s = [] ↔ ∀ c ∈ s, c = '_' := by
  rw [words, List.filter_eq_nil_iff]
  induction s with
  | nil => simp [splitOn, splitFrom]
  | cons d s ih =>
    by_cases hd : d = '_'
    · rw [hd, splitOn_separator, List.forall_mem_cons, ih, List.forall_mem_cons]
      simp
    · rw [splitOn_of_ne hd, List.forall_mem_cons, List.forall_mem_cons]
      simp [hd]

/-! ## ASCII letters -/

theorem lower_of_ascii {s : List Char} (h : ∀ c ∈ s, c.val < 128) : lower s = s.map Char.toLower := by
  suffices ∀ before, lowerAfter before s = s.map Char.toLower from this []
  induction s with
  | nil => exact fun _ => rfl
  | cons c s ih =>
    intro before
    rw [List.forall_mem_cons] at h
    have hsigma : c ≠ 'Σ' := by
      rintro rfl
      exact absurd h.1 (by decide)
    rw [lowerAfter, if_neg hsigma, lowerChar_of_ascii h.1, ih h.2, List.map_cons, List.singleton_append]

/-- A property of the characters of ASCII, looked at one by one. -/
theorem forall_ascii {p : Char → Prop} (h : ∀ n < 128, p (Char.ofNat n)) {c : Char} (hc : c.val < 128) : p c := by
  have hp := h c.toNat (UInt32.lt_iff_toNat_lt.1 hc)
  rwa [Char.ofNat_toNat] at hp

theorem isLower_iff {c : Char} : c.isLower = true ↔ 'a'.val ≤ c.val ∧ c.val ≤ 'z'.val := by
  refine Bool.and_eq_true_iff.trans ?_
  rw [decide_eq_true_iff, decide_eq_true_iff]

theorem lt_of_isAlpha {c : Char} (h : c.isAlpha = true) : c.val < 128 := by
  rcases (Bool.or_eq_true _ _).mp h with hupper | hlower
  · have hle : c.val ≤ 'Z'.val := (of_decide_eq_true hupper).2
    exact UInt32.lt_of_le_of_lt hle (by decide)
  · have hle : c.val ≤ 'z'.val := (isLower_iff.1 hlower).2
    exact UInt32.lt_of_le_of_lt hle (by decide)

theorem toLower_lt {c : Char} (h : c.val < 128) : c.toLower.val < 128 :=
  forall_ascii (p := fun c => c.toLower.val < 128) (by decide) h

theorem toLower_of_not_isUpper {c : Char} (h : c.isUpper = false) : c.toLower = c :=
  dif_neg (of_decide_eq_false h)

theorem toLower_toUpper {c : Char} (h : c.isUpper = false) : c.toUpper.toLower = c := by
  cases hlower : c.isLower with
  | true =>
    have hascii : c.val < 128 := lt_of_isAlpha ((Bool.or_eq_true _ _).mpr (.inr hlower))
    exact forall_ascii (p := fun c => c.isLower = true → c.toUpper.toLower = c) (by decide) hascii hlower
  | false =>
    have hsame : c.toUpper = c := dif_neg fun h => Bool.false_ne_true (hlower.symm.trans (isLower_iff.2 h))
    rw [hsame, toLower_of_not_isUpper h]

/-- A letter has a capital, which is no underscore. -/
theorem toUpper_of_isAlpha {c : Char} (h : c.isAlpha = true) : c.toUpper.isUpper = true ∧ c.toUpper ≠ '_' :=
  forall_ascii (p := fun c => c.isAlpha = true → c.toUpper.isUpper = true ∧ c.toUpper ≠ '_') (by decide)
    (lt_of_isAlpha h) h

/-- In lower case a character of ASCII is no capital, no underscore unless it was one, and a letter if it was one. -/
theorem toLower_of_ascii {c : Char} (h : c.val < 128) :
    c.toLower.isUpper = false ∧ (c ≠ '_' → c.toLower ≠ '_') ∧ c.toLower.isAlpha = c.isAlpha :=
  forall_ascii (p := fun c => c.toLower.isUpper = false ∧ (c ≠ '_' → c.toLower ≠ '_') ∧
    c.toLower.isAlpha = c.isAlpha) (by decide) h

/-! ## Joined words -/

/-- A word in lower case with a capital at its start. -/
def hump : List Char → List Char
  | [] => []
  | c :: w => c.toUpper :: w

/-- Words in lower case as they are joined: the first as it is, and a hump for each other one. -/
def joined : List (List Char) → List (List Char)
  | [] => []
  | w :: ws => w :: ws.map hump

/-- A text cut before each capital. -/
def humps (s : List Char) : List (List Char) :=
  s.splitBy fun _ c => !c.isUpper

/-- Words in lower case that can be told apart when they are joined: those after the first start with a letter. -/
structure Joinable (ws : List (List Char)) : Prop where
  ne_nil : ∀ w ∈ ws, w ≠ []
  small : ∀ w ∈ ws, ∀ c ∈ w, c.isUpper = false ∧ c ≠ '_'
  letters : ∀ w ∈ ws.tail, ∀ c ∈ w.head?, c.isAlpha = true

section
variable {w : List Char} {ws : List (List Char)}

theorem toLower_word (h : ∀ c ∈ w, c.isUpper = false) : w.map Char.toLower = w := by
  refine (List.map_congr_left fun c hc => ?_).trans (List.map_id w)
  exact toLower_of_not_isUpper (h c hc)

theorem toLower_hump (h : ∀ c ∈ w, c.isUpper = false) : (hump w).map Char.toLower = w := by
  cases w with
  | nil => rfl
  | cons c w =>
    rw [List.forall_mem_cons] at h
    rw [hump, List.map_cons, toLower_toUpper h.1, toLower_word h.2]

/-- In lower case the humps are the words that were joined. -/
theorem toLower_joined (h : Joinable ws) : (joined ws).map (·.map Char.toLower) = ws := by
  cases ws with
  | nil => rfl
  | cons w ws =>
    have hsmall : ∀ v ∈ w :: ws, ∀ c ∈ v, c.isUpper = false := fun v hv c hc => (h.small v hv c hc).1
    rw [joined, List.map_cons, List.map_map, toLower_word (hsmall w List.mem_cons_self)]
    refine congrArg (w :: ·) ((List.map_congr_left fun v hv => ?_).trans (List.map_id ws))
    exact toLower_hump (hsmall v (List.mem_cons_of_mem w hv))

theorem isChain_of_small {c : Char} (h : ∀ d ∈ w, d.isUpper = false) :
    (c :: w).IsChain fun _ d => (!d.isUpper) = true := by
  induction w generalizing c with
  | nil => exact List.isChain_singleton c
  | cons d w ih =>
    rw [List.forall_mem_cons] at h
    exact List.isChain_cons_cons.2 ⟨by simp [h.1], ih h.2⟩

/-- Each word after the first starts with a capital when it is joined. -/
theorem isChain_humps (hw : w ≠ []) (hne : ∀ v ∈ ws, v ≠ []) (h : ∀ v ∈ ws, ∀ c ∈ v.head?, c.isAlpha = true) :
    (w :: ws.map hump).IsChain fun a b => ∃ _ : a ≠ [], ∃ hb : b ≠ [], (!(b.head hb).isUpper) = false := by
  induction ws generalizing w with
  | nil => exact List.isChain_singleton w
  | cons v ws ih =>
    rw [List.forall_mem_cons] at hne h
    obtain ⟨c, v, rfl⟩ := List.exists_cons_of_ne_nil hne.1
    have hcapital : c.toUpper.isUpper = true := (toUpper_of_isAlpha (h.1 c rfl)).1
    rw [List.map_cons]
    exact List.isChain_cons_cons.2 ⟨⟨hw, List.cons_ne_nil _ v, by simp [hump, hcapital]⟩,
      ih (List.cons_ne_nil _ v) hne.2 h.2⟩

theorem humps_joined (h : Joinable ws) : humps (joined ws).flatten = joined ws := by
  cases ws with
  | nil => rfl
  | cons w ws =>
    have hne := List.forall_mem_cons.1 h.ne_nil
    have hchain : ∀ (c : Char) v, (∀ d ∈ c :: v, d.isUpper = false) →
        ∀ b, (b :: v).IsChain fun _ d => (!d.isUpper) = true :=
      fun c v hv b => isChain_of_small fun d hd => hv d (List.mem_cons_of_mem c hd)
    apply List.splitBy_flatten
    · rw [joined, List.mem_cons, not_or]
      refine ⟨Ne.symm hne.1, fun hnil => ?_⟩
      obtain ⟨v, hv, hvnil⟩ := List.mem_map.1 hnil
      cases v with
      | nil => exact hne.2 [] hv rfl
      | cons c v => cases hvnil
    · rw [joined, List.forall_mem_cons, List.forall_mem_map]
      have hsmall := List.forall_mem_cons.1 fun v hv c hc => (h.small v hv c hc).1
      constructor
      · cases w with
        | nil => exact List.isChain_nil
        | cons c w => exact hchain c w hsmall.1 c
      · intro v hv
        cases v with
        | nil => exact List.isChain_nil
        | cons c v => exact hchain c v (hsmall.2 _ hv) c.toUpper
    · exact isChain_humps hne.1 hne.2 h.letters

theorem underscore_not_mem_joined (h : Joinable ws) : '_' ∉ (joined ws).flatten := by
  cases ws with
  | nil => exact List.not_mem_nil
  | cons w ws =>
    have hsmall := List.forall_mem_cons.1 fun v hv c hc => (h.small v hv c hc).2
    rw [joined, List.flatten_cons, List.mem_append, List.mem_flatten, not_or]
    refine ⟨fun hmem => hsmall.1 _ hmem rfl, ?_⟩
    rintro ⟨u, hu, hmem⟩
    obtain ⟨v, hv, rfl⟩ := List.mem_map.1 hu
    cases v with
    | nil => cases hmem
    | cons c v =>
      rcases List.mem_cons.1 hmem with hc | hmem
      · exact (toUpper_of_isAlpha (h.letters _ hv c rfl)).2 hc.symm
      · exact hsmall.2 _ hv '_' (List.mem_cons_of_mem c hmem) rfl

end

/-! ## Names -/

/-- The parts of a name between underscores, without the empty ones. -/
def segments (name : String) : List (List Char) :=
  (name.toList.splitOn '_').filter (!·.isEmpty)

/-- What a name spells: its segments in lower case. -/
def spelling (name : String) : List (List Char) :=
  (segments name).map (·.map Char.toLower)

theorem words_eq (name : String) : words name.toList = segments name := by
  rw [words, splitOn_eq]
  rfl

/-- A name in ASCII that is not made of underscores only, and whose segments after the first start with a letter. -/
structure IsLettered (name : String) : Prop where
  ascii : ∀ c ∈ name.toList, c.val < 128
  spelled : ∃ c ∈ name.toList, c ≠ '_'
  letters : ∀ w ∈ (segments name).tail, ∀ c ∈ w.head?, c.isAlpha = true

theorem isLettered_iff {name : String} : IsLettered name ↔ name.toList.all (·.val < 128) = true ∧
    name.toList.any (· != '_') = true ∧ (segments name).tail.all (·.head?.all Char.isAlpha) = true := by
  simp only [List.all_eq_true, List.any_eq_true, Option.all_eq_true, decide_eq_true_eq, bne_iff_ne]
  exact ⟨fun h => ⟨h.ascii, h.spelled, h.letters⟩, fun ⟨h₁, h₂, h₃⟩ => ⟨h₁, h₂, h₃⟩⟩

instance (name : String) : Decidable (IsLettered name) :=
  decidable_of_iff' _ isLettered_iff

theorem capitalized_lower {w : List Char} (h : ∀ c ∈ w, c.val < 128) :
    capitalized (lower w) = hump (w.map Char.toLower) := by
  rw [lower_of_ascii h]
  cases w with
  | nil => rfl
  | cons c w =>
    rw [List.map_cons, capitalized, upperChar_of_ascii (toLower_lt (h c List.mem_cons_self))]
    rfl

theorem foldl_addWord {ws : List (List Char)} (h : ∀ w ∈ ws, ∀ c ∈ w, c.val < 128) {before : List Char}
    (hne : before ≠ []) :
    ws.foldl addWord before = before ++ ((ws.map (·.map Char.toLower)).map hump).flatten := by
  induction ws generalizing before with
  | nil => simp
  | cons w ws ih =>
    rw [List.forall_mem_cons] at h
    have hadd : addWord before w = before ++ hump (w.map Char.toLower) := by
      rw [addWord, if_neg (by simpa using hne), capitalized_lower h.1]
    rw [List.foldl_cons, hadd, ih h.2 (by simp [hne]), List.map_cons, List.map_cons, List.flatten_cons,
      List.append_assoc]

theorem camelChars_eq {name : String} (h : ∀ c ∈ name.toList, c.val < 128) :
    camelChars name.toList = (joined (spelling name)).flatten := by
  have hword : ∀ w ∈ words name.toList, w ≠ [] ∧ ∀ c ∈ w, c.val < 128 :=
    fun w hw => ⟨(of_mem_words hw).1, fun c hc => h c ((of_mem_words hw).2 c hc).1⟩
  rw [camelChars, spelling, ← words_eq]
  cases hs : words name.toList with
  | nil => rfl
  | cons w ws =>
    rw [hs, List.forall_mem_cons] at hword
    have hadd : addWord [] w = w.map Char.toLower := lower_of_ascii hword.1.2
    rw [List.foldl_cons, hadd, foldl_addWord (fun v hv => (hword.2 v hv).2) (by simpa using hword.1.1)]
    rfl

namespace IsLettered
variable {name : String}

theorem joinable (h : IsLettered name) : Joinable (spelling name) where
  ne_nil := by
    rw [spelling, ← words_eq, List.forall_mem_map]
    intro w hw
    simpa using (of_mem_words hw).1
  small := by
    rw [spelling, ← words_eq, List.forall_mem_map]
    intro w hw
    rw [List.forall_mem_map]
    intro c hc
    obtain ⟨hmem, hne⟩ := (of_mem_words hw).2 c hc
    obtain ⟨hsmall, hkept, -⟩ := toLower_of_ascii (h.ascii c hmem)
    exact ⟨hsmall, hkept hne⟩
  letters := by
    rw [spelling, ← List.map_tail, List.forall_mem_map]
    intro w hw c hc
    rw [List.head?_map] at hc
    obtain ⟨d, hd, rfl⟩ := Option.map_eq_some_iff.1 hc
    have hletter := h.letters w hw d hd
    rw [(toLower_of_ascii (lt_of_isAlpha hletter)).2.2]
    exact hletter

theorem toList_camelCase (h : IsLettered name) : (camelCase name).toList = (joined (spelling name)).flatten := by
  have hne : camelChars name.toList ≠ [] := by
    rw [camelChars_eq h.ascii]
    intro hnil
    cases hs : spelling name with
    | nil =>
      obtain ⟨c, hc, hunderscore⟩ := h.spelled
      rw [spelling, List.map_eq_nil_iff, ← words_eq] at hs
      exact hunderscore (words_eq_nil_iff.1 hs c hc)
    | cons w ws =>
      rw [hs, joined, List.flatten_cons, List.append_eq_nil_iff] at hnil
      exact h.joinable.ne_nil w (hs ▸ List.mem_cons_self) hnil.1
  rw [camelCase, if_neg (by simpa using hne), String.toList_ofList, camelChars_eq h.ascii]

/-- Cut before its capitals, a name in camel case spells the words that it was made from. -/
theorem humps_camelCase (h : IsLettered name) :
    (humps (camelCase name).toList).map (·.map Char.toLower) = spelling name := by
  rw [h.toList_camelCase, humps_joined h.joinable, toLower_joined h.joinable]

end IsLettered

/-- Two names have the same camel case exactly if they spell the same words: these can be read off it by a cut before
each capital, and it has no underscore left. -/
theorem camelCase_eq_iff {a b : String} (ha : IsLettered a) (hb : IsLettered b) :
    (camelCase a = camelCase b ↔ spelling a = spelling b) ∧
      (humps (camelCase a).toList).map (·.map Char.toLower) = spelling a ∧ '_' ∉ (camelCase a).toList := by
  refine ⟨⟨fun h => ?_, fun h => ?_⟩, ha.humps_camelCase, ?_⟩
  · rw [← ha.humps_camelCase, h, hb.humps_camelCase]
  · rw [← String.toList_inj, ha.toList_camelCase, hb.toList_camelCase, h]
  · rw [ha.toList_camelCase]
    exact underscore_not_mem_joined ha.joinable

theorem camelCase_eq_iff_roomKey : IsLettered "_2ND__Room_iD9_" ∧ IsLettered "2nd_ROOM_id9" ∧
    camelCase "_2ND__Room_iD9_" = camelCase "2nd_ROOM_id9" ∧
    (humps (camelCase "_2ND__Room_iD9_").toList).map (·.map Char.toLower) =
      [['2', 'n', 'd'], ['r', 'o', 'o', 'm'], ['i', 'd', '9']] ∧
    '_' ∉ (camelCase "_2ND__Room_iD9_").toList := by
  have ha : IsLettered "_2ND__Room_iD9_" := by decide +kernel
  have hb : IsLettered "2nd_ROOM_id9" := by decide +kernel
  obtain ⟨hiff, hhumps, hunderscore⟩ := camelCase_eq_iff ha hb
  exact ⟨ha, hb, hiff.2 (by decide +kernel), hhumps.trans (by decide +kernel), hunderscore⟩

end TypedSql.Text
