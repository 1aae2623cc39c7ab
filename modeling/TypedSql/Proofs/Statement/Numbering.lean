import Mathlib.Data.List.Infix
import TypedSql.Proofs.Placeholder.Passing
import TypedSql.Proofs.Statement.Template
import TypedSql.Server

/-!
# The numbers of the placeholders of a built statement

* `Neutral s` : `s` is made of closed quotes and of runs without placeholders, dollars and openings of comments;
* `Neutral.passiveApart` : a neutral text is passed over, unless its end and what follows open a comment;
* `Scanned t rest` : in a marked template, the scan finds the places of the values and no other placeholder;
* `Statement.numbered_of_build` : a statement with neutral names is numbered at the places of its values.
-/

namespace TypedSql

namespace Placeholder

/-! ## Neutral texts -/

/-- A quote up to the next mark of its kind. -/
def IsQuote (s : List Char) : Prop :=
  ∃ q body, (q = '\x27' ∨ q = '"') ∧ q ∉ body ∧ s = q :: body ++ [q]

/-- No quotes, no placeholders, no dollars, and no opening of a comment. -/
def IsPlain (s : List Char) : Prop :=
  (∀ c ∈ s, c ≠ '\x27' ∧ c ≠ '"' ∧ c ≠ '?' ∧ c ≠ '$') ∧ ¬ ['-', '-'] <:+: s ∧ ¬ ['/', '*'] <:+: s

instance (s : List Char) : Decidable (IsPlain s) :=
  @instDecidableAnd _ _ (List.decidableBAll _ s) inferInstance

/-- Closed quotes and plain runs, each run as long as can be. -/
inductive Neutral : List Char → Prop where
  | nil : Neutral []
  | quote {s t : List Char} (hs : IsQuote s) (ht : Neutral t) : Neutral (s ++ t)
  | run {s t : List Char} (hs : IsPlain s) (hmax : ∀ c ∈ t.head?, c = '\x27' ∨ c = '"') (ht : Neutral t) :
      Neutral (s ++ t)

theorem IsPlain.neutral {s : List Char} (hs : IsPlain s) : Neutral s :=
  s.append_nil ▸ .run hs (by simp) .nil

theorem IsQuote.neutral {s : List Char} (hs : IsQuote s) : Neutral s :=
  s.append_nil ▸ .quote hs .nil

/-! ## Neutral texts are passed over -/

theorem IsQuote.passive {s : List Char} (hs : IsQuote s) : Passive s := by
  obtain ⟨q, body, hq, hb, rfl⟩ := hs
  exact passes_quote hq hb

/-- The scan goes on after a plain run, unless its end and what follows open a comment. -/
theorem IsPlain.passes {s rest : List Char} (hs : IsPlain s)
    (hline : s.getLast? = some '-' → rest.head? ≠ some '-') (hblock : s.getLast? = some '/' → rest.head? ≠ some '*') :
    Passes s rest := by
  induction s with
  | nil => exact Passes.nil rest
  | cons c s ih =>
    obtain ⟨hc, hl, hb⟩ := hs
    have htail : IsPlain s := by
      refine ⟨fun d hd => hc d (List.mem_cons_of_mem c hd), ?_, ?_⟩
      · exact fun h => hl (h.trans (List.suffix_cons c s).isInfix)
      · exact fun h => hb (h.trans (List.suffix_cons c s).isInfix)
    have hnext : next c (s ++ rest) = (.other c, s ++ rest) := by
      refine next_other (hc c (by simp)) ?_ ?_
      · rintro rfl
        cases s with
        | nil => exact hline rfl
        | cons d s =>
          rintro ⟨⟩
          exact hl ⟨[], s, rfl⟩
      · rintro rfl
        cases s with
        | nil => exact hblock rfl
        | cons d s =>
          rintro ⟨⟩
          exact hb ⟨[], s, rfl⟩
    have hrest : Passes s rest := by
      cases s with
      | nil => exact Passes.nil rest
      | cons d s => exact ih htail hline hblock
    exact (passes_other hnext).append hrest

/-- A text that does not continue what a dash or a slash before it may open. -/
def Apart (rest : List Char) : Prop :=
  rest.head? ≠ some '-' ∧ rest.head? ≠ some '*'

instance (rest : List Char) : Decidable (Apart rest) := by
  unfold Apart; infer_instance

/-- The scan passes over `s` before every text that keeps apart. -/
def PassiveApart (s : List Char) : Prop :=
  ∀ rest, Apart rest → Passes s rest

theorem Neutral.passiveApart {s : List Char} (hs : Neutral s) : PassiveApart s := by
  induction hs with
  | nil => exact fun rest _ => Passes.nil rest
  | quote hq ht ih => exact fun rest hr => (hq.passive _).append (ih rest hr)
  | @run s t hp hmax ht ih =>
    intro rest hr
    have hapart : Apart (t ++ rest) := by
      cases t with
      | nil => exact hr
      | cons c t => rcases hmax c (by simp) with rfl | rfl <;> simp [Apart]
    exact (hp.passes (fun _ => hapart.1) (fun _ => hapart.2)).append (ih rest hr)

/-- A plain run that neither ends what stands before it in a comment nor opens one with what stands after it. -/
def IsSeparator (s : List Char) : Prop :=
  IsPlain s ∧ s ≠ [] ∧ Apart s ∧ s.getLast? ≠ some '-' ∧ s.getLast? ≠ some '/'

instance (s : List Char) : Decidable (IsSeparator s) := by
  unfold IsSeparator; infer_instance

theorem IsPlain.passive {s : List Char} (hs : IsPlain s) (hline : s.getLast? ≠ some '-')
    (hblock : s.getLast? ≠ some '/') : Passive s :=
  fun _ => hs.passes (fun h => absurd h hline) (fun h => absurd h hblock)

theorem IsSeparator.passive {s : List Char} (hs : IsSeparator s) : Passive s :=
  hs.1.passive hs.2.2.2.1 hs.2.2.2.2

theorem IsSeparator.apart_append {s : List Char} (hs : IsSeparator s) (rest : List Char) : Apart (s ++ rest) := by
  cases s with
  | nil => exact absurd rfl hs.2.1
  | cons c s => exact hs.2.2.1

theorem PassiveApart.append {s t : List Char} (hs : PassiveApart s) (ht : IsSeparator t) : Passive (s ++ t) :=
  fun rest => (hs _ (ht.apart_append rest)).append (ht.passive rest)

theorem Passive.append_apart {s t : List Char} (hs : Passive s) (ht : PassiveApart t) : PassiveApart (s ++ t) :=
  fun rest hr => (hs (t ++ rest)).append (ht rest hr)

/-- Texts with commas between them. -/
theorem passiveApart_intercalate {texts : List String} (h : ∀ s ∈ texts, PassiveApart s.toList) :
    PassiveApart (String.intercalate "," texts).toList := by
  rw [String.toList_intercalate]
  induction texts with
  | nil => exact fun rest _ => Passes.nil rest
  | cons a texts ih =>
    have ha : PassiveApart a.toList := h a (by simp)
    cases texts with
    | nil => simpa [List.intercalate] using ha
    | cons b texts =>
      rw [List.map_cons, List.map_cons, List.intercalate_cons_cons, ← List.map_cons]
      exact (ha.append (by decide)).append_apart (ih fun s hs => h s (List.mem_cons_of_mem a hs))

/-! ## Templates -/

/-- The scan of a marked template before `rest` finds the places of its values and no other placeholder. -/
def Scanned (t : Template) (rest : List Char) : Prop :=
  ∃ gs, segments (t.marked ++ rest) = gs ++ segments rest ∧ slotCount gs = t.values.length ∧
    ∀ n hs, render n (gs ++ hs) = t.numbered n ++ render (n + t.values.length) hs

theorem Scanned.nil (rest : List Char) : Scanned [] rest :=
  ⟨[], rfl, rfl, fun _ _ => rfl⟩

theorem Scanned.text {s : List Char} {t : Template} {rest : List Char} (hs : Passes s (t.marked ++ rest))
    (ht : Scanned t rest) : Scanned (.text s :: t) rest := by
  obtain ⟨gs, hgs, rfl, hseg⟩ := hs
  obtain ⟨hs, hseg', hcount, hrender⟩ := ht
  refine ⟨gs ++ hs, ?_, ?_, ?_⟩
  · rw [Template.marked, List.append_assoc, hseg, hseg', List.append_assoc]
  · rw [slotCount, List.count_append, List.count_eq_zero.2 hgs, Nat.zero_add]
    exact hcount
  · intro n ks
    rw [List.append_assoc, render_append_of_not_mem hgs, hrender, Template.numbered, List.append_assoc]
    rfl

theorem Scanned.slot (v : Value) {t : Template} {rest : List Char} (ht : Scanned t rest) :
    Scanned (.slot v :: t) rest := by
  obtain ⟨gs, hseg, hcount, hrender⟩ := ht
  refine ⟨.slot :: gs, ?_, ?_, ?_⟩
  · rw [Template.marked, List.cons_append, segments]
    exact congrArg (Segment.slot :: ·) hseg
  · rw [slotCount, List.count_cons_self]
    exact congrArg (· + 1) hcount
  · intro n hs
    rw [List.cons_append, render, hrender, Template.numbered, Template.values, List.length_cons, List.append_assoc,
      show n + 1 + t.values.length = n + (t.values.length + 1) by omega]

/-- Every text of the template is passed over whatever follows it. -/
def PassiveTexts (t : Template) : Prop :=
  ∀ s, .text s ∈ t → Passive s

theorem PassiveTexts.nil : PassiveTexts [] := by
  intro s hs
  cases hs

theorem PassiveTexts.text {s : List Char} {t : Template} (hs : Passive s) (ht : PassiveTexts t) :
    PassiveTexts (.text s :: t) := by
  intro u hu
  rcases List.mem_cons.1 hu with h | h
  · cases h
    exact hs
  · exact ht u h

theorem PassiveTexts.slot (v : Value) {t : Template} (ht : PassiveTexts t) : PassiveTexts (.slot v :: t) := by
  intro s hs
  rcases List.mem_cons.1 hs with h | h
  · cases h
  · exact ht s h

theorem PassiveTexts.append {t u : Template} (ht : PassiveTexts t) (hu : PassiveTexts u) : PassiveTexts (t ++ u) := by
  intro s hs
  rcases List.mem_append.1 hs with h | h
  · exact ht s h
  · exact hu s h

theorem PassiveTexts.joined (sep : String) (hsep : Passive sep.toList) {ts : List Template}
    (h : ∀ t ∈ ts, PassiveTexts t) : PassiveTexts (Template.joined sep ts) := by
  intro s hs
  induction ts with
  | nil => simp [Template.joined, List.intercalate] at hs
  | cons t ts ih =>
    cases ts with
    | nil => exact h t (by simp) s (by simpa [Template.joined, List.intercalate] using hs)
    | cons u ts =>
      rw [Template.joined_cons_cons, List.mem_append, List.mem_cons] at hs
      rcases hs with hs | hs | hs
      · exact h t (by simp) s hs
      · cases hs
        exact hsep
      · exact ih (fun w hw => h w (List.mem_cons_of_mem t hw)) hs

theorem PassiveTexts.scanned {t : Template} (ht : PassiveTexts t) (rest : List Char) : Scanned t rest := by
  induction t with
  | nil => exact Scanned.nil rest
  | cons p t ih =>
    have htail := ih fun s hs => ht s (List.mem_cons_of_mem p hs)
    cases p with
    | text s => exact Scanned.text (ht s (by simp) _) htail
    | slot v => exact Scanned.slot v htail

end Placeholder

open Placeholder

/-! ## Conditions and statements -/

theorem passiveTexts_leaf {field : String} (hf : Neutral field.toList) (v : Value) {operator : String}
    (ho : IsSeparator operator.toList) {t : Template} (ht : PassiveTexts t) :
    PassiveTexts (.text (field ++ operator).toList :: .slot v :: t) := by
  refine PassiveTexts.text ?_ (PassiveTexts.slot v ht)
  rw [String.toList_append]
  exact hf.passiveApart.append ho

theorem Comparison.passiveTexts {c : Comparison} (h : ∀ field ∈ c.field, Neutral field.toList) :
    PassiveTexts c.template := by
  have hf : Neutral (c.field.getD "").toList := by
    cases hc : c.field with
    | none => exact Neutral.nil
    | some field => exact h field hc
  unfold template
  cases c.operator with
  | none => exact PassiveTexts.nil
  | some operator =>
    cases operator with
    | between =>
      exact passiveTexts_leaf hf _ (by decide)
        (PassiveTexts.text (IsSeparator.passive (by decide)) (PassiveTexts.slot _ PassiveTexts.nil))
    | _ =>
      dsimp only
      rw [String.append_assoc, String.append_assoc]
      exact passiveTexts_leaf hf _ (by decide) PassiveTexts.nil

mutual
theorem Condition.passiveTexts : ∀ (c : Condition), (∀ field ∈ c.fields, Neutral field.toList) →
    PassiveTexts c.template
  | .compare c, h => by
    rw [Condition.fields] at h
    rw [Condition.template]
    exact c.passiveTexts fun field hf => h field (by simpa using hf)
  | .anyOf cs, h => by
    rw [Condition.fields] at h
    rw [Condition.template]
    have hjoined := PassiveTexts.joined " OR " (IsSeparator.passive (by decide)) (passiveTexts_all cs h)
    have hclose : PassiveTexts [.text [')']] := PassiveTexts.text (IsSeparator.passive (by decide)) PassiveTexts.nil
    exact PassiveTexts.text (IsSeparator.passive (by decide)) (hjoined.append hclose)

theorem Condition.passiveTexts_all : ∀ (cs : List Condition), (∀ field ∈ fieldsAll cs, Neutral field.toList) →
    ∀ t ∈ templates cs, PassiveTexts t
  | [], _ => by simp [templates]
  | c :: cs, h => by
    intro t ht
    rw [templates, List.mem_cons] at ht
    rcases ht with rfl | ht
    · exact passiveTexts c fun field hf => h field (by simp [fieldsAll, hf])
    · exact passiveTexts_all cs (fun field hf => h field (by simp [fieldsAll, hf])) t ht
end

theorem DataMap.passiveTexts_equalities {d : DataMap} (h : ∀ field ∈ d.fields, Neutral field.toList) :
    ∀ t ∈ d.equalities, PassiveTexts t := by
  intro t ht
  obtain ⟨p, hp, rfl⟩ := List.mem_map.1 ht
  exact passiveTexts_leaf (h p.1 (List.mem_map_of_mem hp)) p.2 (by decide) PassiveTexts.nil

theorem Column.passiveApart {c : Column} (h : ∀ name ∈ c.names, Neutral name.toList) :
    PassiveApart c.sql.toList := by
  cases c with
  | name expression => exact (h expression (by simp [names])).passiveApart
  | aliased expression label =>
    have he := (h expression (by simp [names])).passiveApart
    have hl := (h label (by simp [names])).passiveApart
    rw [sql, String.toList_append, String.toList_append]
    exact (he.append (by decide)).append_apart hl

namespace Statement

theorem passiveApart_columnText {columns : List Column}
    (h : ∀ name ∈ columns.flatMap Column.names, Neutral name.toList) : PassiveApart (columnText columns).toList := by
  cases columns with
  | nil => exact fun rest _ => IsPlain.passive (by decide) (by decide) (by decide) rest
  | cons c cs =>
    rw [columnText]
    · apply passiveApart_intercalate
      intro s hs
      obtain ⟨d, hd, rfl⟩ := List.mem_map.1 hs
      exact d.passiveApart fun name hn => h name (List.mem_flatMap.2 ⟨d, hd, hn⟩)
    · simp

theorem passiveTexts_whereTemplate {ts : List Template} (h : ∀ t ∈ ts, PassiveTexts t) :
    PassiveTexts (whereTemplate ts) := by
  cases ts with
  | nil => exact PassiveTexts.nil
  | cons t ts =>
    exact PassiveTexts.text (IsSeparator.passive (by decide)) 
      (PassiveTexts.joined " AND " (IsSeparator.passive (by decide)) h)

theorem apart_whereTemplate (ts : List Template) : Apart (whereTemplate ts).marked := by
  cases ts with
  | nil => decide
  | cons t ts => exact IsSeparator.apart_append (s := " WHERE ".toList) (by decide) _

/-- The scan of a marked template finds the places of its values and no other placeholder. -/
theorem scanned_template {s : Statement} (h : ∀ name ∈ s.names, Neutral name.toList) : Scanned s.template [] := by
  have htable : PassiveApart s.options.table.toList := (h s.options.table (by simp [names])).passiveApart
  have hfields : ∀ field ∈ s.options.data.fields, Neutral field.toList :=
    fun field hf => h field (by simp [names, hf])
  have hdata := DataMap.passiveTexts_equalities hfields
  have hconditions := Condition.passiveTexts_all s.options.conditions fun field hf => h field (by simp [names, hf])
  have hpredicates : ∀ t ∈ s.options.data.equalities ++ Condition.templates s.options.conditions, PassiveTexts t := by
    intro t ht
    rcases List.mem_append.1 ht with ht | ht
    · exact hdata t ht
    · exact hconditions t ht
  have hfilter := passiveTexts_whereTemplate hpredicates
  have hcolumns : PassiveApart (columnText s.options.columns).toList :=
    passiveApart_columnText fun name hm =>
      h name (List.mem_append_left _ (List.mem_append_right _ hm))
  unfold template
  cases s.keyword with
  | insert =>
    have hlist := passiveApart_intercalate fun field hf => (hfields field hf).passiveApart
    have hslots : ∀ t ∈ s.options.data.slots, PassiveTexts t := by
      intro t ht
      obtain ⟨p, _, rfl⟩ := List.mem_map.1 ht
      exact PassiveTexts.slot p.2 PassiveTexts.nil
    have hjoined := PassiveTexts.joined "," (IsSeparator.passive (by decide)) hslots
    have hclose : PassiveTexts [.text [')']] := PassiveTexts.text (IsSeparator.passive (by decide)) PassiveTexts.nil
    refine PassiveTexts.scanned (PassiveTexts.text ?_ (hjoined.append hclose)) []
    simp only [String.toList_append]
    have hopen : Passive "INSERT INTO ".toList := IsSeparator.passive (by decide)
    exact (((hopen.append_apart htable).append (by decide)).append_apart hlist).append (by decide)
  | select =>
    refine Scanned.text ?_ (hfilter.scanned [])
    have hopen : Passive "SELECT ".toList := IsSeparator.passive (by decide)
    simp only [String.toList_append, List.append_nil]
    exact ((hopen.append_apart hcolumns).append (by decide)).append_apart htable _ (apart_whereTemplate _)
  | update =>
    have hset := PassiveTexts.joined ", " (IsSeparator.passive (by decide)) hdata
    refine PassiveTexts.scanned ((PassiveTexts.text ?_ hset).append (passiveTexts_whereTemplate hconditions)) []
    have hopen : Passive "UPDATE ".toList := IsSeparator.passive (by decide)
    simp only [String.toList_append]
    exact (hopen.append_apart htable).append (by decide)
  | delete =>
    refine Scanned.text ?_ (hfilter.scanned [])
    have hopen : Passive "DELETE FROM ".toList := IsSeparator.passive (by decide)
    simp only [String.toList_append, List.append_nil]
    exact hopen.append_apart htable _ (apart_whereTemplate _)

/-- A statement with neutral names is numbered at the places of its values: the placeholder with the number `k` stands
where the template has the `k`th value. A server that declares one parameter for each placeholder has each value bound to
the parameter of its number. -/
theorem numbered_of_build {s : Statement} {sql : String} (hn : ∀ name ∈ s.names, Neutral name.toList)
    (h : s.build = .ok sql) :
    s.values = .ok s.template.values ∧ sql.toList = s.template.marked ∧
      (numbered sql).toList = s.template.numbered 1 ∧
      slotCount (segments sql.toList) = s.template.values.length ∧
      ∀ d : Description, d.parameters.length = slotCount (segments sql.toList) →
        bindAll d.types s.template.values = bindFrom 1 (d.types.zip s.template.values) := by
  obtain ⟨hm, hv⟩ := template_of_build h
  obtain ⟨gs, hseg, hcount, hrender⟩ := scanned_template hn
  rw [List.append_nil, segments, List.append_nil] at hseg
  have hslots : slotCount (segments sql.toList) = s.template.values.length := by
    rw [← hm, hseg]
    exact hcount
  refine ⟨hv, hm.symm, ?_, hslots, ?_⟩
  · have hall := hrender 1 []
    rw [List.append_nil, render, List.append_nil] at hall
    rw [numbered, String.toList_ofList, ← hm, hseg, hall]
  · intro d hd
    rw [bindAll, if_pos (by rw [Description.types, List.length_map, hd, hslots])]

/-- An update of a table with a question mark in its quoted name. -/
def quotedUpdate : Statement where
  keyword := .update
  options :=
    { table := "s.\"a?\""
      data := .ofList [("b", .bool true), ("'c?'", .text "x")]
      conditions := [.anyOf [.range "d" (.bool false) (.text "y"), .of .less "e" (.text "z")]] }

theorem numbered_of_build_quotedUpdate :
    (∀ name ∈ quotedUpdate.names, Neutral name.toList) ∧
      quotedUpdate.build = .ok "UPDATE s.\"a?\" SET b = ?, 'c?' = ? WHERE (d BETWEEN ? AND ? OR e < ?)" ∧
      quotedUpdate.template.values = [.bool true, .text "x", .bool false, .text "y", .text "z"] ∧
      (numbered "UPDATE s.\"a?\" SET b = ?, 'c?' = ? WHERE (d BETWEEN ? AND ? OR e < ?)").toList =
        "UPDATE s.\"a?\" SET b = $1, 'c?' = $2 WHERE (d BETWEEN $3 AND $4 OR e < $5)".toList := by
  have hn : ∀ name ∈ quotedUpdate.names, Neutral name.toList := by
    have hnames : quotedUpdate.names = ["s.\"a?\"", "b", "'c?'", "d", "e"] := by decide
    rw [hnames]
    simp only [List.forall_mem_cons, List.not_mem_nil, false_implies, implies_true, and_true]
    refine ⟨?_, IsPlain.neutral (by decide), ?_, IsPlain.neutral (by decide), IsPlain.neutral (by decide)⟩
    · exact .run (s := ['s', '.']) (by decide) (fun c hc => .inr (Option.some.inj hc).symm)
        (IsQuote.neutral ⟨'"', ['a', '?'], by decide⟩)
    · exact IsQuote.neutral ⟨'\x27', ['c', '?'], by decide⟩
  have hb : quotedUpdate.build = .ok "UPDATE s.\"a?\" SET b = ?, 'c?' = ? WHERE (d BETWEEN ? AND ? OR e < ?)" := by
    decide
  have hv : quotedUpdate.template.values = [.bool true, .text "x", .bool false, .text "y", .text "z"] := by decide
  exact ⟨hn, hb, hv, (numbered_of_build hn hb).2.2.1.trans (by decide)⟩

end Statement

end TypedSql
