import TypedSql.Proofs.Statement.Template
import Mathlib.Data.List.Forall2

/-!
# The grammar of WHERE clauses

* `Predicate` : a comparison of a field, or alternatives in parentheses;
* `Derives s p`, `Separated sep s ps` : the grammar, `s` being the text of `p`, or of `ps` with `sep` between them;
* `Derives.unique`, `Separated.unique` : what stands at the start of a text is determined by the text;
* `Condition.skeleton` : a condition without its values;
* `Statement.whereClause_iff_skeleton` : a WHERE clause derives from its skeleton alone.
-/

namespace TypedSql

/-- A comparison of a field, or alternatives in parentheses. -/
inductive Predicate where
  | leaf (field : String) (operator : Operator)
  | group (alternatives : List Predicate)

namespace Predicate

/-! ## The grammar -/

/-- A field: a word without blanks, parentheses and question marks. -/
def IsWord (s : List Char) : Prop :=
  s ≠ [] ∧ ∀ c ∈ s, Text.isBlank c = false ∧ c ≠ '(' ∧ c ≠ ')' ∧ c ≠ '?'

instance (s : List Char) : Decidable (IsWord s) :=
  @instDecidableAnd _ _ inferInstance (List.decidableBAll _ s)

mutual
/-- The texts of a predicate. -/
inductive Derives : List Char → Predicate → Prop where
  | compare {field : String} {operator : Operator} (hf : IsWord field.toList) (ho : operator ≠ .between) :
      Derives (field.toList ++ ' ' :: operator.sql.toList ++ " ?".toList) (leaf field operator)
  | between {field : String} (hf : IsWord field.toList) :
      Derives (field.toList ++ " BETWEEN ? AND ?".toList) (leaf field .between)
  | group {s : List Char} {ps : List Predicate} (h : Separated " OR " s ps) : Derives ('(' :: s ++ [')']) (group ps)

/-- The texts of one predicate or more with a separator between them. -/
inductive Separated : String → List Char → List Predicate → Prop where
  | one {sep : String} {s : List Char} {p : Predicate} (h : Derives s p) : Separated sep s [p]
  | more {sep : String} {s t : List Char} {p : Predicate} {ps : List Predicate} (h : Derives s p)
      (ht : Separated sep t ps) : Separated sep (s ++ sep.toList ++ t) (p :: ps)
end

/-- The texts of a clause. -/
abbrev Clause : List Char → List Predicate → Prop :=
  Separated " AND "

/-! ## Unique decomposition -/

theorem append_cons_inj {c : Char} {s t x y : List Char} (hs : c ∉ s) (ht : c ∉ t) (h : s ++ c :: x = t ++ c :: y) :
    s = t ∧ x = y := by
  induction s generalizing t with
  | nil =>
    cases t with
    | nil => exact ⟨rfl, (List.cons.inj h).2⟩
    | cons d t =>
      obtain ⟨rfl, -⟩ := List.cons.inj h
      exact absurd (List.mem_cons_self) ht
  | cons d s ih =>
    cases t with
    | nil =>
      obtain ⟨rfl, -⟩ := List.cons.inj h
      exact absurd (List.mem_cons_self) hs
    | cons e t =>
      obtain ⟨rfl, htail⟩ := List.cons.inj h
      obtain ⟨rfl, rfl⟩ :=
        ih (fun hm => hs (List.mem_cons_of_mem _ hm)) (fun hm => ht (List.mem_cons_of_mem _ hm)) htail
      exact ⟨rfl, rfl⟩

theorem IsWord.space_not_mem {s : List Char} (h : IsWord s) : ' ' ∉ s :=
  fun hm => absurd (h.2 ' ' hm).1 (by decide)

/-- What stands behind an operator. -/
def places : Operator → String
  | .between => "? AND ?"
  | _ => "?"

/-- A comparison is its field and its operator, each up to the next space, and the places of its values. -/
theorem derives_leaf {s : List Char} {field : String} {operator : Operator} (h : Derives s (leaf field operator)) :
    IsWord field.toList ∧ s = field.toList ++ ' ' :: (operator.sql.toList ++ ' ' :: (places operator).toList) := by
  cases h with
  | compare hf ho =>
    refine ⟨hf, ?_⟩
    cases operator with
    | between => exact absurd rfl ho
    | _ => simp [places]
  | between hf => exact ⟨hf, by simp [places, Operator.sql]⟩

theorem space_not_mem_sql (o : Operator) : ' ' ∉ o.sql.toList := by
  cases o <;> decide

theorem sql_inj {o o' : Operator} (h : o.sql.toList = o'.sql.toList) : o = o' := by
  cases o <;> cases o' <;> first | rfl | exact absurd h (by decide)

theorem leaf_unique {s s' r r' : List Char} {field field' : String} {o o' : Operator}
    (h : Derives s (leaf field o)) (h' : Derives s' (leaf field' o')) (e : s ++ r = s' ++ r') :
    field = field' ∧ o = o' ∧ r = r' := by
  obtain ⟨hf, rfl⟩ := derives_leaf h
  obtain ⟨hf', rfl⟩ := derives_leaf h'
  rw [List.append_assoc, List.append_assoc, List.cons_append, List.cons_append] at e
  obtain ⟨hfield, e⟩ := append_cons_inj hf.space_not_mem hf'.space_not_mem e
  rw [List.append_assoc, List.append_assoc, List.cons_append, List.cons_append] at e
  obtain ⟨ho, e⟩ := append_cons_inj (space_not_mem_sql o) (space_not_mem_sql o') e
  obtain rfl := sql_inj ho
  exact ⟨String.toList_inj.1 hfield, rfl, List.append_cancel_left e⟩

/-- A comparison does not start with a parenthesis. -/
theorem leaf_ne_group {s r t : List Char} {field : String} {o : Operator} (h : Derives s (leaf field o)) :
    s ++ r ≠ '(' :: t := by
  obtain ⟨⟨hne, hc⟩, rfl⟩ := derives_leaf h
  intro e
  cases hs : field.toList with
  | nil => exact hne hs
  | cons c cs =>
    rw [hs] at e hc
    obtain ⟨rfl, -⟩ := List.cons.inj e
    exact (hc '(' (by simp)).2.1 rfl

mutual
/-- A predicate at the start of a text is determined by the text. -/
theorem Derives.unique : ∀ (p : Predicate) {p' : Predicate} {s s' r r' : List Char}, Derives s p → Derives s' p' →
    s ++ r = s' ++ r' → p = p' ∧ r = r'
  | .leaf field o, p', s, s', r, r', h, h', e => by
    cases p' with
    | leaf field' o' =>
      obtain ⟨rfl, rfl, rfl⟩ := leaf_unique h h' e
      exact ⟨rfl, rfl⟩
    | group ps' =>
      cases h'
      exact absurd e (leaf_ne_group h)
  | .group ps, p', s, s', r, r', h, h', e => by
    cases h with
    | group h =>
      cases p' with
      | leaf field' o' => exact absurd e.symm (leaf_ne_group h')
      | group ps' =>
        cases h' with
        | group h' =>
          rw [List.cons_append, List.cons_append, List.append_assoc, List.append_assoc] at e
          -- a closing parenthesis continues no list of alternatives
          have hne : ∀ u : List Char, ¬ " OR ".toList <+: [')'] ++ u := by
            rintro u ⟨t, ht⟩
            change ' ' :: _ = ')' :: _ at ht
            exact absurd (List.cons.inj ht).1 (by decide)
          obtain ⟨rfl, hr⟩ := Separated.unique ps h h' (hne r) (hne r') (List.cons.inj e).2
          exact ⟨rfl, (List.cons.inj hr).2⟩

/-- So are predicates with separators, when what follows does not continue them. -/
theorem Separated.unique : ∀ (ps : List Predicate) {ps' : List Predicate} {sep : String} {s s' r r' : List Char},
    Separated sep s ps → Separated sep s' ps' → ¬ sep.toList <+: r → ¬ sep.toList <+: r' → s ++ r = s' ++ r' →
    ps = ps' ∧ r = r'
  | [], _, _, _, _, _, _, h, _, _, _, _ => nomatch h
  | p :: ps, ps', sep, s, s', r, r', h, h', hr, hr', e => by
    cases h with
    | one h =>
      cases h' with
      | one h' =>
        obtain ⟨rfl, rfl⟩ := Derives.unique p h h' e
        exact ⟨rfl, rfl⟩
      | more h' ht' =>
        rw [List.append_assoc, List.append_assoc] at e
        obtain ⟨-, rfl⟩ := Derives.unique p h h' e
        exact absurd (List.prefix_append _ _) hr
    | more h ht =>
      rw [List.append_assoc, List.append_assoc] at e
      cases h' with
      | one h' =>
        obtain ⟨-, rfl⟩ := Derives.unique p h h' e
        exact absurd (List.prefix_append _ _) hr'
      | more h' ht' =>
        rw [List.append_assoc, List.append_assoc] at e
        obtain ⟨rfl, e⟩ := Derives.unique p h h' e
        obtain ⟨rfl, rfl⟩ := Separated.unique ps ht ht' hr hr' (List.append_cancel_left e)
        exact ⟨rfl, rfl⟩
end

theorem Clause.unique {s : List Char} {ps qs : List Predicate} (h : Clause s ps) (h' : Clause s qs) : ps = qs := by
  have hnil : ¬ " AND ".toList <+: [] := by
    rintro ⟨t, ht⟩
    change ' ' :: _ = [] at ht
    cases ht
  exact (Separated.unique ps h h' hnil hnil rfl).1

/-! ## Built clauses -/

/-- The texts of several predicates. -/
abbrev DerivesAll (ss : List String) (ps : List Predicate) : Prop :=
  List.Forall₂ (fun s p => Derives s.toList p) ss ps

theorem DerivesAll.separated {ss : List String} {ps : List Predicate} (h : DerivesAll ss ps) (hne : ss ≠ [])
    (sep : String) : Separated sep (String.intercalate sep ss).toList ps := by
  rw [String.toList_intercalate]
  induction h with
  | nil => exact absurd rfl hne
  | @cons s p ss ps hs hss ih =>
    cases hss with
    | nil => simpa [List.intercalate] using Separated.one hs
    | @cons t q ts qs ht hts =>
      have hrest := ih (by simp)
      rw [List.map_cons, List.map_cons, List.intercalate_cons_cons, ← List.map_cons]
      exact Separated.more hs hrest

end Predicate

open Predicate

mutual
/-- A condition without its values. -/
def Condition.skeleton : Condition → Predicate
  | compare c => .leaf (c.field.getD "") (c.operator.getD .equals)
  | anyOf cs => .group (skeletons cs)

/-- Several conditions without their values. -/
def Condition.skeletons : List Condition → List Predicate
  | [] => []
  | c :: cs => skeleton c :: skeletons cs
end

theorem Comparison.derives_of_build {c : Comparison} {sql : String} (h : c.build = .ok sql)
    (hw : ∀ field ∈ c.field, IsWord field.toList) :
    Derives sql.toList (.leaf (c.field.getD "") (c.operator.getD .equals)) := by
  unfold build at h
  cases hd : c.complete with
  | error e => rw [hd] at h; cases h
  | ok d =>
    rw [hd] at h
    cases h
    obtain ⟨hf, -, ho, -⟩ := complete_eq_ok hd
    have hword := hw d.field hf
    rw [hf, ho, Option.getD_some, Option.getD_some, Complete.sql]
    by_cases hb : d.operator = .between
    · rw [hb]
      simpa using Derives.between hword
    · have hsql := Derives.compare hword hb
      cases hop : d.operator with
      | between => exact absurd hop hb
      | _ => simpa [hop, Operator.sql] using hsql

mutual
theorem Condition.derives_of_build : ∀ (c : Condition) {sql : String}, c.build = .ok sql →
    (∀ field ∈ c.fields, IsWord field.toList) → Derives sql.toList c.skeleton
  | .compare c, sql, h, hw => by
    rw [Condition.build] at h
    rw [Condition.fields] at hw
    exact c.derives_of_build h fun field hf => hw field (by simpa using hf)
  | .anyOf [], sql, h, hw => by
    rw [Condition.build] at h
    cases h
  | .anyOf (c :: cs), sql, h, hw => by
    rw [Condition.build] at h
    rw [Condition.fields] at hw
    obtain ⟨first, h1, h⟩ := bind_eq_ok h
    obtain ⟨rest, h2, h⟩ := bind_eq_ok h
    cases h
    have hall : DerivesAll (first :: rest) (skeletons (c :: cs)) :=
      List.Forall₂.cons (derives_of_build c h1 fun field hf => hw field (by simp [fieldsAll, hf]))
        (derives_of_buildAll cs h2 fun field hf => hw field (by simp [fieldsAll, hf]))
    have hjoined := hall.separated (by simp) " OR "
    rw [Condition.skeleton, String.toList_append, String.toList_append]
    exact Derives.group hjoined

theorem Condition.derives_of_buildAll : ∀ (cs : List Condition) {sqls : List String}, buildAll cs = .ok sqls →
    (∀ field ∈ fieldsAll cs, IsWord field.toList) → DerivesAll sqls (skeletons cs)
  | [], sqls, h, hw => by
    cases h
    exact List.Forall₂.nil
  | c :: cs, sqls, h, hw => by
    rw [buildAll] at h
    obtain ⟨first, h1, h⟩ := bind_eq_ok h
    obtain ⟨rest, h2, h⟩ := bind_eq_ok h
    cases h
    exact List.Forall₂.cons (derives_of_build c h1 fun field hf => hw field (by simp [fieldsAll, hf]))
      (derives_of_buildAll cs h2 fun field hf => hw field (by simp [fieldsAll, hf]))
end

namespace Statement

/-- What a WHERE clause says of its rows: an equality for each field, then the conditions. -/
def skeleton (fields : List String) (conditions : List Condition) : List Predicate :=
  fields.map (.leaf · .equals) ++ Condition.skeletons conditions

theorem derivesAll_equalities {fields : List String} (hw : ∀ field ∈ fields, IsWord field.toList) :
    DerivesAll (fields.map (· ++ " = ?")) (fields.map (.leaf · .equals)) := by
  induction fields with
  | nil => exact List.Forall₂.nil
  | cons field fields ih =>
    refine List.Forall₂.cons ?_ (ih fun f hf => hw f (List.mem_cons_of_mem field hf))
    have hsql := Derives.compare (hw field (by simp)) (show Operator.equals ≠ .between by decide)
    simpa [Operator.sql] using hsql

theorem clause_of_whereClause? {fields : List String} {conditions : List Condition} {text : String}
    (hf : ∀ field ∈ fields, IsWord field.toList) (hc : ∀ field ∈ Condition.fieldsAll conditions, IsWord field.toList)
    (h : whereClause? fields conditions = .ok (some (" WHERE " ++ text))) :
    Clause text.toList (skeleton fields conditions) := by
  obtain ⟨built, hb, hclause⟩ := whereClause?_eq_ok h
  have hall : DerivesAll (fields.map (· ++ " = ?") ++ built) (skeleton fields conditions) :=
    List.rel_append (derivesAll_equalities hf) (Condition.derives_of_buildAll conditions hb hc)
  unfold clauseOf? at hclause
  split at hclause
  · cases hclause
  · next hne =>
    have htext : text = String.intercalate " AND " (fields.map (· ++ " = ?") ++ built) := by
      have h := congrArg String.toList (Option.some.inj hclause)
      rw [String.toList_append, String.toList_append] at h
      exact String.toList_inj.1 (List.append_cancel_left h)
    rw [htext]
    exact hall.separated (by simpa using hne) " AND "

/-- A WHERE clause has one reading, the predicates of its data and conditions in their order; so two clauses with
one text have the same predicates. -/
theorem whereClause_iff_skeleton {d : DataMap} {conditions : List Condition} {text : String}
    (hf : ∀ field ∈ d.fields, IsWord field.toList) (hc : ∀ field ∈ Condition.fieldsAll conditions, IsWord field.toList)
    (h : whereClause? d.fields conditions = .ok (some (" WHERE " ++ text))) :
    (∀ ps, Clause text.toList ps ↔ ps = skeleton d.fields conditions) ∧
      ∀ (e : DataMap) (others : List Condition), (∀ field ∈ e.fields, IsWord field.toList) →
        (∀ field ∈ Condition.fieldsAll others, IsWord field.toList) →
        whereClause? e.fields others = .ok (some (" WHERE " ++ text)) →
        skeleton e.fields others = skeleton d.fields conditions := by
  have hread := clause_of_whereClause? hf hc h
  refine ⟨fun ps => ⟨fun hps => hps.unique hread, fun hps => hps ▸ hread⟩, ?_⟩
  intro e others hef hoc he
  exact (clause_of_whereClause? hef hoc he).unique hread

/-- A filter by one field, a group of one alternative within another group, and a range. -/
def nestedFilter : DataMap × List Condition :=
  (.ofList [("id", .bool true)],
    [.anyOf [.anyOf [.of .less "a" (.bool true)], .of .equals "b" (.text "x")],
      .range "c" (.text "y") (.text "z")])

theorem whereClause_iff_skeleton_nestedFilter :
    (∀ field ∈ nestedFilter.1.fields, IsWord field.toList) ∧
      (∀ field ∈ Condition.fieldsAll nestedFilter.2, IsWord field.toList) ∧
      whereClause? nestedFilter.1.fields nestedFilter.2 =
        .ok (some (" WHERE " ++ "id = ? AND ((a < ?) OR b = ?) AND c BETWEEN ? AND ?")) ∧
      ∀ ps, Clause "id = ? AND ((a < ?) OR b = ?) AND c BETWEEN ? AND ?".toList ps ↔
        ps = [.leaf "id" .equals, .group [.group [.leaf "a" .less], .leaf "b" .equals], .leaf "c" .between] := by
  have hf : ∀ field ∈ nestedFilter.1.fields, IsWord field.toList := by decide
  have hc : ∀ field ∈ Condition.fieldsAll nestedFilter.2, IsWord field.toList := by decide
  have hb : whereClause? nestedFilter.1.fields nestedFilter.2 =
      .ok (some (" WHERE " ++ "id = ? AND ((a < ?) OR b = ?) AND c BETWEEN ? AND ?")) := by decide
  exact ⟨hf, hc, hb, (whereClause_iff_skeleton hf hc hb).1⟩

end Statement

end TypedSql
