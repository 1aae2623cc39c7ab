import TypedSql.Proofs.Traversal
import TypedSql.Statement

/-!
# Statements with their values in place

A template is the text of a statement in which each value stands where its placeholder goes.

* `Template.marked`, `Template.numbered` : the text with `?`, or with numbers, for the values;
* `Template.values` : the values, from left to right;
* `Condition.template`, `Statement.template` : the templates of conditions and statements, read off their parts
  alone, without the checks of the builders;
* `Condition.template_of_build`, `Statement.template_of_build` : what is built is the marked template, and the
  values that go with it are the values of the template.
-/

namespace TypedSql

/-- A piece of a statement: text that stands for itself, or the place of a value. -/
inductive Piece where
  | text (s : List Char)
  | slot (v : Value)

/-- A statement with its values in their places. -/
abbrev Template := List Piece

namespace Template

/-! ## Readings of a template -/

/-- The text with a question mark for each value. -/
def marked : Template → List Char
  | [] => []
  | .text s :: t => s ++ marked t
  | .slot _ :: t => '?' :: marked t

/-- The text with the values numbered from `n` on. -/
def numbered (n : Nat) : Template → List Char
  | [] => []
  | .text s :: t => s ++ numbered n t
  | .slot _ :: t => '$' :: Nat.toDigits 10 n ++ numbered (n + 1) t

/-- The values, from left to right. -/
def values : Template → List Value
  | [] => []
  | .text _ :: t => values t
  | .slot v :: t => v :: values t

/-- Several templates with a text between them. -/
def joined (s : String) (ts : List Template) : Template :=
  [.text s.toList].intercalate ts

@[simp] theorem marked_append (t u : Template) : marked (t ++ u) = marked t ++ marked u := by
  induction t with
  | nil => rfl
  | cons p t ih => cases p <;> simp [marked, ih]

@[simp] theorem values_append (t u : Template) : values (t ++ u) = values t ++ values u := by
  induction t with
  | nil => rfl
  | cons p t ih => cases p <;> simp [values, ih]

theorem joined_cons_cons (s : String) (t u : Template) (ts : List Template) :
    joined s (t :: u :: ts) = t ++ .text s.toList :: joined s (u :: ts) := by
  simp [joined, List.intercalate]

theorem marked_joined (s : String) (ts : List Template) :
    marked (joined s ts) = s.toList.intercalate (ts.map marked) := by
  induction ts with
  | nil => rfl
  | cons t ts ih =>
    cases ts with
    | nil => simp [joined, List.intercalate]
    | cons u ts =>
      rw [joined_cons_cons, marked_append, marked, ih, List.map_cons, List.map_cons, List.map_cons,
        List.intercalate_cons_cons]
      simp

theorem values_joined (s : String) (ts : List Template) : values (joined s ts) = ts.flatMap values := by
  induction ts with
  | nil => rfl
  | cons t ts ih =>
    cases ts with
    | nil => simp [joined, List.intercalate]
    | cons u ts => rw [joined_cons_cons, values_append, values, ih, ← List.flatMap_cons]

end Template

/-! ## Conditions -/

/-- The template of a comparison, with its field, its operator and its values as they are. -/
def Comparison.template (c : Comparison) : Template :=
  let field := c.field.getD ""
  let value := Value.ofOption c.value
  match c.operator with
  | some .between => [.text (field ++ " BETWEEN ").toList, .slot value, .text " AND ".toList,
      .slot (Value.ofOption c.value2)]
  | some operator => [.text (field ++ " " ++ operator.sql ++ " ").toList, .slot value]
  | none => []

mutual
/-- The template of a condition. -/
def Condition.template : Condition → Template
  | compare c => c.template
  | anyOf cs => .text ['('] :: Template.joined " OR " (templates cs) ++ [.text [')']]

/-- The templates of several conditions. -/
def Condition.templates : List Condition → List Template
  | [] => []
  | c :: cs => template c :: templates cs
end

theorem Comparison.given?_eq_some {o : Option Value} {v : Value} (h : given? o = some v) : o = some v := by
  unfold given? at h
  split at h
  · split at h
    · cases h
    · exact h
  · cases h

/-- What a complete comparison is made of. -/
theorem Comparison.complete_eq_ok {c : Comparison} {d : Complete} (h : c.complete = .ok d) :
    c.field = some d.field ∧ c.value = some d.value ∧ c.operator = some d.operator ∧
      (d.operator = .between ∧ c.value2 = d.value2 ∧ d.value2.isSome ∨ d.operator ≠ .between ∧ d.value2 = none) := by
  unfold complete at h
  split at h
  · cases h
  · next field hf =>
    have hfield : c.field = some field := by
      unfold field? at hf
      exact (Option.filter_eq_some_iff.1 hf).1
    split at h
    · cases h
    · next value hv =>
      have hvalue := given?_eq_some hv
      split at h
      · cases h
      · next ho =>
        split at h
        · cases h
        · next value2 hv2 =>
          cases h
          exact ⟨hfield, hvalue, ho, .inl ⟨rfl, given?_eq_some hv2, rfl⟩⟩
      · next operator hne ho =>
        cases h
        exact ⟨hfield, hvalue, ho, .inr ⟨hne, rfl⟩⟩

theorem Comparison.template_of_build {c : Comparison} {sql : String} (h : c.build = .ok sql) :
    c.template.marked = sql.toList ∧ c.values = .ok c.template.values := by
  unfold build at h
  unfold Comparison.values
  cases hd : c.complete with
  | error e => rw [hd] at h; cases h
  | ok d =>
    rw [hd] at h
    cases h
    obtain ⟨hf, hv, ho, h2⟩ := complete_eq_ok hd
    rcases h2 with ⟨hb, h2, hs⟩ | ⟨hb, h2⟩
    · obtain ⟨v2, hv2⟩ := Option.isSome_iff_exists.1 hs
      rw [hb] at ho
      simp [template, Complete.sql, Complete.values, hf, hv, ho, hb, h2, hv2, Template.marked, Template.values,
        Value.ofOption, Except.map]
    · cases hop : d.operator with
      | between => exact absurd hop hb
      | _ =>
        rw [hop] at ho
        simp [template, Complete.sql, Complete.values, hf, hv, ho, hop, h2, Template.marked, Template.values,
          Value.ofOption, Except.map, Operator.sql]

mutual
/-- The fields that a condition names, from left to right. -/
def Condition.fields : Condition → List String
  | compare c => c.field.toList
  | anyOf cs => fieldsAll cs

/-- The fields that several conditions name. -/
def Condition.fieldsAll : List Condition → List String
  | [] => []
  | c :: cs => fields c ++ fieldsAll cs
end

mutual
theorem Condition.template_of_build : ∀ (c : Condition) {sql : String}, c.build = .ok sql →
    c.template.marked = sql.toList ∧ c.values = .ok c.template.values
  | .compare c, sql, h => by
    rw [Condition.build] at h
    rw [Condition.template, Condition.values]
    exact c.template_of_build h
  | .anyOf [], sql, h => by
    rw [Condition.build] at h
    cases h
  | .anyOf (c :: cs), sql, h => by
    rw [Condition.build] at h
    obtain ⟨first, h1, h⟩ := bind_eq_ok h
    obtain ⟨rest, h2, h⟩ := bind_eq_ok h
    cases h
    obtain ⟨hm, hv⟩ := template_of_build c h1
    obtain ⟨hms, hvs⟩ := templates_of_buildAll cs h2
    constructor
    · simp [Condition.template, Condition.templates, Template.marked, Template.marked_joined, hm, hms,
        String.toList_intercalate]
    · rw [Condition.values, hv, hvs]
      simp [Condition.template, Condition.templates, Template.values, Template.values_joined, bind, Except.bind,
        pure, Except.pure]

theorem Condition.templates_of_buildAll : ∀ (cs : List Condition) {sqls : List String}, buildAll cs = .ok sqls →
    (templates cs).map Template.marked = sqls.map String.toList ∧
      valuesAll cs = .ok ((templates cs).flatMap Template.values)
  | [], sqls, h => by
    cases h
    exact ⟨rfl, rfl⟩
  | c :: cs, sqls, h => by
    rw [buildAll] at h
    obtain ⟨first, h1, h⟩ := bind_eq_ok h
    obtain ⟨rest, h2, h⟩ := bind_eq_ok h
    cases h
    obtain ⟨hm, hv⟩ := template_of_build c h1
    obtain ⟨hms, hvs⟩ := templates_of_buildAll cs h2
    constructor
    · simp [Condition.templates, hm, hms]
    · rw [valuesAll, hv, hvs]
      simp [Condition.templates, bind, Except.bind, pure, Except.pure]
end

/-! ## Statements -/

/-- The templates of equalities, one for each field of the data. -/
def DataMap.equalities (d : DataMap) : List Template :=
  d.entries.map fun p => [.text (p.1 ++ " = ").toList, .slot p.2]

theorem DataMap.marked_equalities (d : DataMap) :
    d.equalities.map Template.marked = (d.fields.map (· ++ " = ?")).map String.toList := by
  simp [equalities, fields, Pairs.names, Template.marked, Function.comp_def]

theorem DataMap.values_equalities (d : DataMap) : d.equalities.flatMap Template.values = d.values := by
  unfold equalities values
  rw [List.flatMap_map, List.map_eq_flatMap]
  rfl

/-- A place for each value of the data. -/
def DataMap.slots (d : DataMap) : List Template :=
  d.entries.map fun p => [.slot p.2]

theorem DataMap.marked_slots (d : DataMap) :
    d.slots.map Template.marked = (d.fields.map fun _ => "?").map String.toList := by
  simp [slots, fields, Pairs.names, Template.marked, Function.comp_def]

theorem DataMap.values_slots (d : DataMap) : d.slots.flatMap Template.values = d.values := by
  unfold slots values
  rw [List.flatMap_map, List.map_eq_flatMap]
  rfl

/-- The expression of a column, and its alias if it has one. -/
def Column.names : Column → List String
  | name expression => [expression]
  | aliased expression label => [expression, label]

namespace Statement

/-- The template of a WHERE clause; there is none without predicates. -/
def whereTemplate : List Template → Template
  | [] => []
  | ts => .text " WHERE ".toList :: Template.joined " AND " ts

/-- The text of a column list. -/
def columnText : List Column → String
  | [] => "*"
  | columns => String.intercalate "," (columns.map Column.sql)

/-- All names in a statement: of its table, its fields and its columns, and those in its conditions. -/
def names (s : Statement) : List String :=
  let o := s.options
  o.table :: o.data.fields ++ o.columns.flatMap Column.names ++ Condition.fieldsAll o.conditions

/-- The template of a statement: its data, in their order, come before its conditions. -/
def template (s : Statement) : Template :=
  let o := s.options
  let conditions := Condition.templates o.conditions
  match s.keyword with
  | .insert =>
    .text ("INSERT INTO " ++ o.table ++ " (" ++ String.intercalate "," o.data.fields ++ ") VALUES (").toList ::
      Template.joined "," o.data.slots ++ [.text [')']]
  | .select =>
    .text ("SELECT " ++ columnText o.columns ++ " FROM " ++ o.table).toList ::
      whereTemplate (o.data.equalities ++ conditions)
  | .update =>
    .text ("UPDATE " ++ o.table ++ " SET ").toList :: Template.joined ", " o.data.equalities ++
      whereTemplate conditions
  | .delete => .text ("DELETE FROM " ++ o.table).toList :: whereTemplate (o.data.equalities ++ conditions)

theorem marked_whereTemplate {ts : List Template} {predicates : List String}
    (h : ts.map Template.marked = predicates.map String.toList) :
    (whereTemplate ts).marked = ((clauseOf? predicates).getD "").toList := by
  cases ts with
  | nil =>
    obtain rfl : predicates = [] := by simpa using h.symm
    rfl
  | cons t ts =>
    have hne : predicates.isEmpty = false := by
      cases predicates with
      | nil => simp at h
      | cons p ps => rfl
    rw [whereTemplate, clauseOf?, hne, Template.marked, Template.marked_joined, h]
    · simp [String.toList_intercalate]
    · simp

theorem values_whereTemplate (ts : List Template) : (whereTemplate ts).values = ts.flatMap Template.values := by
  cases ts with
  | nil => rfl
  | cons t ts =>
    rw [whereTemplate, Template.values, Template.values_joined]
    simp

theorem whereClause?_eq_ok {fields : List String} {conditions : List Condition} {clause : Option String}
    (h : whereClause? fields conditions = .ok clause) :
    ∃ built, Condition.buildAll conditions = .ok built ∧ clause = clauseOf? (fields.map (· ++ " = ?") ++ built) := by
  unfold whereClause? predicates at h
  cases hb : Condition.buildAll conditions with
  | error e => rw [hb] at h; cases h
  | ok built =>
    rw [hb] at h
    cases h
    exact ⟨built, rfl, rfl⟩

/-- A WHERE clause over given equalities and conditions is the marked template of these. -/
theorem whereTemplate_of_whereClause? {fields : List String} {es : List Template} {conditions : List Condition}
    {clause : Option String} (he : es.map Template.marked = (fields.map (· ++ " = ?")).map String.toList)
    (h : whereClause? fields conditions = .ok clause) :
    (whereTemplate (es ++ Condition.templates conditions)).marked = (clause.getD "").toList ∧
      Condition.valuesAll conditions = .ok ((Condition.templates conditions).flatMap Template.values) := by
  obtain ⟨built, hb, rfl⟩ := whereClause?_eq_ok h
  obtain ⟨hm, hv⟩ := Condition.templates_of_buildAll conditions hb
  refine ⟨marked_whereTemplate ?_, hv⟩
  rw [List.map_append, List.map_append, he, hm]

theorem mapM_render_eq_ok {columns : List Column} {written : List String}
    (h : columns.mapM Column.render = .ok written) : written = columns.map Column.sql := by
  induction columns generalizing written with
  | nil => cases h; rfl
  | cons c cs ih =>
    rw [List.mapM_cons] at h
    obtain ⟨first, h1, h⟩ := bind_eq_ok h
    obtain ⟨rest, h2, h⟩ := bind_eq_ok h
    cases h
    unfold Column.render at h1
    split at h1
    · cases h1
      rw [ih h2, List.map_cons]
    · cases h1

theorem columnList_eq_ok {columns : List Column} {text : String} (h : columnList columns = .ok text) :
    text = columnText columns := by
  cases columns with
  | nil => cases h; rfl
  | cons c cs =>
    obtain ⟨written, hw, h⟩ := bind_eq_ok h
    cases h
    rw [mapM_render_eq_ok hw, columnText]
    simp

/-- What is built is the marked template of the statement, and its values are those of the template. -/
theorem template_of_build {s : Statement} {sql : String} (h : s.build = .ok sql) :
    s.template.marked = sql.toList ∧ s.values = .ok s.template.values := by
  unfold build at h
  split at h
  · cases h
  unfold template Statement.values
  cases hk : s.keyword <;> rw [hk] at h <;> dsimp only at h
  case insert =>
    unfold buildInsert at h
    split at h
    · cases h
    · next hc =>
      split at h
      · cases h
      · cases h
        obtain hc : s.options.conditions = [] := by simpa using hc
        rw [hc, Condition.valuesAll]
        simp only [Template.marked, Template.values, Template.marked_append, Template.values_append,
          Template.marked_joined, Template.values_joined, DataMap.marked_slots, DataMap.values_slots]
        simp [Except.map, String.toList_intercalate]
  case select =>
    obtain ⟨text, ht, h⟩ := bind_eq_ok h
    obtain ⟨clause, hw, h⟩ := bind_eq_ok h
    cases h
    obtain ⟨hm, hv⟩ := whereTemplate_of_whereClause? s.options.data.marked_equalities hw
    rw [columnList_eq_ok ht, hv]
    simp only [Template.marked, Template.values, hm, values_whereTemplate, List.flatMap_append,
      DataMap.values_equalities]
    simp [Except.map]
  case update =>
    unfold buildUpdate at h
    split at h
    · cases h
    · obtain ⟨clause, hw, h⟩ := bind_eq_ok h
      cases h
      obtain ⟨hm, hv⟩ := @whereTemplate_of_whereClause? [] [] _ _ rfl hw
      rw [hv]
      rw [List.nil_append] at hm
      simp only [Template.marked, Template.values, Template.marked_append, Template.values_append, hm,
        Template.marked_joined, Template.values_joined, DataMap.marked_equalities, DataMap.values_equalities,
        values_whereTemplate]
      simp [Except.map, String.toList_intercalate]
  case delete =>
    obtain ⟨clause, hw, h⟩ := bind_eq_ok h
    obtain ⟨hm, hv⟩ := whereTemplate_of_whereClause? s.options.data.marked_equalities hw
    rw [hv]
    simp only [Template.marked, Template.values, hm, values_whereTemplate, List.flatMap_append,
      DataMap.values_equalities]
    cases clause with
    | some clause =>
      cases h
      simp [Except.map]
    | none =>
      dsimp only at h
      split at h
      · cases h
        simp [Except.map]
      · cases h

end Statement

end TypedSql
