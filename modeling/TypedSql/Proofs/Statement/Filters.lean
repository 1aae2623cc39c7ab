import TypedSql.Proofs.Statement.Grammar

/-!
# Data that filter

* `DataMap.conditions` : the entries of data as conditions, an equality each;
* `Statement.withConditions` : a statement whose data have become conditions before its own;
* `Filters` : an entry that is complete as a condition;
* `buildAll_of_filters`, `valuesAll_of_filters` : if all entries are, the predicates and the values of these conditions
  are those of the data;
* `buildAll_of_not_filters` : else the first entry that is not has no text;
* `Statement.build_withConditions` : a selection and a deletion say the same with data as with equality conditions.
-/

namespace TypedSql

/-! ## Entries as conditions -/

/-- The entries of data as equality conditions, in the same order. -/
def DataMap.conditions (d : DataMap) : List Condition :=
  d.entries.map fun p => .of .equals p.1 p.2

/-- A statement without data, and with a condition for each entry of the data that it had before the conditions that it
has. -/
def Statement.withConditions (s : Statement) : Statement :=
  s.withOptions { s.options with data := .empty, conditions := s.options.data.conditions ++ s.options.conditions }

/-- An entry with a field and with a value, which null is not: as a condition it is complete. -/
structure Filters (p : String × Value) : Prop where
  field : p.1 ≠ ""
  value : p.2 ≠ .null

instance (p : String × Value) : Decidable (Filters p) :=
  decidable_of_iff (p.1 ≠ "" ∧ p.2 ≠ .null) ⟨fun h => ⟨h.1, h.2⟩, fun h => ⟨h.field, h.value⟩⟩

/-- What is missing in the condition of an entry that is not complete; the field is looked for first. -/
def missingIn (p : String × Value) : Error :=
  if p.1 = "" then .missingField else .missingValue p.1

section
variable {p : String × Value}

theorem complete_of_filters (h : Filters p) :
    (Comparison.of .equals p.1 p.2).complete = .ok ⟨p.1, .equals, p.2, none⟩ := by
  have hfield : (Comparison.of .equals p.1 p.2).field? = some p.1 := by
    simp [Comparison.of, Comparison.field?, h.field]
  have hvalue : Comparison.given? (Comparison.of .equals p.1 p.2).value = some p.2 := by
    rw [Comparison.given?_eq]
    exact if_neg h.value
  rw [Comparison.complete, hfield, hvalue]
  rfl

theorem build_of_filters (h : Filters p) : (Condition.of .equals p.1 p.2).build = .ok (p.1 ++ " = ?") := by
  rw [Condition.of, Condition.build, Comparison.build, complete_of_filters h]
  show Except.ok (p.1 ++ " " ++ "=" ++ " ?") = _
  simp only [String.append_assoc]
  rfl

theorem values_of_filters (h : Filters p) : (Condition.of .equals p.1 p.2).values = .ok [p.2] := by
  rw [Condition.of, Condition.values, Comparison.values, complete_of_filters h]
  rfl

theorem build_of_not_filters (h : ¬ Filters p) : (Condition.of .equals p.1 p.2).build = .error (missingIn p) := by
  rw [← failure?_eq_some_iff, Condition.of, Condition.build, Comparison.build, failure?_map,
    Comparison.failure?_complete]
  unfold missingIn
  by_cases hfield : p.1 = ""
  · simp [Comparison.faults, Comparison.of, hfield]
  · have hvalue : p.2 = .null := Decidable.of_not_not fun hne => h ⟨hfield, hne⟩
    simp [Comparison.faults, Comparison.of, Value.ofOption, hfield, hvalue]

end

/-! ## Several conditions -/

namespace Condition

theorem buildAll_append (cs ds : List Condition) : buildAll (cs ++ ds) = do
    let first ← buildAll cs
    let rest ← buildAll ds
    return first ++ rest := by
  induction cs with
  | nil =>
    show buildAll ds = _
    cases buildAll ds <;> rfl
  | cons c cs ih =>
    rw [List.cons_append, buildAll, buildAll, ih]
    cases build c with
    | error e => rfl
    | ok text => cases buildAll cs <;> cases buildAll ds <;> rfl

theorem valuesAll_append (cs ds : List Condition) : valuesAll (cs ++ ds) = do
    let first ← valuesAll cs
    let rest ← valuesAll ds
    return first ++ rest := by
  induction cs with
  | nil =>
    show valuesAll ds = _
    cases valuesAll ds <;> rfl
  | cons c cs ih =>
    rw [List.cons_append, valuesAll, valuesAll, ih]
    cases values c with
    | error e => rfl
    | ok vs =>
      cases valuesAll cs with
      | error e => rfl
      | ok ws =>
        cases valuesAll ds with
        | error e => rfl
        | ok us => exact congrArg Except.ok (List.append_assoc vs ws us).symm

end Condition

section
variable {ps : List (String × Value)}

theorem buildAll_of_filters (h : ∀ p ∈ ps, Filters p) :
    Condition.buildAll (ps.map fun p => .of .equals p.1 p.2) = .ok (ps.map (·.1 ++ " = ?")) := by
  induction ps with
  | nil => rfl
  | cons p ps ih =>
    rw [List.map_cons, Condition.buildAll, build_of_filters (h p List.mem_cons_self),
      ih fun q hq => h q (List.mem_cons_of_mem p hq)]
    rfl

theorem valuesAll_of_filters (h : ∀ p ∈ ps, Filters p) :
    Condition.valuesAll (ps.map fun p => .of .equals p.1 p.2) = .ok (ps.map Prod.snd) := by
  induction ps with
  | nil => rfl
  | cons p ps ih =>
    rw [List.map_cons, Condition.valuesAll, values_of_filters (h p List.mem_cons_self),
      ih fun q hq => h q (List.mem_cons_of_mem p hq)]
    rfl

theorem buildAll_of_not_filters {before after : List (String × Value)} {p : String × Value}
    (hbefore : ∀ q ∈ before, Filters q) (hp : ¬ Filters p) (conditions : List Condition) :
    Condition.buildAll ((before ++ p :: after).map (fun p => .of .equals p.1 p.2) ++ conditions) =
      .error (missingIn p) := by
  rw [List.map_append, List.append_assoc, Condition.buildAll_append, buildAll_of_filters hbefore, List.map_cons,
    List.cons_append, Condition.buildAll, build_of_not_filters hp]
  rfl

end

namespace Statement

/-! ## Statements -/

section
variable {d : DataMap} (h : ∀ p ∈ d.entries, Filters p) (conditions : List Condition)
include h

theorem predicates_conditions : predicates [] (d.conditions ++ conditions) = predicates d.fields conditions := by
  unfold predicates
  rw [Condition.buildAll_append, DataMap.conditions, buildAll_of_filters h]
  cases Condition.buildAll conditions with
  | error e => rfl
  | ok built =>
    show Except.ok (d.entries.map (·.1 ++ " = ?") ++ built) = .ok (d.fields.map (· ++ " = ?") ++ built)
    rw [DataMap.fields, Pairs.names, List.map_map]
    rfl

theorem valuesAll_conditions : Condition.valuesAll (d.conditions ++ conditions) =
    (Condition.valuesAll conditions).map (d.values ++ ·) := by
  rw [Condition.valuesAll_append, DataMap.conditions, valuesAll_of_filters h]
  cases Condition.valuesAll conditions <;> rfl

end

theorem exists_columnList {columns : List Column} (h : ∀ c ∈ columns, c.isWritable = true) :
    ∃ written, columnList columns = .ok written := by
  rw [← failure?_eq_none_iff, failure?_columnList, List.head?_eq_none_iff, List.filterMap_eq_nil_iff]
  intro c hc
  rw [← Column.failure?_render, Column.render, if_pos (h c hc)]
  rfl

section
variable {s : Statement} (hs : s.keyword = .select ∨ s.keyword = .delete)
include hs

/-- A selection or a deletion is built from its table, its columns, the permission to delete all rows, and the
predicates of its fields and conditions. -/
theorem build_congr {o : Options} (htable : o.table = s.options.table) (hcolumns : o.columns = s.options.columns)
    (hpredicates : predicates o.data.fields o.conditions = predicates s.options.data.fields s.options.conditions) :
    (s.withOptions o).build = s.build := by
  unfold build withOptions
  dsimp only
  rw [htable]
  rcases hs with hs | hs
  · simp only [hs, buildSelect, whereClause?, htable, hcolumns, hpredicates]
  · simp only [hs, buildDelete, whereClause?, htable, hpredicates]

theorem build_of_predicates_error {e : Error} (htable : Text.isBlankText s.options.table = false)
    (hcolumns : s.keyword = .select → ∀ c ∈ s.options.columns, c.isWritable = true)
    (hpredicates : predicates s.options.data.fields s.options.conditions = .error e) : s.build = .error e := by
  have hclause : whereClause? s.options.data.fields s.options.conditions = .error e := by
    rw [whereClause?, hpredicates]
    rfl
  unfold build
  rw [htable, if_neg Bool.false_ne_true]
  rcases hs with hs | hs
  · obtain ⟨written, hwritten⟩ := exists_columnList (hcolumns hs)
    simp only [hs, buildSelect, hwritten, hclause]
    rfl
  · simp only [hs, buildDelete, hclause]
    rfl

/-- A selection or a deletion whose entries of data all have a field and a value has the text, the values and the errors
of the one that filters by an equality condition for each entry, before its other conditions. If an entry has not, the
latter fails, unless its table or its columns do, with what the first such entry misses; while what the former says
depends on the fields alone. -/
theorem build_withConditions :
    ((∀ p ∈ s.options.data.entries, Filters p) →
      s.withConditions.build = s.build ∧ s.withConditions.values = s.values) ∧
    (∀ p, s.options.data.entries.find? (¬ Filters ·) = some p → Text.isBlankText s.options.table = false →
      (s.keyword = .select → ∀ c ∈ s.options.columns, c.isWritable = true) →
      s.withConditions.build = .error (if p.1 = "" then .missingField else .missingValue p.1)) ∧
    ∀ d : DataMap, d.fields = s.options.data.fields →
      (s.withOptions { s.options with data := d }).build = s.build := by
  refine ⟨fun h => ⟨build_congr hs rfl rfl (predicates_conditions h _), ?_⟩, fun p hp htable hcolumns => ?_,
    fun d hd => build_congr hs rfl rfl (congrArg (predicates · s.options.conditions) hd)⟩
  · show (Condition.valuesAll (s.options.data.conditions ++ s.options.conditions)).map ([] ++ ·) = s.values
    rw [valuesAll_conditions h, values]
    cases Condition.valuesAll s.options.conditions <;> rfl
  · obtain ⟨hnot, before, after, hentries, hbefore⟩ := List.find?_eq_some_iff_append.1 hp
    refine @build_of_predicates_error s.withConditions hs _ htable hcolumns ?_
    show predicates [] (s.options.data.conditions ++ s.options.conditions) = .error (missingIn p)
    rw [predicates, DataMap.conditions, hentries,
      buildAll_of_not_filters (fun q hq => by simpa using hbefore q hq) (of_decide_eq_true hnot)]
    rfl

end

/-- A deletion with a null value among its data: with an equality condition for each entry it has no text; once the null
has been replaced, it has the same text and the same values either way. -/
theorem build_withConditions_nullNote :
    let age : Condition := .anyOf [.of .less "age" (.bool true), .range "size" (.bool false) (.text "z")]
    let delete (note : Value) : Statement :=
      ⟨.delete, { table := "person", data := .ofList [("name", .text "Ann"), ("note", note)], conditions := [age] },
        false⟩
    (delete .null).withConditions.build = .error (.missingValue "note") ∧
      (delete .null).build = (delete (.text "")).build ∧
      (delete (.text "")).withConditions.build = (delete (.text "")).build ∧
      (delete (.text "")).withConditions.values =
        .ok [.text "Ann", .text "", .bool true, .bool false, .text "z"] := by
  intro age delete
  obtain ⟨-, hnull, hsame⟩ := build_withConditions (s := delete .null) (.inr rfl)
  obtain ⟨hboth, -, -⟩ := build_withConditions (s := delete (.text "")) (.inr rfl)
  obtain ⟨hbuild, hvalues⟩ := hboth (by decide)
  have hnote := hnull ("note", .null) rfl (by decide) nofun
  exact ⟨hnote, (hsame (delete (.text "")).options.data rfl).symm, hbuild, hvalues⟩

end Statement

end TypedSql
