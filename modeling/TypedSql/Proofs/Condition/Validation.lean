import TypedSql.Proofs.Statement.Template

/-!
# The faults of conditions

* `Comparison.faults`, `Condition.fault?` : what is missing in a comparison, and in one node of a condition;
* `Condition.nodes` : the nodes of a condition from left to right, each before its children;
* `Condition.failure?_build`, `Condition.failure?_values` : the text of a condition and its values fail alike, with the
  first fault of its nodes;
* `Condition.slots_of_build` : the values are those of its comparisons, one for each placeholder;
* `Condition.build_values` : all this for every condition.
-/

namespace TypedSql

/-! ## Failures -/

/-- The error of a result, if it has failed. -/
def failure? {α : Type} : Except Error α → Option Error
  | .error e => some e
  | .ok _ => none

section
variable {α β γ : Type}

theorem failure?_eq_none_iff {r : Except Error α} : failure? r = none ↔ ∃ a, r = .ok a := by
  cases r <;> simp [failure?]

theorem failure?_eq_some_iff {r : Except Error α} {e : Error} : failure? r = some e ↔ r = .error e := by
  cases r <;> simp [failure?]

theorem failure?_map (r : Except Error α) (f : α → β) : failure? (r.map f) = failure? r := by
  cases r <;> rfl

/-- Of two results in a row, the first failure counts. -/
theorem failure?_pair (r : Except Error α) (s : Except Error β) (f : α → β → γ) :
    failure? (do
      let a ← r
      let b ← s
      return f a b) = (failure? r).or (failure? s) := by
  cases r <;> cases s <;> rfl

end

/-! ## Comparisons -/

namespace Comparison

/-- All that is missing in a comparison, in the order in which it is looked for. -/
def faults (c : Comparison) : List Error :=
  let field := c.field.getD ""
  (if field = "" then [.missingField] else []) ++
    (if Value.ofOption c.value = .null then [.missingValue field] else []) ++
    (if c.operator = none then [.missingOperator field] else []) ++
    if c.operator = some .between ∧ Value.ofOption c.value2 = .null then [.missingSecondValue field] else []

/-- A field with a name, a value, an operator, and a second value for a range; null is no value. -/
structure IsComplete (c : Comparison) : Prop where
  field : ∃ field, c.field = some field ∧ field ≠ ""
  value : ∃ v, c.value = some v ∧ v ≠ .null
  operator : ∃ operator, c.operator = some operator
  value2 : c.operator = some .between → ∃ v, c.value2 = some v ∧ v ≠ .null

/-- The values of a comparison, the second one for a range only. -/
def slots (c : Comparison) : List Value :=
  c.value.toList ++ if c.operator = some .between then c.value2.toList else []

theorem field?_eq (c : Comparison) :
    c.field? = if c.field.getD "" = "" then none else some (c.field.getD "") := by
  unfold field?
  cases c.field with
  | none => rfl
  | some field => by_cases h : field = "" <;> simp [h]

theorem given?_eq (o : Option Value) : given? o = if Value.ofOption o = .null then none else some (Value.ofOption o) := by
  cases o with
  | none => rfl
  | some v => cases v <;> rfl

theorem ofOption_ne_null_iff {o : Option Value} : Value.ofOption o ≠ .null ↔ ∃ v, o = some v ∧ v ≠ .null := by
  cases o <;> simp [Value.ofOption]

theorem failure?_complete (c : Comparison) : failure? c.complete = c.faults.head? := by
  unfold complete faults
  rw [field?_eq, given?_eq, given?_eq]
  by_cases hf : c.field.getD "" = ""
  · simp [hf, failure?]
  by_cases hv : Value.ofOption c.value = .null
  · simp [hf, hv, failure?]
  cases ho : c.operator with
  | none => simp [hf, hv, failure?]
  | some operator =>
    by_cases h2 : Value.ofOption c.value2 = .null <;> cases operator <;> simp [hf, hv, h2, failure?]

theorem faults_eq_nil_iff {c : Comparison} : c.faults = [] ↔ c.IsComplete := by
  have hfield : c.field.getD "" ≠ "" ↔ ∃ field, c.field = some field ∧ field ≠ "" := by
    cases c.field <;> simp
  have hoperator : c.operator ≠ none ↔ ∃ operator, c.operator = some operator := Option.ne_none_iff_exists'
  simp only [faults, List.append_eq_nil_iff, ite_eq_right_iff, List.cons_ne_nil, imp_false, not_and]
  rw [← ne_eq, ← ne_eq, ← ne_eq, ← ne_eq, hfield, hoperator, ofOption_ne_null_iff, ofOption_ne_null_iff]
  constructor
  · rintro ⟨⟨⟨hf, hv⟩, ho⟩, h2⟩
    exact ⟨hf, hv, ho, h2⟩
  · rintro ⟨hf, hv, ho, h2⟩
    exact ⟨⟨⟨hf, hv⟩, ho⟩, h2⟩

theorem IsComplete.null_not_mem_slots {c : Comparison} (h : c.IsComplete) : .null ∉ c.slots := by
  obtain ⟨v, hv, hne⟩ := h.value
  rw [slots, hv, List.mem_append, not_or]
  refine ⟨by simpa using hne.symm, ?_⟩
  split
  · next hbetween =>
    obtain ⟨v2, hv2, hne2⟩ := h.value2 hbetween
    simpa [hv2] using hne2.symm
  · exact List.not_mem_nil

/-- A built comparison has a placeholder for each of its values, beside the question marks in its field. -/
theorem slots_of_complete {c : Comparison} {d : Complete} (h : c.complete = .ok d) : d.values = c.slots ∧
    d.sql.toList.count '?' = c.slots.length + (c.field.toList.flatMap String.toList).count '?' := by
  obtain ⟨hf, hv, ho, ⟨hb, h2, hs⟩ | ⟨hb, h2⟩⟩ := complete_eq_ok h
  · obtain ⟨v2, hv2⟩ := Option.isSome_iff_exists.1 hs
    simp [Complete.values, Complete.sql, slots, hf, hv, ho, hb, h2, hv2]
    omega
  · cases hop : d.operator with
    | between => exact absurd hop hb
    | _ =>
      simp [Complete.values, Complete.sql, slots, hf, hv, ho, hop, h2, Operator.sql]
      omega

end Comparison

/-! ## Conditions -/

namespace Condition

mutual
/-- The nodes of a condition, each before its children, and the children from left to right. -/
def nodes : Condition → List Condition
  | compare c => [compare c]
  | anyOf cs => anyOf cs :: nodesAll cs

/-- The nodes of several conditions. -/
def nodesAll : List Condition → List Condition
  | [] => []
  | c :: cs => nodes c ++ nodesAll cs
end

/-- What is missing in a node, apart from its children. -/
def fault? : Condition → Option Error
  | compare c => c.faults.head?
  | anyOf [] => some .emptyOr
  | anyOf (_ :: _) => none

/-- A complete comparison, or a disjunction of something. -/
def IsWhole : Condition → Prop
  | compare c => c.IsComplete
  | anyOf cs => cs ≠ []

def comparison? : Condition → Option Comparison
  | compare c => some c
  | anyOf _ => none

/-- The comparisons of a condition, from left to right. -/
def comparisons (c : Condition) : List Comparison :=
  c.nodes.filterMap comparison?

theorem comparisons_anyOf (cs : List Condition) :
    (anyOf cs).comparisons = (nodesAll cs).filterMap comparison? := by
  rw [comparisons, nodes]
  exact List.filterMap_cons_none rfl

theorem fault?_eq_none_iff {c : Condition} : c.fault? = none ↔ c.IsWhole := by
  cases c with
  | compare c => rw [fault?, List.head?_eq_none_iff, Comparison.faults_eq_nil_iff, IsWhole]
  | anyOf cs => cases cs <;> simp [fault?, IsWhole]

/-! ### The two walks -/

theorem build_anyOf (c : Condition) (cs : List Condition) : (anyOf (c :: cs)).build =
    (buildAll (c :: cs)).map fun sqls => "(" ++ String.intercalate " OR " sqls ++ ")" := by
  rw [build, buildAll]
  cases c.build <;> cases buildAll cs <;> rfl

theorem values_anyOf (c : Condition) (cs : List Condition) : (anyOf (c :: cs)).values = valuesAll (c :: cs) := by
  rw [values, valuesAll]

/-- A disjunction of something has the faults of its children. -/
theorem findSome?_nodes_anyOf (c : Condition) (cs : List Condition) :
    (anyOf (c :: cs)).nodes.findSome? fault? = (nodesAll (c :: cs)).findSome? fault? := by
  rw [nodes, List.findSome?_cons, fault?]

mutual
/-- The text of a condition fails with the first fault of its nodes. -/
theorem failure?_build : ∀ c : Condition, failure? c.build = c.nodes.findSome? fault?
  | compare c => by
    rw [build, Comparison.build, failure?_map, Comparison.failure?_complete, nodes, List.findSome?_singleton, fault?]
  | anyOf [] => rfl
  | anyOf (c :: cs) => by
    rw [build_anyOf, failure?_map, failure?_buildAll (c :: cs), findSome?_nodes_anyOf]

theorem failure?_buildAll : ∀ cs : List Condition, failure? (buildAll cs) = (nodesAll cs).findSome? fault?
  | [] => rfl
  | c :: cs => by
    rw [buildAll, failure?_pair, failure?_build c, failure?_buildAll cs, nodesAll, List.findSome?_append]
end

mutual
/-- So do the values. -/
theorem failure?_values : ∀ c : Condition, failure? c.values = c.nodes.findSome? fault?
  | compare c => by
    rw [values, Comparison.values, failure?_map, Comparison.failure?_complete, nodes, List.findSome?_singleton, fault?]
  | anyOf [] => rfl
  | anyOf (c :: cs) => by
    rw [values_anyOf, failure?_valuesAll (c :: cs), findSome?_nodes_anyOf]

theorem failure?_valuesAll : ∀ cs : List Condition, failure? (valuesAll cs) = (nodesAll cs).findSome? fault?
  | [] => rfl
  | c :: cs => by
    rw [valuesAll, failure?_pair, failure?_values c, failure?_valuesAll cs, nodesAll, List.findSome?_append]
end

/-! ### The values and their placeholders -/

theorem count_intercalate {a : Char} {sep : List Char} (h : a ∉ sep) (texts : List (List Char)) :
    (sep.intercalate texts).count a = texts.flatten.count a := by
  induction texts with
  | nil => rfl
  | cons s texts ih =>
    cases texts with
    | nil => simp [List.intercalate]
    | cons t texts =>
      rw [List.intercalate_cons_cons, List.count_append, List.count_append, ih, List.count_eq_zero.2 h, Nat.add_zero,
        ← List.count_append, ← List.flatten_cons]

/-- The question marks in the names of fields. -/
def fieldMarks (fields : List String) : Nat :=
  (fields.flatMap String.toList).count '?'

theorem fieldMarks_append (fs gs : List String) : fieldMarks (fs ++ gs) = fieldMarks fs + fieldMarks gs := by
  simp [fieldMarks]

mutual
/-- The values of a built condition are those of its comparisons, and there is a placeholder for each, beside the
question marks in the names of fields. -/
theorem slots_of_build : ∀ (c : Condition) {sql : String} {vs : List Value}, c.build = .ok sql → c.values = .ok vs →
    vs = c.comparisons.flatMap Comparison.slots ∧ sql.toList.count '?' = vs.length + fieldMarks c.fields
  | compare c, sql, vs, hb, hv => by
    rw [build, Comparison.build] at hb
    rw [values, Comparison.values] at hv
    cases hd : c.complete with
    | error e => rw [hd] at hb; cases hb
    | ok d =>
      rw [hd] at hb hv
      cases hb
      cases hv
      obtain ⟨hvalues, hcount⟩ := Comparison.slots_of_complete hd
      rw [hvalues, hcount]
      exact ⟨by simp [comparisons, nodes, comparison?], rfl⟩
  | anyOf [], sql, vs, hb, hv => by
    rw [build] at hb
    cases hb
  | anyOf (c :: cs), sql, vs, hb, hv => by
    rw [build_anyOf] at hb
    rw [values_anyOf] at hv
    cases hsqls : buildAll (c :: cs) with
    | error e => rw [hsqls] at hb; cases hb
    | ok sqls =>
      rw [hsqls] at hb
      cases hb
      obtain ⟨hvalues, hcount⟩ := slots_of_buildAll (c :: cs) hsqls hv
      -- neither the parentheses nor what joins the children has a question mark
      have hjoined : (String.intercalate " OR " sqls).toList.count '?' = (sqls.flatMap String.toList).count '?' := by
        rw [String.toList_intercalate, count_intercalate (by decide), List.flatMap_def]
      have hclosed : ("(" ++ String.intercalate " OR " sqls ++ ")").toList.count '?' =
          (String.intercalate " OR " sqls).toList.count '?' := by
        simp [String.toList_append, -String.toList_intercalate]
      rw [hclosed, hjoined, hcount, fields, comparisons_anyOf]
      exact ⟨hvalues, rfl⟩

theorem slots_of_buildAll : ∀ (cs : List Condition) {sqls : List String} {vs : List Value},
    buildAll cs = .ok sqls → valuesAll cs = .ok vs →
      vs = ((nodesAll cs).filterMap comparison?).flatMap Comparison.slots ∧
        (sqls.flatMap String.toList).count '?' = vs.length + fieldMarks (fieldsAll cs)
  | [], sqls, vs, hb, hv => by
    cases hb
    cases hv
    exact ⟨rfl, rfl⟩
  | c :: cs, sqls, vs, hb, hv => by
    rw [buildAll] at hb
    rw [valuesAll] at hv
    obtain ⟨first, hb1, hb⟩ := bind_eq_ok hb
    obtain ⟨rest, hb2, hb⟩ := bind_eq_ok hb
    obtain ⟨vs1, hv1, hv⟩ := bind_eq_ok hv
    obtain ⟨vs2, hv2, hv⟩ := bind_eq_ok hv
    cases hb
    cases hv
    obtain ⟨hs1, hc1⟩ := slots_of_build c hb1 hv1
    obtain ⟨hs2, hc2⟩ := slots_of_buildAll cs hb2 hv2
    constructor
    · rw [hs1, hs2]
      simp [comparisons, nodesAll]
    · rw [fieldsAll, fieldMarks_append, List.length_append, List.flatMap_cons, List.count_append, hc1, hc2]
      omega
end

theorem null_not_mem_slots {c : Condition} (h : ∀ d ∈ c.nodes, d.IsWhole) :
    .null ∉ c.comparisons.flatMap Comparison.slots := by
  intro hmem
  obtain ⟨d, hd, hnull⟩ := List.mem_flatMap.1 hmem
  obtain ⟨node, hnode, hcompare⟩ := List.mem_filterMap.1 hd
  cases node with
  | anyOf cs => cases hcompare
  | compare c =>
    cases hcompare
    exact Comparison.IsComplete.null_not_mem_slots (h _ hnode) hnull

/-- `e` is the fault of the first node that has one. -/
def FirstFault (c : Condition) (e : Error) : Prop :=
  ∃ before node after, c.nodes = before ++ node :: after ∧ (∀ d ∈ before, d.IsWhole) ∧ ¬ node.IsWhole ∧
    node.fault? = some e

theorem firstFault_of_findSome? {c : Condition} {e : Error} (h : c.nodes.findSome? fault? = some e) :
    c.FirstFault e := by
  obtain ⟨before, node, after, hnodes, hnode, hbefore⟩ := List.findSome?_eq_some_iff.1 h
  refine ⟨before, node, after, hnodes, fun d hd => fault?_eq_none_iff.1 (hbefore d hd), ?_, hnode⟩
  rw [← fault?_eq_none_iff, hnode]
  simp

/-- Either all nodes of a condition are whole, and it has a text and values: those of its comparisons, none of them
null, and as many as there are placeholders in the text. Or both its text and its values fail with the fault of its first
node that is not whole. -/
theorem build_values (c : Condition) :
    (∃ sql vs, c.build = .ok sql ∧ c.values = .ok vs ∧ (∀ d ∈ c.nodes, d.IsWhole) ∧
      vs = c.comparisons.flatMap Comparison.slots ∧ .null ∉ vs ∧
      sql.toList.count '?' = vs.length + fieldMarks c.fields) ∨
    ∃ e, c.build = .error e ∧ c.values = .error e ∧ c.FirstFault e := by
  cases h : c.nodes.findSome? fault? with
  | none =>
    have hwhole : ∀ d ∈ c.nodes, d.IsWhole :=
      fun d hd => fault?_eq_none_iff.1 (List.findSome?_eq_none_iff.1 h d hd)
    obtain ⟨sql, hb⟩ := failure?_eq_none_iff.1 ((failure?_build c).trans h)
    obtain ⟨vs, hv⟩ := failure?_eq_none_iff.1 ((failure?_values c).trans h)
    obtain ⟨hvs, hcount⟩ := slots_of_build c hb hv
    exact .inl ⟨sql, vs, hb, hv, hwhole, hvs, hvs ▸ null_not_mem_slots hwhole, hcount⟩
  | some e =>
    exact .inr ⟨e, failure?_eq_some_iff.1 ((failure?_build c).trans h),
      failure?_eq_some_iff.1 ((failure?_values c).trans h), firstFault_of_findSome? h⟩

/-- An empty disjunction two levels down stands before a comparison in which all is missing. -/
example : (anyOf [anyOf [anyOf [], compare ⟨none, none, none, none⟩]]).values = .error .emptyOr := rfl

end Condition

end TypedSql
