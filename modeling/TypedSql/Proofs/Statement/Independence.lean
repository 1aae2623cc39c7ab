import TypedSql.Proofs.Condition.Validation
import TypedSql.Proofs.Statement.Deletion

/-!
# Steps that are independent of each other

* `Component` : what a step is about, and `Statement.part` : what a statement has there;
* `Component.act` : what a step makes of a part, which is the part itself unless the step is about it;
* `Statement.part_run` : after a run each part is what the steps about it have made, in their order;
* `Statement.foldlM_apply` : a run that stops at the first failure stops at the first source without a JSON form;
* `Statement.run_eq_of_parts` : runs with the same steps about each part end alike, in whatever way these are mixed.
-/

namespace TypedSql

/-! ## Parts -/

/-- What a step is about. -/
inductive Component where
  | database
  | columns
  | data
  | conditions
  | deletesAll
deriving DecidableEq

def Step.component : Step → Component
  | .database _ => .database
  | .addColumn _ | .setColumns _ => .columns
  | .addData .. | .setData .. | .addJson .. | .addSerialized .. => .data
  | .addCondition _ | .setConditions _ => .conditions
  | .deletesAll _ => .deletesAll

namespace Component

abbrev Part : Component → Type
  | database => String
  | columns => List Column
  | data => DataMap
  | conditions => List Condition
  | deletesAll => Bool

/-- What a step makes of a part. A step about another part leaves it as it is, and so does a source without a JSON
form. -/
def act : (k : Component) → k.Part → Step → k.Part
  | database, _, .database name => name
  | columns, cs, .addColumn c => cs ++ [c]
  | columns, _, .setColumns cs => cs
  | data, d, .addData entries filter => d.merge entries filter
  | data, _, .setData entries filter => DataMap.empty.merge entries filter
  | data, d, .addJson j filter => d.mergeJson j filter
  | data, d, .addSerialized source filter => (d.mergeSerialized source filter).toOption.getD d
  | conditions, cs, .addCondition c => cs ++ [c]
  | conditions, _, .setConditions cs => cs
  | deletesAll, _, .deletesAll allowed => allowed
  | _, p, _ => p

theorem act_of_ne {k : Component} {t : Step} (h : t.component ≠ k) (p : k.Part) : k.act p t = p := by
  cases t <;> cases k <;> first | rfl | exact absurd rfl h

theorem foldl_act (k : Component) (p : k.Part) (ts : List Step) :
    ts.foldl k.act p = (ts.filter (·.component = k)).foldl k.act p := by
  induction ts generalizing p with
  | nil => rfl
  | cons t ts ih =>
    by_cases h : t.component = k
    · rw [List.filter_cons_of_pos (by simpa using h), List.foldl_cons, List.foldl_cons, ih]
    · rw [List.filter_cons_of_neg (by simpa using h), List.foldl_cons, act_of_ne h, ih]

end Component

namespace Statement

/-- What a statement has where a step may be about. -/
def part (s : Statement) : (k : Component) → k.Part
  | .database => s.options.database
  | .columns => s.options.columns
  | .data => s.options.data
  | .conditions => s.options.conditions
  | .deletesAll => s.deletesAll

/-- A statement is its kind, its table and its parts. -/
theorem eq_of_parts {s s' : Statement} (hkeyword : s.keyword = s'.keyword) (htable : s.options.table = s'.options.table)
    (h : ∀ k, s.part k = s'.part k) : s = s' := by
  obtain ⟨keyword, ⟨table, database, columns, data, conditions⟩, deletesAll⟩ := s
  obtain ⟨keyword', ⟨table', database', columns', data', conditions'⟩, deletesAll'⟩ := s'
  obtain rfl : keyword = keyword' := hkeyword
  obtain rfl : table = table' := htable
  obtain rfl : database = database' := h .database
  obtain rfl : columns = columns' := h .columns
  obtain rfl : data = data' := h .data
  obtain rfl : conditions = conditions' := h .conditions
  obtain rfl : deletesAll = deletesAll' := h .deletesAll
  rfl

/-! ## Runs -/

theorem step_addSerialized (s : Statement) (source : Source) (filter : Option (List String)) :
    s.step (.addSerialized source filter) =
      s.withOptions { s.options with
        data := (s.options.data.mergeSerialized source filter).toOption.getD s.options.data } := by
  rw [step, apply]
  cases s.options.data.mergeSerialized source filter <;> rfl

theorem part_step (s : Statement) (t : Step) (k : Component) : (s.step t).part k = k.act (s.part k) t := by
  cases t with
  | addSerialized source filter =>
    rw [step_addSerialized]
    cases k <;> rfl
  | _ => cases k <;> rfl

theorem table_step (s : Statement) (t : Step) : (s.step t).options.table = s.options.table := by
  cases t with
  | addSerialized source filter => rw [step_addSerialized]; rfl
  | _ => rfl

theorem part_run (s : Statement) (ts : List Step) (k : Component) :
    (s.run ts).part k = (ts.filter (·.component = k)).foldl k.act (s.part k) := by
  rw [← Component.foldl_act]
  induction ts generalizing s with
  | nil => rfl
  | cons t ts ih =>
    rw [List.foldl_cons, ← part_step]
    exact ih (s.step t)

theorem table_run (s : Statement) (ts : List Step) : (s.run ts).options.table = s.options.table := by
  induction ts generalizing s with
  | nil => rfl
  | cons t ts ih => exact (ih (s.step t)).trans (s.table_step t)

theorem run_congr {ts us : List Step} (h : ∀ k, ts.filter (·.component = k) = us.filter (·.component = k))
    (s : Statement) : s.run ts = s.run us := by
  refine eq_of_parts ?_ ?_ fun k => ?_
  · rw [keyword_run, keyword_run]
  · rw [table_run, table_run]
  · rw [part_run, part_run, h k]

end Statement

/-! ## Failures -/

/-- Why a step fails, if it does. -/
def Step.failure? : Step → Option Error
  | .addSerialized source _ => TypedSql.failure? source.toJson
  | _ => none

theorem Step.component_of_failure? {t : Step} {e : Error} (h : t.failure? = some e) : t.component = .data := by
  cases t <;> first | rfl | cases h

theorem Step.findSome?_failure? (ts : List Step) :
    ts.findSome? Step.failure? = (ts.filter (·.component = .data)).findSome? Step.failure? := by
  induction ts with
  | nil => rfl
  | cons t ts ih =>
    rw [List.findSome?_cons]
    cases hf : t.failure? with
    | some e =>
      have hdata := component_of_failure? hf
      rw [List.filter_cons_of_pos (by simpa using hdata), List.findSome?_cons, hf]
    | none =>
      by_cases hdata : t.component = .data
      · rw [List.filter_cons_of_pos (by simpa using hdata), List.findSome?_cons, hf, ih]
      · rw [List.filter_cons_of_neg (by simpa using hdata), ih]

namespace Statement

theorem apply_eq (s : Statement) (t : Step) :
    s.apply t = match t.failure? with
      | some e => .error e
      | none => .ok (s.step t) := by
  cases t with
  | addSerialized source filter =>
    rw [step, Step.failure?, apply, DataMap.mergeSerialized]
    cases source.toJson <;> rfl
  | _ => rfl

theorem foldlM_apply (s : Statement) (ts : List Step) :
    ts.foldlM apply s = match ts.findSome? Step.failure? with
      | some e => .error e
      | none => .ok (s.run ts) := by
  induction ts generalizing s with
  | nil => rfl
  | cons t ts ih =>
    rw [List.foldlM_cons, apply_eq, List.findSome?_cons]
    cases t.failure? with
    | some e => rfl
    | none => exact ih (s.step t)

/-- A step that fails changes no part of a statement. -/
theorem part_step_of_error {s : Statement} {t : Step} {e : Error} (h : s.apply t = .error e) (k : Component) :
    (s.step t).part k = s.part k := by
  rw [step, h]

/-- Runs with the same steps about each part, in whatever way these are interleaved, end in the same statement, with
the same text, values and database. Where a failure is to stop the run, both stop at the same one; else it changes
nothing. -/
theorem run_eq_of_parts {ts us : List Step} (h : ∀ k, ts.filter (·.component = k) = us.filter (·.component = k))
    (s : Statement) :
    s.run ts = s.run us ∧ (s.run ts).build = (s.run us).build ∧ (s.run ts).values = (s.run us).values ∧
      (s.run ts).options.database = (s.run us).options.database ∧ ts.foldlM apply s = us.foldlM apply s ∧
      ∀ source filter e, s.apply (.addSerialized source filter) = .error e →
        ∀ k, (s.step (.addSerialized source filter)).part k = s.part k := by
  have hrun := run_congr h s
  refine ⟨hrun, by rw [hrun], by rw [hrun], by rw [hrun], ?_, fun source filter e he => part_step_of_error he⟩
  rw [foldlM_apply, foldlM_apply, hrun, Step.findSome?_failure?, h, ← Step.findSome?_failure?]

/-- Two ways to interleave a replacement, a merge and a failure with other steps. -/
theorem run_eq_of_parts_archive :
    let note := Condition.compare ⟨some "note", some .equals, some (.text "old"), none⟩
    let ts := [Step.addData [("id", .int ⟨1, by decide, by decide⟩)] none, .addCondition note, .deletesAll true,
      .setData [("on", .bool true), ("at", .null)] (some ["on"]), .database "archive", .addSerialized .oddKeys none,
      .setConditions [], .addData [("id", .bool false)] none, .deletesAll false]
    let us := [Step.deletesAll true, .deletesAll false, .database "archive", .addCondition note, .setConditions [],
      .addData [("id", .int ⟨1, by decide, by decide⟩)] none,
      .setData [("on", .bool true), ("at", .null)] (some ["on"]), .addSerialized .oddKeys none,
      .addData [("id", .bool false)] none]
    let s := Statement.new .delete "orders"
    (∀ k, ts.filter (·.component = k) = us.filter (·.component = k)) ∧ s.run ts = s.run us ∧
      ts.foldlM apply s = us.foldlM apply s ∧
      (s.run us).options.data.entries = [("on", .bool true), ("id", .bool false)] := by
  intro note ts us s
  have h : ∀ k, ts.filter (·.component = k) = us.filter (·.component = k) := by
    intro k
    cases k <;> rfl
  obtain ⟨hrun, -, -, -, hstop, -⟩ := run_eq_of_parts h s
  exact ⟨h, hrun, hstop, by decide +kernel⟩

end Statement

end TypedSql
