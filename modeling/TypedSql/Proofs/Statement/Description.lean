import Mathlib.Data.List.Basic
import TypedSql.Proofs.Record.Merge
import TypedSql.Proofs.Traversal
import TypedSql.Statement.Reading

/-!
# Statements and their descriptions

* `Options.toJson` : options as a JSON object, each condition with those of its parts that are set;
* `Value.IsPortable`, `Options.IsPortable` : a value that JSON has a scalar for, and options with no other values;
* `Condition.withoutNulls` : a condition whose null values are unset, which is built and bound as before;
* `Options.exists_described` : what has been described is read again, and makes the same statement.
-/

namespace TypedSql

/-! ## Descriptions -/

def Column.toJson : Column → Json
  | name expression => .string expression
  | aliased expression label => .object [("column", .string expression), ("alias", .string label)]

/-- Data as one object, its members in the order of the entries. -/
def DataMap.toJson (d : DataMap) : Json :=
  .object (d.entries.map fun p => (p.1, p.2.toJson))

def Operator.toJson : Operator → Json
  | equals => .string "equals"
  | greater => .string "greater"
  | less => .string "less"
  | greaterOrEquals => .string "greater_or_equals"
  | lessOrEquals => .string "less_or_equals"
  | between => .string "between"

/-- A member for a part that is set, and none for one that is not. -/
def Json.part {α : Type} (name : String) (write : α → Json) (slot : Option α) : List (String × Json) :=
  (slot.map fun a => (name, write a)).toList

/-- A comparison as an object of those of its parts that are set. -/
def Comparison.toJson (c : Comparison) : Json :=
  .object (Json.part "field" .string c.field ++ Json.part "op" Operator.toJson c.operator ++
    Json.part "value" Value.toJson c.value ++ Json.part "value2" Value.toJson c.value2)

mutual
/-- A condition as an object with one member, which says of what kind it is. -/
def Condition.toJson : Condition → Json
  | compare c => .object [("compare", c.toJson)]
  | anyOf cs => .object [("or", .array (toJsons cs))]

def Condition.toJsons : List Condition → List Json
  | [] => []
  | c :: cs => toJson c :: toJsons cs
end

def Options.toJson (o : Options) : Json :=
  .object [("table", .string o.table), ("database", .string o.database),
    ("columns", .array (o.columns.map Column.toJson)), ("data", o.data.toJson),
    ("conditions", .array (o.conditions.map Condition.toJson))]

/-! ## Portable values -/

/-- Whether JSON has a scalar for a value: timestamps, infinities and not-a-numbers have none. -/
def Value.IsPortable : Value → Prop
  | timestamp _ => False
  | float x => x.isFinite = true
  | _ => True

instance (v : Value) : Decidable v.IsPortable :=
  match v with
  | .timestamp _ => inferInstanceAs (Decidable False)
  | .float x => inferInstanceAs (Decidable (x.isFinite = true))
  | .null | .int _ | .bool _ | .text _ => inferInstanceAs (Decidable True)

mutual
/-- The values that are set in a condition, null or not. -/
def Condition.slots : Condition → List Value
  | compare c => c.value.toList ++ c.value2.toList
  | anyOf cs => slotsAll cs

def Condition.slotsAll : List Condition → List Value
  | [] => []
  | c :: cs => slots c ++ slotsAll cs
end

structure Options.IsPortable (o : Options) : Prop where
  data : ∀ v ∈ o.data.values, v.IsPortable
  conditions : ∀ c ∈ o.conditions, ∀ v ∈ c.slots, v.IsPortable

theorem Value.ofJson?_of_isPortable {v : Value} (h : v.IsPortable) : ofJson? v.toJson = some v := by
  rw [ofJson?_toJson]
  cases v with
  | timestamp t => exact absurd h id
  | float x =>
    have hx : x.isFinite = true := h
    simp [normal, hx]
  | _ => rfl

theorem Value.toJson_eq_null {v : Value} (h : v.IsPortable) : v.toJson = .null ↔ v = .null := by
  cases v with
  | timestamp t => exact absurd h id
  | float x =>
    have hx : x.isFinite = true := h
    simp [toJson, hx]
  | _ => simp [toJson]

/-! ## Null values unset -/

/-- A comparison whose null values are unset. -/
def Comparison.withoutNulls (c : Comparison) : Comparison :=
  { c with value := given? c.value, value2 := given? c.value2 }

mutual
/-- A condition whose null values are unset. -/
def Condition.withoutNulls : Condition → Condition
  | compare c => compare c.withoutNulls
  | anyOf cs => anyOf (allWithoutNulls cs)

def Condition.allWithoutNulls : List Condition → List Condition
  | [] => []
  | c :: cs => withoutNulls c :: allWithoutNulls cs
end

theorem Comparison.given?_given? (slot : Option Value) : given? (given? slot) = given? slot := by
  cases slot with
  | none => rfl
  | some v => by_cases h : v.isNull = true <;> simp [given?, h]

theorem Comparison.complete_withoutNulls (c : Comparison) : c.withoutNulls.complete = c.complete := by
  simp only [complete, withoutNulls, field?, given?_given?]

mutual
theorem Condition.build_withoutNulls : ∀ c : Condition, c.withoutNulls.build = c.build
  | .compare c => by
    simp only [withoutNulls, build, Comparison.build, c.complete_withoutNulls]
  | .anyOf [] => rfl
  | .anyOf (c :: cs) => by
    simp only [withoutNulls, allWithoutNulls, build, build_withoutNulls c, buildAll_withoutNulls cs]

theorem Condition.buildAll_withoutNulls : ∀ cs : List Condition, buildAll (allWithoutNulls cs) = buildAll cs
  | [] => rfl
  | c :: cs => by
    simp only [allWithoutNulls, buildAll, build_withoutNulls c, buildAll_withoutNulls cs]
end

mutual
theorem Condition.values_withoutNulls : ∀ c : Condition, c.withoutNulls.values = c.values
  | .compare c => by
    simp only [withoutNulls, values, Comparison.values, c.complete_withoutNulls]
  | .anyOf [] => rfl
  | .anyOf (c :: cs) => by
    simp only [withoutNulls, allWithoutNulls, values, values_withoutNulls c, valuesAll_withoutNulls cs]

theorem Condition.valuesAll_withoutNulls : ∀ cs : List Condition, valuesAll (allWithoutNulls cs) = valuesAll cs
  | [] => rfl
  | c :: cs => by
    simp only [allWithoutNulls, valuesAll, values_withoutNulls c, valuesAll_withoutNulls cs]
end

/-! ## Reading -/

theorem Json.fold_cons {σ : Type} {readers : List (String × (σ → Json → Except Misfit σ))} {s t : σ}
    {name : String} {read : σ → Json → Except Misfit σ} {v : Json}
    (hread : readers.find? (·.1 == name) = some (name, read)) (hv : read s v = .ok t)
    (ms : List (String × Json)) :
    fold readers s (.object ((name, v) :: ms)) = fold readers t (.object ms) := by
  simp only [fold, List.foldlM_cons, hread, hv]
  rfl

/-- A part at the head of an object goes where its reader sets it; a part that is not set changes nothing. -/
theorem Json.fold_part_append {σ α β : Type} {readers : List (String × (σ → Json → Except Misfit σ))} {s : σ}
    {name : String} {g : σ → Option β → σ} {read : Json → Except Misfit β} {write : α → Json} {slot : Option α}
    {f : α → Option β}
    (hread : readers.find? (·.1 == name) = some (name, fun s j => do return g s (← asOption read j)))
    (hnone : g s none = s) (hsome : ∀ a ∈ slot, asOption read (write a) = .ok (f a)) (ms : List (String × Json)) :
    fold readers s (.object (part name write slot ++ ms)) = fold readers (g s (slot.bind f)) (.object ms) := by
  cases slot with
  | none =>
    rw [Option.bind_none, hnone]
    rfl
  | some a =>
    apply fold_cons hread
    rw [hsome a rfl]
    rfl

theorem mapM_map_of {α β γ ε : Type} {write : α → β} {read : β → Except ε γ} {f : α → γ} {as : List α}
    (h : ∀ a ∈ as, read (write a) = .ok (f a)) : (as.map write).mapM read = .ok (as.map f) := by
  induction as with
  | nil => rfl
  | cons a as ih =>
    rw [List.map_cons, mapM_cons_of_ok (h a List.mem_cons_self), ih fun b hb => h b (List.mem_cons_of_mem a hb)]
    rfl

theorem Column.ofJson_toJson (c : Column) : ofJson c.toJson = .ok c := by
  cases c with
  | name expression => rfl
  | aliased expression label => rfl

theorem Operator.asOption_toJson (o : Operator) : Json.asOption ofJson o.toJson = .ok (some o) := by
  cases o <;> rfl

theorem DataMap.ofJson_toJson {d : DataMap} (h : ∀ v ∈ d.values, v.IsPortable) : ofJson d.toJson = .ok d := by
  have hscalars : scalars d.toJson = d.entries := by
    rw [toJson, scalars, List.filterMap_map]
    refine (List.filterMap_congr fun p hp => ?_).trans List.filterMap_some
    simp [Value.ofJson?_of_isPortable (h p.2 (List.mem_map_of_mem hp))]
  show Except.ok (empty.merge (scalars d.toJson) none) = .ok d
  rw [hscalars, empty_merge_entries]

/-- A null value is read as one that is not set. -/
theorem Value.asOption_toJson {v : Value} (h : v.IsPortable) :
    Json.asOption ofJson v.toJson = .ok (Comparison.given? (some v)) := by
  have hread : ofJson v.toJson = .ok v := by
    rw [ofJson, ofJson?_of_isPortable h]
  by_cases hv : v = .null
  · subst hv
    rfl
  · have hne : v.toJson ≠ .null := fun e => hv ((toJson_eq_null h).1 e)
    have hgiven : Comparison.given? (some v) = some v := by
      cases v <;> first | exact absurd rfl hv | rfl
    rw [hgiven]
    cases hj : v.toJson <;> simp_all [Json.asOption, Except.map]

theorem Comparison.bind_given? (slot : Option Value) : (slot.bind fun v => given? (some v)) = given? slot := by
  cases slot <;> rfl

theorem Comparison.ofJson_toJson {c : Comparison} (h : ∀ v ∈ c.value.toList ++ c.value2.toList, v.IsPortable) :
    ofJson c.toJson = .ok c.withoutNulls := by
  have hvalue : ∀ v ∈ c.value, Json.asOption Value.ofJson v.toJson = .ok (given? (some v)) := by
    intro v hv
    exact Value.asOption_toJson (h v (by simp [Option.mem_def.1 hv]))
  have hvalue2 : ∀ v ∈ c.value2, Json.asOption Value.ofJson v.toJson = .ok (given? (some v)) := by
    intro v hv
    exact Value.asOption_toJson (h v (by simp [Option.mem_def.1 hv]))
  rw [toJson, ofJson, List.append_assoc, List.append_assoc, ← List.append_nil (Json.part "value2" _ _),
    Json.fold_part_append (g := fun c field => { c with field }) (f := some) rfl rfl fun _ _ => rfl,
    Json.fold_part_append (g := fun c operator => { c with operator }) rfl rfl fun o _ => o.asOption_toJson,
    Json.fold_part_append (g := fun c value => { c with value }) rfl rfl hvalue,
    Json.fold_part_append (g := fun c value2 => { c with value2 }) rfl rfl hvalue2]
  simp only [Option.bind_fun_some, bind_given?]
  rfl

mutual
theorem Condition.ofJson_toJson : ∀ c : Condition, (∀ v ∈ c.slots, v.IsPortable) → ofJson c.toJson = .ok c.withoutNulls
  | .compare c, h => by
    rw [toJson, ofJson, if_pos rfl, c.ofJson_toJson h]
    rfl
  | .anyOf cs, h => by
    rw [toJson, ofJson, if_neg (by decide), if_pos rfl, ofAlternatives, ofItems_toJsons cs h]
    rfl

theorem Condition.ofItems_toJsons : ∀ cs : List Condition, (∀ v ∈ slotsAll cs, v.IsPortable) →
    ofItems (toJsons cs) = .ok (allWithoutNulls cs)
  | [], _ => rfl
  | c :: cs, h => by
    rw [slotsAll] at h
    rw [toJsons, ofItems, ofJson_toJson c fun v hv => h v (List.mem_append_left _ hv),
      ofItems_toJsons cs fun v hv => h v (List.mem_append_right _ hv)]
    rfl
end

/-- What has been written is read, but that null values in conditions are unset. -/
theorem Options.ofJson_toJson {o : Options} (h : o.IsPortable) :
    ofJson o.toJson = .ok { o with conditions := o.conditions.map Condition.withoutNulls } := by
  have hcolumns : (o.columns.map Column.toJson).mapM Column.ofJson = .ok o.columns := by
    simpa using mapM_map_of (f := id) fun (c : Column) (_ : c ∈ o.columns) => c.ofJson_toJson
  have hdata : DataMap.ofJson o.data.toJson = .ok o.data := DataMap.ofJson_toJson h.data
  have hconditions : (o.conditions.map Condition.toJson).mapM Condition.ofJson =
      .ok (o.conditions.map Condition.withoutNulls) :=
    mapM_map_of fun c hc => c.ofJson_toJson (h.conditions c hc)
  rw [toJson, ofJson, Json.fold_cons (t := { table := o.table }) rfl rfl,
    Json.fold_cons (t := { table := o.table, database := o.database }) rfl rfl,
    Json.fold_cons (t := { table := o.table, database := o.database, columns := o.columns }) rfl
      (by simp [Json.asArray, hcolumns, bind, Except.bind, pure, Except.pure]),
    Json.fold_cons (t := { o with conditions := [] }) rfl
      (by simp [hdata, bind, Except.bind, pure, Except.pure]),
    Json.fold_cons (t := { o with conditions := o.conditions.map Condition.withoutNulls }) rfl
      (by simp [Json.asArray, hconditions, bind, Except.bind, pure, Except.pure])]
  rfl

/-! ## Statements made from descriptions -/

theorem Condition.allWithoutNulls_eq_map (cs : List Condition) : allWithoutNulls cs = cs.map withoutNulls := by
  induction cs with
  | nil => rfl
  | cons c cs ih => rw [allWithoutNulls, ih, List.map_cons]

namespace Statement

theorem whereClause?_withoutNulls (fields : List String) (conditions : List Condition) :
    whereClause? fields (conditions.map Condition.withoutNulls) = whereClause? fields conditions := by
  simp only [whereClause?, predicates, ← Condition.allWithoutNulls_eq_map, Condition.buildAll_withoutNulls]

/-- A statement is built from conditions without their null values as it is with them. -/
theorem build_withoutNulls (keyword : Keyword) (o : Options) (deletesAll : Bool) :
    (Statement.mk keyword { o with conditions := o.conditions.map Condition.withoutNulls } deletesAll).build =
      (Statement.mk keyword o deletesAll).build := by
  cases keyword <;>
    simp only [build, buildInsert, buildSelect, buildUpdate, buildDelete, whereClause?_withoutNulls, List.isEmpty_map]

theorem values_withoutNulls (keyword : Keyword) (o : Options) (deletesAll : Bool) :
    (Statement.mk keyword { o with conditions := o.conditions.map Condition.withoutNulls } deletesAll).values =
      (Statement.mk keyword o deletesAll).values := by
  simp only [values, ← Condition.allWithoutNulls_eq_map, Condition.valuesAll_withoutNulls]

end Statement

/-- The description of options is read, as options with the same table, database, columns and data, and with the same
conditions but that a null value in them is unset. Statements of all kinds that are made from them have the same text
and the same values, or fail with the same error. -/
theorem Options.exists_described {o : Options} (h : o.IsPortable) : ∃ described,
    Options.ofJson o.toJson = .ok described ∧
      described.table = o.table ∧ described.database = o.database ∧ described.columns = o.columns ∧
      described.data = o.data ∧ described.conditions = o.conditions.map Condition.withoutNulls ∧
      ∀ keyword deletesAll,
        (Statement.mk keyword described deletesAll).build = (Statement.mk keyword o deletesAll).build ∧
        (Statement.mk keyword described deletesAll).values = (Statement.mk keyword o deletesAll).values :=
  ⟨_, Options.ofJson_toJson h, rfl, rfl, rfl, rfl, rfl, fun keyword deletesAll =>
    ⟨Statement.build_withoutNulls keyword o deletesAll, Statement.values_withoutNulls keyword o deletesAll⟩⟩

/-- A query with a null value among its data and another in a condition. -/
def Options.halfSet : Options where
  table := "person"
  database := "reports"
  columns := [.name "id", .aliased "COUNT(*)" "count"]
  data := .ofList [("note", .null), ("ratio", .float (Binary.ofBits .double 0x4004000000000000))]
  conditions :=
    [.range "size" (.bool false) (.text "z"),
      .anyOf [.of .lessOrEquals "age" (.bool true), .compare { field := some "born", value := some .null }]]

theorem Options.exists_described_halfSet :
    Options.halfSet.IsPortable ∧ ∃ described, Options.ofJson Options.halfSet.toJson = .ok described ∧
      described.data.values = [.null, .float (Binary.ofBits .double 0x4004000000000000)] ∧
      described.conditions =
        [.range "size" (.bool false) (.text "z"),
          .anyOf [.of .lessOrEquals "age" (.bool true), .compare { field := some "born" }]] ∧
      (Statement.mk .select described false).build = .error (.missingValue "born") := by
  have h : Options.halfSet.IsPortable := ⟨by decide, by decide⟩
  obtain ⟨described, hread, -, -, -, hdata, hconditions, hsame⟩ := Options.exists_described h
  refine ⟨h, described, hread, ?_, ?_, ?_⟩
  · rw [hdata]
    rfl
  · rw [hconditions]
    rfl
  · rw [(hsame .select false).1]
    rfl

end TypedSql
