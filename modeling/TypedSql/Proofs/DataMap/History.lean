import Mathlib.Data.List.Basic
import TypedSql.Proofs.Record.Merge

/-!
# The history of ordered data

* `DataMap.Origin`, `DataMap.Operation` : what data start from, and what is then done to them;
* `DataMap.offered` : the entries that have been offered since data were last cleared;
* `DataMap.entries_run` : the entries of data are what has been offered, settled;
* `DataMap.mergeSerialized_eq_merge` : a record in its JSON form offers its fields, each with its normal value.
-/

namespace TypedSql

/-! ## Operations -/

/-- Whether a value is a scalar: neither an array nor an object. -/
def Json.isScalar : Json → Bool
  | array _ | object _ => false
  | _ => true

theorem Value.ofJson?_eq_none_iff {j : Json} : ofJson? j = none ↔ j.isScalar = false := by
  cases j with
  | number n =>
    cases n with
    | int n => cases h : Signed.ofInt? 64 n <;> simp [ofJson?, Json.isScalar, h]
    | float x => simp [ofJson?, Json.isScalar]
  | _ => simp [ofJson?, Json.isScalar]

namespace DataMap

/-- Whether a filter lets a field pass: a filter names the fields that pass, and without one all do. -/
def Passes (filter : Option (List String)) (field : String) : Prop :=
  ∀ fields ∈ filter, field ∈ fields

instance (filter : Option (List String)) (field : String) : Decidable (Passes filter field) :=
  inferInstanceAs (Decidable (∀ fields ∈ filter, field ∈ fields))

/-- What a JSON value has to offer: the members of an object that are scalars. -/
def membersOf : Json → List (String × Value)
  | .object members =>
    (members.filter fun m => m.2.isScalar).filterMap fun m => (Value.ofJson? m.2).map (m.1, ·)
  | _ => []

/-- What data start from: nothing, a list of entries, or the members of the object that describes them. -/
inductive Origin where
  | new
  | collected (entries : List (String × Value))
  | described (members : List (String × Json))

def Origin.data : Origin → Except Json.Misfit DataMap
  | new => .ok .empty
  | collected entries => .ok (.ofList entries)
  | described members => DataMap.ofJson (.object members)

/-- The entries that data have been offered at their start. -/
def Origin.offers : Origin → List (String × Value)
  | new => []
  | collected entries => entries
  | described members => membersOf (.object members)

/-- What is done to data. -/
inductive Operation where
  | insert (field : String) (v : Value)
  | clear
  | merge (entries : List (String × Value)) (filter : Option (List String))
  | mergeJson (j : Json) (filter : Option (List String))
  | mergeSerialized (s : Source) (filter : Option (List String))

/-- The entries that an operation offers, as far as its filter lets them pass. -/
def Operation.offers : Operation → List (String × Value)
  | insert field v => [(field, v)]
  | clear => []
  | merge entries filter => entries.filter fun p => Passes filter p.1
  | mergeJson j filter => (membersOf j).filter fun p => Passes filter p.1
  | mergeSerialized s filter =>
    match s.toJson with
    | .ok j => (membersOf j).filter fun p => Passes filter p.1
    | .error _ => []

/-- One operation; a source without a JSON form leaves the data as they were. -/
def step (d : DataMap) : Operation → DataMap
  | .insert field v => d.insert field v
  | .clear => .empty
  | .merge entries filter => d.merge entries filter
  | .mergeJson j filter => d.mergeJson j filter
  | .mergeSerialized s filter => (d.mergeSerialized s filter).toOption.getD d

def run (d : DataMap) (ops : List Operation) : DataMap :=
  ops.foldl step d

/-- What has been offered since the last clearing, after an operation that follows on the offers `es`. -/
def Operation.offeredAfter (es : List (String × Value)) : Operation → List (String × Value)
  | clear => []
  | op => es ++ op.offers

/-- What has been offered since the last clearing, after operations that follow on the offers `es`. -/
def offered (es : List (String × Value)) (ops : List Operation) : List (String × Value) :=
  ops.foldl Operation.offeredAfter es

theorem allows_eq (filter : Option (List String)) (field : String) :
    allows filter field = decide (Passes filter field) := by
  cases filter <;> simp [allows, Passes]

theorem scalars_eq (j : Json) : scalars j = membersOf j := by
  cases j with
  | object members =>
    rw [scalars, membersOf, List.filterMap_filter]
    apply List.filterMap_congr
    intro m _
    by_cases h : m.2.isScalar = true
    · simp [h]
    · simp [Value.ofJson?_eq_none_iff.2 (by simpa using h), h]
  | _ => rfl

theorem passing_eq (filter : Option (List String)) (es : List (String × Value)) :
    (es.filter fun p => allows filter p.1) = es.filter fun p => Passes filter p.1 := by
  simp only [allows_eq]

/-- One operation puts what it offers, one entry after the other, to what is there; a clearing leaves nothing. -/
theorem entries_step {d : DataMap} {es : List (String × Value)} (h : d.entries = Pairs.putAll [] es) (op : Operation) :
    (d.step op).entries = Pairs.putAll [] (op.offeredAfter es) := by
  cases op with
  | clear => rfl
  | insert field v =>
    show Pairs.put field v d.entries = Pairs.putAll [] (es ++ [(field, v)])
    rw [Pairs.putAll_append, ← h]
    rfl
  | merge entries filter =>
    show (d.merge entries filter).entries = Pairs.putAll [] (es ++ entries.filter fun p => Passes filter p.1)
    rw [entries_merge, passing_eq, Pairs.putAll_append, ← h]
  | mergeJson j filter =>
    show (d.merge (scalars j) filter).entries = Pairs.putAll [] (es ++ (membersOf j).filter fun p => Passes filter p.1)
    rw [entries_merge, passing_eq, scalars_eq, Pairs.putAll_append, ← h]
  | mergeSerialized s filter =>
    show ((d.mergeSerialized s filter).toOption.getD d).entries =
      Pairs.putAll [] (es ++ Operation.offers (.mergeSerialized s filter))
    rw [mergeSerialized, Operation.offers, Pairs.putAll_append, ← h]
    cases s.toJson with
    | error e => rfl
    | ok j =>
      show (d.merge (scalars j) filter).entries = _
      rw [entries_merge, passing_eq, scalars_eq]

theorem entries_foldl {d : DataMap} {es : List (String × Value)} (h : d.entries = Pairs.putAll [] es)
    (ops : List Operation) : (d.run ops).entries = Pairs.putAll [] (offered es ops) := by
  induction ops generalizing d es with
  | nil => exact h
  | cons op ops ih => exact ih (entries_step h op)

theorem Origin.exists_data (o : Origin) : ∃ d, o.data = .ok d ∧ d.entries = Pairs.putAll [] o.offers := by
  cases o with
  | new => exact ⟨.empty, rfl, rfl⟩
  | collected entries =>
    refine ⟨.ofList entries, rfl, ?_⟩
    simp [ofList, entries_merge, allows, Origin.offers, empty]
  | described members =>
    refine ⟨DataMap.empty.mergeJson (.object members) none, rfl, ?_⟩
    simp [mergeJson, entries_merge, allows, Origin.offers, empty, scalars_eq]

/-- A source that is no object has nothing to offer. -/
theorem membersOf_eq_nil {j : Json} (h : ∀ members, j ≠ .object members) : membersOf j = [] := by
  cases j with
  | object members => exact absurd rfl (h members)
  | _ => rfl

/-- What offers nothing leaves the data as they were. -/
theorem merge_nil (d : DataMap) (filter : Option (List String)) : d.merge [] filter = d := rfl

/-- Whatever data start from, their entries are what they have been offered since they were last cleared, each field
once, at the place of its first offer and with the value of its last one. So no field has two entries, a field is looked
up among the entries, a source that is no object or has no JSON form changes nothing, and the entries make up the same
data again. -/
theorem entries_run (o : Origin) (ops : List Operation) : ∃ start, o.data = .ok start ∧
    let d := start.run ops
    d.entries = Pairs.settled (offered o.offers ops) ∧
      d.fields.Nodup ∧
      (∀ field v, d.get? field = some v ↔ (field, v) ∈ d.entries) ∧
      (∀ j filter, (∀ members, j ≠ .object members) → d.step (.mergeJson j filter) = d) ∧
      (∀ s filter, (∀ members, s.toJson ≠ .ok (.object members)) → d.step (.mergeSerialized s filter) = d) ∧
      DataMap.ofList d.entries = d := by
  obtain ⟨start, hstart, hentries⟩ := o.exists_data
  refine ⟨start, hstart, ?_⟩
  intro d
  refine ⟨?_, d.nodup, fun field v => Pairs.get?_eq_some_iff d.nodup, ?_, ?_, empty_merge_entries d⟩
  · rw [entries_foldl hentries ops, Pairs.putAll_nil]
  · intro j filter hj
    show d.merge (scalars j) filter = d
    rw [scalars_eq, membersOf_eq_nil hj, merge_nil]
  · intro s filter hs
    rw [step, mergeSerialized]
    cases hj : s.toJson with
    | error e => rfl
    | ok j =>
      show d.merge (scalars j) filter = d
      rw [scalars_eq, membersOf_eq_nil fun members e => hs members (hj.trans (e ▸ rfl)), merge_nil]

example :
    let before : List (String × Value) := [("id", .bool false)]
    let ops : List Operation :=
      [.insert "age" (.bool true), .clear, .insert "name" (.text "Ann"), .mergeSerialized .oddKeys none,
        .mergeJson (.object [("id", .null), ("tags", .array []), ("on", .bool true)]) none,
        .merge [("on", .bool false), ("name", .text "Bo"), ("id", .bool true)] (some ["name", "id"])]
    ((DataMap.ofList before).run ops).entries = [("name", .text "Bo"), ("id", .bool true), ("on", .bool true)] := by
  decide

/-! ## Records -/

theorem entries_merge_eq_settled (d : DataMap) (es : List (String × Value)) (filter : Option (List String)) :
    (d.merge es filter).entries = Pairs.settled (d.entries ++ es.filter fun p => Passes filter p.1) := by
  have hself : Pairs.putAll [] d.entries = d.entries := Pairs.putAll_of_nodup d.nodup
  rw [← Pairs.putAll_nil, Pairs.putAll_append, hself, entries_merge, passing_eq]

/-- To merge a record in its JSON form, in which each name stands once, is to merge its fields one after the other, with
timestamps as their text and null for infinities and not-a-numbers, and all else as it is. Either way what is there and
what passes the filter settles: a name keeps its first place and takes its last value. -/
theorem mergeSerialized_eq_merge (d : DataMap) (r : Record) (filter : Option (List String)) :
    let entries := r.fields.map fun p => (p.1, p.2.normal)
    d.mergeSerialized (.record r) filter = .ok (d.merge entries filter) ∧
      (d.merge entries filter).entries = Pairs.settled (d.entries ++ entries.filter fun p => Passes filter p.1) :=
  ⟨mergeSerialized_record d r filter, entries_merge_eq_settled d _ filter⟩

/-- A name that is there, one that stands twice in the record, a negative zero and an infinity. -/
example :
    let r : Record := ⟨[("at", .timestamp ⟨.epoch, .midnight⟩), ("x", .float ⟨true, 0, 0⟩), ("no", .bool true),
      ("at", .float ⟨false, 2047, 0⟩)]⟩
    ((DataMap.ofList [("x", .null)]).mergeSerialized (.record r) (some ["x", "at"])).map DataMap.entries =
      .ok [("x", .float ⟨true, 0, 0⟩), ("at", .null)] := by
  decide +kernel

end DataMap

end TypedSql
