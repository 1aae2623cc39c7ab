import TypedSql.DataMap
import TypedSql.Proofs.Pairs

/-!
# Records merged into data

* `Value.normal` : what is left of a value behind its JSON form;
* `DataMap.mergeSerialized_record` : a record is merged as its fields are, each with its normal value;
* `DataMap.get?_merge_last` : of several entries for a field the last one counts.
-/

namespace TypedSql

/-! ## Values behind their JSON form -/

/-- What is left of a value behind its JSON form: timestamps become text, infinities and not-a-numbers null. -/
def Value.normal : Value → Value
  | timestamp t => text t.text
  | float x => if x.isFinite then float x else null
  | v => v

theorem Value.ofJson?_toJson (v : Value) : ofJson? v.toJson = some v.normal := by
  cases v with
  | int n =>
    have hn : Signed.ofInt? 64 n.val = some n := Signed.ofInt?_eq_some_iff.2 rfl
    simp [toJson, ofJson?, hn, normal]
  | float x => by_cases h : x.isFinite <;> simp [toJson, ofJson?, normal, h]
  | _ => rfl

theorem Record.members_eq_map (r : Record) :
    r.members = (Pairs.putAll [] r.fields).map fun p => (p.1, p.2.toJson) := by
  rw [Pairs.map_putAll]
  unfold members Pairs.putAll
  rw [List.foldl_map]
  rfl

namespace DataMap

theorem eq_of_entries {d e : DataMap} (h : d.entries = e.entries) : d = e := by
  cases d
  cases e
  cases h
  rfl

theorem entries_merge (d : DataMap) (es : List (String × Value)) (filter : Option (List String)) :
    (d.merge es filter).entries = Pairs.putAll d.entries (es.filter fun p => allows filter p.1) := by
  unfold merge
  induction es.filter fun p => allows filter p.1 generalizing d with
  | nil => rfl
  | cons p ps ih => rw [List.foldl_cons, ih, entries_insert, Pairs.putAll_cons]

/-- Data merge to themselves. -/
theorem empty_merge_entries (d : DataMap) : empty.merge d.entries none = d := by
  have hall : (d.entries.filter fun p => allows none p.1) = d.entries := by simp [allows]
  apply eq_of_entries
  rw [entries_merge, hall]
  exact Pairs.putAll_of_nodup d.nodup

theorem scalars_record (r : Record) :
    scalars r.toJson = Pairs.putAll [] (r.fields.map fun p => (p.1, p.2.normal)) := by
  have hscalars : scalars r.toJson = r.members.filterMap fun p => (Value.ofJson? p.2).map (p.1, ·) := rfl
  have hmap := Pairs.map_putAll Value.normal [] r.fields
  rw [hscalars, Record.members_eq_map, List.filterMap_map, ← List.map_nil, ← hmap, ← List.filterMap_eq_map]
  refine congrArg (List.filterMap · _) (funext fun p => ?_)
  rw [Function.comp_apply, Value.ofJson?_toJson]
  rfl

/-- A record is merged as its fields are, each with its normal value, from left to right. -/
theorem mergeSerialized_record (d : DataMap) (r : Record) (filter : Option (List String)) :
    d.mergeSerialized (.record r) filter = .ok (d.merge (r.fields.map fun p => (p.1, p.2.normal)) filter) := by
  have hjson : d.mergeSerialized (.record r) filter = .ok (d.merge (scalars r.toJson) filter) := rfl
  rw [hjson, scalars_record]
  refine congrArg Except.ok (eq_of_entries ?_)
  rw [entries_merge, entries_merge, Pairs.filter_putAll]
  exact Pairs.putAll_putAll _ _ List.nodup_nil

theorem get?_merge_last {name : String} {filter : Option (List String)} (hf : allows filter name = true) (d : DataMap)
    (before after : List (String × Value)) (ha : name ∉ Pairs.names after) (v : Value) :
    (d.merge (before ++ (name, v) :: after) filter).get? name = some v := by
  have hnot : name ∉ Pairs.names (after.filter fun p => allows filter p.1) := by
    intro hm
    obtain ⟨p, hp, hname⟩ := List.mem_map.1 hm
    exact ha (List.mem_map.2 ⟨p, (List.mem_filter.1 hp).1, hname⟩)
  unfold get?
  rw [entries_merge, List.filter_append, List.filter_cons_of_pos (by simpa using hf), Pairs.putAll_append,
    Pairs.putAll_cons, Pairs.get?_putAll_of_not_mem hnot, Pairs.get?_put_self]

end DataMap

end TypedSql
