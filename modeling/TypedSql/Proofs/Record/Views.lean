import TypedSql.Materialize
import TypedSql.Proofs.Record.Merge
import TypedSql.Proofs.Traversal

/-!
# The views of a record

* `Record.entries` : the members that a record is written with, one after the other;
* `Record.ViewsAgree` : looked up, made an object and written, a record is one mapping;
* `Record.viewsAgree_iff_nodup` : so it is if and only if no two fields have one name;
* `Materializer.viewsAgree_iff` : the fields of the records of rows have different names if and only if the columns have
  different names in camel case.
-/

namespace TypedSql

/-! ## Views -/

/-- The member of an object; what is no object has none. -/
def Json.member? (name : String) : Json → Option Json
  | object members => Pairs.get? name members
  | _ => none

namespace Record

/-- The members of the text that a record is written as, one for each field. -/
def entries (r : Record) : List (String × Json) :=
  r.fields.map fun p => (p.1, p.2.toJson)

theorem serialized_eq (r : Record) : r.serialized = (Json.object r.entries).text := rfl

/-- The views of a record agree: the field of a name is the member of the object, or there is neither; and the members
that are written, no name twice, are the object, so that the text of the record is the text of the object. -/
structure ViewsAgree (r : Record) : Prop where
  map_get? (name : String) : (r.get? name).map Value.toJson = r.toJson.member? name
  nodup : (Pairs.names r.entries).Nodup
  object_entries : Json.object r.entries = r.toJson
  serialized : r.serialized = r.toJson.text

theorem names_entries (r : Record) : Pairs.names r.entries = r.names := by
  unfold entries names Pairs.names
  rw [List.map_map]
  rfl

theorem viewsAgree_iff_nodup (r : Record) : r.ViewsAgree ↔ r.names.Nodup := by
  constructor
  · intro h
    rw [← names_entries]
    exact h.nodup
  · intro h
    have hmembers : r.members = r.entries := by
      rw [members_eq_map, @Pairs.putAll_of_nodup _ [] _ h, List.nil_append, entries]
    have hobject : Json.object r.entries = r.toJson := by rw [toJson, hmembers]
    refine ⟨fun name => ?_, (names_entries r).symm ▸ h, hobject, by rw [serialized_eq, hobject]⟩
    rw [← hobject]
    exact (Pairs.get?_map Value.toJson name r.fields).symm

end Record

/-! ## The records of rows -/

section
variable {Row : Type} {read : Reader Row} {columns : List ColumnMeta}

theorem names_of_fieldsFrom {row : Row} {index : Nat} {fields : List (String × Value)}
    (h : fieldsFrom read row index columns = .ok fields) :
    Pairs.names fields = columns.map fun c => Text.camelCase c.name := by
  induction columns generalizing index fields with
  | nil =>
    cases h
    rfl
  | cons column columns ih =>
    obtain ⟨v, -, h⟩ := bind_eq_ok h
    obtain ⟨rest, hrest, h⟩ := bind_eq_ok h
    cases h
    rw [Pairs.names_cons, List.map_cons, ih hrest]

theorem names_of_recordOf {row : Row} {r : Record} (h : recordOf read columns row = .ok r) :
    r.names = columns.map fun c => Text.camelCase c.name := by
  obtain ⟨fields, hfields, rfl⟩ := exists_of_map_eq_ok h
  exact names_of_fieldsFrom hfields

namespace Materializer

theorem exists_row_of_mem_readAll {rows : List Row} {r : Record} (h : r ∈ (readAll read columns rows).1) :
    ∃ row ∈ rows, recordOf read columns row = .ok r := by
  induction rows with
  | nil => cases h
  | cons row rows ih =>
    rw [readAll] at h
    cases hrow : recordOf read columns row with
    | error e =>
      rw [hrow] at h
      cases h
    | ok record =>
      rw [hrow] at h
      rcases List.mem_cons.1 h with rfl | htail
      · exact ⟨row, List.mem_cons_self, hrow⟩
      · obtain ⟨other, hmem, hother⟩ := ih htail
        exact ⟨other, List.mem_cons_of_mem row hmem, hother⟩

/-- A record that a run gives back, or shows to its observer. -/
def Produces (m : Materializer) (read : Reader Row) (columns : List ColumnMeta) (rows : List Row) (r : Record) : Prop :=
  (∃ records, (m.run read columns rows).1 = .ok records ∧ r ∈ records) ∨ ∃ i, (i, r) ∈ (m.run read columns rows).2

theorem Produces.mem_readAll {m : Materializer} {rows : List Row} {r : Record} (h : m.Produces read columns rows r) :
    r ∈ (readAll read columns (m.rows rows)).1 := by
  unfold Produces run at h
  generalize readAll read columns (m.rows rows) = result at h ⊢
  obtain ⟨records, error⟩ := result
  rcases h with ⟨given, hgiven, hr⟩ | ⟨i, hi⟩
  · cases error with
    | some e => cases hgiven
    | none =>
      cases hgiven
      exact hr
  · cases error <;> exact (List.of_mem_zip hi).2

/-- The views of a record of rows agree if and only if no two columns have one name in camel case. -/
theorem viewsAgree_iff {m : Materializer} {rows : List Row} {r : Record} (h : m.Produces read columns rows r) :
    r.ViewsAgree ↔ (columns.map fun c => Text.camelCase c.name).Nodup := by
  obtain ⟨row, -, hrow⟩ := exists_row_of_mem_readAll h.mem_readAll
  rw [r.viewsAgree_iff_nodup, names_of_recordOf hrow]

/-- A column of two words, and one of three, with a digit among them. -/
theorem viewsAgree_iff_person :
    let columns : List ColumnMeta := [⟨"PERSON_ID", .bigInt⟩, ⟨"line_2_text", .text⟩]
    let r : Record := ⟨[("personId", .int (.ofBool true)), ("line2Text", .text "first floor")]⟩
    (Materializer.mk none).Produces readValues columns [[.bool true, .text "first floor"]] r ∧ r.ViewsAgree := by
  intro columns r
  have hproduces : (Materializer.mk none).Produces readValues columns [[.bool true, .text "first floor"]] r :=
    .inl ⟨[r], by decide +kernel, List.mem_singleton_self r⟩
  exact ⟨hproduces, (viewsAgree_iff hproduces).2 (by decide +kernel)⟩

/-- Two columns of one name in camel case: the first of the fields is found, the second is the member of the object, and
both are written. -/
theorem not_viewsAgree :
    let columns : List ColumnMeta := [⟨"a_b", .integer⟩, ⟨"A_B", .integer⟩]
    let zero : Value := .int (.ofBool false)
    let one : Value := .int (.ofBool true)
    let r : Record := ⟨[("aB", zero), ("aB", one)]⟩
    (Materializer.mk none).Produces readValues columns [[zero, one]] r ∧ r.get? "aB" = some zero ∧
      r.toJson = .object [("aB", one.toJson)] ∧ r.serialized = "\x7b\"aB\":0,\"aB\":1\x7d" ∧ ¬ r.ViewsAgree := by
  intro columns zero one r
  refine ⟨.inl ⟨[r], by decide +kernel, List.mem_singleton_self r⟩, rfl, rfl, by decide +kernel, fun h => ?_⟩
  exact absurd (r.viewsAgree_iff_nodup.1 h) (by decide)

end Materializer

end

end TypedSql
