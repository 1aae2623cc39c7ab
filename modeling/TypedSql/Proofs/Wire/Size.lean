import TypedSql.Proofs.Parameter.Binding
import TypedSql.Proofs.Wire.Cell
import TypedSql.Proofs.Wire.Uuid

/-!
# The size of a cell

* `Parameter.size?`, `SqlType.size?` : the number of bytes of a parameter, and of all parameters of a type;
* `fixedSizes` : the server types whose values all have one number of bytes, with that number; `formed` are those among
  them that have a form of their own, `worded` those whose values are sent as text;
* `length_of_encode` : a value has the size of its type, or it is sent as the text that it is;
* `length_encode_worded` : which may have another length.
-/

namespace TypedSql

/-! ## Sizes of parameters -/

/-- The number of bytes of a parameter; decimals and texts have any number of them. -/
def Parameter.size? : Parameter → Option Nat
  | bool _ => some 1
  | smallInt _ => some 2
  | integer _ | real _ | date _ => some 4
  | bigInt _ | double _ | time _ | timestamp _ | timestampTz _ => some 8
  | null _ | numeric _ | text _ => none

/-- The number of bytes of all parameters of a type other than null. -/
def SqlType.size? : SqlType → Option Nat
  | boolean => some 1
  | smallInt => some 2
  | integer | real | date => some 4
  | bigInt | double | time | timestamp | timestampTz => some 8
  | numeric | char | varChar | text | other _ => none

namespace Parameter
variable {type : SqlType} {v : Value} {p : Parameter}

theorem size?_of_convert {size : Nat} (htype : type.size? = some size) (h : convert type v = .ok p) :
    p.size? = some size := by
  cases type with
  | numeric | char | varChar | text | other name => cases htype
  | _ =>
    obtain ⟨a, -, rfl⟩ := exists_of_map_eq_ok h
    exact htype

end Parameter

namespace Wire
variable {type : String} {p : Parameter} {cell : Option (List UInt8)}

/-- A parameter other than null has bytes, if it has a form in its type at all. -/
theorem exists_bytes_of_encode (hp : ∀ t, p ≠ .null t) (h : encode type p = some cell) :
    ∃ bs, cell = some bs ∧ bytesOf? type p = some bs := by
  unfold encode at h
  split at h
  · next t => exact absurd rfl (hp t)
  · obtain ⟨bs, hbs, rfl⟩ := Option.map_eq_some_iff.1 h
    exact ⟨bs, rfl, hbs⟩

theorem length_of_size? {size : Nat} (hsize : p.size? = some size) (h : encode type p = some cell) :
    ∃ bs, cell = some bs ∧ bs.length = size := by
  have hp : ∀ t, p ≠ .null t := by
    rintro t rfl
    cases hsize
  obtain ⟨bs, hcell, hbs⟩ := exists_bytes_of_encode hp h
  refine ⟨bs, hcell, ?_⟩
  cases p with
  | null t | numeric d | text s => cases hsize
  | bool b =>
    cases hsize
    cases hbs
    rfl
  | _ =>
    cases hsize
    cases hbs
    exact length_bytes _ _

theorem exists_textBytes_of_encode {s : String} (h : encode type (.text s) = some cell) :
    ∃ bs, cell = some bs ∧ textBytes? type s = some bs :=
  exists_bytes_of_encode (fun _ => Parameter.noConfusion) h

/-! ## Server types of a fixed size -/

/-- Server types of a fixed size that have a form of their own. -/
def formed : List (String × Nat) :=
  [("bool", 1), ("int2", 2), ("int4", 4), ("int8", 8), ("float4", 4), ("float8", 8), ("date", 4), ("time", 8),
    ("timestamp", 8), ("timestamptz", 8), ("uuid", 16)]

/-- Server types of a fixed size whose values are sent as text. -/
def worded : List (String × Nat) :=
  [("char", 1), ("oid", 4), ("money", 8), ("timetz", 12), ("interval", 16), ("macaddr", 6)]

/-- The server types whose values all have the same number of bytes, and that number. -/
def fixedSizes : List (String × Nat) :=
  formed ++ worded

theorem size?_of_mem_formed : ∀ ts ∈ formed, (SqlType.ofServer ts.1).size? = some ts.2 ∨ ts = ("uuid", 16) := by
  decide

theorem isTextual_of_mem_worded : ∀ ts ∈ worded, (SqlType.ofServer ts.1).isTextual = true ∧ ts.1 ∉ shaped := by
  decide

section
variable {position size : Nat} {v : Value}

theorem length_of_formed (htype : (type, size) ∈ formed) (h : Parameter.convert (.ofServer type) v = .ok p)
    (hcell : encode type p = some cell) : ∃ bs, cell = some bs ∧ bs.length = size := by
  rcases size?_of_mem_formed _ htype with hsize | huuid
  · exact length_of_size? (Parameter.size?_of_convert hsize h) hcell
  · cases huuid
    obtain rfl := Parameter.eq_text_of_convert rfl h
    obtain ⟨bs, rfl, hbs⟩ := exists_textBytes_of_encode hcell
    exact ⟨bs, rfl, length_of_readUuid? hbs⟩

theorem eq_utf8_of_worded (htype : (type, size) ∈ worded) (h : Parameter.convert (.ofServer type) v = .ok p)
    (hcell : encode type p = some cell) : cell = some (Text.utf8 v.display) := by
  obtain ⟨htextual, hplain⟩ := isTextual_of_mem_worded _ htype
  obtain rfl := Parameter.eq_text_of_convert htextual h
  obtain ⟨bs, rfl, hbs⟩ := exists_textBytes_of_encode hcell
  rw [← hbs, textBytes?_plain hplain]

/-- A value other than null that is bound to a server type of a fixed size, and has a form in it, has so many bytes; but
for the types that have no form of their own, in which it has the bytes of its text. -/
theorem length_of_encode (htype : (type, size) ∈ fixedSizes) (hv : v ≠ .null)
    (hp : bindAt position (.ofServer type) v = .ok p) (hcell : encode type p = some cell) :
    ∃ bs, cell = some bs ∧ if (type, size) ∈ worded then bs = Text.utf8 v.display else bs.length = size := by
  have hnull : v.isNull = false := by
    cases v with
    | null => exact absurd rfl hv
    | _ => rfl
  have hconvert := (bindAt_eq_ok_iff hnull).1 hp
  by_cases hworded : (type, size) ∈ worded
  · exact ⟨_, eq_utf8_of_worded hworded hconvert hcell, by rw [if_pos hworded]⟩
  · have hformed : (type, size) ∈ formed := (List.mem_append.1 htype).resolve_right hworded
    obtain ⟨bs, hbs, hlength⟩ := length_of_formed hformed hconvert hcell
    exact ⟨bs, hbs, by rwa [if_neg hworded]⟩

end

/-- An identifier in braces between blanks takes up its sixteen bytes, and a truth value as an interval the bytes of its
word. -/
theorem length_of_encode_identifier :
    let identifier : Value := .text " \x7b67e55044-10b1-426f-9247-BB680E5FE0C8\x7d\n"
    let cell := [0x67, 0xe5, 0x50, 0x44, 0x10, 0xb1, 0x42, 0x6f, 0x92, 0x47, 0xbb, 0x68, 0x0e, 0x5f, 0xe0, 0xc8]
    (∃ p, bindAt 1 (.ofServer "uuid") identifier = .ok p ∧ encode "uuid" p = some (some cell) ∧ cell.length = 16) ∧
      ∃ p bs, bindAt 2 (.ofServer "interval") (.bool false) = .ok p ∧ encode "interval" p = some (some bs) ∧
        bs = Text.utf8 "false" := by
  intro identifier cell
  have hp : bindAt 1 (.ofServer "uuid") identifier = .ok (.text identifier.display) := rfl
  have hcell : encode "uuid" (.text identifier.display) = some (some cell) := by decide +kernel
  have hq : bindAt 2 (.ofServer "interval") (.bool false) = .ok (.text "false") := rfl
  have hbs : encode "interval" (.text "false") = some (some (Text.utf8 "false")) := rfl
  obtain ⟨bs, hsome, hlength⟩ := @length_of_encode "uuid" _ _ 1 16 identifier (by decide) nofun hp hcell
  obtain ⟨bs', hsome', hutf8⟩ := @length_of_encode "interval" _ _ 2 16 (.bool false) (by decide) nofun hq hbs
  cases hsome
  cases hsome'
  rw [if_neg (by decide)] at hlength
  rw [if_pos (by decide)] at hutf8
  exact ⟨⟨_, hp, hcell, hlength⟩, _, _, hq, hbs, hutf8⟩

/-- In a type that has no form of its own a value may take up another number of bytes than the type has: three letters as
an object identifier of four, an integer as one in a single digit, and three letters as a single character. In a type
that has one the same letters have no form. -/
theorem length_encode_worded :
    ("oid", 4) ∈ fixedSizes ∧ ("char", 1) ∈ fixedSizes ∧
      (∃ p bs, bindAt 1 (.ofServer "oid") (.text "abc") = .ok p ∧ encode "oid" p = some (some bs) ∧ bs.length ≠ 4) ∧
      (∃ p bs, bindAt 1 (.ofServer "oid") (.int ⟨7, by decide, by decide⟩) = .ok p ∧
        encode "oid" p = some (some bs) ∧ bs.length ≠ 4) ∧
      (∃ p bs, bindAt 1 (.ofServer "char") (.text "abc") = .ok p ∧ encode "char" p = some (some bs) ∧ bs.length ≠ 1) ∧
      ∃ p, bindAt 1 (.ofServer "uuid") (.text "abc") = .ok p ∧ encode "uuid" p = none :=
  ⟨by decide, by decide, ⟨_, _, rfl, rfl, by decide⟩, ⟨_, _, rfl, rfl, by decide⟩, ⟨_, _, rfl, rfl, by decide⟩, _, rfl,
    by decide⟩

end Wire

end TypedSql
