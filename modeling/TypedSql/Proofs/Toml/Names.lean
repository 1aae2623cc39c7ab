import TypedSql.Proofs.Pairs
import TypedSql.Toml.Reading

/-!
# Names in TOML tables

* `Toml.Keyed` : the names of a table are different, and so are those of all tables within it;
* `Toml.Keyed.alter?` : a change deep in a table keeps this if the change itself does;
* `Toml.keyed_of_value?` : it holds of all values that are read;
* `Toml.keyed_of_read?` : it holds of all documents that are read.
-/

namespace TypedSql.Toml

/-! ## Tables -/

/-- In no table within a value does a name stand twice. -/
inductive IsKeyed : Toml → Prop where
  | string (s : String) : IsKeyed (.string s)
  | integer (n : Int) : IsKeyed (.integer n)
  | float (x : Option Double) : IsKeyed (.float x)
  | boolean (b : Bool) : IsKeyed (.boolean b)
  | moment (text : String) : IsKeyed (.moment text)
  | array {items : List Toml} (h : ∀ v ∈ items, IsKeyed v) : IsKeyed (.array items)
  | tables {items : List Entries} (hnames : ∀ es ∈ items, (Pairs.names es).Nodup)
      (h : ∀ es ∈ items, ∀ p ∈ es, IsKeyed p.2) : IsKeyed (.tables items)
  | table (origin : Origin) {es : Entries} (hnames : (Pairs.names es).Nodup) (h : ∀ p ∈ es, IsKeyed p.2) :
      IsKeyed (.table origin es)

/-- No name stands twice among the entries, nor in a table within their values. -/
structure Keyed (es : Entries) : Prop where
  nodup : (Pairs.names es).Nodup
  values : ∀ p ∈ es, IsKeyed p.2

theorem isKeyed_table {origin : Origin} {es : Entries} : IsKeyed (.table origin es) ↔ Keyed es :=
  ⟨fun | .table _ hnames h => ⟨hnames, h⟩, fun h => .table origin h.nodup h.values⟩

theorem isKeyed_tables {items : List Entries} : IsKeyed (.tables items) ↔ ∀ es ∈ items, Keyed es :=
  ⟨fun | .tables hnames h => fun es hes => ⟨hnames es hes, h es hes⟩,
    fun h => .tables (fun es hes => (h es hes).nodup) fun es hes => (h es hes).values⟩

namespace Keyed
variable {es : Entries} {name : String} {v : Toml}

theorem nil : Keyed [] :=
  ⟨List.nodup_nil, List.forall_mem_nil _⟩

theorem get? (h : Keyed es) (hv : Pairs.get? name es = some v) : IsKeyed v :=
  h.values (name, v) ((Pairs.get?_eq_some_iff h.nodup).1 hv)

theorem append (h : Keyed es) (hname : name ∉ Pairs.names es) (hv : IsKeyed v) : Keyed (es ++ [(name, v)]) where
  nodup := by
    rw [← Pairs.put_of_not_mem v hname]
    exact Pairs.nodup_put name v h.nodup
  values := by
    rw [List.forall_mem_append, List.forall_mem_singleton]
    exact ⟨h.values, hv⟩

theorem put (h : Keyed es) (hv : IsKeyed v) : Keyed (Pairs.put name v es) where
  nodup := Pairs.nodup_put name v h.nodup
  values := by
    have hvalues := h.values
    clear h
    induction es with
    | nil => exact List.forall_mem_singleton.2 hv
    | cons p es ih =>
      rw [List.forall_mem_cons] at hvalues
      rw [Pairs.put]
      split
      · exact List.forall_mem_cons.2 ⟨hv, hvalues.2⟩
      · exact List.forall_mem_cons.2 ⟨hvalues.1, ih hvalues.2⟩

/-- A change of the table that a path leads to, whichever it is, keeps the names of all tables different. -/
theorem alter? {made : Origin} {change : Origin → Entries → Option Entries}
    (hchange : ∀ origin es es', Keyed es → change origin es = some es' → Keyed es') {path : List String}
    {origin : Origin} {es' : Entries} (h : Keyed es) (hes' : Toml.alter? made change path origin es = some es') :
    Keyed es' := by
  induction path generalizing origin es es' with
  | nil => exact hchange origin es es' h hes'
  | cons name path ih =>
    have hput : ∀ {r : Option Toml}, (∀ v, r = some v → IsKeyed v) →
        (r.bind fun v => some (Pairs.put name v es)) = some es' → Keyed es' := by
      intro r hr hbind
      obtain ⟨v, hv, hv'⟩ := Option.bind_eq_some_iff.1 hbind
      obtain rfl := Option.some.inj hv'
      exact h.put (hr v hv)
    rw [Toml.alter?] at hes'
    split at hes'
    · refine hput (fun v hv => ?_) hes'
      obtain ⟨inner, hinner, rfl⟩ := Option.map_eq_some_iff.1 hv
      exact isKeyed_table.2 (ih nil hinner)
    · next origin inner hget =>
      split at hes'
      · refine hput (fun v hv => ?_) hes'
        obtain ⟨inner', hinner, rfl⟩ := Option.map_eq_some_iff.1 hv
        exact isKeyed_table.2 (ih (isKeyed_table.1 (h.get? hget)) hinner)
      · cases hes'
    · next items hget =>
      have hitems := isKeyed_tables.1 (h.get? hget)
      split at hes'
      · next inner hlast =>
        refine hput (fun v hv => ?_) hes'
        obtain ⟨inner', hinner, rfl⟩ := Option.map_eq_some_iff.1 hv
        rw [isKeyed_tables, List.forall_mem_append, List.forall_mem_singleton]
        exact ⟨fun es hes => hitems es ((List.dropLast_sublist items).subset hes),
          ih (hitems inner (List.mem_of_getLast? hlast)) hinner⟩
      · cases hes'
    · cases hes'

theorem assign? {key : List String} {es' : Entries} (h : Keyed es) (hv : IsKeyed v)
    (hes' : Toml.assign? key v es = some es') : Keyed es' := by
  obtain ⟨name, -, hes'⟩ := Option.bind_eq_some_iff.1 hes'
  refine h.alter? (fun origin es es' hes hchange => ?_) hes'
  split at hchange
  · next hnew =>
    obtain rfl := Option.some.inj hchange
    exact hes.append hnew.2 hv
  · cases hchange

theorem openTable? {key : List String} {es' : Entries} (h : Keyed es) (hes' : Toml.openTable? key es = some es') :
    Keyed es' := by
  obtain ⟨name, -, hes'⟩ := Option.bind_eq_some_iff.1 hes'
  refine h.alter? (fun origin es es' hes hchange => ?_) hes'
  split at hchange
  · obtain rfl := Option.some.inj hchange
    exact hes.put (isKeyed_table.2 nil)
  · next inner hget =>
    obtain rfl := Option.some.inj hchange
    exact hes.put (isKeyed_table.2 (isKeyed_table.1 (hes.get? hget)))
  · cases hchange

theorem openItem? {key : List String} {es' : Entries} (h : Keyed es) (hes' : Toml.openItem? key es = some es') :
    Keyed es' := by
  obtain ⟨name, -, hes'⟩ := Option.bind_eq_some_iff.1 hes'
  refine h.alter? (fun origin es es' hes hchange => ?_) hes'
  split at hchange
  · obtain rfl := Option.some.inj hchange
    exact hes.put (isKeyed_tables.2 (List.forall_mem_singleton.2 nil))
  · next items hget =>
    obtain rfl := Option.some.inj hchange
    refine hes.put (isKeyed_tables.2 ?_)
    rw [List.forall_mem_append, List.forall_mem_singleton]
    exact ⟨isKeyed_tables.1 (hes.get? hget), nil⟩
  · cases hchange

end Keyed

/-! ## Values -/

theorem isKeyed_of_scalar? {s : List Char} {v : Toml} (h : scalar? s = some v) : IsKeyed v := by
  unfold scalar? at h
  split at h
  · cases h
    exact .boolean true
  split at h
  · cases h
    exact .boolean false
  split at h
  · cases h
    exact .moment _
  cases hn : Scalar.integer? s with
  | some n =>
    rw [hn] at h
    cases h
    exact .integer n
  | none =>
    rw [hn] at h
    obtain ⟨x, -, rfl⟩ := Option.map_eq_some_iff.1 h
    exact .float x

/-- What is read in a given number of steps, as a value, as the rest of an array and as the rest of an inline table. -/
theorem isKeyed_upTo (bound : Nat) :
    (∀ {depth ts v rest}, valueUpTo? bound depth ts = some (v, rest) → IsKeyed v) ∧
      (∀ {depth items ts v rest}, (∀ v ∈ items, IsKeyed v) → itemsUpTo? bound depth items ts = some (v, rest) →
        IsKeyed v) ∧
      ∀ {depth es ts v rest}, Keyed es → membersUpTo? bound depth es ts = some (v, rest) → IsKeyed v := by
  induction bound with
  | zero =>
    refine ⟨fun h => ?_, fun _ h => ?_, fun _ h => ?_⟩
    · unfold valueUpTo? at h
      cases h
    · unfold itemsUpTo? at h
      cases h
    · unfold membersUpTo? at h
      cases h
  | succ bound ih =>
    obtain ⟨hvalue, hitems, hmembers⟩ := ih
    refine ⟨fun {depth ts v rest} h => ?_, fun {depth items ts v rest} hbefore h => ?_,
      fun {depth es ts v rest} hbefore h => ?_⟩
    · unfold valueUpTo? at h
      split at h
      · cases h
      · next hbound =>
        obtain rfl := Nat.succ.inj hbound
        split at h
        · cases h
        · exact hitems (List.forall_mem_nil _) h
      · next hbound =>
        obtain rfl := Nat.succ.inj hbound
        split at h
        · cases h
        · split at h
          · cases h
            exact isKeyed_table.2 .nil
          · exact hmembers .nil h
      · cases h
        exact .string _
      · obtain ⟨u, hu, huv⟩ := Option.map_eq_some_iff.1 h
        cases huv
        exact isKeyed_of_scalar? hu
    · unfold itemsUpTo? at h
      dsimp only at h
      split at h
      · cases h
        exact .array hbefore
      · obtain ⟨⟨u, ts'⟩, hu, h⟩ := Option.bind_eq_some_iff.1 h
        have hall : ∀ v ∈ items ++ [u], IsKeyed v := by
          rw [List.forall_mem_append, List.forall_mem_singleton]
          exact ⟨hbefore, hvalue hu⟩
        dsimp only at h
        split at h
        · exact hitems hall h
        · cases h
          exact .array hall
        · cases h
    · unfold membersUpTo? at h
      dsimp only at h
      obtain ⟨⟨key, ts'⟩, -, h⟩ := Option.bind_eq_some_iff.1 h
      obtain ⟨ts'', -, h⟩ := Option.bind_eq_some_iff.1 h
      obtain ⟨⟨u, after⟩, hu, h⟩ := Option.bind_eq_some_iff.1 h
      obtain ⟨es', hes', h⟩ := Option.bind_eq_some_iff.1 h
      have hkeyed : Keyed es' := hbefore.assign? (hvalue hu) hes'
      dsimp only at h
      split at h
      · cases h
        exact isKeyed_table.2 hkeyed
      · split at h
        · cases h
          exact isKeyed_table.2 hkeyed
        · exact hmembers hkeyed h
      · cases h

theorem isKeyed_of_value? {ts rest : List Lexeme} {v : Toml} (h : value? ts = some (v, rest)) : IsKeyed v :=
  (isKeyed_upTo _).1 h

/-! ## Documents -/

namespace Keyed
variable {d d' : Document} {ts rest : List Lexeme}

theorem of_assign? {key : List String} {v : Toml} (h : Keyed d.entries) (hv : IsKeyed v)
    (hd : d.assign? key v = some d') : Keyed d'.entries := by
  obtain ⟨es, hes, rfl⟩ := Option.map_eq_some_iff.1 hd
  exact h.alter? (fun _ _ _ hkeyed hchange => hkeyed.assign? hv hchange) hes

theorem of_openAt? {isItem : Bool} {key : List String} (h : Keyed d.entries) (hd : d.openAt? isItem key = some d') :
    Keyed d'.entries := by
  obtain ⟨es, hes, rfl⟩ := Option.map_eq_some_iff.1 hd
  cases isItem with
  | true => exact h.openItem? hes
  | false => exact h.openTable? hes

theorem of_header? {isItem : Bool} (h : Keyed d.entries) (hd : header? isItem d ts = some (d', rest)) :
    Keyed d'.entries := by
  obtain ⟨⟨key, ts'⟩, -, hd⟩ := Option.bind_eq_some_iff.1 hd
  obtain ⟨after, -, hd⟩ := Option.bind_eq_some_iff.1 hd
  obtain ⟨opened, hopen, hd⟩ := Option.bind_eq_some_iff.1 hd
  cases hd
  exact h.of_openAt? hopen

theorem of_line? (h : Keyed d.entries) (hd : line? d ts = some (d', rest)) : Keyed d'.entries := by
  unfold line? at hd
  split at hd
  · exact h.of_header? hd
  · exact h.of_header? hd
  · obtain ⟨⟨key, ts'⟩, -, hd⟩ := Option.bind_eq_some_iff.1 hd
    obtain ⟨ts'', -, hd⟩ := Option.bind_eq_some_iff.1 hd
    obtain ⟨⟨v, after⟩, hv, hd⟩ := Option.bind_eq_some_iff.1 hd
    obtain ⟨assigned, hassign, hd⟩ := Option.bind_eq_some_iff.1 hd
    cases hd
    exact h.of_assign? (isKeyed_of_value? hv) hassign

theorem of_linesUpTo? {bound : Nat} (h : Keyed d.entries) (hd : linesUpTo? bound d ts = some d') :
    Keyed d'.entries := by
  induction bound generalizing d ts with
  | zero => cases hd
  | succ bound ih =>
    rw [linesUpTo?] at hd
    split at hd
    · cases hd
      exact h
    · obtain ⟨⟨next, ts'⟩, hline, hd⟩ := Option.bind_eq_some_iff.1 hd
      obtain ⟨after, -, hd⟩ := Option.bind_eq_some_iff.1 hd
      exact ih (h.of_line? hline) hd

end Keyed

/-- In a document that is read no table has a name twice. -/
theorem keyed_of_read? {s : String} {es : Entries} (h : read? s = some es) : Keyed es := by
  obtain ⟨ts, -, h⟩ := Option.bind_eq_some_iff.1 h
  obtain ⟨d, hd, h⟩ := Option.bind_eq_some_iff.1 h
  cases h
  exact Keyed.nil.of_linesUpTo? hd

end TypedSql.Toml
