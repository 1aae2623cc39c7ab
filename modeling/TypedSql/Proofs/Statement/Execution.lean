import TypedSql.Backend
import TypedSql.Proofs.Statement.Template

/-!
# Statements that are run

* `Statement.failsStructurally_build` : whatever keeps a statement from being built is a fault in its structure;
* `Backend.noted` : the same databases, with the calls to them noted;
* `Backend.Sends` : a statement that is built is sent once, and nothing else is ever sent;
* `Backend.execute_sends` : so it is with a statement that is run on the database that it names, or on a given one.
-/

namespace TypedSql

/-! ## Structural faults -/

/-- If there is an error, it is one of structure. -/
def FailsStructurally {α : Type} (r : Except Error α) : Prop :=
  ∀ e, r = .error e → e.isStructural = true

namespace FailsStructurally
variable {α β : Type}

theorem ok (a : α) : FailsStructurally (.ok a : Except Error α) := by
  intro e h
  cases h

theorem error {e : Error} (he : e.isStructural = true) : FailsStructurally (.error e : Except Error α) := by
  intro e' h
  cases h
  exact he

theorem bind {r : Except Error α} {f : α → Except Error β} (hr : FailsStructurally r)
    (hf : ∀ a, FailsStructurally (f a)) : FailsStructurally (r >>= f) := by
  intro e h
  cases hra : r with
  | error e' => rw [hra] at h; cases h; exact hr e hra
  | ok a => rw [hra] at h; exact hf a e h

theorem map {r : Except Error α} (hr : FailsStructurally r) (f : α → β) : FailsStructurally (r.map f) := by
  intro e h
  cases hra : r with
  | error e' => rw [hra] at h; cases h; exact hr e hra
  | ok a => rw [hra] at h; cases h

theorem mapM {f : α → Except Error β} (hf : ∀ a, FailsStructurally (f a)) (as : List α) :
    FailsStructurally (as.mapM f) := by
  induction as with
  | nil => exact ok []
  | cons a as ih =>
    rw [List.mapM_cons]
    exact bind (hf a) fun b => bind ih fun bs => ok (b :: bs)

end FailsStructurally

theorem Comparison.failsStructurally_complete (c : Comparison) : FailsStructurally c.complete := by
  unfold complete
  split
  · exact .error rfl
  split
  · exact .error rfl
  split
  · exact .error rfl
  · split
    · exact .error rfl
    · exact .ok _
  · exact .ok _

mutual
theorem Condition.failsStructurally_build : ∀ c : Condition, FailsStructurally c.build
  | .compare c => by
    rw [Condition.build]
    exact c.failsStructurally_complete.map _
  | .anyOf [] => by
    rw [Condition.build]
    exact .error rfl
  | .anyOf (c :: cs) => by
    rw [Condition.build]
    exact (failsStructurally_build c).bind fun _ => (failsStructurally_buildAll cs).bind fun _ => .ok _

theorem Condition.failsStructurally_buildAll : ∀ cs : List Condition, FailsStructurally (buildAll cs)
  | [] => .ok _
  | c :: cs => by
    rw [buildAll]
    exact (failsStructurally_build c).bind fun _ => (failsStructurally_buildAll cs).bind fun _ => .ok _
end

theorem Column.failsStructurally_render (c : Column) : FailsStructurally c.render := by
  unfold render
  split
  · exact .ok _
  · exact .error rfl

namespace Statement

theorem failsStructurally_whereClause? (fields : List String) (conditions : List Condition) :
    FailsStructurally (whereClause? fields conditions) := by
  unfold whereClause? predicates
  exact ((Condition.failsStructurally_buildAll conditions).bind fun _ => .ok _).map _

theorem failsStructurally_columnList (columns : List Column) : FailsStructurally (columnList columns) := by
  unfold columnList
  split
  · exact .ok _
  · exact (FailsStructurally.mapM Column.failsStructurally_render _).bind fun _ => .ok _

theorem failsStructurally_build (s : Statement) : FailsStructurally s.build := by
  unfold build
  split
  · exact .error rfl
  cases s.keyword
  case insert =>
    dsimp only
    unfold buildInsert
    split
    · exact .error rfl
    split
    · exact .error rfl
    · exact .ok _
  case select =>
    exact (failsStructurally_columnList _).bind fun _ => (failsStructurally_whereClause? _ _).bind fun _ => .ok _
  case update =>
    dsimp only
    unfold buildUpdate
    split
    · exact .error rfl
    · exact (failsStructurally_whereClause? _ _).bind fun _ => .ok _
  case delete =>
    refine (failsStructurally_whereClause? _ _).bind fun clause => ?_
    cases clause with
    | some clause => exact .ok _
    | none =>
      dsimp only
      split
      · exact .ok _
      · exact .error rfl

end Statement

/-! ## Calls that are noted -/

/-- A call to a database: to which, and with what. -/
structure Request where
  handle : Handle
  sql : String
  values : List Value
deriving DecidableEq

theorem Registry.eq_unknownDatabase_of_get {r : Registry} {name : String} {e : Error} (h : r.get name = .error e) :
    e = .unknownDatabase name := by
  unfold get at h
  split at h
  · cases h
  · exact (Except.error.inj h).symm

theorem Registry.contains_iff {r : Registry} {name : String} :
    r.contains name = true ↔ ∃ h, r.get name = .ok h := by
  unfold contains get
  cases Pairs.get? name r.entries <;> simp

namespace Backend
variable {σ : Type}

/-- An action that leaves what has been noted as it is. -/
def aside {α : Type} (action : StateM σ α) : StateM (σ × List Request) α := fun (start, noted) =>
  let (a, final) := action.run start
  (a, final, noted)

/-- The same databases, with the calls to them noted in the order of time. -/
def noted (b : Backend σ) : Backend (σ × List Request) where
  call h sql values := fun (start, noted) =>
    let (answer, final) := (b.call h sql values).run start
    (answer, final, noted ++ [⟨h, sql, values⟩])
  close h := aside (b.close h)
  tell e := aside (b.tell e)

/-- How a statement is run on a database, or on none for a given reason. A statement that is built has values, and it is
sent to the database once, whose answer is the result; in all other cases nothing is done. -/
structure Sends (b : Backend σ) (target : Except Error Handle) (s : Statement)
    (run : StateM (σ × List Request) (Except Error Outcome)) : Prop where
  sent : ∀ {sql h}, s.build = .ok sql → target = .ok h → ∃ values, s.values = .ok values ∧ ∀ start noted,
    run.run (start, noted) =
      (((b.call h sql values).run start).1, ((b.call h sql values).run start).2, noted ++ [⟨h, sql, values⟩])
  unbuilt : ∀ {e}, s.build = .error e → e.isStructural = true ∧ ∀ start, run.run start = (.error e, start)
  missing : ∀ {sql e}, s.build = .ok sql → target = .error e → ∀ start, run.run start = (.error e, start)

theorem prepare_of_build {s : Statement} {sql : String} (h : s.build = .ok sql) :
    s.prepare = .ok (sql, s.template.values) := by
  rw [Statement.prepare, h, (Statement.template_of_build h).2]
  rfl

theorem prepare_of_build_error {s : Statement} {e : Error} (h : s.build = .error e) : s.prepare = .error e := by
  rw [Statement.prepare, h]
  rfl

theorem sends_executeOn (b : Backend σ) (h : Handle) (s : Statement) : Sends b (.ok h) s (b.noted.executeOn h s) where
  sent := by
    intro sql h' hb hh
    cases hh
    refine ⟨_, (Statement.template_of_build hb).2, fun start noted => ?_⟩
    unfold executeOn
    rw [prepare_of_build hb]
    rfl
  unbuilt := by
    intro e hb
    refine ⟨s.failsStructurally_build e hb, fun start => ?_⟩
    unfold executeOn
    rw [prepare_of_build_error hb]
    rfl
  missing := by
    intro sql e hb hh
    cases hh

theorem execute_of_get (b : Backend σ) {r : Registry} {s : Statement} {h : Handle}
    (hr : r.get s.options.database = .ok h) : b.execute r s = b.executeOn h s := by
  unfold execute query executeOn
  rw [hr]

theorem execute_of_unknown (b : Backend σ) {r : Registry} {s : Statement} {e : Error}
    (hr : r.get s.options.database = .error e) :
    b.execute r s = match s.build with
      | .ok _ => pure (.error e)
      | .error fault => pure (.error fault) := by
  unfold execute query
  rw [hr]
  cases hb : s.build with
  | ok sql => rw [prepare_of_build hb]
  | error fault => rw [prepare_of_build_error hb]

theorem sends_execute (b : Backend σ) (r : Registry) (s : Statement) :
    Sends b (r.get s.options.database) s (b.noted.execute r s) := by
  cases hr : r.get s.options.database with
  | ok h =>
    rw [execute_of_get b.noted hr]
    exact sends_executeOn b h s
  | error e =>
    rw [execute_of_unknown b.noted hr]
    refine ⟨fun hb hh => ?_, fun hb => ?_, fun hb hh => ?_⟩
    · cases hh
    · rw [hb]
      exact ⟨s.failsStructurally_build _ hb, fun start => rfl⟩
    · rw [hb]
      cases hh
      exact fun start => rfl

theorem Sends.noted_iff {b : Backend σ} {target : Except Error Handle} {s : Statement}
    {run : StateM (σ × List Request) (Except Error Outcome)} (h : Sends b target s run) (start : σ × List Request) :
    (run.run start).2.2 ≠ start.2 ↔ (∃ sql, s.build = .ok sql) ∧ ∃ handle, target = .ok handle := by
  cases hb : s.build with
  | error e =>
    rw [(h.unbuilt hb).2 start]
    simp
  | ok sql =>
    cases ht : target with
    | error e =>
      rw [h.missing hb ht start]
      simp
    | ok handle =>
      obtain ⟨values, -, hrun⟩ := h.sent hb ht
      rw [hrun start.1 start.2]
      simp

/-- Whoever notes the calls sees no other answers and no other states. -/
theorem noted_executeOn (b : Backend σ) (h : Handle) (s : Statement) (start : σ) (noted : List Request) :
    (((b.noted.executeOn h s).run (start, noted)).1, ((b.noted.executeOn h s).run (start, noted)).2.1) =
      (b.executeOn h s).run start := by
  unfold executeOn
  cases s.prepare <;> rfl

theorem noted_execute (b : Backend σ) (r : Registry) (s : Statement) (start : σ) (noted : List Request) :
    (((b.noted.execute r s).run (start, noted)).1, ((b.noted.execute r s).run (start, noted)).2.1) =
      (b.execute r s).run start := by
  cases hr : r.get s.options.database with
  | ok h => rw [execute_of_get b hr, execute_of_get b.noted hr, noted_executeOn]
  | error e =>
    rw [execute_of_unknown b hr, execute_of_unknown b.noted hr]
    cases s.build <;> rfl

/-- A statement that is run on the database that it names is sent to that database alone, once, with its text and its
values, if and only if it can be built and the name is registered. Otherwise no database is called: a fault in the
structure of the statement is the result, or else that the name is unknown. On a given database it is run in the same
way, without the look-up. -/
theorem execute_sends (b : Backend σ) (r : Registry) (s : Statement) :
    let name := s.options.database
    Sends b (r.get name) s (b.noted.execute r s) ∧
      (∀ start, ((b.noted.execute r s).run start).2.2 ≠ start.2 ↔
        (∃ sql, s.build = .ok sql) ∧ r.contains name = true) ∧
      (r.contains name = false → r.get name = .error (.unknownDatabase name)) ∧
      (∀ h, Sends b (.ok h) s (b.noted.executeOn h s)) ∧
      (∀ start noted, (b.execute r s).run start =
        (((b.noted.execute r s).run (start, noted)).1, ((b.noted.execute r s).run (start, noted)).2.1)) ∧
      (∀ h start noted, (b.executeOn h s).run start =
        (((b.noted.executeOn h s).run (start, noted)).1, ((b.noted.executeOn h s).run (start, noted)).2.1)) := by
  intro name
  refine ⟨sends_execute b r s, fun start => ?_, fun hname => ?_, fun h => sends_executeOn b h s,
    fun start noted => (noted_execute b r s start noted).symm,
    fun h start noted => (noted_executeOn b h s start noted).symm⟩
  · rw [(sends_execute b r s).noted_iff start, Registry.contains_iff]
  · cases hr : r.get name with
    | ok h => rw [Registry.contains_iff.2 ⟨h, hr⟩] at hname; cases hname
    | error e => rw [Registry.eq_unknownDatabase_of_get hr]

/-- Databases that together count the calls to them, and answer with the number of rows so far. -/
def counting : Backend Nat where
  call _ _ values := fun n => (.ok (.count (n + values.length)), n + values.length)
  close _ := pure ()
  tell _ := pure ()

/-- A deletion on the second of two databases. -/
def purge : Statement where
  keyword := .delete
  options :=
    { table := "log"
      database := "audit"
      data := .ofList [("level", .text "info")]
      conditions := [.anyOf [.of .greater "age" (.bool true), .range "size" (.bool false) (.text "z")]] }

theorem execute_sends_purge :
    let r : Registry := ⟨[("main", ⟨0, "main"⟩), ("audit", ⟨1, "trail"⟩)]⟩
    let sql := "DELETE FROM log WHERE level = ? AND (age > ? OR size BETWEEN ? AND ?)"
    let values : List Value := [.text "info", .bool true, .bool false, .text "z"]
    purge.build = .ok sql ∧ purge.values = .ok values ∧
      (counting.noted.execute r purge).run (7, []) = (.ok (.count 11), 11, [⟨⟨1, "trail"⟩, sql, values⟩]) := by
  intro r sql values
  have hb : purge.build = .ok sql := rfl
  have hv : purge.values = .ok values := rfl
  obtain ⟨values', hv', hrun⟩ := (execute_sends counting r purge).1.sent hb rfl
  obtain rfl : values = values' := Except.ok.inj (hv.symm.trans hv')
  exact ⟨hb, hv, hrun 7 []⟩

end Backend

end TypedSql
