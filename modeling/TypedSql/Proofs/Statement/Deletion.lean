import TypedSql.Proofs.Statement.Template

/-!
# Deletions

* `Step.allowance?` : what a step says about the deletion of all rows;
* `Statement.deletesAll_run` : in a run of steps the last one to say so counts;
* `Statement.buildDelete_eq_ok_iff` : the text of a deletion has a WHERE clause, or there was nothing to filter by;
* `Statement.build_deletion` : after any steps a deletion is filtered, or it was allowed to delete all rows.
-/

namespace TypedSql

/-! ## Runs of steps -/

/-- What a step says about the deletion of all rows, if it does. -/
def Step.allowance? : Step → Option Bool
  | .deletesAll allowed => some allowed
  | _ => none

namespace Statement

/-- A step leaves the kind of a statement as it is, and the permission too unless it speaks of it. -/
theorem exists_step (s : Statement) (t : Step) :
    ∃ o, s.step t = ⟨s.keyword, o, t.allowance?.getD s.deletesAll⟩ := by
  cases t with
  | addSerialized source filter =>
    rw [step, apply]
    cases s.options.data.mergeSerialized source filter <;> exact ⟨_, rfl⟩
  | _ => exact ⟨_, rfl⟩

theorem exists_run (s : Statement) (ts : List Step) :
    ∃ o, s.run ts = ⟨s.keyword, o, (ts.filterMap Step.allowance?).getLast?.getD s.deletesAll⟩ := by
  induction ts generalizing s with
  | nil => exact ⟨s.options, rfl⟩
  | cons t ts ih =>
    obtain ⟨o, hstep⟩ := s.exists_step t
    obtain ⟨final, hrun⟩ := ih (s.step t)
    refine ⟨final, hrun.trans ?_⟩
    rw [hstep, List.filterMap_cons]
    cases t.allowance? with
    | none => rfl
    | some allowed => simp [List.getLast?_cons]

theorem keyword_run (s : Statement) (ts : List Step) : (s.run ts).keyword = s.keyword := by
  obtain ⟨o, hrun⟩ := s.exists_run ts
  rw [hrun]

theorem deletesAll_run (s : Statement) (ts : List Step) :
    (s.run ts).deletesAll = (ts.filterMap Step.allowance?).getLast?.getD s.deletesAll := by
  obtain ⟨o, hrun⟩ := s.exists_run ts
  rw [hrun]

/-! ## Texts -/

theorem buildAll_eq_nil {conditions : List Condition} (h : Condition.buildAll conditions = .ok []) :
    conditions = [] := by
  cases conditions with
  | nil => rfl
  | cons c cs =>
    obtain ⟨first, -, h⟩ := bind_eq_ok h
    obtain ⟨rest, -, h⟩ := bind_eq_ok h
    cases h

theorem predicates_eq_nil_iff {fields : List String} {conditions : List Condition} :
    predicates fields conditions = .ok [] ↔ fields = [] ∧ conditions = [] := by
  constructor
  · intro h
    obtain ⟨built, hb, h⟩ := bind_eq_ok h
    have hnil : fields.map (· ++ " = ?") ++ built = [] := Except.ok.inj h
    rw [List.append_eq_nil_iff, List.map_eq_nil_iff] at hnil
    exact ⟨hnil.1, buildAll_eq_nil (hnil.2 ▸ hb)⟩
  · rintro ⟨rfl, rfl⟩
    rfl

/-- A deletion has a WHERE clause of all its predicates, or it has none and is allowed to delete all rows. -/
theorem buildDelete_eq_ok_iff {o : Options} {deletesAll : Bool} {sql : String} :
    buildDelete o deletesAll = .ok sql ↔
      ∃ ps, predicates o.data.fields o.conditions = .ok ps ∧
        (ps = [] ∧ deletesAll = true ∧ sql = "DELETE FROM " ++ o.table ∨
          ps ≠ [] ∧ sql = "DELETE FROM " ++ o.table ++ " WHERE " ++ String.intercalate " AND " ps) := by
  unfold buildDelete whereClause?
  cases predicates o.data.fields o.conditions with
  | error e => simp [Except.map, bind, Except.bind]
  | ok ps =>
    cases ps with
    | nil => cases deletesAll <;> simp [Except.map, bind, Except.bind, clauseOf?, pure, Except.pure, throw, throwThe,
        MonadExceptOf.throw, eq_comm]
    | cons p ps => simp [Except.map, bind, Except.bind, clauseOf?, pure, Except.pure, eq_comm, String.append_assoc]

end Statement

/-! ## Values -/

theorem Condition.values_ne_nil : ∀ {c : Condition} {vs : List Value}, c.values = .ok vs → vs ≠ []
  | .compare c, vs, h => by
    rw [Condition.values, Comparison.values] at h
    cases hc : c.complete with
    | error e => rw [hc] at h; cases h
    | ok d =>
      rw [hc] at h
      cases h
      simp [Comparison.Complete.values]
  | .anyOf [], vs, h => by
    rw [Condition.values] at h
    cases h
  | .anyOf (c :: cs), vs, h => by
    rw [Condition.values] at h
    obtain ⟨first, hfirst, h⟩ := bind_eq_ok h
    obtain ⟨rest, -, h⟩ := bind_eq_ok h
    cases h
    simp [values_ne_nil hfirst]

namespace Statement

/-- A statement with data or with conditions has values, once it is built. -/
theorem values_ne_nil_of_build {s : Statement} {sql : String} (h : s.build = .ok sql)
    (hne : s.options.data.fields ≠ [] ∨ s.options.conditions ≠ []) : ∃ v vs, s.values = .ok (v :: vs) := by
  have hvalues := (template_of_build h).2
  cases hv : s.template.values with
  | cons v vs => exact ⟨v, vs, hv ▸ hvalues⟩
  | nil =>
    rw [hv, values] at hvalues
    cases hall : Condition.valuesAll s.options.conditions with
    | error e => rw [hall] at hvalues; cases hvalues
    | ok ws =>
      rw [hall] at hvalues
      have happend : s.options.data.values ++ ws = [] := Except.ok.inj hvalues
      rw [List.append_eq_nil_iff] at happend
      rcases hne with hne | hne
      · refine absurd ?_ hne
        simpa [DataMap.fields, Pairs.names, DataMap.values] using happend.1
      · cases hc : s.options.conditions with
        | nil => exact absurd hc hne
        | cons c cs =>
          rw [hc, Condition.valuesAll] at hall
          obtain ⟨first, hfirst, hall⟩ := bind_eq_ok hall
          obtain ⟨rest, -, hall⟩ := bind_eq_ok hall
          obtain rfl := Except.ok.inj hall
          exact absurd (List.append_eq_nil_iff.1 happend.2).1 (Condition.values_ne_nil hfirst)

theorem build_delete {s : Statement} (hk : s.keyword = .delete) (ht : Text.isBlankText s.options.table = false) :
    s.build = buildDelete s.options s.deletesAll := by
  rw [build, ht, hk]
  rfl

theorem not_blank_of_build {s : Statement} {sql : String} (h : s.build = .ok sql) :
    Text.isBlankText s.options.table = false := by
  unfold build at h
  split at h
  · cases h
  · next ht => simpa using ht

theorem ne_append_clause (s clause : String) : s ≠ s ++ " WHERE " ++ clause := by
  intro h
  have hlength := congrArg String.length h
  simp only [String.length_append] at hlength
  have hmark : " WHERE ".length = 7 := rfl
  omega

/-- What a deletion that is built says: it is filtered and has values, or it has nothing to filter by and is allowed to
delete all rows. -/
theorem deletion_of_build {s : Statement} {sql : String} (hk : s.keyword = .delete) (h : s.build = .ok sql) :
    (∃ p ps v vs, predicates s.options.data.fields s.options.conditions = .ok (p :: ps) ∧
      sql = "DELETE FROM " ++ s.options.table ++ " WHERE " ++ String.intercalate " AND " (p :: ps) ∧
      s.values = .ok (v :: vs)) ∨
    (s.options.data.fields = [] ∧ s.options.conditions = [] ∧ s.deletesAll = true ∧
      sql = "DELETE FROM " ++ s.options.table) := by
  have hb := h
  rw [build_delete hk (not_blank_of_build h), buildDelete_eq_ok_iff] at hb
  obtain ⟨ps, hps, ⟨rfl, hall, hsql⟩ | ⟨hne, hsql⟩⟩ := hb
  · obtain ⟨hf, hc⟩ := predicates_eq_nil_iff.1 hps
    exact .inr ⟨hf, hc, hall, hsql⟩
  · cases ps with
    | nil => exact absurd rfl hne
    | cons p ps =>
      have hsome : s.options.data.fields ≠ [] ∨ s.options.conditions ≠ [] := by
        apply Decidable.or_iff_not_imp_left.2
        intro hf hc
        rw [predicates_eq_nil_iff.2 ⟨Decidable.not_not.1 hf, hc⟩] at hps
        cases hps
      obtain ⟨v, vs, hv⟩ := values_ne_nil_of_build h hsome
      exact .inl ⟨p, ps, v, vs, hps, hsql, hv⟩

theorem unconditionedDelete_of_build {s : Statement} (hk : s.keyword = .delete)
    (ht : Text.isBlankText s.options.table = false) (hf : s.options.data.fields = []) (hc : s.options.conditions = [])
    (hall : s.deletesAll = false) : s.build = .error (.unconditionedDelete s.options.table) := by
  rw [build_delete hk ht, buildDelete, whereClause?, predicates_eq_nil_iff.2 ⟨hf, hc⟩, hall]
  rfl

/-- A deletion that has been made by any steps deletes all rows only if the last word on that has allowed it: else its
text is the table with a WHERE clause of one predicate or more, and it has values. It has no WHERE clause only without
data, without conditions and with the permission, and without any of these it is refused. -/
theorem build_deletion (o : Options) (ts : List Step) :
    let s := (Statement.mk .delete o false).run ts
    let allowance := (ts.filterMap Step.allowance?).getLast?
    let table := s.options.table
    (∀ sql, s.build = .ok sql → allowance = some true ∨
      ∃ p ps v vs, predicates s.options.data.fields s.options.conditions = .ok (p :: ps) ∧
        sql = "DELETE FROM " ++ table ++ " WHERE " ++ String.intercalate " AND " (p :: ps) ∧
        s.values = .ok (v :: vs)) ∧
      (s.build = .ok ("DELETE FROM " ++ table) → s.options.data.fields = [] ∧ s.options.conditions = [] ∧
        s.deletesAll = true) ∧
      (s.options.data.fields = [] → s.options.conditions = [] → Text.isBlankText table = false →
        s.deletesAll = false → s.build = .error (.unconditionedDelete table)) ∧
      (s.deletesAll = true ↔ allowance = some true) := by
  intro s allowance table
  have hk : s.keyword = .delete := keyword_run _ ts
  have hflag : s.deletesAll = true ↔ allowance = some true := by
    rw [deletesAll_run]
    show allowance.getD false = true ↔ _
    cases allowance <;> simp
  refine ⟨fun sql h => ?_, fun h => ?_, fun hf hc ht hall => unconditionedDelete_of_build hk ht hf hc hall, hflag⟩
  · rcases deletion_of_build hk h with hfiltered | ⟨-, -, hall, -⟩
    · exact .inr hfiltered
    · exact .inl (hflag.1 hall)
  · rcases deletion_of_build hk h with ⟨p, ps, v, vs, -, hsql, -⟩ | ⟨hf, hc, hall, -⟩
    · exact absurd hsql (ne_append_clause _ _)
    · exact ⟨hf, hc, hall⟩

end Statement

end TypedSql
