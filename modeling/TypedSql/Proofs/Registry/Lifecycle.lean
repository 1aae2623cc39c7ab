import TypedSql.Proofs.Pairs
import TypedSql.Proofs.Statement.Execution

/-!
# The life of handles in a registry

* `Registry.Action`, `Registry.Reply` : what a registry is asked for, and what it answers;
* `Backend.watched` : the same databases, with every call to them and every closing noted;
* `Backend.Run`, `Backend.runAll` : a registry that has been through actions, with all notes and replies so far;
* `Registry.Registered` : the last word about a name has put a handle under it;
* `Backend.perm_handed` : each handle that was handed over is closed, has been given back, or is registered still;
* `Backend.lifecycle` : what follows for the handles of a run in which none is handed over twice.
-/

namespace TypedSql

namespace Registry

/-! ## Actions -/

/-- What a registry is asked for. -/
inductive Action where
  | register (name : String) (h : Handle)
  | get (name : String)
  | remove (name : String)
  | close
  | execute (name sql : String) (values : List Value)
deriving DecidableEq

/-- What a registry answers. -/
inductive Reply where
  | replaced (old : Option Handle)
  | found (r : Except Error Handle)
  | removed (old : Option Handle)
  | closed
  | answered (r : Except Error Outcome)

/-- The handle that a reply gives back to whoever has registered another one in its place. -/
def Reply.replaced? : Reply → Option Handle
  | replaced old => old
  | _ => none

/-- The handle that an action hands over. -/
def Action.handed? : Action → Option Handle
  | register _ h => some h
  | _ => none

/-- Whether an action decides what stands under a name. -/
def Action.decides (name : String) : Action → Bool
  | register other _ | remove other => other == name
  | close => true
  | get _ | execute _ _ _ => false

/-- The last of the actions to decide what stands under a name has put a handle there. -/
def Registered (as : List Action) (name : String) (h : Handle) : Prop :=
  (as.filter (·.decides name)).getLast? = some (.register name h)

instance (as : List Action) (name : String) (h : Handle) : Decidable (Registered as name h) :=
  inferInstanceAs (Decidable (_ = _))

/-- No handle is handed over twice. -/
def Fresh (as : List Action) : Prop :=
  ((as.filterMap Action.handed?).map Handle.id).Nodup

instance (as : List Action) : Decidable (Fresh as) :=
  inferInstanceAs (Decidable (List.Nodup _))

end Registry

namespace Backend
open Registry
variable {σ : Type}

/-- One action on a registry. -/
def perform (b : Backend σ) (r : Registry) : Action → StateM σ (Reply × Registry)
  | .register name h => do
    let (old, r) := r.register name h
    return (.replaced old, r)
  | .get name => return (.found (r.get name), r)
  | .remove name => do
    let (old, r) ← b.remove r name
    return (.removed old, r)
  | .close => do
    let r ← b.closeAll r
    return (.closed, r)
  | .execute name sql values => do
    let answer ← b.query r name sql values
    return (.answered answer, r)

/-! ## Notes -/

/-- What has been asked of a database: to answer, or to close. -/
inductive Note where
  | call (r : Request)
  | close (h : Handle)
deriving DecidableEq

def Note.closed? : Note → Option Handle
  | close h => some h
  | call _ => none

/-- The same databases, with every call and every closing noted in the order of time. -/
def watched (b : Backend σ) : Backend (σ × List Note) where
  call h sql values := fun (start, notes) =>
    let (answer, final) := (b.call h sql values).run start
    (answer, final, notes ++ [.call ⟨h, sql, values⟩])
  close h := fun (start, notes) =>
    let (u, final) := (b.close h).run start
    (u, final, notes ++ [.close h])
  tell e := fun (start, notes) =>
    let (u, final) := (b.tell e).run start
    (u, final, notes)

/-- A registry that has been through some actions, with the state of the databases, what has been asked of them, and
the replies. -/
structure Run (σ : Type) where
  registry : Registry := {}
  state : σ
  notes : List Note := []
  replies : List Reply := []

namespace Run

/-- The handles that have been closed, in the order of time. -/
def closed (w : Run σ) : List Handle :=
  w.notes.filterMap Note.closed?

/-- The handles that have been given back because another one has taken their place. -/
def replaced (w : Run σ) : List Handle :=
  w.replies.filterMap Reply.replaced?

/-- The handles that are registered. -/
def registered (w : Run σ) : List Handle :=
  w.registry.entries.map Prod.snd

end Run

/-- A run goes on by one action. -/
def advance (b : Backend σ) (w : Run σ) (a : Action) : Run σ :=
  let ((reply, registry), state, notes) := (b.watched.perform w.registry a).run (w.state, w.notes)
  ⟨registry, state, notes, w.replies ++ [reply]⟩

/-- The run of some actions, from a registry without handles. -/
def runAll (b : Backend σ) (start : σ) (as : List Action) : Run σ :=
  as.foldl b.advance { state := start }

end Backend

/-! ## One action -/

namespace Registry

/-- The registry after an action. -/
def after (r : Registry) : Action → Registry
  | .register name h => (r.register name h).2
  | .remove name => (r.remove name).2
  | .close => {}
  | .get _ | .execute _ _ _ => r

/-- What an action asks of the databases. -/
def notes (r : Registry) : Action → List Backend.Note
  | .remove name => (Pairs.get? name r.entries).toList.map .close
  | .close => r.sorted.map fun p => .close p.2
  | .execute name sql values => (Pairs.get? name r.entries).toList.map fun h => .call ⟨h, sql, values⟩
  | .register _ _ | .get _ => []

/-- The handle that an action takes the place of. -/
def replacedBy (r : Registry) : Action → Option Handle
  | .register name _ => Pairs.get? name r.entries
  | _ => none

end Registry

namespace Backend
open Registry
variable {σ : Type}

theorem remove_eq (b : Backend σ) (r : Registry) (name : String) : b.remove r name =
    match Pairs.get? name r.entries with
    | some h => do
      b.close h
      return (some h, (r.remove name).2)
    | none => return (none, (r.remove name).2) := by
  unfold remove Registry.remove
  generalize Pairs.get? name r.entries = old
  cases old <;> rfl

/-- Handles are closed one after the other. -/
def closeEach (b : Backend σ) : List (String × Handle) → StateM σ Unit
  | [] => pure ()
  | (name, h) :: ps => do
    b.tell (closing name)
    b.close h
    b.closeEach ps

theorem closeAll_eq (b : Backend σ) (r : Registry) : b.closeAll r = do
    b.closeEach r.sorted
    return {} := by
  unfold closeAll
  congr 1
  induction r.sorted with
  | nil => rfl
  | cons p ps ih =>
    rw [List.forIn_cons, closeEach, ← ih]
    simp

theorem closeEach_watched (b : Backend σ) (ps : List (String × Handle)) (start : σ) (notes : List Note) :
    (b.watched.closeEach ps).run (start, notes) =
      ((), ((b.closeEach ps).run start).2, notes ++ ps.map fun p => .close p.2) := by
  induction ps generalizing start notes with
  | nil =>
    rw [List.map_nil, List.append_nil]
    rfl
  | cons p ps ih =>
    show (b.watched.closeEach ps).run (((b.close p.2).run ((b.tell (closing p.1)).run start).2).2,
      notes ++ [.close p.2]) = _
    rw [ih, List.append_assoc]
    rfl

/-- An action on watched databases gives the same reply and leads to the same registry and state; what it asks of the
databases is noted. -/
theorem perform_watched (b : Backend σ) (r : Registry) (a : Action) (start : σ) (notes : List Note) :
    (b.watched.perform r a).run (start, notes) =
      (((b.perform r a).run start).1, ((b.perform r a).run start).2, notes ++ r.notes a) := by
  cases a with
  | register name h =>
    rw [Registry.notes, List.append_nil]
    rfl
  | get name =>
    rw [Registry.notes, List.append_nil]
    rfl
  | remove name =>
    rw [perform, perform, remove_eq, remove_eq, Registry.notes]
    cases Pairs.get? name r.entries with
    | none =>
      rw [Option.toList_none, List.map_nil, List.append_nil]
      rfl
    | some h => rfl
  | close =>
    rw [perform, perform, closeAll_eq, closeAll_eq, Registry.notes]
    show (_, ((b.watched.closeEach r.sorted).run (start, notes)).2) = _
    rw [closeEach_watched]
    rfl
  | execute name sql values =>
    rw [perform, perform, query, query, Registry.get, Registry.notes]
    cases Pairs.get? name r.entries with
    | none =>
      rw [Option.toList_none, List.map_nil, List.append_nil]
      rfl
    | some h => rfl

/-- The registry that an action leads to, and the handle that it gives back, depend on the registry before it alone. -/
theorem exists_perform (b : Backend σ) (r : Registry) (a : Action) (start : σ) : ∃ reply final,
    (b.perform r a).run start = ((reply, r.after a), final) ∧ reply.replaced? = r.replacedBy a := by
  cases a with
  | register name h => exact ⟨_, _, rfl, rfl⟩
  | get name => exact ⟨_, _, rfl, rfl⟩
  | remove name =>
    rw [perform, remove_eq]
    cases Pairs.get? name r.entries <;> exact ⟨_, _, rfl, rfl⟩
  | close =>
    rw [perform, closeAll_eq]
    exact ⟨_, _, rfl, rfl⟩
  | execute name sql values => exact ⟨_, _, rfl, rfl⟩

theorem registry_perform (b : Backend σ) (r : Registry) (a : Action) (start : σ) :
    ((b.perform r a).run start).1.2 = r.after a := by
  obtain ⟨reply, final, hrun, -⟩ := exists_perform b r a start
  rw [hrun]

theorem replaced_perform (b : Backend σ) (r : Registry) (a : Action) (start : σ) :
    ((b.perform r a).run start).1.1.replaced? = r.replacedBy a := by
  obtain ⟨reply, final, hrun, hreply⟩ := exists_perform b r a start
  rw [hrun, hreply]

/-- A run that goes on by one action: the registry and the notes depend on the registry alone. -/
theorem advance_eq (b : Backend σ) (w : Run σ) (a : Action) :
    b.advance w a = ⟨w.registry.after a, ((b.perform w.registry a).run w.state).2, w.notes ++ w.registry.notes a,
      w.replies ++ [((b.perform w.registry a).run w.state).1.1]⟩ := by
  rw [advance, perform_watched, ← registry_perform b w.registry a w.state]

theorem runAll_concat (b : Backend σ) (start : σ) (as : List Action) (a : Action) :
    b.runAll start (as ++ [a]) = b.advance (b.runAll start as) a := by
  rw [runAll, List.foldl_append]
  rfl

end Backend

/-! ## What stands under a name -/

namespace Registry

theorem nodup_after {r : Registry} (h : (Pairs.names r.entries).Nodup) (a : Action) :
    (Pairs.names (r.after a).entries).Nodup := by
  cases a with
  | register name handle => exact Pairs.nodup_put name handle h
  | remove name => exact Pairs.nodup_erase name h
  | close => exact List.nodup_nil
  | _ => exact h

/-- An action that decides what stands under a name puts a handle there, or leaves nothing. -/
theorem get?_after {r : Registry} (hr : (Pairs.names r.entries).Nodup) (a : Action) (name : String) (h : Handle) :
    Pairs.get? name (r.after a).entries = some h ↔
      if a.decides name then a = .register name h else Pairs.get? name r.entries = some h := by
  cases a with
  | register other handle =>
    by_cases hname : other = name
    · subst hname
      simp [after, register, Pairs.get?_put_self, Action.decides]
    · simp [after, register, Pairs.get?_put_of_ne (Ne.symm hname), Action.decides, hname]
  | remove other =>
    by_cases hname : other = name
    · subst hname
      simp [after, remove, Pairs.get?_erase_self hr, Action.decides]
    · simp [after, remove, Pairs.get?_erase_of_ne (Ne.symm hname), Action.decides, hname]
  | close => simp [after, Pairs.get?, Action.decides]
  | _ => simp [after, Action.decides]

theorem registered_concat (as : List Action) (a : Action) (name : String) (h : Handle) :
    Registered (as ++ [a]) name h ↔ if a.decides name then a = .register name h else Registered as name h := by
  unfold Registered
  by_cases ha : a.decides name <;> simp [List.filter_append, ha]

theorem names_empty : ({} : Registry).names = [] := by
  simp [names, sorted, Pairs.sorted, Pairs.names]

theorem fresh_before {as before : List Action} (h : Fresh as) (hpast : before <+: as) : Fresh before := by
  obtain ⟨rest, rfl⟩ := hpast
  unfold Fresh at h ⊢
  rw [List.filterMap_append, List.map_append] at h
  exact (List.nodup_append.1 h).1

end Registry

namespace Backend
open Registry
variable {σ : Type} (b : Backend σ) (start : σ)

theorem nodup_runAll (as : List Action) : (Pairs.names (b.runAll start as).registry.entries).Nodup := by
  induction as using List.reverseRecOn with
  | nil => exact List.nodup_nil
  | append_singleton as a ih =>
    rw [runAll_concat, advance_eq]
    exact nodup_after ih a

theorem get?_runAll (as : List Action) (name : String) (h : Handle) :
    Pairs.get? name (b.runAll start as).registry.entries = some h ↔ Registered as name h := by
  induction as using List.reverseRecOn with
  | nil => simp [runAll, Pairs.get?, Registered]
  | append_singleton as a ih =>
    rw [runAll_concat, advance_eq, registered_concat, ← ih]
    exact get?_after (nodup_runAll b start as) a name h

theorem get_runAll (as : List Action) (name : String) (h : Handle) :
    (b.runAll start as).registry.get name = .ok h ↔ Registered as name h := by
  rw [← get?_runAll b start, Registry.get]
  cases Pairs.get? name (b.runAll start as).registry.entries <;> simp

theorem get?_runAll_none {as : List Action} {name : String} (hnone : ∀ h, ¬ Registered as name h) :
    Pairs.get? name (b.runAll start as).registry.entries = none :=
  Option.eq_none_iff_forall_ne_some.2 fun h hget => hnone h ((get?_runAll b start as name h).1 hget)

theorem get_runAll_unknown {as : List Action} {name : String} (hnone : ∀ h, ¬ Registered as name h) :
    (b.runAll start as).registry.get name = .error (.unknownDatabase name) := by
  rw [Registry.get, get?_runAll_none b start hnone]

end Backend

/-! ## Where handles are -/

namespace Registry
open Backend

theorem mem_sorted {r : Registry} {p : String × Handle} : p ∈ r.sorted ↔ p ∈ r.entries :=
  (List.mergeSort_perm _ _).mem_iff

theorem closed_notes_remove (r : Registry) (name : String) :
    (r.notes (.remove name)).filterMap Note.closed? = (Pairs.get? name r.entries).toList := by
  rw [Registry.notes]
  cases Pairs.get? name r.entries <;> rfl

theorem closed_notes_close (r : Registry) : (r.notes .close).filterMap Note.closed? = r.sorted.map Prod.snd := by
  rw [Registry.notes, List.filterMap_map]
  show r.sorted.filterMap (some ∘ Prod.snd) = _
  rw [List.filterMap_eq_map]

theorem closed_notes_execute (r : Registry) (name sql : String) (values : List Value) :
    (r.notes (.execute name sql values)).filterMap Note.closed? = [] := by
  rw [Registry.notes]
  cases Pairs.get? name r.entries <;> rfl

/-- An action closes, gives back or keeps each handle that was there or that it hands over. -/
theorem count_after (r : Registry) (a : Action) (h : Handle) :
    ((r.notes a).filterMap Note.closed?).count h + (r.replacedBy a).toList.count h +
        ((r.after a).entries.map Prod.snd).count h =
      (r.entries.map Prod.snd).count h + a.handed?.toList.count h := by
  cases a with
  | register name handle =>
    have hput := Pairs.count_put name handle h r.entries
    simp only [Registry.notes, Registry.after, Registry.register, replacedBy, Action.handed?, List.filterMap_nil,
      List.count_nil, Option.toList_some]
    omega
  | remove name =>
    have herase := Pairs.count_erase name h r.entries
    rw [closed_notes_remove]
    simp only [Registry.after, Registry.remove, replacedBy, Action.handed?, Option.toList_none, List.count_nil]
    omega
  | close =>
    have hsorted : (r.sorted.map Prod.snd).count h = (r.entries.map Prod.snd).count h :=
      ((List.mergeSort_perm _ _).map Prod.snd).count_eq h
    rw [closed_notes_close, hsorted]
    simp [Registry.after, replacedBy, Action.handed?]
  | get name => simp [Registry.notes, Registry.after, replacedBy, Action.handed?]
  | execute name sql values =>
    rw [closed_notes_execute]
    simp [Registry.after, replacedBy, Action.handed?]

theorem mem_closed_notes {r : Registry} (hr : (Pairs.names r.entries).Nodup) (a : Action) (h : Handle) :
    h ∈ (r.notes a).filterMap Note.closed? ↔
      ∃ name, Pairs.get? name r.entries = some h ∧ (a = .remove name ∨ a = .close) := by
  cases a with
  | register name handle => simp [Registry.notes]
  | get name => simp [Registry.notes]
  | remove name =>
    rw [closed_notes_remove, Option.mem_toList]
    simp
  | close =>
    rw [closed_notes_close, List.mem_map]
    simp [mem_sorted, Pairs.get?_eq_some_iff hr]
  | execute name sql values =>
    rw [closed_notes_execute]
    simp

end Registry

namespace Backend
open Registry
variable {σ : Type} (b : Backend σ) (start : σ)

theorem closed_advance (w : Run σ) (a : Action) :
    (b.advance w a).closed = w.closed ++ (w.registry.notes a).filterMap Note.closed? := by
  rw [advance_eq, Run.closed, List.filterMap_append]
  rfl

theorem replaced_advance (w : Run σ) (a : Action) :
    (b.advance w a).replaced = w.replaced ++ (w.registry.replacedBy a).toList := by
  rw [advance_eq, Run.replaced, List.filterMap_append, ← replaced_perform b w.registry a w.state]
  generalize ((b.perform w.registry a).run w.state).1.1 = reply
  cases hreply : reply.replaced? <;> simp [hreply, Run.replaced]

/-- Each handle that was handed over is closed, has been given back, or is registered still, as often as it was handed
over. -/
theorem perm_handed (as : List Action) :
    ((b.runAll start as).closed ++ ((b.runAll start as).replaced ++ (b.runAll start as).registered)).Perm
      (as.filterMap Action.handed?) := by
  induction as using List.reverseRecOn with
  | nil => exact List.Perm.nil
  | append_singleton as a ih =>
    -- by multiplicities, since the last action moves handles from the end of the list to its front
    rw [List.perm_iff_count] at ih ⊢
    intro h
    have hafter := count_after (b.runAll start as).registry a h
    have hbefore := ih h
    have hhanded : [a].filterMap Action.handed? = a.handed?.toList := by
      cases ha : a.handed? <;> simp [ha]
    have hregistered : (b.advance (b.runAll start as) a).registered =
        ((b.runAll start as).registry.after a).entries.map Prod.snd := by
      rw [advance_eq, Run.registered]
    rw [runAll_concat, closed_advance, replaced_advance, hregistered, List.filterMap_append, hhanded]
    simp only [List.count_append, Run.registered] at hbefore ⊢
    omega

/-- Where no handle is handed over twice, none is closed twice, and none that is closed is elsewhere. -/
theorem closed_apart {as : List Action} (hfresh : Fresh as) :
    ((b.runAll start as).closed.map Handle.id).Nodup ∧
      ∀ h ∈ (b.runAll start as).replaced ++ (b.runAll start as).registered,
        h.id ∉ (b.runAll start as).closed.map Handle.id := by
  have hids := ((perm_handed b start as).map Handle.id).nodup_iff.2 hfresh
  rw [List.map_append] at hids
  obtain ⟨hclosed, -, hapart⟩ := List.nodup_append.1 hids
  exact ⟨hclosed, fun h hmem hh => hapart _ hh _ (List.mem_map_of_mem hmem) rfl⟩

theorem mem_registered {as : List Action} {name : String} {h : Handle} (hname : Registered as name h) :
    h ∈ (b.runAll start as).registered := by
  rw [← get?_runAll b start, Pairs.get?_eq_some_iff (nodup_runAll b start as)] at hname
  exact List.mem_map.2 ⟨(name, h), hname, rfl⟩

/-! ## When handles are closed -/

theorem mem_closed_iff (as : List Action) (h : Handle) :
    h ∈ (b.runAll start as).closed ↔
      ∃ before a name, before ++ [a] <+: as ∧ Registered before name h ∧ (a = .remove name ∨ a = .close) := by
  induction as using List.reverseRecOn with
  | nil => simp [runAll, Run.closed]
  | append_singleton as a ih =>
    rw [runAll_concat, closed_advance, List.mem_append, ih, mem_closed_notes (nodup_runAll b start as)]
    simp only [get?_runAll]
    -- the last action closes what is registered before it; all else an earlier one has closed
    constructor
    · rintro (⟨before, x, name, hpast, hname, hx⟩ | ⟨name, hname, ha⟩)
      · exact ⟨before, x, name, List.prefix_concat_iff.2 (.inr hpast), hname, hx⟩
      · exact ⟨as, a, name, List.prefix_rfl, hname, ha⟩
    · rintro ⟨before, x, name, hpast, hname, hx⟩
      rcases List.prefix_concat_iff.1 hpast with heq | hpast
      · obtain ⟨rfl, hlast⟩ := List.append_inj' heq rfl
        obtain rfl : x = a := by simpa using hlast
        exact .inr ⟨name, hname, hx⟩
      · exact .inl ⟨before, x, name, hpast, hname, hx⟩

/-! ## Replies -/

theorem length_replies (as : List Action) : (b.runAll start as).replies.length = as.length := by
  induction as using List.reverseRecOn with
  | nil => rfl
  | append_singleton as a ih =>
    rw [runAll_concat, advance_eq, List.length_append, List.length_append, ih]
    rfl

/-- The reply to an action stays what it was when the action was performed. -/
theorem getElem?_replies {as before : List Action} {a : Action} (hpast : before ++ [a] <+: as) :
    (b.runAll start as).replies[before.length]? =
      some ((b.perform (b.runAll start before).registry a).run (b.runAll start before).state).1.1 := by
  obtain ⟨rest, rfl⟩ := hpast
  induction rest using List.reverseRecOn with
  | nil =>
    rw [List.append_nil, runAll_concat, advance_eq, ← length_replies b start before]
    simp
  | append_singleton rest x ih =>
    rw [← List.append_assoc, runAll_concat, advance_eq, List.getElem?_append_left, ih]
    rw [length_replies]
    simp

theorem perform_execute (w : Run σ) (name sql : String) (values : List Value) :
    ((b.perform w.registry (.execute name sql values)).run w.state).1.1 =
      .answered ((b.query w.registry name sql values).run w.state).1 := rfl

/-! ## Whole runs -/

/-- The life of the handles of a registry that goes through some actions. What is said of a moment in the run is said
of the actions before it. -/
structure Lifecycle (b : Backend σ) (start : σ) (as : List Action) : Prop where
  performed : ∀ {before a}, before ++ [a] <+: as → ∃ reply, (b.runAll start as).replies[before.length]? = some reply ∧
    (b.perform (b.runAll start before).registry a).run (b.runAll start before).state =
      ((reply, (b.runAll start (before ++ [a])).registry), (b.runAll start (before ++ [a])).state)
  found : ∀ {before name}, before ++ [.get name] <+: as →
    (∀ h, (b.runAll start as).replies[before.length]? = some (.found (.ok h)) ↔ Registered before name h) ∧
      ((∀ h, ¬ Registered before name h) →
        (b.runAll start as).replies[before.length]? = some (.found (.error (.unknownDatabase name))))
  closed_iff : ∀ h, h ∈ (b.runAll start as).closed ↔
    ∃ before a name, before ++ [a] <+: as ∧ Registered before name h ∧ (a = .remove name ∨ a = .close)
  closed_once : ((b.runAll start as).closed.map Handle.id).Nodup
  replaced : ∀ {before name h old}, before ++ [.register name h] <+: as → Registered before name old →
    (b.runAll start as).replies[before.length]? = some (.replaced (some old)) ∧
      old.id ∉ (b.runAll start as).closed.map Handle.id
  executed : ∀ {before name sql values}, before ++ [.execute name sql values] <+: as →
    (∀ h, Registered before name h →
      h.id ∉ (b.runAll start before).closed.map Handle.id ∧
        (b.runAll start (before ++ [.execute name sql values])).notes =
          (b.runAll start before).notes ++ [.call ⟨h, sql, values⟩] ∧
        (b.runAll start as).replies[before.length]? =
          some (.answered ((b.call h sql values).run (b.runAll start before).state).1)) ∧
      ((∀ h, ¬ Registered before name h) →
        (b.runAll start (before ++ [.execute name sql values])).notes = (b.runAll start before).notes ∧
          (b.runAll start as).replies[before.length]? = some (.answered (.error (.unknownDatabase name))))
  emptied : ∀ {before}, before ++ [.close] <+: as → (b.runAll start (before ++ [.close])).registry.names = []

/-- In a run in which no handle is handed over twice, a name stands for the handle that was put there last. Handles are
closed when they are registered and their name is removed, or all are closed, and at no other time; none is closed
twice, and none that another one has taken the place of is closed at all. A handle that is called has not been closed. -/
theorem lifecycle {as : List Action} (hfresh : Fresh as) : Lifecycle b start as where
  performed := by
    intro before a hpast
    refine ⟨_, getElem?_replies b start hpast, ?_⟩
    rw [runAll_concat, advance_eq, ← registry_perform b _ a (b.runAll start before).state]
    rfl
  found := by
    intro before name hpast
    rw [getElem?_replies b start hpast]
    show (∀ h, some (Reply.found ((b.runAll start before).registry.get name)) = _ ↔ _) ∧
      (_ → some (Reply.found ((b.runAll start before).registry.get name)) = _)
    refine ⟨fun h => ?_, fun hnone => ?_⟩
    · rw [← get_runAll b start]
      simp
    · rw [get_runAll_unknown b start hnone]
  closed_iff := mem_closed_iff b start as
  closed_once := (closed_apart b start hfresh).1
  replaced := by
    intro before name h old hpast hold
    have hreply : (b.runAll start as).replies[before.length]? = some (.replaced (some old)) := by
      rw [getElem?_replies b start hpast, ← (get?_runAll b start before name old).2 hold]
      rfl
    have hmem : old ∈ (b.runAll start as).replaced := List.mem_filterMap.2 ⟨_, List.mem_of_getElem? hreply, rfl⟩
    exact ⟨hreply, (closed_apart b start hfresh).2 old (List.mem_append_left _ hmem)⟩
  executed := by
    intro before name sql values hpast
    have hbefore : Fresh before := fresh_before hfresh ((List.prefix_append _ _).trans hpast)
    rw [getElem?_replies b start hpast, runAll_concat, advance_eq, perform_execute, query]
    refine ⟨fun h hname => ⟨?_, ?_, ?_⟩, fun hnone => ⟨?_, ?_⟩⟩
    · apply (closed_apart b start hbefore).2
      exact List.mem_append_right _ (mem_registered b start hname)
    · rw [Registry.notes, (get?_runAll b start before name h).2 hname]
      rfl
    · rw [(get_runAll b start before name h).2 hname]
    · rw [Registry.notes, get?_runAll_none b start hnone]
      exact List.append_nil _
    · rw [get_runAll_unknown b start hnone]
      rfl
  emptied := by
    intro before hpast
    rw [runAll_concat, advance_eq]
    exact names_empty

theorem lifecycle_rotation :
    let as : List Action :=
      [.register "main" ⟨0, "old"⟩, .register "audit" ⟨1, "trail"⟩, .register "main" ⟨2, "new"⟩,
        .execute "main" "SELECT ?" [.bool true], .remove "audit", .get "audit", .register "audit" ⟨3, "trail"⟩, .close,
        .execute "main" "SELECT ?" [.bool true]]
    let w := counting.runAll 5 as
    Fresh as ∧ w.replies[2]? = some (.replaced (some ⟨0, "old"⟩)) ∧ w.replies[3]? = some (.answered (.ok (.count 6))) ∧
      w.replies[5]? = some (.found (.error (.unknownDatabase "audit"))) ∧
      w.replies[8]? = some (.answered (.error (.unknownDatabase "main"))) ∧
      ⟨1, "trail"⟩ ∈ w.closed ∧ ⟨2, "new"⟩ ∈ w.closed ∧ 0 ∉ w.closed.map Handle.id ∧
      (w.closed.map Handle.id).Nodup := by
  intro as w
  have hfresh : Fresh as := by decide
  have hlife := lifecycle counting 5 hfresh
  obtain ⟨hreplaced, hkept⟩ := hlife.replaced ⟨as.drop 3, rfl⟩ (by decide : Registered (as.take 2) "main" ⟨0, "old"⟩)
  obtain ⟨-, -, hcalled⟩ := (hlife.executed ⟨as.drop 4, rfl⟩).1 ⟨2, "new"⟩ (by decide : Registered (as.take 3) "main" _)
  have hremoved : ∀ h, ¬ Registered (as.take 5) "audit" h := nofun
  have hgone : ∀ h, ¬ Registered (as.take 8) "main" h := nofun
  have haudit : Registered (as.take 4) "audit" ⟨1, "trail"⟩ := by decide
  have hmain : Registered (as.take 7) "main" ⟨2, "new"⟩ := by decide
  refine ⟨hfresh, hreplaced, hcalled, (hlife.found ⟨as.drop 6, rfl⟩).2 hremoved, ((hlife.executed ⟨[], rfl⟩).2 hgone).2,
    (hlife.closed_iff _).2 ⟨as.take 4, _, _, ⟨as.drop 5, rfl⟩, haudit, .inl rfl⟩,
    (hlife.closed_iff _).2 ⟨as.take 7, _, _, ⟨as.drop 8, rfl⟩, hmain, .inr rfl⟩, hkept, hlife.closed_once⟩

end Backend

end TypedSql
