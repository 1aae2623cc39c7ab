/-!
# Lists of named entries

* `Pairs.put`: replace the entry of a name where it stands, or append one.
* `Pairs.get?`: the entry of a name, the first one if there are several.
* `Pairs.sorted`: the entries in the order of their names.
* `Pairs.get?_put_self`, `Pairs.get?_put_of_ne`, `Pairs.names_put`, `Pairs.nodup_put`: what `put` changes.
-/

namespace TypedSql.Pairs

variable {α : Type}

def names (ps : List (String × α)) : List String :=
  ps.map Prod.fst

/-- Replace the entry of `name` where it stands, or append one. -/
def put (name : String) (v : α) : List (String × α) → List (String × α)
  | [] => [(name, v)]
  | p :: ps => if p.1 = name then (name, v) :: ps else p :: put name v ps

/-- The first entry of `name`. -/
def get? (name : String) : List (String × α) → Option α
  | [] => none
  | p :: ps => if p.1 = name then some p.2 else get? name ps

def erase (name : String) : List (String × α) → List (String × α)
  | [] => []
  | p :: ps => if p.1 = name then ps else p :: erase name ps

/-- The entries in the order of their names. -/
def sorted (ps : List (String × α)) : List (String × α) :=
  ps.mergeSort fun p q => decide (p.1 ≤ q.1)

theorem get?_put_self (name : String) (v : α) (ps : List (String × α)) :
    get? name (put name v ps) = some v := by
  induction ps with
  | nil => simp [put, get?]
  | cons p ps ih => by_cases h : p.1 = name <;> simp [put, get?, h, ih]

theorem get?_put_of_ne {name other : String} (h : other ≠ name) (v : α) (ps : List (String × α)) :
    get? other (put name v ps) = get? other ps := by
  induction ps with
  | nil => simp [put, get?, Ne.symm h]
  | cons p ps ih =>
    rw [put]
    split
    · next hp => simp [get?, hp, Ne.symm h]
    · simp [get?, ih]

theorem names_cons (p : String × α) (ps : List (String × α)) : names (p :: ps) = p.1 :: names ps := rfl

theorem names_put (name : String) (v : α) (ps : List (String × α)) :
    names (put name v ps) = if name ∈ names ps then names ps else names ps ++ [name] := by
  induction ps with
  | nil => rfl
  | cons p ps ih =>
    rw [put]
    split
    · next h => simp [names_cons, h]
    · next h =>
      rw [names_cons, names_cons, ih]
      by_cases hm : name ∈ names ps <;> simp [hm, Ne.symm h]

theorem nodup_put (name : String) (v : α) {ps : List (String × α)} (h : (names ps).Nodup) :
    (names (put name v ps)).Nodup := by
  rw [names_put]
  split
  · exact h
  · next hm =>
    refine List.nodup_append.2 ⟨h, by simp, fun a ha b hb => ?_⟩
    rw [List.mem_singleton.1 hb]
    exact fun e => hm (e ▸ ha)

end TypedSql.Pairs
