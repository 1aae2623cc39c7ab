import Mathlib.Data.List.Forall2

/-!
# Lists gone through up to the first fault

* `bind_eq_ok`, `exists_of_map_eq_ok` : a computation of two steps succeeds if both steps do;
* `mapM_eq_ok_iff` : a function that may fail succeeds on a list if it does on each entry, with one result for each;
* `exists_mapM`, `exists_mapM_iff` : then there are such results;
* `mapM_eq_error_iff` : else the error is that of the first entry that it fails on;
* `mapM_eq_ok_iff_forall₂`, `mapM_eq_error_iff_append` : the same, without an index;
* `zipMapM` : a function of an index and of the entries of two lists there, with the same three laws.
-/

namespace TypedSql
variable {ε α β γ : Type}

theorem bind_eq_ok {r : Except ε α} {f : α → Except ε β} {b : β} (h : r >>= f = .ok b) :
    ∃ a, r = .ok a ∧ f a = .ok b := by
  cases r with
  | error e => cases h
  | ok a => exact ⟨a, rfl, h⟩

theorem exists_of_map_eq_ok {f : α → β} {r : Except ε α} {b : β} (h : r.map f = .ok b) : ∃ a, r = .ok a ∧ f a = b := by
  cases r with
  | error e => cases h
  | ok a => exact ⟨a, rfl, Except.ok.inj h⟩

theorem map_eq_ok_iff {f : α → β} {r : Except ε α} {b : β} : r.map f = .ok b ↔ ∃ a, r = .ok a ∧ f a = b :=
  ⟨exists_of_map_eq_ok, fun ⟨a, ha, hb⟩ => by rw [ha, ← hb]; rfl⟩

theorem map_eq_error_iff {f : α → β} {r : Except ε α} {e : ε} : r.map f = .error e ↔ r = .error e := by
  cases r <;> simp [Except.map]

section
variable {f : α → Except ε β}

theorem mapM_cons_of_ok {a : α} {b : β} (h : f a = .ok b) (as : List α) :
    (a :: as).mapM f = (as.mapM f).map (b :: ·) := by
  rw [List.mapM_cons, h]
  cases as.mapM f <;> rfl

theorem mapM_cons_of_error {a : α} {e : ε} (h : f a = .error e) (as : List α) : (a :: as).mapM f = .error e := by
  rw [List.mapM_cons, h]
  rfl

theorem mapM_eq_ok_iff {as : List α} {bs : List β} : as.mapM f = .ok bs ↔
    bs.length = as.length ∧ ∀ (i : Nat) a, as[i]? = some a → ∃ b, bs[i]? = some b ∧ f a = .ok b := by
  induction as generalizing bs with
  | nil => cases bs <;> simp [pure, Except.pure]
  | cons a as ih =>
    cases ha : f a with
    | error e =>
      rw [mapM_cons_of_error ha]
      constructor
      · intro h
        cases h
      · rintro ⟨-, h⟩
        obtain ⟨b, -, hb⟩ := h 0 a rfl
        rw [ha] at hb
        cases hb
    | ok b =>
      rw [mapM_cons_of_ok ha]
      constructor
      · intro h
        cases hs : as.mapM f with
        | error e => rw [hs] at h; cases h
        | ok rest =>
          rw [hs] at h
          cases h
          obtain ⟨hlength, hall⟩ := ih.1 hs
          refine ⟨congrArg (· + 1) hlength, fun i c hc => ?_⟩
          cases i with
          | zero =>
            cases hc
            exact ⟨b, rfl, ha⟩
          | succ i => exact hall i c hc
      · rintro ⟨hlength, hall⟩
        obtain ⟨c, hc, hfc⟩ := hall 0 a rfl
        rw [ha] at hfc
        cases hfc
        cases bs with
        | nil => cases hc
        | cons c rest =>
          cases hc
          rw [ih.2 ⟨Nat.succ.inj hlength, fun i c hc => hall (i + 1) c hc⟩]
          rfl

theorem mapM_eq_ok_iff_forall₂ {as : List α} {bs : List β} :
    as.mapM f = .ok bs ↔ List.Forall₂ (fun a b => f a = .ok b) as bs := by
  induction as generalizing bs with
  | nil => simp [pure, Except.pure, eq_comm]
  | cons a as ih =>
    rw [List.forall₂_cons_left_iff]
    constructor
    · intro h
      cases ha : f a with
      | error e =>
        rw [mapM_cons_of_error ha] at h
        cases h
      | ok b =>
        rw [mapM_cons_of_ok ha] at h
        obtain ⟨bs, hbs, rfl⟩ := exists_of_map_eq_ok h
        exact ⟨b, bs, rfl, ih.1 hbs, rfl⟩
    · rintro ⟨b, bs, ha, hbs, rfl⟩
      rw [mapM_cons_of_ok ha, ih.2 hbs]
      rfl

theorem exists_mapM {as : List α} (h : ∀ a ∈ as, ∃ b, f a = .ok b) : ∃ bs, as.mapM f = .ok bs := by
  induction as with
  | nil => exact ⟨[], rfl⟩
  | cons a as ih =>
    obtain ⟨b, hb⟩ := h a List.mem_cons_self
    obtain ⟨bs, hbs⟩ := ih fun c hc => h c (List.mem_cons_of_mem a hc)
    exact ⟨b :: bs, by rw [mapM_cons_of_ok hb, hbs]; rfl⟩

theorem exists_mapM_iff {as : List α} : (∃ bs, as.mapM f = .ok bs) ↔ ∀ a ∈ as, ∃ b, f a = .ok b := by
  refine ⟨fun ⟨bs, hbs⟩ a ha => ?_, exists_mapM⟩
  obtain ⟨i, hi⟩ := List.mem_iff_getElem?.1 ha
  obtain ⟨b, -, hb⟩ := (mapM_eq_ok_iff.1 hbs).2 i a hi
  exact ⟨b, hb⟩

theorem mapM_eq_error {as : List α} {i : Nat} {a : α} {e : ε} (hi : as[i]? = some a) (he : f a = .error e)
    (hbefore : ∀ j < i, ∀ a, as[j]? = some a → ∃ b, f a = .ok b) : as.mapM f = .error e := by
  induction as generalizing i with
  | nil => cases hi
  | cons c as ih =>
    cases i with
    | zero =>
      cases hi
      exact mapM_cons_of_error he as
    | succ i =>
      obtain ⟨b, hb⟩ := hbefore 0 (by omega) c rfl
      rw [mapM_cons_of_ok hb, ih hi fun j hj => hbefore (j + 1) (by omega)]
      rfl

theorem mapM_eq_error_iff {as : List α} {e : ε} : as.mapM f = .error e ↔
    ∃ (i : Nat) (a : α), as[i]? = some a ∧ f a = .error e ∧ ∀ j < i, ∀ a, as[j]? = some a → ∃ b, f a = .ok b := by
  refine ⟨fun h => ?_, fun ⟨i, a, hi, he, hbefore⟩ => mapM_eq_error hi he hbefore⟩
  induction as with
  | nil => cases h
  | cons a as ih =>
    cases ha : f a with
    | error e' =>
      rw [mapM_cons_of_error ha] at h
      cases h
      exact ⟨0, a, rfl, ha, fun j hj => absurd hj (Nat.not_lt_zero j)⟩
    | ok b =>
      rw [mapM_cons_of_ok ha] at h
      cases hs : as.mapM f with
      | ok bs => rw [hs] at h; cases h
      | error e' =>
        rw [hs] at h
        cases h
        obtain ⟨i, c, hi, hc, hbefore⟩ := ih hs
        refine ⟨i + 1, c, hi, hc, fun j hj d hd => ?_⟩
        cases j with
        | zero =>
          cases hd
          exact ⟨b, ha⟩
        | succ j => exact hbefore j (Nat.lt_of_succ_lt_succ hj) d hd

/-- The first entry to fail stands behind entries that do not. -/
theorem mapM_eq_error_iff_append {as : List α} {e : ε} : as.mapM f = .error e ↔
    ∃ before a after, as = before ++ a :: after ∧ f a = .error e ∧ ∀ a ∈ before, ∃ b, f a = .ok b := by
  rw [mapM_eq_error_iff]
  constructor
  · rintro ⟨i, a, hi, he, hbefore⟩
    obtain ⟨hlt, rfl⟩ := List.getElem?_eq_some_iff.1 hi
    refine ⟨as.take i, as[i], as.drop (i + 1), ?_, he, fun a ha => ?_⟩
    · rw [List.getElem_cons_drop, List.take_append_drop]
    · obtain ⟨j, hj, rfl⟩ := List.mem_take_iff_getElem.1 ha
      exact hbefore j (by omega) _ (List.getElem?_eq_getElem (by omega))
  · rintro ⟨before, a, after, rfl, he, hbefore⟩
    refine ⟨before.length, a, by simp, he, fun j hj b hb => ?_⟩
    rw [List.getElem?_append_left hj] at hb
    exact hbefore b (List.mem_of_getElem? hb)

end

/-! ## Two lists -/

/-- A function that may fail, on the entries of two lists and their index, counted from `k`. -/
def zipMapM (f : Nat → α → β → Except ε γ) (k : Nat) (as : List α) (bs : List β) : Except ε (List γ) :=
  ((as.zip bs).zipIdx k).mapM fun ab => f ab.2 ab.1.1 ab.1.2

section
variable {f : Nat → α → β → Except ε γ} {k : Nat} {as : List α} {bs : List β}

theorem getElem?_zip_zipIdx {i : Nat} {ab : (α × β) × Nat} :
    ((as.zip bs).zipIdx k)[i]? = some ab ↔ as[i]? = some ab.1.1 ∧ bs[i]? = some ab.1.2 ∧ ab.2 = i + k := by
  obtain ⟨⟨a, b⟩, n⟩ := ab
  rw [List.getElem?_zipIdx, Option.map_eq_some_iff]
  simp only [List.getElem?_zip_eq_some, Prod.mk.injEq]
  constructor
  · rintro ⟨⟨a', b'⟩, ⟨ha, hb⟩, ⟨rfl, rfl⟩, rfl⟩
    exact ⟨ha, hb, Nat.add_comm k i⟩
  · rintro ⟨ha, hb, rfl⟩
    exact ⟨(a, b), ⟨ha, hb⟩, rfl, Nat.add_comm k i⟩

theorem zipMapM_eq_ok_iff (hlength : bs.length = as.length) {cs : List γ} : zipMapM f k as bs = .ok cs ↔
    cs.length = bs.length ∧ ∀ (i : Nat) a b, as[i]? = some a → bs[i]? = some b →
      ∃ c, cs[i]? = some c ∧ f (i + k) a b = .ok c := by
  rw [zipMapM, mapM_eq_ok_iff, List.length_zipIdx, List.length_zip, ← hlength, Nat.min_self]
  constructor
  · rintro ⟨hcs, hall⟩
    exact ⟨hcs, fun i a b ha hb => hall i ((a, b), i + k) (getElem?_zip_zipIdx.2 ⟨ha, hb, rfl⟩)⟩
  · rintro ⟨hcs, hall⟩
    refine ⟨hcs, fun i ab hi => ?_⟩
    obtain ⟨ha, hb, hn⟩ := getElem?_zip_zipIdx.1 hi
    rw [hn]
    exact hall i ab.1.1 ab.1.2 ha hb

theorem exists_zipMapM (h : ∀ (i : Nat) a b, as[i]? = some a → bs[i]? = some b → ∃ c, f (i + k) a b = .ok c) :
    ∃ cs, zipMapM f k as bs = .ok cs := by
  apply exists_mapM
  intro ab hab
  obtain ⟨i, hi⟩ := List.mem_iff_getElem?.1 hab
  obtain ⟨ha, hb, hn⟩ := getElem?_zip_zipIdx.1 hi
  rw [hn]
  exact h i ab.1.1 ab.1.2 ha hb

theorem zipMapM_eq_error {i : Nat} {a : α} {b : β} {e : ε} (ha : as[i]? = some a) (hb : bs[i]? = some b)
    (he : f (i + k) a b = .error e)
    (hbefore : ∀ j < i, ∀ a b, as[j]? = some a → bs[j]? = some b → ∃ c, f (j + k) a b = .ok c) :
    zipMapM f k as bs = .error e := by
  refine mapM_eq_error (getElem?_zip_zipIdx.2 ⟨ha, hb, rfl⟩ : _[i]? = some ((a, b), i + k)) he ?_
  intro j hj ab hab
  obtain ⟨ha, hb, hn⟩ := getElem?_zip_zipIdx.1 hab
  rw [hn]
  exact hbefore j hj ab.1.1 ab.1.2 ha hb

theorem zipMapM_eq_error_iff {e : ε} : zipMapM f k as bs = .error e ↔
    ∃ (i : Nat) (a : α) (b : β), as[i]? = some a ∧ bs[i]? = some b ∧ f (i + k) a b = .error e ∧
      ∀ j < i, ∀ a b, as[j]? = some a → bs[j]? = some b → ∃ c, f (j + k) a b = .ok c := by
  constructor
  · intro h
    obtain ⟨i, ab, hi, he, hbefore⟩ := mapM_eq_error_iff.1 h
    obtain ⟨ha, hb, hn⟩ := getElem?_zip_zipIdx.1 hi
    rw [hn] at he
    exact ⟨i, ab.1.1, ab.1.2, ha, hb, he, fun j hj a b ha hb =>
      hbefore j hj ((a, b), j + k) (getElem?_zip_zipIdx.2 ⟨ha, hb, rfl⟩)⟩
  · rintro ⟨i, a, b, ha, hb, he, hbefore⟩
    exact zipMapM_eq_error ha hb he hbefore

end

end TypedSql
