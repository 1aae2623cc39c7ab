import TypedSql.Config.Reading
import TypedSql.Proofs.Config.Expansion
import TypedSql.Proofs.Toml.Names

/-!
# Configurations, whole or not at all

* `Config.sorted_of_parse?` : the databases that are read have different names, and stand in the order of these;
* `Config.Usable`, `Config.Refused` : what a database needs to be used, and which lack is reported;
* `Config.resolved_eq_ok_iff` : a configuration is made if all databases can be used, and changes only their addresses;
* `Config.resolved_eq_error_iff` : else it fails as the first database that cannot be used;
* `Config.ofText_resolves` : both, for the databases that a text describes, and what the expansion of an address is.
-/

namespace TypedSql.Config

/-! ## What is read -/

theorem names_of_mapM {α β : Type} {read : α → Option β} {es : List (String × α)} {ps : List (String × β)}
    (h : (es.mapM fun (name, v) => (read v).map (name, ·)) = some ps) : Pairs.names ps = Pairs.names es := by
  induction es generalizing ps with
  | nil =>
    obtain rfl := Option.some.inj h
    rfl
  | cons e es ih =>
    rw [List.mapM_cons] at h
    obtain ⟨p, hp, h⟩ := Option.bind_eq_some_iff.1 h
    obtain ⟨rest, hrest, h⟩ := Option.bind_eq_some_iff.1 h
    obtain rfl := Option.some.inj h
    obtain ⟨v, -, rfl⟩ := Option.map_eq_some_iff.1 hp
    rw [Pairs.names_cons, Pairs.names_cons, ih hrest]

theorem nodup_of_databasesOf? {document : Toml.Entries} {databases : List (String × DatabaseConfig)}
    (hdocument : Toml.Keyed document) (h : databasesOf? document = some databases) : (Pairs.names databases).Nodup := by
  unfold databasesOf? at h
  split at h
  · split at h
    · cases h
      exact List.nodup_nil
    · next es hget =>
      rw [names_of_mapM h]
      exact (Toml.isKeyed_table.1 (hdocument.get? hget)).nodup
    · cases h
  · cases h

theorem parse?_eq_map (text : String) : parse? text = ((Toml.read? text).bind databasesOf?).map Pairs.sorted := by
  unfold parse?
  cases Toml.read? text with
  | none => rfl
  | some document =>
    dsimp only [Option.bind_some, Option.bind_eq_bind]
    cases databasesOf? document <;> rfl

theorem parse?_of_perm {text : String} {ds databases : List (String × DatabaseConfig)}
    (h : (Toml.read? text).bind databasesOf? = some ds) (hperm : databases.Perm ds)
    (hbefore : databases.Pairwise Pairs.Before) : parse? text = some databases := by
  rw [parse?_eq_map, h, Option.map_some, Pairs.sorted_eq_of_perm hperm hbefore]

/-- The databases of a text have different names, and stand in the order of these. -/
theorem sorted_of_parse? {text : String} {databases : List (String × DatabaseConfig)}
    (h : parse? text = some databases) : databases.Pairwise Pairs.Before := by
  rw [parse?_eq_map] at h
  obtain ⟨ds, hds, rfl⟩ := Option.map_eq_some_iff.1 h
  obtain ⟨document, hdocument, hds⟩ := Option.bind_eq_some_iff.1 hds
  exact Pairs.pairwise_sorted (nodup_of_databasesOf? (Toml.keyed_of_read? hdocument) hds)

/-! ## What is made of it -/

section
variable (lookup : Lookup)

/-- A database can be used: its address expands to a text that is not blank, and its pool has room. -/
structure Usable (d : DatabaseConfig) (url : String) : Prop where
  expands : Expands lookup d.url url
  not_blank : Text.isBlankText url = false
  room : 0 < d.maxSize

/-- Why a database cannot be used: its address has no expansion; else the expansion is blank; else its pool has no
room. -/
inductive Refused (name : String) (d : DatabaseConfig) : Fault → Prop where
  | unexpanded {f : Fault} (h : Lacks lookup d.url f) : Refused name d f
  | blankUrl {url : String} (h : Expands lookup d.url url) (hblank : Text.isBlankText url = true) :
      Refused name d (.blankUrl name)
  | zeroSize {url : String} (h : Expands lookup d.url url) (hblank : Text.isBlankText url = false)
      (hsize : d.maxSize = 0) : Refused name d (.zeroSize name)

/-- A database is kept: its name and its settings stay, and its address is replaced by one that it can be used under. -/
def Kept (p q : String × DatabaseConfig) : Prop :=
  q.1 = p.1 ∧ ∃ url, Usable lookup p.2 url ∧ q.2 = { p.2 with url }

end

section
variable {lookup : Lookup}

variable {name url : String} {d d' : DatabaseConfig} {f : Fault}

theorem resolve_of_expands (h : Expands lookup d.url url) : resolve lookup name d = checked name { d with url } := by
  rw [resolve, expand_eq_ok_iff.2 h]
  rfl

theorem resolve_of_usable (h : Usable lookup d url) : resolve lookup name d = .ok { d with url } := by
  rw [resolve_of_expands h.expands, checked, if_neg (Bool.eq_false_iff.1 h.not_blank),
    if_neg (Nat.pos_iff_ne_zero.1 h.room)]

theorem resolve_of_refused (h : Refused lookup name d f) : resolve lookup name d = .error f := by
  cases h with
  | unexpanded h =>
    rw [resolve, expand_eq_error_iff.2 h]
    rfl
  | blankUrl h hblank => rw [resolve_of_expands h, checked, if_pos hblank]
  | zeroSize h hblank hsize => rw [resolve_of_expands h, checked, if_neg (Bool.eq_false_iff.1 hblank), if_pos hsize]

theorem usable_or_refused (lookup : Lookup) (name : String) (d : DatabaseConfig) :
    (∃ url, Usable lookup d url) ∨ ∃ f, Refused lookup name d f := by
  cases hexpand : expand lookup d.url with
  | error f => exact .inr ⟨f, .unexpanded (expand_eq_error_iff.1 hexpand)⟩
  | ok url =>
    have hurl := expand_eq_ok_iff.1 hexpand
    cases hblank : Text.isBlankText url with
    | true => exact .inr ⟨_, .blankUrl hurl hblank⟩
    | false =>
      rcases Nat.eq_zero_or_pos d.maxSize with hsize | hroom
      · exact .inr ⟨_, .zeroSize hurl hblank hsize⟩
      · exact .inl ⟨url, hurl, hblank, hroom⟩

theorem resolve_eq_ok_iff :
    resolve lookup name d = .ok d' ↔ ∃ url, Usable lookup d url ∧ d' = { d with url } := by
  constructor
  · intro h
    obtain ⟨url, husable⟩ | ⟨f, hrefused⟩ := usable_or_refused lookup name d
    · rw [resolve_of_usable husable] at h
      exact ⟨url, husable, (Except.ok.inj h).symm⟩
    · rw [resolve_of_refused hrefused] at h
      cases h
  · rintro ⟨url, h, rfl⟩
    exact resolve_of_usable h

theorem resolve_eq_error_iff : resolve lookup name d = .error f ↔ Refused lookup name d f := by
  refine ⟨fun h => ?_, resolve_of_refused⟩
  obtain ⟨url, husable⟩ | ⟨g, hrefused⟩ := usable_or_refused lookup name d
  · rw [resolve_of_usable husable] at h
    cases h
  · rw [resolve_of_refused hrefused] at h
    exact Except.error.inj h ▸ hrefused

/-! ## All databases -/

variable {databases : List (String × DatabaseConfig)}

/-- A database with its name, resolved. -/
def keep (lookup : Lookup) (p : String × DatabaseConfig) : Except Fault (String × DatabaseConfig) :=
  (resolve lookup p.1 p.2).map (p.1, ·)

theorem keep_eq_ok_iff {p q : String × DatabaseConfig} : keep lookup p = .ok q ↔ Kept lookup p q := by
  rw [keep, map_eq_ok_iff]
  simp only [resolve_eq_ok_iff]
  constructor
  · rintro ⟨d, hd, rfl⟩
    exact ⟨rfl, hd⟩
  · rintro ⟨hname, hd⟩
    exact ⟨q.2, hd, Prod.ext hname.symm rfl⟩

theorem keep_eq_error_iff {p : String × DatabaseConfig} :
    keep lookup p = .error f ↔ Refused lookup p.1 p.2 f := by
  rw [keep, map_eq_error_iff, resolve_eq_error_iff]

theorem exists_kept_iff {p : String × DatabaseConfig} : (∃ q, Kept lookup p q) ↔ ∃ url, Usable lookup p.2 url :=
  ⟨fun ⟨_, _, url, h, _⟩ => ⟨url, h⟩, fun ⟨url, h⟩ => ⟨(p.1, { p.2 with url }), rfl, url, h, rfl⟩⟩

theorem resolved_eq_map (lookup : Lookup) (databases : List (String × DatabaseConfig)) : resolved lookup databases =
    (databases.mapM (keep lookup)).map Config.mk :=
  bind_pure_comp _ _

theorem resolved_eq_ok_iff {c : Config} :
    resolved lookup databases = .ok c ↔ List.Forall₂ (Kept lookup) databases c.databases := by
  rw [resolved_eq_map, map_eq_ok_iff]
  simp only [mapM_eq_ok_iff_forall₂, keep_eq_ok_iff]
  constructor
  · rintro ⟨qs, hqs, rfl⟩
    exact hqs
  · exact fun h => ⟨c.databases, h, rfl⟩

theorem exists_resolved_iff :
    (∃ c, resolved lookup databases = .ok c) ↔ ∀ p ∈ databases, ∃ url, Usable lookup p.2 url := by
  have hmapM : (∃ c, resolved lookup databases = .ok c) ↔ ∃ qs, databases.mapM (keep lookup) = .ok qs := by
    simp only [resolved_eq_map, map_eq_ok_iff]
    exact ⟨fun ⟨_, qs, hqs, _⟩ => ⟨qs, hqs⟩, fun ⟨qs, hqs⟩ => ⟨⟨qs⟩, qs, hqs, rfl⟩⟩
  rw [hmapM, exists_mapM_iff]
  simp only [keep_eq_ok_iff, exists_kept_iff]

theorem resolved_eq_error_iff : resolved lookup databases = .error f ↔
    ∃ before p after, databases = before ++ p :: after ∧ Refused lookup p.1 p.2 f ∧
      ∀ q ∈ before, ∃ url, Usable lookup q.2 url := by
  rw [resolved_eq_map, map_eq_error_iff, mapM_eq_error_iff_append]
  simp only [keep_eq_error_iff, keep_eq_ok_iff, exists_kept_iff]

end

/-! ## Texts -/

/-- Every address is cut into pieces in one way, from left to right, and expands to what these stand for, or fails as
the first that stands for nothing. A text that describes databases makes a configuration exactly if all of these can be
used, and then the addresses alone are replaced; else it fails as the first that cannot be used, in the order of the
names. -/
theorem ofText_resolves (lookup : Lookup) :
    (∀ url, (∃! ps, Cut url.toList ps) ∧ (∀ t, expand lookup url = .ok t ↔ Expands lookup url t) ∧
      ∀ f, expand lookup url = .error f ↔ Lacks lookup url f) ∧
    ∀ {text databases}, parse? text = some databases →
      databases.Pairwise Pairs.Before ∧
      ((∃ c, ofText lookup text = .ok c) ↔ ∀ p ∈ databases, ∃ url, Usable lookup p.2 url) ∧
      (∀ c, ofText lookup text = .ok c ↔ List.Forall₂ (Kept lookup) databases c.databases) ∧
      ∀ f, ofText lookup text = .error f ↔ ∃ before p after, databases = before ++ p :: after ∧
        Refused lookup p.1 p.2 f ∧ ∀ q ∈ before, ∃ url, Usable lookup q.2 url := by
  refine ⟨fun url => ⟨?_, fun t => expand_eq_ok_iff, fun f => expand_eq_error_iff⟩, fun {text databases} h => ?_⟩
  · exact ⟨pieces url.toList, cut_pieces _, fun ps hps => cut_iff.1 hps⟩
  have htext : ofText lookup text = resolved lookup databases := by
    rw [ofText, h]
  rw [htext]
  exact ⟨sorted_of_parse? h, exists_resolved_iff, fun c => resolved_eq_ok_iff, fun f => resolved_eq_error_iff⟩

theorem ofText_resolves_two :
    ofText (fun key => if key = "A" then some "$\x7bB\x7d" else none)
      "[databases.b]\nurl = \"$\x7bB\x7d\"\nmax_size = 0\n[databases.a]\nurl = \"$\x7bA\x7d\"" =
      .error (.unknownKey "B") := by
  have hparse : parse? "[databases.b]\nurl = \"$\x7bB\x7d\"\nmax_size = 0\n[databases.a]\nurl = \"$\x7bA\x7d\"" =
      some [("a", { url := "$\x7bA\x7d" }), ("b", { url := "$\x7bB\x7d", maxSize := 0 })] :=
    @parse?_of_perm _ [("b", { url := "$\x7bB\x7d", maxSize := 0 }), ("a", { url := "$\x7bA\x7d" })] _
      (by decide +kernel) (.swap _ _ _) (by simp [Pairs.Before])
  have hcut : ∀ c : Char, '\x7d' ∉ [c] → Cut ['$', '\x7b', c, '\x7d'] ([] ++ [.reference [c]]) :=
    fun c hc => @Cut.reference [c] [] [] hc .nil
  refine ((ofText_resolves _).2 hparse).2.2.2 _ |>.2 ⟨[("a", _)], ("b", _), [], rfl, ?_, ?_⟩
  · exact .unexpanded ⟨[], _, [], hcut 'B' (by decide), .unknownKey (by decide) (by decide), List.forall_mem_nil _⟩
  · -- the address of the first expands to a reference, which is not looked up in turn
    rw [List.forall_mem_singleton]
    refine ⟨"$\x7bB\x7d", ⟨_, _, hcut 'A' (by decide), .cons (.reference (by decide) rfl) .nil, ?_⟩, ?_, ?_⟩
    all_goals decide

end TypedSql.Config
