import AssemblyAtlas.Proofs.Except
import AssemblyAtlas.Proofs.Query.SearchFilters
import AssemblyAtlas.Proofs.Store.SymbolLookup

/-!
# Two orders of presentation

Symbols are shown by assembly, then kind, then full name, both by a lookup in the store and by a
search. A search compares kinds in the order type, method, field, property. The store compares the
words for them, in which order fields come first and types last. So two symbols stand in the same
order in both exactly if they are in different assemblies or of the same kind, or if one is a
property and the other a method or field (`orders_agree_iff`).
-/

namespace AssemblyAtlas

/-! ### Order in a sorted list -/

section Precedes

variable {α : Type} {cmp : α → α → Ordering} {xs : List α} {x y : α}

/-- The list has `x` and, at a later place, `y`. -/
def Precedes (xs : List α) (x y : α) : Prop :=
  [x, y].Sublist xs

instance [DecidableEq α] : Decidable (Precedes xs x y) :=
  inferInstanceAs (Decidable ([x, y].Sublist xs))

/-- Of two elements of a list, one precedes the other. -/
theorem precedes_or_precedes (hx : x ∈ xs) (hy : y ∈ xs) (hne : x ≠ y) :
    Precedes xs x y ∨ Precedes xs y x := by
  obtain ⟨before, after, rfl⟩ := List.append_of_mem hx
  rcases List.mem_append.1 hy with hbefore | hafter
  · have hlast : [x].Sublist (x :: after) := List.singleton_sublist.2 List.mem_cons_self
    exact .inr ((List.singleton_sublist.2 hbefore).append hlast)
  · have hrest : y ∈ after := (List.mem_cons.1 hafter).resolve_left hne.symm
    have hsub : [x, y].Sublist (x :: after) := (List.singleton_sublist.2 hrest).cons_cons x
    exact .inl (hsub.trans (List.sublist_append_right before _))

/-- In a sorted list, the smaller of two elements precedes the other. -/
theorem precedes_iff [Std.TransCmp cmp] [Std.LawfulEqCmp cmp]
    (hsorted : xs.Pairwise fun a b => (cmp a b).isLE) (hx : x ∈ xs) (hy : y ∈ xs) (hne : x ≠ y) :
    Precedes xs x y ↔ cmp x y = .lt := by
  have hle : ∀ {a b}, Precedes xs a b → (cmp a b).isLE := fun h =>
    (List.pairwise_pair.1 (List.Pairwise.sublist h hsorted) :)
  constructor
  · intro h
    cases hcmp : cmp x y with
    | lt => rfl
    | eq => exact absurd (Std.LawfulEqCmp.eq_of_compare hcmp) hne
    | gt => exact absurd (hle h) (by rw [hcmp]; decide)
  · intro hlt
    refine (precedes_or_precedes hx hy hne).resolve_right fun h => ?_
    have hgt : cmp y x = .gt := Std.OrientedCmp.gt_iff_lt.2 hlt
    exact absurd (hle h) (by rw [hgt]; decide)

end Precedes

namespace Query

/-! ### The order of a search -/

/-- A search shows symbols in the order of presentation. -/
theorem pairwise_searchSymbols {c : Catalog} {pattern : String} {kind : Option SymbolKind}
    {assembly : Option String} {hits : List SymbolMatch}
    (hhits : searchSymbols c pattern kind assembly = .ok hits) :
    hits.Pairwise fun a b => (a.compare b).isLE := by
  obtain ⟨p, -, h⟩ := Except.bind_eq_ok_iff.1 hhits
  obtain rfl := Except.ok.inj h
  exact pairwise_sortedBy _ _

/-- What a search without confinement shows, from the symbols that the pattern accepts. -/
theorem searchSymbols_eq_ok {c : Catalog} {pattern : String} {raw hits : List SymbolMatch}
    (hraw : (Pattern.compile pattern).map (fun p =>
      (c.types.flatMap Catalog.symbolsOf).filter (p.accepts ·.fullName)) = .ok raw)
    (hperm : raw.Perm hits) (hsorted : hits.Pairwise fun a b => (a.compare b).isLE) :
    searchSymbols c pattern none none = .ok hits := by
  rw [searchSymbols]
  cases hp : Pattern.compile pattern with
  | error e =>
    rw [hp] at hraw
    cases hraw
  | ok p =>
    rw [hp] at hraw
    obtain rfl := Except.ok.inj hraw
    rw [Except.ok_bind, Catalog.searchSymbols_none, sortedBy_eq_of_pairwise hperm hsorted]
    rfl

end Query

namespace Store

/-! ### The order of the store -/

instance : Std.TransCmp SymbolEntry.order :=
  inferInstanceAs (Std.TransCmp (compareLex _ (compareLex _ _)))

instance : Std.LawfulEqCmp SymbolEntry.order where
  eq_of_compare {x y} h := by
    obtain ⟨kind, fullName, assembly⟩ := x
    simp only [SymbolEntry.order, compareLex, compareOn, Ordering.then_eq_eq,
      Std.compare_eq_iff_eq] at h
    obtain ⟨rfl, hkind, rfl⟩ := h
    rw [label_injective hkind]

theorem Tables.limitRows_sublist {α : Type} (limit : Nat) (xs : List α) :
    (limitRows limit xs).Sublist xs := by
  unfold limitRows
  split
  · exact List.take_sublist limit xs
  · exact .refl xs

/-- A lookup shows symbols in the order of the store. -/
theorem Tables.Catalogued.pairwise_lookup {t : Tables} {as : List Assembly} (h : t.Catalogued as)
    {name : String} {kind : Option SymbolKind} {limit : Nat} {found : List SymbolMatch}
    (hfound : t.lookup name kind limit = .ok found) :
    found.Pairwise fun a b => (SymbolEntry.order a b).isLE := by
  rw [h.lookup_eq, Except.ok.injEq] at hfound
  rw [← hfound]
  exact List.Pairwise.sublist (limitRows_sublist limit _) (pairwise_sortedBy _ _)

/-- What a lookup shows of the only assembly in a store. -/
theorem lookup_save (a : Assembly) (name : String) (kind : Option SymbolKind) (limit : Nat) :
    (({} : Tables).saveAll [a]).1.lookup name kind limit =
      .ok (Tables.limitRows limit (SymbolEntry.matching sameName [a] name kind)) := by
  have hstored : (({} : Tables).saveAll [a]).1.Catalogued [a] :=
    ⟨rfl, List.nodup_singleton _, by rw [List.flatMap_singleton]; rfl⟩
  exact hstored.lookup_eq name kind limit

/-! ### Where the orders agree -/

/-- Kinds that the two orders compare alike. -/
theorem compare_label_iff (k l : SymbolKind) :
    (compare k.label l.label = .lt ↔ compare k l = .lt) ↔
      k = l ∨ k ≠ .type ∧ l ≠ .type ∧ (k = .property ∨ l = .property) := by
  cases k <;> cases l <;> decide

theorem order_iff_compare_iff {x y : SymbolMatch} :
    (SymbolEntry.order x y = .lt ↔ x.compare y = .lt) ↔
      x.assembly ≠ y.assembly ∨ x.kind = y.kind ∨
        x.kind ≠ .type ∧ y.kind ≠ .type ∧ (x.kind = .property ∨ y.kind = .property) := by
  simp only [SymbolEntry.order, SymbolMatch.compare, compareLex, compareOn, Ordering.then_eq_lt,
    Std.compare_eq_iff_eq, label_injective.eq_iff]
  by_cases hassembly : x.assembly = y.assembly
  · by_cases hkind : x.kind = y.kind
    · simp [hassembly, hkind]
    · simp [hassembly, hkind, compare_label_iff]
  · simp [hassembly]

/-- **A lookup and a search agree in their order except on some kinds.** Whatever assemblies are
saved into an empty store: symbols that a lookup shows stand in the order of assemblies, words for
kinds and full names, and symbols that a search shows in the order of assemblies, kinds and full
names. So two different symbols that both show stand in the same order in both if and only if they
are in different assemblies or of the same kind, or one is a property and the other a method or
field. -/
theorem orders_agree_iff {t : Tables} (hassemblies : t.assemblies = []) (hsymbols : t.symbols = [])
    (c : Catalog) {name : String} {kind : Option SymbolKind} {limit : Nat}
    {found : List SymbolMatch}
    (hfound : (t.saveAll c.assemblies).1.lookup name kind limit = .ok found)
    {pattern : String} {kinds : Option SymbolKind} {within : Option String}
    {hits : List SymbolMatch} (hhits : Query.searchSymbols c pattern kinds within = .ok hits)
    {x y : SymbolMatch} (hne : x ≠ y) (hx : x ∈ found ∧ x ∈ hits) (hy : y ∈ found ∧ y ∈ hits) :
    (Precedes found x y ↔ SymbolEntry.order x y = .lt) ∧
      (Precedes hits x y ↔ x.compare y = .lt) ∧
      ((Precedes found x y ↔ Precedes hits x y) ↔
        x.assembly ≠ y.assembly ∨ x.kind = y.kind ∨
          x.kind ≠ .type ∧ y.kind ≠ .type ∧ (x.kind = .property ∨ y.kind = .property)) := by
  have hstart : t.Catalogued [] := ⟨hassemblies, List.nodup_nil, by rw [hsymbols]; rfl⟩
  obtain ⟨stored, hstored, -⟩ := hstart.saveAll c.assemblies
  have hlookup : Precedes found x y ↔ SymbolEntry.order x y = .lt :=
    precedes_iff (hstored.pairwise_lookup hfound) hx.1 hy.1 hne
  have hsearch : Precedes hits x y ↔ x.compare y = .lt :=
    precedes_iff (Query.pairwise_searchSymbols hhits) hx.2 hy.2 hne
  exact ⟨hlookup, hsearch, by rw [hlookup, hsearch, order_iff_compare_iff]⟩

/-- A field and a property of the same name stand in the same order in both. -/
theorem orders_agree_iff_size :
    let box : TypeDef := { TypeDef.named "Box" with
      fields := [{ name := "Size", type := { fullName := "Int" } }]
      properties := [{ name := "Size", type := { fullName := "Int" } }] }
    let app : Assembly := .ofTypes "App" [box]
    let x : SymbolMatch := ⟨.field, "Box.Size", "App"⟩
    let y : SymbolMatch := ⟨.property, "Box.Size", "App"⟩
    let found : List SymbolMatch := [x, y]
    let hits : List SymbolMatch := [⟨.type, "Box", "App"⟩, x, y]
    (({} : Tables).saveAll [app]).1.lookup "Size" none 10 = .ok found ∧
      Query.searchSymbols (.ofAssemblies [app]) "." none none = .ok hits ∧
      x ≠ y ∧ (x ∈ found ∧ x ∈ hits) ∧ (y ∈ found ∧ y ∈ hits) ∧
      (Precedes found x y ↔ Precedes hits x y) := by
  intro box app x y found hits
  have hfound : (({} : Tables).saveAll [app]).1.lookup "Size" none 10 = .ok found := by
    have hmatching : SymbolEntry.matching sameName [app] "Size" none = found :=
      sortedBy_eq_of_pairwise (by decide +kernel) (by decide +kernel)
    rw [lookup_save, hmatching]
    rfl
  have hraw : (Pattern.compile ".").map (fun p =>
      ((Catalog.ofAssemblies [app]).types.flatMap Catalog.symbolsOf).filter
        (p.accepts ·.fullName)) = .ok hits := by
    decide +kernel
  have hhits : Query.searchSymbols (.ofAssemblies [app]) "." none none = .ok hits :=
    Query.searchSymbols_eq_ok hraw (.refl _) (by decide +kernel)
  have hne : x ≠ y := by decide
  have hx : x ∈ found ∧ x ∈ hits := by decide
  have hy : y ∈ found ∧ y ∈ hits := by decide
  obtain ⟨-, -, hagree⟩ := orders_agree_iff (t := {}) rfl rfl (.ofAssemblies [app]) hfound hhits
    hne hx hy
  exact ⟨hfound, hhits, hne, hx, hy, hagree.2 (by decide)⟩

/-- A type and a method have the same simple name. A lookup shows the method first, a search the
type. -/
theorem lookup_and_search_disagree :
    let job : TypeDef := { TypeDef.named "App.Job" with methods := [.named "Run"] }
    let app : Assembly := .ofTypes "App" [job, .named "App.Run"]
    let type : SymbolMatch := ⟨.type, "App.Run", "App"⟩
    let method : SymbolMatch := ⟨.method, "App.Job.Run()", "App"⟩
    let found : List SymbolMatch := [method, type]
    let hits : List SymbolMatch := [⟨.type, "App.Job", "App"⟩, type, method]
    ([app].map (·.name)).Nodup ∧
      (({} : Tables).saveAll [app]).1.lookup "Run" none 10 = .ok found ∧
      Query.searchSymbols (.ofAssemblies [app]) "." none none = .ok hits ∧
      Precedes found method type ∧ ¬ Precedes hits method type := by
  intro job app type method found hits
  have hfound : (({} : Tables).saveAll [app]).1.lookup "Run" none 10 = .ok found := by
    have hmatching : SymbolEntry.matching sameName [app] "Run" none = found :=
      sortedBy_eq_of_pairwise (by decide +kernel) (by decide +kernel)
    rw [lookup_save, hmatching]
    rfl
  have hraw : (Pattern.compile ".").map (fun p =>
      ((Catalog.ofAssemblies [app]).types.flatMap Catalog.symbolsOf).filter
        (p.accepts ·.fullName)) = .ok [⟨.type, "App.Job", "App"⟩, method, type] := by
    decide +kernel
  have hhits : Query.searchSymbols (.ofAssemblies [app]) "." none none = .ok hits :=
    Query.searchSymbols_eq_ok hraw (by decide +kernel) (by decide +kernel)
  exact ⟨List.nodup_singleton _, hfound, hhits, by decide, by decide⟩

end Store

end AssemblyAtlas
