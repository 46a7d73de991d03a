import AssemblyAtlas.Proofs.Metadata.Nesting
import AssemblyAtlas.Proofs.Sorted
import AssemblyAtlas.Query.Command
import Mathlib.Data.Multiset.Bind

/-!
# Results and the order of loading

Assemblies, modules and types can come in any order. Two lists of assemblies that differ only in
this (`Catalog.Rearranged`) hold the same types, if each type is taken without those nested in it
(`Catalog.Rearranged.map_bare_perm`). The analyses read no more of a type than that. Those that
present a sorted list compare every part of an entry, so that entries that compare equal are equal,
and the lists are the same (`Catalog.results_eq_of_rearranged`).
-/

namespace AssemblyAtlas

/-! ### Rearrangements -/

/-- The same type, with nested types in another order on any level. -/
inductive TypeDef.Rearranged : TypeDef → TypeDef → Prop
  | mk {info : TypeInfo} {ts us : List TypeDef} :
    Multiset.Rel TypeDef.Rearranged (ts : Multiset TypeDef) (us : Multiset TypeDef) →
      TypeDef.Rearranged ⟨info, ts⟩ ⟨info, us⟩

/-- The same module, with types in another order. -/
structure Module.Rearranged (m n : Module) : Prop where
  name : m.name = n.name
  types : Multiset.Rel TypeDef.Rearranged (m.types : Multiset TypeDef) (n.types : Multiset TypeDef)

/-- The same assembly, with modules and types in another order. -/
structure Assembly.Rearranged (a b : Assembly) : Prop where
  name : a.name = b.name
  version : a.version = b.version
  culture : a.culture = b.culture
  publicKeyToken : a.publicKeyToken = b.publicKeyToken
  modules : Multiset.Rel Module.Rearranged (a.modules : Multiset Module) (b.modules : Multiset Module)

/-- The same assemblies, in another order and rearranged. -/
def Catalog.Rearranged (c d : Catalog) : Prop :=
  Multiset.Rel Assembly.Rearranged (c.assemblies : Multiset Assembly)
    (d.assemblies : Multiset Assembly)

theorem TypeDef.Rearranged.refl (t : TypeDef) : t.Rearranged t := by
  induction t using nestedInduction with
  | node info ts ih => exact .mk (Multiset.rel_refl_of_refl_on ih)

theorem Module.Rearranged.refl (m : Module) : m.Rearranged m :=
  ⟨rfl, Multiset.rel_refl_of_refl_on fun t _ => .refl t⟩

theorem Assembly.Rearranged.refl (a : Assembly) : a.Rearranged a :=
  ⟨rfl, rfl, rfl, rfl, Multiset.rel_refl_of_refl_on fun m _ => .refl m⟩

/-! ### Types without nested types -/

theorem flatMap_perm_of_rel {α β : Type} {f : α → List β} {xs ys : List α}
    (h : Multiset.Rel (fun x y => (f x).Perm (f y)) (xs : Multiset α) (ys : Multiset α)) :
    (xs.flatMap f).Perm (ys.flatMap f) := by
  rw [← Multiset.coe_eq_coe, ← Multiset.coe_bind, ← Multiset.coe_bind, ← Multiset.rel_eq]
  exact Multiset.rel_bind (fun x y hxy => Multiset.rel_eq.2 (Multiset.coe_eq_coe.2 hxy)) h

/-- The type without the types nested in it. -/
def TypeDef.bare (t : TypeDef) : TypeDef :=
  { t with nested := [] }

/-- The type without the types nested in it, and of its assembly only the name. -/
def TypeSymbol.bare (s : TypeSymbol) : TypeSymbol :=
  ⟨{ name := s.assembly.name }, s.type.bare⟩

theorem TypeDef.Rearranged.map_bare_perm {t u : TypeDef} (h : t.Rearranged u) :
    (t.withNested.map bare).Perm (u.withNested.map bare) := by
  induction t using nestedInduction generalizing u with
  | node info ts ih =>
    cases h with
    | mk hrel =>
      rw [withNested_mk, withNested_mk, List.map_cons, List.map_cons, List.map_flatMap,
        List.map_flatMap]
      exact .cons _ (flatMap_perm_of_rel (hrel.mono fun t ht u _ htu => ih t ht htu))

theorem Module.Rearranged.map_bare_perm {m n : Module} (h : m.Rearranged n) :
    ((TypeDef.allWithNested m.types).map TypeDef.bare).Perm
      ((TypeDef.allWithNested n.types).map TypeDef.bare) := by
  rw [TypeDef.allWithNested_eq_flatMap, TypeDef.allWithNested_eq_flatMap, List.map_flatMap,
    List.map_flatMap]
  exact flatMap_perm_of_rel (h.types.mono fun _ _ _ _ htu => htu.map_bare_perm)

theorem Assembly.Rearranged.map_bare_perm {a b : Assembly} (h : a.Rearranged b) :
    (a.types.map TypeDef.bare).Perm (b.types.map TypeDef.bare) := by
  rw [types, types, List.map_flatMap, List.map_flatMap]
  exact flatMap_perm_of_rel (h.modules.mono fun _ _ _ _ hmn => hmn.map_bare_perm)

/-- Rearranged assemblies hold the same types, if each is taken alone. -/
theorem Catalog.Rearranged.map_bare_perm {c d : Catalog} (h : c.Rearranged d) :
    (c.types.map TypeSymbol.bare).Perm (d.types.map TypeSymbol.bare) := by
  rw [types, types, List.map_flatMap, List.map_flatMap]
  refine flatMap_perm_of_rel (h.mono fun a _ b _ hab => ?_)
  have hbare : ∀ e : Assembly, (e.types.map (TypeSymbol.mk e)).map TypeSymbol.bare =
      (e.types.map TypeDef.bare).map (TypeSymbol.mk { name := e.name }) := by
    intro e
    rw [List.map_map, List.map_map]
    rfl
  rw [hbare, hbare, hab.name]
  exact hab.map_bare_perm.map _

/-! ### What is read of a type -/

section Reads

variable {α β : Type} {f : α → α} {xs ys : List α} (h : (xs.map f).Perm (ys.map f))
include h

/-- What is collected from a part of each element is the same up to order. -/
theorem flatMap_perm_of_map {g : α → List β} (hg : ∀ x, g (f x) = g x) :
    (xs.flatMap g).Perm (ys.flatMap g) := by
  have hpart : ∀ zs : List α, zs.flatMap g = (zs.map f).flatMap g := fun zs => by
    rw [List.flatMap_map, funext hg]
  rw [hpart xs, hpart ys]
  exact h.flatMap_right g

theorem filter_perm_of_map {p : α → Bool} (hp : ∀ x, p (f x) = p x) :
    ((xs.filter p).map f).Perm ((ys.filter p).map f) := by
  have hpart : ∀ zs : List α, (zs.filter p).map f = (zs.map f).filter p := fun zs => by
    rw [List.filter_map, Function.comp_def, funext hp]
  rw [hpart xs, hpart ys]
  exact h.filter p

theorem map_perm_of_map {g : α → β} (hg : ∀ x, g (f x) = g x) : (xs.map g).Perm (ys.map g) := by
  have hpart : ∀ zs : List α, zs.map g = (zs.map f).map g := fun zs => by
    rw [List.map_map, Function.comp_def, funext hg]
  rw [hpart xs, hpart ys]
  exact h.map g

end Reads

/-! ### Comparisons -/

/-- Elements that are compared by their numbers are ordered. -/
theorem transOrd_of_rank {α : Type} [Ord α] {rank : α → Nat}
    (h : ∀ x y, compare x y = compare (rank x) (rank y)) : Std.TransOrd α := by
  have hcompare : (compare : α → α → Ordering) = compareOn rank := funext₂ h
  rw [Std.TransOrd, hcompare]
  infer_instance

theorem ReferenceContext.compare_eq (x y : ReferenceContext) :
    compare x y = compare x.ctorIdx y.ctorIdx := by
  cases x <;> cases y <;> rfl

theorem SymbolKind.compare_eq (x y : SymbolKind) : compare x y = compare x.ctorIdx y.ctorIdx := by
  cases x <;> cases y <;> rfl

instance : Std.TransOrd ReferenceContext :=
  transOrd_of_rank ReferenceContext.compare_eq

instance : Std.TransOrd SymbolKind :=
  transOrd_of_rank SymbolKind.compare_eq

instance : Std.LawfulEqOrd ReferenceContext where
  eq_of_compare {x y} h := by cases x <;> cases y <;> first | rfl | cases h

instance : Std.LawfulEqOrd SymbolKind where
  eq_of_compare {x y} h := by cases x <;> cases y <;> first | rfl | cases h

instance : Std.TransCmp Reference.compare :=
  inferInstanceAs (Std.TransCmp (compareLex _ (compareLex _ (compareLex _ _))))

instance : Std.TransCmp TypeLocation.compare :=
  inferInstanceAs (Std.TransCmp (compareLex _ _))

instance : Std.TransCmp SymbolMatch.compare :=
  inferInstanceAs (Std.TransCmp (compareLex _ (compareLex _ _)))

-- If a comparison left out a part, entries that differ only there would stay in the order they
-- came in.
instance : Std.LawfulEqCmp Reference.compare where
  eq_of_compare {x y} h := by
    obtain ⟨context, fromMember, inAssembly, parameter⟩ := x
    simp only [Reference.compare, compareLex, compareOn, Ordering.then_eq_eq,
      Std.compare_eq_iff_eq] at h
    obtain ⟨rfl, rfl, rfl, rfl⟩ := h
    rfl

instance : Std.LawfulEqCmp TypeLocation.compare where
  eq_of_compare {x y} h := by
    obtain ⟨fullName, assembly⟩ := x
    simp only [TypeLocation.compare, compareLex, compareOn, Ordering.then_eq_eq,
      Std.compare_eq_iff_eq] at h
    obtain ⟨rfl, rfl⟩ := h
    rfl

instance : Std.LawfulEqCmp SymbolMatch.compare where
  eq_of_compare {x y} h := by
    obtain ⟨kind, fullName, assembly⟩ := x
    simp only [SymbolMatch.compare, compareLex, compareOn, Ordering.then_eq_eq,
      Std.compare_eq_iff_eq] at h
    obtain ⟨rfl, rfl, rfl⟩ := h
    rfl

/-! ### Dead code -/

namespace Assembly

variable {a b : Assembly} (h : a.Rearranged b) (includePrivate : Bool)
include h

theorem Rearranged.calledRefs_perm : a.calledRefs.Perm b.calledRefs :=
  flatMap_perm_of_map h.map_bare_perm fun _ => rfl

theorem Rearranged.mentionedNames_perm : a.mentionedNames.Perm b.mentionedNames :=
  flatMap_perm_of_map h.map_bare_perm fun _ => rfl

theorem Rearranged.consideredTypes_perm :
    ((a.consideredTypes includePrivate).map TypeDef.bare).Perm
      ((b.consideredTypes includePrivate).map TypeDef.bare) :=
  filter_perm_of_map h.map_bare_perm fun _ => rfl

theorem Rearranged.consideredMethods_perm :
    ((a.consideredMethods includePrivate).map (Prod.map TypeDef.bare id)).Perm
      ((b.consideredMethods includePrivate).map (Prod.map TypeDef.bare id)) := by
  rw [consideredMethods, consideredMethods, List.map_flatMap, List.map_flatMap]
  refine flatMap_perm_of_map h.map_bare_perm fun t => ?_
  rw [List.map_map, List.map_map]
  rfl

/-- The dead code of an assembly does not depend on the order of its modules and types. -/
theorem Rearranged.deadCode_eq : a.deadCode includePrivate = b.deadCode includePrivate := by
  have hcalled : a.calledNames.Perm b.calledNames := h.calledRefs_perm.filterMap _
  have hoverloads : a.calledOverloads.Perm b.calledOverloads := h.calledRefs_perm.filterMap _
  have hmethods := h.consideredMethods_perm includePrivate
  have htypes := h.consideredTypes_perm includePrivate
  rw [deadCode, deadCode, DeadCode.mk.injEq]
  simp only [hcalled.contains_eq, hoverloads.contains_eq, h.mentionedNames_perm.contains_eq,
    true_and]
  refine ⟨h.name, distinctSorted_congr fun s => ?_, distinctSorted_congr fun s => ?_, ?_, ?_⟩
  · exact (map_perm_of_map (filter_perm_of_map hmethods fun _ => rfl) fun _ => rfl).mem_iff
  · exact (map_perm_of_map (filter_perm_of_map htypes fun _ => rfl) fun _ => rfl).mem_iff
  · simpa using hmethods.length_eq
  · simpa using htypes.length_eq

end Assembly

/-! ### Lists of references, types and symbols -/

namespace Catalog

variable {c d : Catalog} (h : c.Rearranged d)
include h

theorem Rearranged.sort_references {s t : TypeSymbol} (hname : s.fullName = t.fullName) :
    Reference.sort (c.references s) = Reference.sort (d.references t) := by
  rw [references, references, hname]
  exact sortedBy_congr (flatMap_perm_of_map h.map_bare_perm fun _ => rfl)

/-- The types with a property that does not concern nested types. -/
theorem Rearranged.sort_locations {p : TypeSymbol → Bool} (hp : ∀ s, p s.bare = p s) :
    sortedBy TypeLocation.compare ((c.types.filter p).map (·.location)) =
      sortedBy TypeLocation.compare ((d.types.filter p).map (·.location)) :=
  sortedBy_congr (map_perm_of_map (filter_perm_of_map h.map_bare_perm hp) fun _ => rfl)

theorem Rearranged.derivedTypes_eq {s t : TypeSymbol} (hname : s.fullName = t.fullName) :
    c.derivedTypes s = d.derivedTypes t := by
  rw [derivedTypes, derivedTypes, hname]
  exact h.sort_locations fun _ => rfl

theorem Rearranged.implementors_eq {s t : TypeSymbol} (hname : s.fullName = t.fullName) :
    c.implementors s = d.implementors t := by
  rw [implementors, implementors, hname]
  exact h.sort_locations fun _ => rfl

theorem Rearranged.searchSymbols_eq (accepts : String → Bool) (kind : Option SymbolKind)
    (assembly : Option String) :
    c.searchSymbols accepts kind assembly = d.searchSymbols accepts kind assembly := by
  rw [searchSymbols, searchSymbols]
  exact sortedBy_congr ((flatMap_perm_of_map
    (filter_perm_of_map h.map_bare_perm fun _ => rfl) fun _ => rfl).filter _)

/-- **Results do not depend on the order of loading.** For assemblies that are rearranged, the
sorted references to a type of a given name, the types that derive from it and implement it, and
the symbols found for a pattern, a kind and an assembly are the same, and so is the dead code of
each assembly. -/
theorem results_eq_of_rearranged :
    (∀ s t : TypeSymbol, s.fullName = t.fullName →
      Reference.sort (c.references s) = Reference.sort (d.references t) ∧
      (c.hierarchy s).derivedTypes = (d.hierarchy t).derivedTypes ∧
      (c.hierarchy s).implementors = (d.hierarchy t).implementors) ∧
    (∀ pattern kind assembly,
      Query.searchSymbols c pattern kind assembly = Query.searchSymbols d pattern kind assembly) ∧
    (∀ a ∈ c.assemblies, ∃ b ∈ d.assemblies, a.Rearranged b) ∧
    ∀ a b : Assembly, a.Rearranged b → ∀ includePrivate,
      a.deadCode includePrivate = b.deadCode includePrivate := by
  refine ⟨fun s t hname => ?_, fun pattern kind assembly => ?_, fun a ha => ?_, fun a b hab => ?_⟩
  · exact ⟨h.sort_references hname, h.derivedTypes_eq hname, h.implementors_eq hname⟩
  · simp only [Query.searchSymbols, h.searchSymbols_eq]
  · exact Multiset.exists_mem_of_rel_of_mem h ha
  · exact hab.deadCode_eq

omit h in
/-- Two assemblies, of which one has two modules, one of them with two types, one of these with two
nested types. All four pairs are swapped. -/
theorem results_eq_of_rearranged_swapped :
    let outer (nested : List TypeDef) : TypeDef := { TypeDef.named "App.Outer" with nested }
    let base : TypeSig := { fullName := "App.Outer" }
    let left : TypeDef := { TypeDef.named "App.Outer+Left" with baseType := some base }
    let right : TypeDef := { TypeDef.named "App.Outer+Right" with baseType := some base }
    let app (modules : List Module) : Assembly := { name := "App", modules }
    let lib : Assembly := .ofTypes "Lib" [{ TypeDef.named "Lib.Model" with baseType := some base }]
    let c : Catalog := .ofAssemblies
      [app [⟨"App.dll", [outer [left, right], .named "App.Other"]⟩, ⟨"Extra.dll", []⟩], lib]
    let d : Catalog := .ofAssemblies
      [lib, app [⟨"Extra.dll", []⟩, ⟨"App.dll", [.named "App.Other", outer [right, left]]⟩]]
    c.Rearranged d ∧ c.types.map (·.fullName) ≠ d.types.map (·.fullName) ∧
      ∀ s : TypeSymbol, (c.hierarchy s).derivedTypes = (d.hierarchy s).derivedTypes := by
  intro outer base left right app lib c d
  have hswap : ∀ {α : Type} {R : α → α → Prop} {x x' y y' : α}, R x x' → R y y' →
      Multiset.Rel R ([x, y] : Multiset α) ([y', x'] : Multiset α) := by
    intro α R x x' y y' hx hy
    rw [Multiset.coe_eq_coe.2 (List.Perm.swap x' y' [])]
    exact .cons hx (.cons hy .zero)
  have houter : (outer [left, right]).Rearranged (outer [right, left]) :=
    .mk (hswap (.refl left) (.refl right))
  have hcd : c.Rearranged d :=
    hswap ⟨rfl, rfl, rfl, rfl, hswap ⟨rfl, hswap houter (.refl _)⟩ (.refl _)⟩ (.refl lib)
  refine ⟨hcd, by decide +kernel, fun s => ?_⟩
  obtain ⟨-, hderived, -⟩ := (results_eq_of_rearranged hcd).1 s s rfl
  exact hderived

end Catalog

end AssemblyAtlas
