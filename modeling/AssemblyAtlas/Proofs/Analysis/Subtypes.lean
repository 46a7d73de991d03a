import AssemblyAtlas.Proofs.Analysis.LoadOrder

/-!
# Subtypes and references

The hierarchy of a type and the scan for references to it look for the types below it on their own:
the first lists the types that derive from it and that implement it, the second every place where
its name stands. The types that derive from it are the references by a base type, in the same
order; the types that implement it are those that make a reference by an interface, once for each
type and not for each reference (`Catalog.subtypes_match_references`).

Both results are sorted. Sorting commutes with taking the references of one context
(`filter_sortedBy`), and these are compared by assembly and type as the hierarchy does
(`TypeSymbol.compare_reference`).
-/

namespace AssemblyAtlas

/-! ### Mentions by context -/

namespace TypeDef

theorem filter_mentions_baseType (t : TypeDef) :
    t.mentions.filter (·.context == .baseType) =
      t.baseType.toList.map fun sig => ⟨.baseType, sig, t.fullName, none⟩ := by
  simp [mentions, Method.mentions, List.filter_append, List.filter_map, List.filter_flatMap,
    Function.comp_def, beq_eq_decide]

theorem filter_mentions_interface (t : TypeDef) :
    t.mentions.filter (·.context == .interface) =
      t.interfaces.map fun sig => ⟨.interface, sig, t.fullName, none⟩ := by
  simp [mentions, Method.mentions, List.filter_append, List.filter_map, List.filter_flatMap,
    Function.comp_def, beq_eq_decide]

end TypeDef

/-! ### The references of one type -/

namespace TypeSymbol

/-- The reference that a type itself makes, and not one of its members. -/
def reference (s : TypeSymbol) (context : ReferenceContext) : Reference :=
  { context, fromMember := s.fullName, inAssembly := s.assembly.name, parameter := none }

theorem filter_referencesTo (s : TypeSymbol) (n : String) (context : ReferenceContext) :
    (s.referencesTo n).filter (·.context == context) =
      ((s.type.mentions.filter (·.context == context)).filter (·.refersTo n s.fullName)).map
        fun m => ⟨m.context, m.location, s.assembly.name, m.parameter⟩ := by
  rw [referencesTo, List.filter_map, List.filter_comm]
  rfl

/-- A type makes one reference by its base type, unless it has its own name there. -/
theorem filter_referencesTo_baseType (s : TypeSymbol) (n : String) :
    (s.referencesTo n).filter (·.context == .baseType) =
      if s.fullName != n && s.type.baseType.any (·.fullName == n) then [s.reference .baseType]
      else [] := by
  rw [filter_referencesTo, TypeDef.filter_mentions_baseType]
  cases hbase : s.type.baseType with
  | none => simp
  | some base =>
    by_cases hname : base.fullName = n
    · by_cases hself : s.fullName = n
      · simp [Mention.refersTo, hname, hself]
      · simp [Mention.refersTo, hname, hself]
        rfl
    · simp [Mention.refersTo, hname]

/-- A type makes a reference by each interface of the name, always the same one. -/
theorem mem_filter_referencesTo_interface {s : TypeSymbol} {n : String} {r : Reference} :
    r ∈ (s.referencesTo n).filter (·.context == .interface) ↔
      r = s.reference .interface ∧ s.type.interfaces.any (·.fullName == n) = true := by
  rw [filter_referencesTo, TypeDef.filter_mentions_interface, List.filter_map, List.map_map]
  simp only [List.mem_map, List.mem_filter, List.any_eq_true]
  constructor
  · rintro ⟨sig, ⟨hsig, hrefers⟩, rfl⟩
    exact ⟨rfl, sig, hsig, Bool.and_elim_left hrefers⟩
  · rintro ⟨rfl, sig, hsig, hname⟩
    exact ⟨sig, ⟨hsig, Bool.and_eq_true_iff.2 ⟨hname, rfl⟩⟩, rfl⟩

theorem any_referencesTo_interface (s : TypeSymbol) (n : String) :
    (s.referencesTo n).any (·.context == .interface) = s.type.interfaces.any (·.fullName == n) := by
  rw [Bool.eq_iff_iff, List.any_eq_true]
  constructor
  · rintro ⟨r, hr⟩
    exact (mem_filter_referencesTo_interface.1 (List.mem_filter.2 hr)).2
  · intro hany
    exact ⟨s.reference .interface,
      List.mem_filter.1 (mem_filter_referencesTo_interface.2 ⟨rfl, hany⟩)⟩

/-- References of types in one context are compared as the types are. -/
theorem compare_reference (s t : TypeSymbol) (context : ReferenceContext) :
    Reference.compare (s.reference context) (t.reference context) =
      TypeLocation.compare s.location t.location := by
  simp [Reference.compare, TypeLocation.compare, compareLex, compareOn, reference, location]

end TypeSymbol

/-! ### The two scans -/

/-- The type that makes a reference, if it is not made by a member. -/
def Reference.source (r : Reference) : TypeLocation :=
  ⟨r.fromMember, r.inAssembly⟩

namespace Catalog

variable (c : Catalog) (target : TypeSymbol)

/-- The references by a base type are one for each type that derives from the target. -/
theorem filter_references_baseType :
    (c.references target).filter (·.context == .baseType) =
      (c.types.filter fun s => s.fullName != target.fullName &&
        s.type.baseType.any (·.fullName == target.fullName)).map (·.reference .baseType) := by
  rw [references, List.filter_flatMap]
  simp only [TypeSymbol.filter_referencesTo_baseType]
  induction c.types with
  | nil => rfl
  | cons s types ih =>
    rw [List.flatMap_cons, ih, List.filter_cons]
    split <;> rfl

theorem derivedTypes_eq :
    c.derivedTypes target =
      ((Reference.sort (c.references target)).filter (·.context == .baseType)).map (·.source) := by
  rw [Reference.sort, filter_sortedBy, filter_references_baseType, derivedTypes, sortedBy_map,
    sortedBy_map, List.map_map]
  simp only [TypeSymbol.compare_reference]
  rfl

theorem mem_implementors_iff {l : TypeLocation} :
    l ∈ c.implementors target ↔ l ∈
      ((Reference.sort (c.references target)).filter (·.context == .interface)).map (·.source) := by
  rw [Reference.sort, filter_sortedBy, references, List.filter_flatMap, implementors]
  constructor
  · intro hl
    obtain ⟨s, hs, rfl⟩ := List.mem_map.1 (mem_sortedBy.1 hl)
    obtain ⟨hs, hany⟩ := List.mem_filter.1 hs
    have hr := TypeSymbol.mem_filter_referencesTo_interface.2 ⟨rfl, hany⟩
    exact List.mem_map.2 ⟨_, mem_sortedBy.2 (List.mem_flatMap.2 ⟨s, hs, hr⟩), rfl⟩
  · intro hl
    obtain ⟨r, hr, rfl⟩ := List.mem_map.1 hl
    obtain ⟨s, hs, hr⟩ := List.mem_flatMap.1 (mem_sortedBy.1 hr)
    obtain ⟨rfl, hany⟩ := TypeSymbol.mem_filter_referencesTo_interface.1 hr
    exact mem_sortedBy.2 (List.mem_map.2 ⟨s, List.mem_filter.2 ⟨hs, hany⟩, rfl⟩)

/-- **The hierarchy and the scan for references agree.** The types that derive from a type are the
sources of the references to it by a base type, in the order of presentation of both. The types that
implement it are the sources of the references to it by an interface; each type that makes at least
one of these is listed exactly once. -/
theorem subtypes_match_references :
    (c.hierarchy target).derivedTypes =
      ((Reference.sort (c.references target)).filter (·.context == .baseType)).map (·.source) ∧
    (∀ l, l ∈ (c.hierarchy target).implementors ↔ l ∈
      ((Reference.sort (c.references target)).filter (·.context == .interface)).map (·.source)) ∧
    c.references target = c.types.flatMap (·.referencesTo target.fullName) ∧
    (c.hierarchy target).implementors.Perm ((c.types.filter fun s =>
      (s.referencesTo target.fullName).any (·.context == .interface)).map (·.location)) := by
  refine ⟨c.derivedTypes_eq target, fun l => c.mem_implementors_iff target, rfl, ?_⟩
  simp only [TypeSymbol.any_referencesTo_interface]
  exact sortedBy_perm _ _

end Catalog

end AssemblyAtlas
