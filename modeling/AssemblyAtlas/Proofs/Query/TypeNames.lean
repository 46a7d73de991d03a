import AssemblyAtlas.Proofs.Query.MethodNames

/-!
# Types by their names

A query for a type accepts its full name as it is written, its full name in another case, and its
simple name in any case. It fails only if no type in its scope has the name in one of these ways,
and then says that the type was not found. Of several types that have the name, one with exactly
this full name is preferred, wherever in the scope it stands, and within an assembly a full name is
preferred to a simple name (`Query.type_answers_exactly`).
-/

namespace AssemblyAtlas

/-- The type has the name for its full name or its simple name, but for the case of letters. -/
def TypeDef.Fits (t : TypeDef) (name : String) : Prop :=
  Text.eqIgnoreCase t.fullName name = true ∨ Text.eqIgnoreCase t.name name = true

theorem TypeDef.fits_of_fullName_eq {t : TypeDef} {name : String} (h : t.fullName = name) :
    t.Fits name :=
  .inl (Text.eqIgnoreCase_iff.2 (congrArg Text.lower h))

/-! ### Types of one assembly -/

/-- What is sought first is found if it is there. -/
theorem of_find?_or {α : Type} {p : α → Bool} {xs : List α} {later : Option α} {x : α}
    (h : (xs.find? p).or later = some x) (hfirst : ∃ y ∈ xs, p y = true) : p x = true := by
  obtain ⟨y, hy⟩ := Option.isSome_iff_exists.1 (List.find?_isSome.2 hfirst)
  rw [hy, Option.some_or, Option.some.injEq] at h
  exact h ▸ List.find?_some hy

namespace Assembly

variable {a : Assembly} {name : String} {t : TypeDef}

theorem findLoose?_isSome_iff : (a.findLoose? name).isSome ↔ ∃ t ∈ a.types, t.Fits name := by
  rw [findLoose?, Option.isSome_or, Option.isSome_or, Bool.or_eq_true, Bool.or_eq_true, findExact?,
    List.find?_isSome, List.find?_isSome, List.find?_isSome]
  constructor
  · rintro ((⟨t, ht, hexact⟩ | ⟨t, ht, hfull⟩) | ⟨t, ht, hsimple⟩)
    · exact ⟨t, ht, TypeDef.fits_of_fullName_eq (beq_iff_eq.1 hexact)⟩
    · exact ⟨t, ht, .inl hfull⟩
    · exact ⟨t, ht, .inr hsimple⟩
  · rintro ⟨t, ht, hfull | hsimple⟩
    · exact .inl (.inr ⟨t, ht, hfull⟩)
    · exact .inr ⟨t, ht, hsimple⟩

/-- A type with exactly the name is preferred to all others. -/
theorem fullName_eq_of_findLoose? (h : a.findLoose? name = some t)
    (hexact : ∃ r ∈ a.types, r.fullName = name) : t.fullName = name := by
  obtain ⟨r, hr, hname⟩ := hexact
  rw [findLoose?, Option.or_assoc, findExact?] at h
  exact beq_iff_eq.1 (of_find?_or h ⟨r, hr, beq_iff_eq.2 hname⟩ :)

/-- A type with the name for its full name is preferred to one with the name for its simple name. -/
theorem eqIgnoreCase_of_findLoose? (h : a.findLoose? name = some t)
    (hfull : ∃ r ∈ a.types, Text.eqIgnoreCase r.fullName name = true) :
    Text.eqIgnoreCase t.fullName name = true := by
  by_cases hexact : ∃ r ∈ a.types, r.fullName = name
  · exact Text.eqIgnoreCase_iff.2 (congrArg Text.lower (fullName_eq_of_findLoose? h hexact))
  · have hnone : a.findExact? name = none := by
      rw [findExact?, List.find?_eq_none]
      exact fun r hr hname => hexact ⟨r, hr, beq_iff_eq.1 hname⟩
    rw [findLoose?, hnone, Option.none_or] at h
    exact (of_find?_or h hfull :)

end Assembly

namespace Query

variable {c : Catalog} {inside : Option Assembly} {name : String} {s : TypeSymbol}

/-! ### Types in a scope -/

/-- The types that a query looks among: those of the assembly that it is confined to, or all. -/
def typesIn (c : Catalog) : Option Assembly → List TypeSymbol
  | none => c.types
  | some a => a.types.map fun type => { assembly := a, type }

theorem mem_typesIn_some {a : Assembly} :
    s ∈ typesIn c (some a) ↔ s.assembly = a ∧ s.type ∈ a.types := by
  obtain ⟨b, t⟩ := s
  simp only [typesIn, List.mem_map, TypeSymbol.mk.injEq]
  constructor
  · rintro ⟨u, hu, rfl, rfl⟩
    exact ⟨rfl, hu⟩
  · rintro ⟨rfl, ht⟩
    exact ⟨t, ht, rfl, rfl⟩

theorem looseTypeIn?_eq_some_iff {a : Assembly} :
    looseTypeIn? a name = some s ↔ s.assembly = a ∧ a.findLoose? name = some s.type := by
  obtain ⟨b, t⟩ := s
  simp only [looseTypeIn?, Option.map_eq_some_iff, TypeSymbol.mk.injEq]
  constructor
  · rintro ⟨u, hu, rfl, rfl⟩
    exact ⟨rfl, hu⟩
  · rintro ⟨rfl, ht⟩
    exact ⟨t, ht, rfl, rfl⟩

/-- What is known of the type that a name leads to in a scope. -/
structure BestMatch (c : Catalog) (inside : Option Assembly) (name : String) (s : TypeSymbol) :
    Prop where
  /-- It is declared in the scope. -/
  declared : s ∈ typesIn c inside
  /-- It has the name. -/
  fits : s.type.Fits name
  /-- A type with exactly this full name is preferred to all others in the scope. -/
  exact_preferred : (∃ r ∈ typesIn c inside, r.fullName = name) → s.fullName = name
  /-- A type with this full name is preferred to those of its assembly with this simple name. -/
  fullName_preferred :
    (∃ r ∈ typesIn c (some s.assembly), Text.eqIgnoreCase r.fullName name = true) →
      Text.eqIgnoreCase s.fullName name = true

theorem looseTypeIn?_isSome_iff {a : Assembly} :
    (looseTypeIn? a name).isSome ↔ ∃ t ∈ a.types, t.Fits name := by
  rw [looseTypeIn?, Option.isSome_map, Assembly.findLoose?_isSome_iff]

theorem bestMatch_of_looseTypeIn? {a : Assembly} (h : looseTypeIn? a name = some s) :
    BestMatch c (some a) name s := by
  obtain ⟨rfl, ht⟩ := looseTypeIn?_eq_some_iff.1 h
  have hmem : ∀ r ∈ typesIn c (some s.assembly), r.type ∈ s.assembly.types :=
    fun r hr => (mem_typesIn_some.1 hr).2
  refine ⟨mem_typesIn_some.2 (looseTypeIn?_sound h), looseTypeIn?_named h, ?_, ?_⟩
  · rintro ⟨r, hr, hname⟩
    exact Assembly.fullName_eq_of_findLoose? ht ⟨r.type, hmem r hr, hname⟩
  · rintro ⟨r, hr, hname⟩
    exact Assembly.eqIgnoreCase_of_findLoose? ht ⟨r.type, hmem r hr, hname⟩

/-- A name leads to a type if some type in the scope has it. -/
theorem lookupType?_isSome_iff :
    (lookupType? c inside name).isSome ↔ ∃ s ∈ typesIn c inside, s.type.Fits name := by
  cases inside with
  | some a =>
    rw [lookupType?, looseTypeIn?_isSome_iff]
    constructor
    · rintro ⟨t, ht, hfits⟩
      exact ⟨⟨a, t⟩, mem_typesIn_some.2 ⟨rfl, ht⟩, hfits⟩
    · rintro ⟨s, hs, hfits⟩
      exact ⟨s.type, (mem_typesIn_some.1 hs).2, hfits⟩
  | none =>
    rw [lookupType?, Option.isSome_or, Bool.or_eq_true, List.findSome?_isSome_iff]
    constructor
    · rintro (hexact | ⟨a, ha, hloose⟩)
      · obtain ⟨s, hs⟩ := Option.isSome_iff_exists.1 hexact
        obtain ⟨hmem, hname⟩ := Catalog.resolveType?_sound hs
        exact ⟨s, hmem, TypeDef.fits_of_fullName_eq hname⟩
      · obtain ⟨t, ht, hfits⟩ := looseTypeIn?_isSome_iff.1 hloose
        exact ⟨⟨a, t⟩, Catalog.mem_types_iff.2 ⟨ha, ht⟩, hfits⟩
    · rintro ⟨s, hs, hfits⟩
      obtain ⟨ha, ht⟩ := Catalog.mem_types_iff.1 hs
      exact .inr ⟨s.assembly, ha, looseTypeIn?_isSome_iff.2 ⟨s.type, ht, hfits⟩⟩

theorem bestMatch_of_lookupType? (h : lookupType? c inside name = some s) :
    BestMatch c inside name s := by
  cases inside with
  | some a => exact bestMatch_of_looseTypeIn? h
  | none =>
    rcases Option.or_eq_some_iff.1 h with h | ⟨hnone, h⟩
    · obtain ⟨hmem, hname⟩ := Catalog.resolveType?_sound h
      exact ⟨hmem, TypeDef.fits_of_fullName_eq hname, fun _ => hname,
        fun _ => Text.eqIgnoreCase_iff.2 (congrArg Text.lower hname)⟩
    · obtain ⟨a, ha, hloose⟩ := List.exists_of_findSome?_eq_some h
      have hbest : BestMatch c (some a) name s := bestMatch_of_looseTypeIn? hloose
      obtain ⟨rfl, ht⟩ := mem_typesIn_some.1 hbest.declared
      refine ⟨Catalog.mem_types_iff.2 ⟨ha, ht⟩, hbest.fits, ?_, hbest.fullName_preferred⟩
      -- Had some assembly a type of exactly this name, it would have been found at once.
      rintro ⟨r, hr, rfl⟩
      obtain ⟨u, hu⟩ := Catalog.exists_resolveType? hr none
      rw [hu] at hnone
      cases hnone

/-! ### Scopes -/

/-- What a query looks in: all assemblies, or the first one whose name is asked for, but for the
case of letters. The name that is asked for is trimmed and cut as all names are, and must not be
empty then; where the cut leaves white space at its end, this is trimmed too. -/
inductive Confined (c : Catalog) : Option String → Option Assembly → Prop
  | everywhere : Confined c none none
  | within {asked : String} {a : Assembly} : Limits.normalize asked ≠ "" →
    c.assemblies.find? (·.isNamed (Text.trim (Limits.normalize asked))) = some a →
      Confined c (some asked) (some a)

/-- The name of the assembly is taken as it is if it is trimmed and not too long. -/
theorem Confined.within_named {asked : String} {a : Assembly} (hasked : Limits.Within asked)
    (hne : asked ≠ "") (ha : c.assemblies.find? (·.isNamed asked) = some a) :
    Confined c (some asked) (some a) := by
  refine .within ?_ ?_
  · rwa [hasked.normalize_eq]
  · rwa [hasked.normalize_eq, hasked.trim_eq]

theorem Confined.scope_eq {asked : Option String} (h : Confined c asked inside) :
    scope c asked = .ok inside := by
  cases h with
  | everywhere => rfl
  | within hne ha =>
    refine scope_eq_ok ?_
    rw [assembly, normalizeName_of_ne_empty hne, Except.ok_bind, Catalog.findAssemblyLoose?, ha]
    rfl

theorem type_eq {q : SymbolQuery} (hname : Limits.Within q.name) (hne : q.name ≠ "")
    (hscope : scope c q.assembly = .ok inside) :
    type c q = (lookupType? c inside q.name).elim (.error (.notFound .type q.name)) .ok := by
  rw [type, hscope, Except.ok_bind, normalizeName_eq_ok hname hne, Except.ok_bind]
  cases lookupType? c inside q.name <;> rfl

/-- **A query for a type fails only if no type has the name, and an exact match wins.** For a name
that is trimmed and neither empty nor too long, in all assemblies or in a loaded one: the query
succeeds if and only if a type in its scope has the name for its full or simple name, ignoring the
case of letters, and otherwise says that no type of the name was found. The type that it gives has
exactly the name for its full name if some type in the scope has, and among the types of one
assembly a full name is preferred to a simple name. -/
theorem type_answers_exactly {q : SymbolQuery} (hname : Limits.Within q.name) (hne : q.name ≠ "")
    (hscope : Confined c q.assembly inside) :
    ((∃ s, type c q = .ok s) ↔ ∃ s ∈ typesIn c inside, s.type.Fits q.name) ∧
    (¬ (∃ s ∈ typesIn c inside, s.type.Fits q.name) →
      type c q = .error (.notFound .type q.name)) ∧
    ∀ s, type c q = .ok s → BestMatch c inside q.name s := by
  rw [type_eq hname hne hscope.scope_eq, ← lookupType?_isSome_iff]
  cases hfound : lookupType? c inside q.name with
  | none =>
    refine ⟨iff_of_false ?_ Bool.false_ne_true, fun _ => rfl, ?_⟩
    · rintro ⟨s, hs⟩
      cases hs
    · rintro s ⟨⟩
  | some t =>
    refine ⟨iff_of_true ⟨t, rfl⟩ rfl, fun hnone => absurd rfl hnone, ?_⟩
    rintro s ⟨⟩
    exact bestMatch_of_lookupType? hfound

/-- Two assemblies have a type `Lib.Widget`, the first in another case: a query in all assemblies
finds the second type. In an assembly with a type whose simple name is asked for and, after it, one
whose full name is, a query finds the latter. -/
theorem type_answers_exactly_widget :
    let early : Assembly := .ofTypes "Early" [.named "lib.widget"]
    let lib : Assembly := .ofTypes "Lib" [.named "Lib.Widget", .named "App.Tool", .named "TOOL"]
    let c : Catalog := .ofAssemblies [early, lib]
    let anywhere : SymbolQuery := { name := "Lib.Widget" }
    let inLib : SymbolQuery := { name := "tool", assembly := some "Lib" }
    Limits.Within anywhere.name ∧ Confined c anywhere.assembly none ∧
      (∃ s, type c anywhere = .ok s ∧ s.fullName = "Lib.Widget") ∧
      Limits.Within inLib.name ∧ Confined c inLib.assembly (some lib) ∧
      ∃ s, type c inLib = .ok s ∧ Text.eqIgnoreCase s.fullName "tool" = true := by
  intro early lib c anywhere inLib
  have hanywhere : Limits.Within anywhere.name := by decide +kernel
  have hinLib : Limits.Within inLib.name := by decide +kernel
  have hconfined : Confined c inLib.assembly (some lib) := by
    have hname : Limits.Within "Lib" := by decide +kernel
    refine .within_named hname (by decide) ?_
    have hearly : early.isNamed "Lib" = false := by decide +kernel
    have hlib : lib.isNamed "Lib" = true := by decide +kernel
    simp only [show c.assemblies = [early, lib] from rfl, List.find?_cons, hearly, hlib]
  have htool : Text.eqIgnoreCase "TOOL" "tool" = true := by
    have hupper : Text.lower "TOOL" = "tool" := by decide +kernel
    have hlower : Text.lower "tool" = "tool" := by decide +kernel
    rw [Text.eqIgnoreCase_iff, hupper, hlower]
  refine ⟨hanywhere, .everywhere, ?_, hinLib, hconfined, ?_⟩
  · have hmem : ⟨lib, .named "Lib.Widget"⟩ ∈ typesIn c none :=
      .tail _ (.head _)
    obtain ⟨hok, -, hbest⟩ := type_answers_exactly hanywhere (by decide) (.everywhere (c := c))
    obtain ⟨s, hs⟩ := hok.2 ⟨_, hmem, TypeDef.fits_of_fullName_eq rfl⟩
    exact ⟨s, hs, (hbest s hs).exact_preferred ⟨_, hmem, rfl⟩⟩
  · have hmem : ⟨lib, .named "TOOL"⟩ ∈ typesIn c (some lib) := .tail _ (.tail _ (.head _))
    obtain ⟨hok, -, hbest⟩ := type_answers_exactly hinLib (by decide) hconfined
    obtain ⟨s, hs⟩ := hok.2 ⟨_, hmem, .inl htool⟩
    have hin : s.assembly = lib := (mem_typesIn_some.1 (hbest s hs).declared).1
    exact ⟨s, hs, (hbest s hs).fullName_preferred ⟨⟨lib, .named "TOOL"⟩, hin ▸ hmem, htool⟩⟩

end Query

end AssemblyAtlas
