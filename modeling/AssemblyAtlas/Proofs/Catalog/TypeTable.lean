import AssemblyAtlas.Catalog.TypeTable
import AssemblyAtlas.Proofs.Metadata.Nesting

/-!
# What the table of types holds

The table holds a place under a name exactly if a type of that name is at the place
(`TypeTable.mem_places_iff`), and the places of an assembly are those of its types, nested ones
included (`Assembly.exists_typeAt?_iff`). Neither depends on the names being different.
-/

namespace AssemblyAtlas

/-! ### Ways through nested types -/

namespace TypeDef

theorem descend?_nil (t : TypeDef) : t.descend? [] = some t := by
  rw [descend?]

theorem descend?_cons (t : TypeDef) (i : Nat) (path : List Nat) :
    t.descend? (i :: path) = t.nested[i]?.bind (descend? · path) := by
  rw [descend?]

/-- Some way leads from a type to each type nested in it, and to no other. -/
theorem exists_descend?_iff {t u : TypeDef} :
    (∃ path, t.descend? path = some u) ↔ u ∈ t.withNested := by
  induction t using nestedInduction with
  | node info nested ih =>
    rw [withNested_mk, List.mem_cons, List.mem_flatMap]
    constructor
    · rintro ⟨_ | ⟨i, path⟩, h⟩
      · rw [descend?_nil, Option.some.injEq] at h
        exact .inl h.symm
      · rw [descend?_cons] at h
        obtain ⟨t, ht, hpath⟩ := Option.bind_eq_some_iff.1 h
        have hmem := List.mem_of_getElem? ht
        exact .inr ⟨t, hmem, (ih t hmem).1 ⟨path, hpath⟩⟩
    · rintro (rfl | ⟨t, ht, hu⟩)
      · exact ⟨[], descend?_nil _⟩
      · obtain ⟨path, hpath⟩ := (ih t ht).2 hu
        obtain ⟨i, hi⟩ := List.getElem?_of_mem ht
        exact ⟨i :: path, by rw [descend?_cons, hi]; exact hpath⟩

theorem mem_allPlaced_iff {path : List Nat} {i : Nat} {ts : List TypeDef}
    {e : String × List Nat} :
    e ∈ allPlaced path i ts ↔ ∃ k t, ts[k]? = some t ∧ e ∈ placed (path ++ [i + k]) t := by
  induction ts generalizing i with
  | nil => simp [allPlaced]
  | cons t ts ih =>
    rw [allPlaced, List.mem_append, ih]
    constructor
    · rintro (h | ⟨k, u, hu, h⟩)
      · exact ⟨0, t, rfl, h⟩
      · exact ⟨k + 1, u, hu, by rwa [Nat.add_assoc, Nat.add_comm 1] at h⟩
    · rintro ⟨_ | k, u, hu, h⟩
      · rw [List.getElem?_cons_zero, Option.some.injEq] at hu
        exact .inl (hu ▸ h)
      · exact .inr ⟨k, u, hu, by rwa [Nat.add_assoc, Nat.add_comm 1]⟩

/-- The entries of a type are the names of the types that ways from it lead to. -/
theorem mem_placed_iff {path : List Nat} {t : TypeDef} {name : String} {p : List Nat} :
    (name, p) ∈ placed path t ↔
      ∃ way u, p = path ++ way ∧ t.descend? way = some u ∧ u.fullName = name := by
  induction t using nestedInduction generalizing path with
  | node info nested ih =>
    rw [placed, List.mem_append, mem_allPlaced_iff, List.mem_singleton, Prod.mk.injEq]
    constructor
    · rintro (⟨k, t, ht, h⟩ | ⟨rfl, rfl⟩)
      · obtain ⟨way, u, rfl, hway, hname⟩ := (ih t (List.mem_of_getElem? ht)).1 h
        refine ⟨k :: way, u, by simp, ?_, hname⟩
        rw [descend?_cons, ht]
        exact hway
      · exact ⟨[], _, by simp, descend?_nil _, rfl⟩
    · rintro ⟨_ | ⟨k, way⟩, u, rfl, hway, rfl⟩
      · rw [descend?_nil, Option.some.injEq] at hway
        exact .inr ⟨by rw [← hway], by simp⟩
      · rw [descend?_cons] at hway
        obtain ⟨t, ht, hway⟩ := Option.bind_eq_some_iff.1 hway
        exact .inl ⟨k, t, ht, (ih t (List.mem_of_getElem? ht)).2 ⟨way, u, by simp, hway, rfl⟩⟩

end TypeDef

/-! ### Places in an assembly -/

namespace Assembly

theorem typeAt?_eq_some_iff {a : Assembly} {path : List Nat} {u : TypeDef} :
    a.typeAt? path = some u ↔ ∃ m i way module type, path = m :: i :: way ∧
      a.modules[m]? = some module ∧ module.types[i]? = some type ∧ type.descend? way = some u := by
  constructor
  · intro h
    unfold typeAt? at h
    split at h
    · next m i way =>
      obtain ⟨module, hm, h⟩ := Option.bind_eq_some_iff.1 h
      obtain ⟨type, ht, h⟩ := Option.bind_eq_some_iff.1 h
      exact ⟨m, i, way, module, type, rfl, hm, ht, h⟩
    · exact absurd h (by simp)
  · rintro ⟨m, i, way, module, type, rfl, hm, ht, h⟩
    simp [typeAt?, hm, ht, h]

/-- The places in an assembly are those of its types. -/
theorem exists_typeAt?_iff {a : Assembly} {u : TypeDef} :
    (∃ path, a.typeAt? path = some u) ↔ u ∈ a.types := by
  simp only [types, TypeDef.allWithNested_eq_flatMap, List.mem_flatMap,
    ← TypeDef.exists_descend?_iff]
  constructor
  · rintro ⟨path, h⟩
    obtain ⟨m, i, way, module, type, rfl, hm, ht, hway⟩ := typeAt?_eq_some_iff.1 h
    exact ⟨module, List.mem_of_getElem? hm, type, List.mem_of_getElem? ht, way, hway⟩
  · rintro ⟨module, hm, type, ht, way, hway⟩
    obtain ⟨m, hm⟩ := List.getElem?_of_mem hm
    obtain ⟨i, ht⟩ := List.getElem?_of_mem ht
    exact ⟨m :: i :: way, typeAt?_eq_some_iff.2 ⟨m, i, way, module, type, rfl, hm, ht, hway⟩⟩

theorem mem_placedTypes_iff {a : Assembly} {name : String} {path : List Nat} :
    (name, path) ∈ a.placedTypes ↔ ∃ u, a.typeAt? path = some u ∧ u.fullName = name := by
  simp only [placedTypes, List.mem_flatMap, Prod.exists, List.mem_zipIdx_iff_getElem?,
    TypeDef.mem_allPlaced_iff, TypeDef.mem_placed_iff, typeAt?_eq_some_iff]
  constructor
  · rintro ⟨module, m, hm, i, type, ht, way, u, rfl, hway, hname⟩
    exact ⟨u, ⟨m, i, way, module, type, by simp, hm, ht, hway⟩, hname⟩
  · rintro ⟨u, ⟨m, i, way, module, type, rfl, hm, ht, hway⟩, hname⟩
    exact ⟨module, m, hm, i, type, ht, way, u, by simp, hway, hname⟩

end Assembly

/-! ### The table -/

theorem typeAt?_eq_some_iff {as : List Assembly} {p : Place} {u : TypeDef} :
    typeAt? as p = some u ↔ ∃ a, as[p.assembly]? = some a ∧ a.typeAt? p.path = some u :=
  Option.bind_eq_some_iff

namespace TypeTable

theorem places_add (t : TypeTable) (key name : String) (p : Place) :
    (t.add key p).places name = t.places name ++ if name = key then [p] else [] := by
  unfold places
  induction t with
  | nil => by_cases h : name = key <;> grind [add]
  | cons e t ih =>
    obtain ⟨k, ps⟩ := e
    unfold add
    by_cases hk : k = key <;> by_cases hn : name = k <;> grind

theorem places_foldl_add (entries : List (String × Place)) (t : TypeTable) (name : String) :
    (entries.foldl (fun t (key, p) => t.add key p) t).places name =
      t.places name ++ (entries.filter (·.1 == name)).map (·.2) := by
  induction entries generalizing t with
  | nil => simp
  | cons e entries ih =>
    obtain ⟨key, p⟩ := e
    rw [List.foldl_cons, ih, places_add, List.append_assoc]
    by_cases h : name = key
    · simp [h]
    · simp [h, Ne.symm h]

/-- The places under a name are those of its occurrences, in order. -/
theorem places_ofAssemblies (as : List Assembly) (name : String) :
    (ofAssemblies as).places name = ((occurrences as).filter (·.1 == name)).map (·.2) := by
  rw [ofAssemblies, places_foldl_add]
  simp [places]

theorem mem_occurrences_iff {as : List Assembly} {name : String} {p : Place} :
    (name, p) ∈ occurrences as ↔ ∃ u, typeAt? as p = some u ∧ u.fullName = name := by
  simp only [occurrences, List.mem_flatMap, Prod.exists, List.mem_zipIdx_iff_getElem?,
    List.mem_map, Prod.mk.injEq, Assembly.mem_placedTypes_iff, typeAt?_eq_some_iff]
  constructor
  · rintro ⟨a, i, ha, _, path, ⟨u, hu, hname⟩, rfl, rfl⟩
    exact ⟨u, ⟨a, ha, hu⟩, hname⟩
  · rintro ⟨u, ⟨a, ha, hu⟩, hname⟩
    exact ⟨a, p.assembly, ha, name, p.path, ⟨u, hu, hname⟩, rfl, rfl⟩

/-- **The table is exact:** a place stands under a name exactly if a type of that name is there. -/
theorem mem_places_iff {as : List Assembly} {name : String} {p : Place} :
    p ∈ (ofAssemblies as).places name ↔ ∃ u, typeAt? as p = some u ∧ u.fullName = name := by
  rw [places_ofAssemblies, ← mem_occurrences_iff]
  simp

end TypeTable

end AssemblyAtlas
