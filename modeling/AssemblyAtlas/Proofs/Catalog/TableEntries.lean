import AssemblyAtlas.Proofs.Catalog.Lookup
import AssemblyAtlas.Proofs.Catalog.Occurrences
import Mathlib.Algebra.GroupWithZero.Nat
import Mathlib.Data.List.Perm.Subperm

/-!
# The table of types is exact

The table has one entry for each type that is declared, at whatever depth it is nested, and no
others, and each entry leads back to its type (`TypeTable.isExact_ofAssemblies`). Names may repeat
within and across assemblies. So the index finds a type exactly if one of the name is declared, and
which assembly it takes it from depends only on which assemblies declare the name
(`TypeIndex.ofAssemblies_exact`).
-/

namespace AssemblyAtlas

/-! ### As many entries as types -/

namespace TypeDef

theorem length_allPlaced {ts : List TypeDef}
    (h : ∀ t ∈ ts, ∀ path, (placed path t).length = t.withNested.length) (path : List Nat)
    (i : Nat) : (allPlaced path i ts).length = (allWithNested ts).length := by
  induction ts generalizing i with
  | nil => rw [allPlaced, allWithNested, List.length_nil, List.length_nil]
  | cons t ts ih =>
    obtain ⟨ht, hts⟩ := List.forall_mem_cons.1 h
    rw [allPlaced, allWithNested, List.length_append, List.length_append, ht, ih hts]

theorem length_placed (path : List Nat) (t : TypeDef) :
    (placed path t).length = t.withNested.length := by
  induction t using nestedInduction generalizing path with
  | node info nested ih =>
    rw [placed, withNested, List.length_append, length_allPlaced ih, List.length_singleton,
      List.length_cons]

end TypeDef

theorem length_flatMap_zipIdx {α β γ : Type} {xs : List α} {f : α × Nat → List β} {g : α → List γ}
    (h : ∀ x i, (f (x, i)).length = (g x).length) :
    (xs.zipIdx.flatMap f).length = (xs.flatMap g).length := by
  have hlength : xs.zipIdx.map (fun e => (f e).length) = xs.map fun x => (g x).length := by
    conv_rhs => rw [← List.zipIdx_map_fst 0 xs, List.map_map]
    exact List.map_congr_left fun e _ => h e.1 e.2
  rw [List.length_flatMap, List.length_flatMap, hlength]

theorem Assembly.length_placedTypes (a : Assembly) : a.placedTypes.length = a.types.length :=
  length_flatMap_zipIdx fun _ i =>
    TypeDef.length_allPlaced (fun t _ path => t.length_placed path) [i] 0

namespace TypeTable

theorem length_occurrences (as : List Assembly) :
    (occurrences as).length = (Catalog.ofAssemblies as).types.length :=
  length_flatMap_zipIdx fun a _ => by
    rw [List.length_map, List.length_map, a.length_placedTypes]

/-! ### Entries -/

/-- The entries of the table: each place with the name it stands under. -/
def entries (t : TypeTable) : List (String × Place) :=
  t.flatMap fun e => e.2.map (e.1, ·)

theorem entries_cons (name : String) (places : List Place) (t : TypeTable) :
    entries ((name, places) :: t) = places.map (name, ·) ++ t.entries :=
  List.flatMap_cons

theorem size_eq_length_entries (t : TypeTable) : t.size = t.entries.length := by
  induction t with
  | nil => rfl
  | cons e t ih =>
    rw [entries_cons, List.length_append, List.length_map, ← ih]
    rfl

/-- Entering a place adds one entry and keeps all others. -/
theorem entries_add_perm (t : TypeTable) (name : String) (p : Place) :
    (t.add name p).entries.Perm ((name, p) :: t.entries) := by
  induction t with
  | nil => exact .refl _
  | cons e t ih =>
    obtain ⟨key, places⟩ := e
    rw [add]
    split
    · next h =>
      rw [eq_of_beq h, entries_cons, entries_cons, List.map_append, List.append_assoc]
      exact List.perm_middle
    · rw [entries_cons, entries_cons]
      exact (ih.append_left _).trans List.perm_middle

/-- A name that is entered stands once. -/
theorem names_add (t : TypeTable) (name : String) (p : Place) :
    (t.add name p).map Prod.fst = if name ∈ t.map Prod.fst then t.map Prod.fst
      else t.map Prod.fst ++ [name] := by
  induction t with
  | nil => rfl
  | cons e t ih =>
    obtain ⟨key, places⟩ := e
    rw [add]
    split
    · next h => simp [eq_of_beq h]
    · next h =>
      have hne : name ≠ key := fun heq => h (beq_iff_eq.2 heq.symm)
      simp only [List.map_cons, ih, List.mem_cons, hne, false_or]
      split <;> rfl

/-- What is known of the table on the way: each name stands once, and the entries are those that
were entered. -/
structure Collects (es : List (String × Place)) (t : TypeTable) : Prop where
  nodup_names : (t.map Prod.fst).Nodup
  entries_perm : t.entries.Perm es

namespace Collects

variable {es : List (String × Place)} {t : TypeTable}

theorem add (h : Collects es t) (name : String) (p : Place) :
    Collects (es ++ [(name, p)]) (t.add name p) := by
  constructor
  · rw [names_add]
    split
    · exact h.nodup_names
    · next hnew => exact List.nodup_append_comm.1 (List.nodup_cons.2 ⟨hnew, h.nodup_names⟩)
  · have hcons := (entries_add_perm t name p).trans (h.entries_perm.cons _)
    exact hcons.trans (List.perm_append_singleton _ _).symm

theorem foldl (h : Collects es t) (new : List (String × Place)) :
    Collects (es ++ new) (new.foldl (fun t (name, p) => t.add name p) t) := by
  induction new generalizing es t with
  | nil => rwa [List.append_nil]
  | cons e new ih =>
    rw [List.append_cons]
    exact ih (h.add e.1 e.2)

end Collects

theorem collects_ofAssemblies (as : List Assembly) :
    Collects (occurrences as) (ofAssemblies as) := by
  have hempty : Collects [] [] := ⟨List.nodup_nil, .refl _⟩
  exact hempty.foldl (occurrences as)

/-! ### Occurrences -/

/-- The occurrences are those of the declared types, one for each. -/
theorem exists_occurrences_perm (as : List Assembly) :
    ∃ found : List (Place × TypeSymbol), (found.map Prod.fst).Nodup ∧
      (∀ p s, (p, s) ∈ found ↔ typeSymbolAt? as p = some s) ∧
      (found.map Prod.snd).Perm (Catalog.ofAssemblies as).types ∧
      (found.map fun e => (e.2.fullName, e.1)).Perm (occurrences as) := by
  obtain ⟨found, hnodup, hmem, hperm⟩ := (Catalog.ofAssemblies as).oneForEach_types
  have hplaces : (found.map Prod.fst).Nodup := by
    refine hnodup.map_on ?_
    rintro ⟨p, s⟩ hs ⟨q, r⟩ hr (rfl : p = q)
    rw [hmem] at hs hr
    rw [Option.some.inj (hs.symm.trans hr)]
  refine ⟨found, hplaces, hmem, hperm, ?_⟩
  -- Each declared type is among the occurrences, and there are no more of these.
  have hentries : (found.map fun e => (e.2.fullName, e.1)).Nodup := by
    refine .of_map Prod.snd ?_
    rwa [List.map_map]
  have hsub : found.map (fun e => (e.2.fullName, e.1)) ⊆ occurrences as := by
    intro e he
    obtain ⟨⟨p, s⟩, hs, rfl⟩ := List.mem_map.1 he
    obtain ⟨ha, ht⟩ := typeSymbolAt?_eq_some_iff.1 ((hmem p s).1 hs)
    exact mem_occurrences_iff.2 ⟨s.type, typeAt?_eq_some_iff.2 ⟨s.assembly, ha, ht⟩, rfl⟩
  refine (hentries.subperm hsub).perm_of_length_le (Nat.le_of_eq ?_)
  rw [length_occurrences, ← hperm.length_eq, List.length_map, List.length_map]

/-- The table is exact: it has each name and each place once, the places under a name are those of
the types with that name, and the types at its places are, one for one, all types of the
assemblies. -/
structure IsExact (as : List Assembly) (t : TypeTable) : Prop where
  nodup_names : (t.map Prod.fst).Nodup
  nodup_places : (t.entries.map Prod.snd).Nodup
  mem_entries_iff : ∀ name p, (name, p) ∈ t.entries ↔
    ∃ u, typeAt? as p = some u ∧ u.fullName = name
  types_perm : (t.entries.map fun e => typeSymbolAt? as e.2).Perm
    ((Catalog.ofAssemblies as).types.map some)

theorem isExact_ofAssemblies (as : List Assembly) : (ofAssemblies as).IsExact as := by
  obtain ⟨hnames, hentries⟩ := collects_ofAssemblies as
  obtain ⟨found, hplaces, hmem, htypes, hfound⟩ := exists_occurrences_perm as
  have hperm := hentries.trans hfound.symm
  refine ⟨hnames, ?_, fun name p => ?_, ?_⟩
  · rw [(hperm.map Prod.snd).nodup_iff, List.map_map]
    exact hplaces
  · rw [hentries.mem_iff, mem_occurrences_iff]
  · refine (hperm.map _).trans ?_
    have hsome : (found.map fun e => (e.2.fullName, e.1)).map (fun e => typeSymbolAt? as e.2) =
        (found.map Prod.snd).map some := by
      rw [List.map_map, List.map_map]
      exact List.map_congr_left fun e he => (hmem e.1 e.2).1 he
    rw [hsome]
    exact htypes.map some

theorem size_ofAssemblies (as : List Assembly) :
    (ofAssemblies as).size = (as.map (·.types.length)).sum := by
  have hlength := (collects_ofAssemblies as).entries_perm.length_eq
  rw [size_eq_length_entries, hlength, length_occurrences, Catalog.types, List.length_flatMap]
  simp [Catalog.ofAssemblies, Catalog.assemblies, TypeIndex.ofAssemblies]

end TypeTable

/-! ### Finding types -/

namespace TypeIndex

variable {index : TypeIndex} {n : String} {preferred : Option String}

theorem exists_resolveType?_iff :
    (∃ s, index.resolveType? n preferred = some s) ↔ ∃ a ∈ index.assemblies, a.Declares n := by
  constructor
  · rintro ⟨s, hs⟩
    obtain ⟨ha, ht, hname⟩ := resolveType?_sound hs
    exact ⟨s.assembly, ha, s.type, ht, hname⟩
  · rintro ⟨a, ha, t, ht, rfl⟩
    exact exists_resolveType? ha ht preferred

/-- Some assembly of the preferred name declares the type. -/
def PreferredDeclares (as : List Assembly) (preferred : Option String) (n : String) : Prop :=
  ∃ name ∈ preferred, ∃ a ∈ as, a.isNamed name = true ∧ a.Declares n

/-- If no assembly of the preferred name declares the type, the lowest place is taken. -/
theorem placeOf?_eq_lowest? (h : ¬ PreferredDeclares index.assemblies preferred n) :
    index.placeOf? n preferred = lowest? (index.table.places n) := by
  have hfind : ∀ name ∈ preferred, (index.table.places n).find? (index.isIn name) = none := by
    intro name hname
    rw [List.find?_eq_none]
    intro p hp hin
    obtain ⟨u, hu, hn⟩ := mem_places_iff.1 hp
    obtain ⟨a, ha, hu⟩ := typeAt?_eq_some_iff.1 hu
    have hmem : u ∈ a.types := Assembly.exists_typeAt?_iff.1 ⟨_, hu⟩
    rw [isIn, ha] at hin
    exact h ⟨name, hname, a, List.mem_of_getElem? ha, hin, u, hmem, hn⟩
  rw [placeOf?, Option.bind_eq_none_iff.2 hfind, Option.none_or]

/-- **The index is exact**, for any assemblies, whatever names are declared in them. Its table has
one entry for each declared type, and its size is the number of these. A type is found under a name
exactly if one is declared. It is found in its assembly, in one of the preferred name if one of
these declares the type, and otherwise in the first that does. -/
theorem ofAssemblies_exact (as : List Assembly) :
    let index := TypeIndex.ofAssemblies as
    index.table.IsExact as ∧ index.table.size = (as.map (·.types.length)).sum ∧
    ∀ n preferred,
      ((∃ s, index.resolveType? n preferred = some s) ↔ ∃ a ∈ as, a.Declares n) ∧
      ∀ s, index.resolveType? n preferred = some s →
        s.fullName = n ∧ s.type ∈ s.assembly.types ∧
        (PreferredDeclares as preferred n → ∃ name ∈ preferred, s.assembly.isNamed name = true) ∧
        ∃ p, typeSymbolAt? as p = some s ∧ (¬ PreferredDeclares as preferred n →
          ∀ j b, as[j]? = some b → b.Declares n → p.assembly ≤ j) := by
  intro index
  refine ⟨TypeTable.isExact_ofAssemblies as, TypeTable.size_ofAssemblies as, fun n preferred => ?_⟩
  refine ⟨exists_resolveType?_iff, fun s hs => ?_⟩
  obtain ⟨-, htype, hname⟩ := resolveType?_sound hs
  obtain ⟨p, hp, ha, ht⟩ := resolveType?_eq_some_iff.1 hs
  refine ⟨hname, htype, ?_, p, typeSymbolAt?_eq_some_iff.2 ⟨ha, ht⟩, fun hnone j b hb hdecl => ?_⟩
  · rintro ⟨name, hmem, a, ha, hnamed, t, ht, rfl⟩
    refine ⟨name, hmem, ?_⟩
    cases hmem
    exact isNamed_of_resolveType? ha ht hnamed hs
  · have hb : index.assemblies[j]? = some b := hb
    rw [placeOf?_eq_lowest? hnone] at hp
    obtain ⟨q, hq, rfl⟩ := exists_place_of_declares hb hdecl
    exact (lowest?_spec hp).2 q hq

end TypeIndex

end AssemblyAtlas
