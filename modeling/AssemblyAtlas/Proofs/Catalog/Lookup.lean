import Mathlib.Data.List.Nodup
import Mathlib.Data.List.Pairwise
import AssemblyAtlas.Proofs.Catalog.TypeTable
import AssemblyAtlas.Proofs.Text.AsciiCase
import AssemblyAtlas.Catalog.Basic
import AssemblyAtlas.Snapshot.Load

/-!
# Finding types

Whatever way a catalog finds a type, the type is declared in it under the name that was asked for
(`Catalog.resolveType?_sound`). When no two assemblies have the same name and no assembly declares
a name twice, the table and the scan find the same type
(`TypeIndex.resolveType?_eq_scanType?`).
-/

namespace AssemblyAtlas

/-- The assembly declares a type of the name. -/
def Assembly.Declares (a : Assembly) (fullName : String) : Prop :=
  ∃ t ∈ a.types, t.fullName = fullName

namespace Catalog

theorem mem_types_iff {c : Catalog} {s : TypeSymbol} :
    s ∈ c.types ↔ s.assembly ∈ c.assemblies ∧ s.type ∈ s.assembly.types := by
  obtain ⟨a, t⟩ := s
  simp only [types, List.mem_flatMap, List.mem_map, TypeSymbol.mk.injEq]
  constructor
  · rintro ⟨a, ha, t, ht, rfl, rfl⟩
    exact ⟨ha, ht⟩
  · rintro ⟨ha, ht⟩
    exact ⟨a, ha, t, ht, rfl, rfl⟩

theorem typeIn?_eq_some_iff {a : Assembly} {n : String} {s : TypeSymbol} :
    typeIn? a n = some s ↔ s.assembly = a ∧ a.findExact? n = some s.type := by
  obtain ⟨b, t⟩ := s
  simp only [typeIn?, Option.map_eq_some_iff, TypeSymbol.mk.injEq]
  grind

theorem typeIn?_sound {a : Assembly} {n : String} {s : TypeSymbol} (h : typeIn? a n = some s) :
    s.assembly = a ∧ s.type ∈ a.types ∧ s.fullName = n := by
  obtain ⟨rfl, h⟩ := typeIn?_eq_some_iff.1 h
  have hname := List.find?_some h
  exact ⟨rfl, List.mem_of_find?_eq_some h, eq_of_beq hname⟩

theorem scanType?_sound {as : List Assembly} {n : String} {preferred : Option String}
    {s : TypeSymbol} (h : scanType? as n preferred = some s) :
    s.assembly ∈ as ∧ s.type ∈ s.assembly.types ∧ s.fullName = n := by
  rcases Option.or_eq_some_iff.1 h with h | ⟨-, h⟩
  · obtain ⟨a, ha, hin⟩ := Option.bind_eq_some_iff.1 h
    obtain ⟨name, -, hfind⟩ := Option.bind_eq_some_iff.1 ha
    obtain ⟨rfl, hs⟩ := typeIn?_sound hin
    exact ⟨List.mem_of_find?_eq_some hfind, hs⟩
  · obtain ⟨a, ha, hin⟩ := List.exists_of_findSome?_eq_some h
    obtain ⟨rfl, hs⟩ := typeIn?_sound hin
    exact ⟨ha, hs⟩

end Catalog

theorem typeSymbolAt?_eq_some_iff {as : List Assembly} {p : Place} {s : TypeSymbol} :
    typeSymbolAt? as p = some s ↔
      as[p.assembly]? = some s.assembly ∧ s.assembly.typeAt? p.path = some s.type := by
  obtain ⟨a, t⟩ := s
  simp only [typeSymbolAt?, Option.bind_eq_some_iff, Option.map_eq_some_iff, TypeSymbol.mk.injEq]
  constructor
  · rintro ⟨a, ha, t, ht, rfl, rfl⟩
    exact ⟨ha, ht⟩
  · rintro ⟨ha, ht⟩
    exact ⟨a, ha, t, ht, rfl, rfl⟩

namespace TypeIndex

theorem lowest?_eq_none_iff {ps : List Place} : lowest? ps = none ↔ ps = [] := by
  cases ps with
  | nil => simp [lowest?]
  | cons p ps =>
    rw [lowest?]
    split
    · simp
    · split <;> simp

/-- The lowest place is one of the places, and none is in an assembly with a lower number. -/
theorem lowest?_spec {ps : List Place} {p : Place} (h : lowest? ps = some p) :
    p ∈ ps ∧ ∀ q ∈ ps, p.assembly ≤ q.assembly := by
  induction ps generalizing p with
  | nil => simp [lowest?] at h
  | cons r ps ih =>
    rw [lowest?] at h
    split at h
    · next hnone =>
      rw [lowest?_eq_none_iff] at hnone
      simp_all
    · next q hq =>
      obtain ⟨hmem, hle⟩ := ih hq
      split at h <;> grind

variable {index : TypeIndex} {n : String} {preferred : Option String}

theorem placeOf?_mem {p : Place} (h : index.placeOf? n preferred = some p) :
    p ∈ index.table.places n := by
  rcases Option.or_eq_some_iff.1 h with h | ⟨-, h⟩
  · obtain ⟨name, -, hfind⟩ := Option.bind_eq_some_iff.1 h
    exact List.mem_of_find?_eq_some hfind
  · exact (lowest?_spec h).1

theorem mem_places_iff {p : Place} : p ∈ index.table.places n ↔
    ∃ u, typeAt? index.assemblies p = some u ∧ u.fullName = n := by
  rw [index.table_eq, TypeTable.mem_places_iff]

/-- An assembly that declares a name has a place under it. -/
theorem exists_place_of_declares {i : Nat} {a : Assembly} (ha : index.assemblies[i]? = some a)
    (h : a.Declares n) : ∃ p ∈ index.table.places n, p.assembly = i := by
  obtain ⟨t, ht, rfl⟩ := h
  obtain ⟨path, hpath⟩ := Assembly.exists_typeAt?_iff.2 ht
  exact ⟨⟨i, path⟩, mem_places_iff.2 ⟨t, typeAt?_eq_some_iff.2 ⟨a, ha, hpath⟩, rfl⟩, rfl⟩

theorem exists_place {i : Nat} {a : Assembly} {s : TypeSymbol}
    (ha : index.assemblies[i]? = some a) (hs : Catalog.typeIn? a n = some s) :
    ∃ p ∈ index.table.places n, p.assembly = i := by
  obtain ⟨-, hmem, hname⟩ := Catalog.typeIn?_sound hs
  exact exists_place_of_declares ha ⟨s.type, hmem, hname⟩

theorem resolveType?_eq_some_iff {s : TypeSymbol} :
    index.resolveType? n preferred = some s ↔ ∃ p, index.placeOf? n preferred = some p ∧
      index.assemblies[p.assembly]? = some s.assembly ∧
      s.assembly.typeAt? p.path = some s.type := by
  simp only [resolveType?, Option.bind_eq_some_iff, typeSymbolAt?_eq_some_iff]

theorem resolveType?_sound {s : TypeSymbol} (h : index.resolveType? n preferred = some s) :
    s.assembly ∈ index.assemblies ∧ s.type ∈ s.assembly.types ∧ s.fullName = n := by
  obtain ⟨p, hp, ha, ht⟩ := resolveType?_eq_some_iff.1 h
  obtain ⟨u, hu, hname⟩ := mem_places_iff.1 (placeOf?_mem hp)
  obtain ⟨a, ha', hu⟩ := typeAt?_eq_some_iff.1 hu
  obtain rfl : s.assembly = a := Option.some.inj (ha.symm.trans ha')
  obtain rfl : s.type = u := Option.some.inj (ht.symm.trans hu)
  exact ⟨List.mem_of_getElem? ha, Assembly.exists_typeAt?_iff.1 ⟨_, ht⟩, hname⟩

/-- A declared type has a place in its assembly. -/
theorem exists_place_of_mem {a : Assembly} (ha : a ∈ index.assemblies) {t : TypeDef}
    (ht : t ∈ a.types) :
    ∃ p ∈ index.table.places t.fullName, index.assemblies[p.assembly]? = some a := by
  obtain ⟨i, hi⟩ := List.getElem?_of_mem ha
  obtain ⟨p, hp, rfl⟩ := exists_place_of_declares hi ⟨t, ht, rfl⟩
  exact ⟨p, hp, hi⟩

/-- If an assembly of the preferred name declares the type, it is found in an assembly of that name.
-/
theorem isNamed_of_resolveType? {a : Assembly} (ha : a ∈ index.assemblies) {t : TypeDef}
    (ht : t ∈ a.types) {name : String} (hname : a.isNamed name = true) {s : TypeSymbol}
    (h : index.resolveType? t.fullName (some name) = some s) : s.assembly.isNamed name = true := by
  obtain ⟨p, hp, hs, -⟩ := resolveType?_eq_some_iff.1 h
  obtain ⟨r, hmem, hr⟩ := exists_place_of_mem ha ht
  obtain ⟨q, hq⟩ : ∃ q, (index.table.places t.fullName).find? (index.isIn name) = some q :=
    Option.isSome_iff_exists.1 (List.find?_isSome.2 ⟨r, hmem, by rw [isIn, hr]; exact hname⟩)
  -- The preferred place comes before the lowest.
  obtain rfl : q = p := by
    rw [placeOf?, Option.bind_some, hq, Option.some_or] at hp
    exact Option.some.inj hp
  have hin := List.find?_some hq
  rwa [isIn, hs] at hin

theorem exists_resolveType? {a : Assembly} (ha : a ∈ index.assemblies) {t : TypeDef}
    (ht : t ∈ a.types) (preferred : Option String) :
    ∃ s, index.resolveType? t.fullName preferred = some s := by
  obtain ⟨r, hmem, -⟩ := exists_place_of_mem ha ht
  obtain ⟨p, hp⟩ : ∃ p, index.placeOf? t.fullName preferred = some p := by
    cases hlow : lowest? (index.table.places t.fullName) with
    | none => rw [lowest?_eq_none_iff.1 hlow] at hmem; exact absurd hmem (by simp)
    | some p =>
      rw [← Option.isSome_iff_exists, placeOf?, Option.isSome_or, hlow, Option.isSome_some,
        Bool.or_true]
  obtain ⟨u, hu, -⟩ := mem_places_iff.1 (placeOf?_mem hp)
  obtain ⟨b, hb, hu⟩ := typeAt?_eq_some_iff.1 hu
  exact ⟨⟨b, u⟩, resolveType?_eq_some_iff.2 ⟨p, hp, hb, hu⟩⟩

end TypeIndex

namespace Catalog

/-- A type that is found is declared in the catalog under the name that was asked for. -/
theorem resolveType?_sound {c : Catalog} {n : String} {preferred : Option String}
    {s : TypeSymbol} (h : c.resolveType? n preferred = some s) :
    s ∈ c.types ∧ s.fullName = n := by
  have hs : s.assembly ∈ c.assemblies ∧ s.type ∈ s.assembly.types ∧ s.fullName = n := by
    cases c with
    | scanned as => exact scanType?_sound h
    | indexed index => exact TypeIndex.resolveType?_sound h
  exact ⟨mem_types_iff.2 ⟨hs.1, hs.2.1⟩, hs.2.2⟩

theorem resolveSig?_sound {c : Catalog} {sig : TypeSig} {assembly : String} {s : TypeSymbol}
    (h : c.resolveSig? sig assembly = some s) : s ∈ c.types ∧ s.fullName = sig.fullName :=
  resolveType?_sound h

/-- Some type is found under the name of a declared type, whatever assembly is preferred. -/
theorem exists_resolveType? {c : Catalog} {s : TypeSymbol} (hs : s ∈ c.types)
    (preferred : Option String) : ∃ r, c.resolveType? s.fullName preferred = some r := by
  obtain ⟨ha, ht⟩ := mem_types_iff.1 hs
  cases c with
  | scanned as =>
    have hin : (typeIn? s.assembly s.fullName).isSome := by
      rw [typeIn?, Option.isSome_map, Assembly.findExact?, List.find?_isSome]
      exact ⟨s.type, ht, beq_self_eq_true _⟩
    have hsome : (as.findSome? (typeIn? · s.fullName)).isSome :=
      List.findSome?_isSome_iff.2 ⟨s.assembly, ha, hin⟩
    rw [← Option.isSome_iff_exists, resolveType?, scanType?, Option.isSome_or, hsome, Bool.or_true]
  | indexed index =>
    exact TypeIndex.exists_resolveType? ha ht preferred

/-- Without a preferred assembly, a type is taken from the first assembly that declares the name. -/
theorem resolveType?_first {c : Catalog} {n : String} {s : TypeSymbol}
    (h : c.resolveType? n none = some s) :
    c.assemblies.find? (fun a => (a.findExact? n).isSome) = some s.assembly := by
  cases c with
  | scanned as =>
    obtain ⟨before, a, after, rfl, ha, hbefore⟩ := List.findSome?_eq_some_iff.1
      (show as.findSome? (typeIn? · n) = some s from h)
    obtain ⟨rfl, hs⟩ := typeIn?_eq_some_iff.1 ha
    refine List.find?_eq_some_iff_append.2 ⟨by rw [hs]; rfl, before, after, rfl, fun b hb => ?_⟩
    have hnone : b.findExact? n = none := Option.map_eq_none_iff.1 (hbefore b hb)
    rw [hnone]
    rfl
  | indexed index =>
    obtain ⟨p, hp, ha, ht⟩ := TypeIndex.resolveType?_eq_some_iff.1 h
    obtain ⟨-, hleast⟩ := TypeIndex.lowest?_spec (show TypeIndex.lowest? _ = some p from hp)
    obtain ⟨-, hmem, hname⟩ := TypeIndex.resolveType?_sound h
    obtain ⟨hi, hget⟩ := List.getElem?_eq_some_iff.1 ha
    refine List.find?_eq_some_iff_getElem.2 ⟨?_, p.assembly, hi, hget, fun j hj => ?_⟩
    · exact List.find?_isSome.2 ⟨s.type, hmem, beq_iff_eq.2 hname⟩
    · -- An earlier assembly with the name would have a lower place.
      rw [Bool.not_eq_true', Option.isSome_eq_false_iff, Option.isNone_iff_eq_none]
      by_contra hsome
      obtain ⟨t, ht⟩ := Option.ne_none_iff_exists'.1 hsome
      obtain ⟨q, hq, rfl⟩ := TypeIndex.exists_place (s := ⟨_, t⟩) (List.getElem?_eq_getElem _)
        (typeIn?_eq_some_iff.2 ⟨rfl, ht⟩)
      have hle := hleast q hq
      omega

/-- Where no name is declared twice, a declared type is what is found under its name. -/
theorem resolveType?_eq_some_iff {c : Catalog} (h : (c.types.map (·.fullName)).Nodup) {n : String}
    {preferred : Option String} {s : TypeSymbol} :
    c.resolveType? n preferred = some s ↔ s ∈ c.types ∧ s.fullName = n := by
  constructor
  · exact resolveType?_sound
  · rintro ⟨hs, rfl⟩
    obtain ⟨r, hr⟩ := exists_resolveType? hs preferred
    obtain ⟨hmem, hname⟩ := resolveType?_sound hr
    rw [hr, List.inj_on_of_nodup_map h hmem hs hname]

end Catalog

/-! ### Table and scan -/

namespace Assembly

theorem typeFault?_eq_none {assembly : String} {seen names : List String}
    (h : typeFault? assembly seen names = none) :
    names.Nodup ∧ ∀ name ∈ names, name ∉ seen := by
  induction names generalizing seen with
  | nil => simp
  | cons name names ih =>
    rw [typeFault?] at h
    split at h
    · exact absurd h (by simp)
    · split at h
      · exact absurd h (by simp)
      · next hseen =>
        obtain ⟨hnodup, hrest⟩ := ih h
        have hname : name ∉ seen := by simpa using hseen
        refine ⟨List.nodup_cons.2 ⟨fun hmem => hrest name hmem (by simp), hnodup⟩, ?_⟩
        intro n hn
        rcases List.mem_cons.1 hn with rfl | hn
        · exact hname
        · exact fun hin => hrest n hn (by simp [hin])

theorem typeFault?_eq_none_of {assembly : String} {seen names : List String}
    (hnodup : names.Nodup) (hblank : ∀ name ∈ names, ¬ isBlankText name = true)
    (hseen : ∀ name ∈ names, name ∉ seen) : typeFault? assembly seen names = none := by
  induction names generalizing seen with
  | nil => rfl
  | cons name names ih =>
    obtain ⟨hname, hnodup⟩ := List.nodup_cons.1 hnodup
    rw [typeFault?, if_neg (hblank name List.mem_cons_self),
      if_neg (by simpa using hseen name List.mem_cons_self)]
    refine ih hnodup (fun n hn => hblank n (List.mem_cons_of_mem _ hn)) fun n hn => ?_
    rw [List.mem_cons, not_or]
    exact ⟨fun heq => hname (heq ▸ hn), hseen n (List.mem_cons_of_mem _ hn)⟩

/-- No two types of an assembly without faults have the same full name. -/
theorem nodup_of_fault?_eq_none {a : Assembly} (h : a.fault? = none) :
    (a.types.map (·.fullName)).Nodup := by
  rw [fault?] at h
  split at h
  · exact absurd h (by simp)
  · exact (typeFault?_eq_none h).1

theorem ne_empty_of_typeFault?_eq_none {assembly : String} {seen names : List String}
    (h : typeFault? assembly seen names = none) : ∀ name ∈ names, name ≠ "" := by
  induction names generalizing seen with
  | nil => exact fun _ hname => absurd hname List.not_mem_nil
  | cons first names ih =>
    rw [typeFault?] at h
    split at h
    · cases h
    · next hblank =>
      split at h
      · cases h
      · intro name hname
        rcases List.mem_cons.1 hname with rfl | hname
        · rintro rfl
          exact hblank (by decide +kernel)
        · exact ih h name hname

/-- Neither an assembly without faults nor a type of it has an empty name. -/
theorem ne_empty_of_fault?_eq_none {a : Assembly} (h : a.fault? = none) :
    a.name ≠ "" ∧ ∀ t ∈ a.types, t.fullName ≠ "" := by
  rw [fault?] at h
  split at h
  · cases h
  · next hblank =>
    refine ⟨fun hname => hblank (by rw [hname]; decide +kernel), fun t ht => ?_⟩
    exact ne_empty_of_typeFault?_eq_none h _ (List.mem_map_of_mem ht)

theorem findExact?_of_mem {a : Assembly} (h : (a.types.map (·.fullName)).Nodup) {t : TypeDef}
    (ht : t ∈ a.types) : a.findExact? t.fullName = some t := by
  obtain ⟨u, hu⟩ : ∃ u, a.findExact? t.fullName = some u :=
    Option.isSome_iff_exists.1 (List.find?_isSome.2 ⟨t, ht, by simp⟩)
  have hname := List.find?_some hu
  have hmem : u ∈ a.types := List.mem_of_find?_eq_some hu
  rw [hu, List.inj_on_of_nodup_map h hmem ht (eq_of_beq hname)]

end Assembly

/-- Two assemblies of one name are the same, when names differ by more than case. -/
theorem eq_of_isNamed {as : List Assembly}
    (h : as.Pairwise fun a b => Text.eqIgnoreCase a.name b.name = false) {a b : Assembly}
    (ha : a ∈ as) (hb : b ∈ as) {name : String} (han : a.isNamed name = true)
    (hbn : b.isNamed name = true) : a = b := by
  have : Std.Symm fun a b : Assembly => Text.eqIgnoreCase a.name b.name = false :=
    ⟨fun a b hab => by rwa [Text.eqIgnoreCase_comm]⟩
  by_contra hne
  have hdiff := h.forall ha hb hne
  rw [Text.eqIgnoreCase_congr_left han, Text.eqIgnoreCase_comm] at hdiff
  exact absurd hbn (by rw [Assembly.isNamed, hdiff]; decide)

namespace TypeIndex

variable {index : TypeIndex} {n : String}

/-- At each place of a name, the type is the one that the assembly has under the name. -/
theorem exists_typeSymbolAt? (htypes : ∀ a ∈ index.assemblies, (a.types.map (·.fullName)).Nodup)
    {p : Place} (hp : p ∈ index.table.places n) :
    ∃ a s, index.assemblies[p.assembly]? = some a ∧ typeSymbolAt? index.assemblies p = some s ∧
      Catalog.typeIn? a n = some s := by
  obtain ⟨u, hu, rfl⟩ := mem_places_iff.1 hp
  obtain ⟨a, ha, hu⟩ := typeAt?_eq_some_iff.1 hu
  refine ⟨a, ⟨a, u⟩, ha, by simp [typeSymbolAt?, ha, hu], ?_⟩
  have hmem : u ∈ a.types := Assembly.exists_typeAt?_iff.1 ⟨_, hu⟩
  rw [Catalog.typeIn?, Assembly.findExact?_of_mem (htypes a (List.mem_of_getElem? ha)) hmem]
  rfl

/-- The lowest place leads to the first assembly that has the type. -/
theorem lowest?_bind_typeSymbolAt?
    (htypes : ∀ a ∈ index.assemblies, (a.types.map (·.fullName)).Nodup) :
    (lowest? (index.table.places n)).bind (typeSymbolAt? index.assemblies) =
      index.assemblies.findSome? (Catalog.typeIn? · n) := by
  cases hlow : lowest? (index.table.places n) with
  | none =>
    rw [lowest?_eq_none_iff] at hlow
    symm
    rw [Option.bind_none, List.findSome?_eq_none_iff]
    -- An assembly with the type would have a place in the table.
    intro a ha
    obtain ⟨i, hi⟩ := List.getElem?_of_mem ha
    by_contra hsome
    obtain ⟨s, hs⟩ := Option.ne_none_iff_exists'.1 hsome
    obtain ⟨p, hp, -⟩ := exists_place hi hs
    rw [hlow] at hp
    exact absurd hp (by simp)
  | some p =>
    obtain ⟨hp, hleast⟩ := lowest?_spec hlow
    obtain ⟨a, s, ha, hsym, hs⟩ := exists_typeSymbolAt? htypes hp
    rw [Option.bind_some, hsym]
    symm
    rw [List.findSome?_eq_some_iff]
    obtain ⟨hi, hget⟩ := List.getElem?_eq_some_iff.1 ha
    refine ⟨index.assemblies.take p.assembly, a, index.assemblies.drop (p.assembly + 1), ?_, hs, ?_⟩
    · rw [← hget, List.getElem_cons_drop, List.take_append_drop]
    · -- An earlier assembly with the type would have a lower place.
      intro b hb
      obtain ⟨j, hj⟩ := List.getElem?_of_mem hb
      rw [List.getElem?_take, Option.ite_none_right_eq_some] at hj
      by_contra hsome
      obtain ⟨r, hr⟩ := Option.ne_none_iff_exists'.1 hsome
      obtain ⟨q, hq, hqj⟩ := exists_place hj.2 hr
      have hle := hleast q hq
      omega

/-- The first place in an assembly of a name leads to the type that the assembly has. -/
theorem find?_isIn_bind_typeSymbolAt?
    (hnames : index.assemblies.Pairwise fun a b => Text.eqIgnoreCase a.name b.name = false)
    (htypes : ∀ a ∈ index.assemblies, (a.types.map (·.fullName)).Nodup) (name : String) :
    ((index.table.places n).find? (index.isIn name)).bind (typeSymbolAt? index.assemblies) =
      (index.assemblies.find? (·.isNamed name)).bind (Catalog.typeIn? · n) := by
  cases hfind : (index.table.places n).find? (index.isIn name) with
  | none =>
    symm
    rw [Option.bind_none, Option.bind_eq_none_iff]
    intro a ha
    by_contra hsome
    obtain ⟨s, hs⟩ := Option.ne_none_iff_exists'.1 hsome
    obtain ⟨i, hi⟩ := List.getElem?_of_mem (List.mem_of_find?_eq_some ha)
    obtain ⟨p, hp, rfl⟩ := exists_place hi hs
    have hnot := List.find?_eq_none.1 hfind p hp
    have hnamed := List.find?_some ha
    rw [isIn, hi] at hnot
    exact hnot hnamed
  | some p =>
    obtain ⟨a, s, ha, hsym, hs⟩ := exists_typeSymbolAt? htypes (List.mem_of_find?_eq_some hfind)
    have hnamed : a.isNamed name = true := by
      have hin := List.find?_some hfind
      rwa [isIn, ha] at hin
    -- No other assembly has the name, so the scan stops at this one.
    have hmem := List.mem_of_getElem? ha
    obtain ⟨b, hb⟩ : ∃ b, index.assemblies.find? (·.isNamed name) = some b :=
      Option.isSome_iff_exists.1 (List.find?_isSome.2 ⟨a, hmem, hnamed⟩)
    have hbnamed := List.find?_some hb
    obtain rfl : b = a := eq_of_isNamed hnames (List.mem_of_find?_eq_some hb) hmem hbnamed hnamed
    rw [hb, Option.bind_some, Option.bind_some, hsym, hs]

/-- **The table and the scan find the same type**, for a preferred name without white space around
it. -/
theorem resolveType?_eq_scanType?
    (hnames : index.assemblies.Pairwise fun a b => Text.eqIgnoreCase a.name b.name = false)
    (htypes : ∀ a ∈ index.assemblies, (a.types.map (·.fullName)).Nodup) (n : String)
    {preferred : Option String} (htidy : ∀ name ∈ preferred, Text.trim name = name) :
    index.resolveType? n preferred = Catalog.scanType? index.assemblies n preferred := by
  have hfavourite : (preferred.bind fun name => (index.table.places n).find? (index.isIn name)).bind
      (typeSymbolAt? index.assemblies) = (preferred.bind fun name =>
        index.assemblies.find? (·.isNamed (Text.trim name))).bind (Catalog.typeIn? · n) := by
    cases preferred with
    | none => rfl
    | some name =>
      simp only [Option.bind_some, htidy name rfl]
      exact find?_isIn_bind_typeSymbolAt? hnames htypes name
  rw [Catalog.scanType?, ← hfavourite, ← lowest?_bind_typeSymbolAt? htypes, resolveType?, placeOf?]
  cases hfav : preferred.bind fun name => (index.table.places n).find? (index.isIn name) with
  | none => rfl
  | some p =>
    -- The favourite place holds a symbol, so neither side goes on to the lowest.
    obtain ⟨name, -, hfind⟩ := Option.bind_eq_some_iff.1 hfav
    obtain ⟨a, s, -, hsym, -⟩ := exists_typeSymbolAt? htypes (List.mem_of_find?_eq_some hfind)
    simp [hsym]

end TypeIndex

end AssemblyAtlas
