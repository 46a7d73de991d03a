import AssemblyAtlas.Analysis.Search
import AssemblyAtlas.Proofs.Catalog.TypeTable
import Mathlib.Data.List.Nodup
import Mathlib.Data.List.Perm.Basic
import Mathlib.Data.List.ProdSigma
import Mathlib.Data.Prod.Basic
import Mathlib.Data.Sum.Basic

/-!
# Occurrences of declared symbols

Types of one name can be declared at several places, and a type can have several members of one
name, so a list of symbols is compared with what is declared occurrence by occurrence. `OneForEach`
says that a list has one element for each key that leads to a value; it is closed under the ways in
which lists are made from others. The types of the loaded assemblies are listed one for each place
(`Catalog.oneForEach_types`), and their symbols one for each occurrence
(`Catalog.oneForEach_symbols`).
-/

namespace AssemblyAtlas

/-! ### Lists with one element for each key -/

/-- The list has one element for each key with a value, namely this value, and no others. The order
is left open. -/
def OneForEach {κ α : Type} (value? : κ → Option α) (xs : List α) : Prop :=
  ∃ entries : List (κ × α), entries.Nodup ∧ (∀ k x, (k, x) ∈ entries ↔ value? k = some x) ∧
    (entries.map Prod.snd).Perm xs

section

variable {κ ι α β : Type} {v : κ → Option α} {xs ys : List α}

theorem oneForEach_singleton (x : α) : OneForEach (fun _ : Unit => some x) [x] := by
  refine ⟨[((), x)], List.nodup_singleton _, fun k y => ?_, .refl _⟩
  rw [List.mem_singleton, Prod.mk.injEq, Option.some.injEq, eq_comm (a := y)]
  exact and_iff_right rfl

/-- A list has one element for each of its numbers. -/
theorem oneForEach_getElem? (xs : List α) : OneForEach (fun i : Nat => xs[i]?) xs := by
  refine ⟨xs.zipIdx.map Prod.swap, .of_map Prod.fst ?_, fun i x => ?_, .of_eq ?_⟩
  · rw [List.map_map, show Prod.fst ∘ Prod.swap = Prod.snd from rfl, List.zipIdx_map_snd]
    exact List.nodup_range'
  · rw [List.mem_map_swap, List.mem_zipIdx_iff_getElem?]
  · rw [List.map_map, show Prod.snd ∘ Prod.swap = Prod.fst from rfl, List.zipIdx_map_fst]

namespace OneForEach

theorem perm (h : OneForEach v xs) (hperm : xs.Perm ys) : OneForEach v ys := by
  obtain ⟨entries, hnodup, hmem, hxs⟩ := h
  exact ⟨entries, hnodup, hmem, hxs.trans hperm⟩

/-- The keys are written in another way. -/
theorem rekey (h : OneForEach v xs) {w : ι → Option α} {e : κ → ι} (he : Function.Injective e)
    (hw : ∀ i x, w i = some x ↔ ∃ k, e k = i ∧ v k = some x) : OneForEach w xs := by
  obtain ⟨entries, hnodup, hmem, hxs⟩ := h
  refine ⟨entries.map (Prod.map e id), hnodup.map (he.prodMap Function.injective_id),
    fun i x => ?_, ?_⟩
  · simp only [hw, List.mem_map, Prod.exists, Prod.map_apply, id_eq, Prod.mk.injEq, ← hmem]
    constructor
    · rintro ⟨k, y, hk, rfl, rfl⟩
      exact ⟨k, rfl, hk⟩
    · rintro ⟨k, rfl, hk⟩
      exact ⟨k, x, hk, rfl, rfl⟩
  · rwa [List.map_map, Prod.map_snd', Function.id_comp]

theorem map (h : OneForEach v xs) (f : α → β) : OneForEach (fun k => (v k).map f) (xs.map f) := by
  obtain ⟨entries, hnodup, hmem, hxs⟩ := h
  refine ⟨entries.map (Prod.map id f), hnodup.map_on ?_, fun k y => ?_, ?_⟩
  · -- The key alone tells two entries apart.
    rintro ⟨k, x⟩ hx ⟨k', x'⟩ hx' heq
    obtain rfl : k = k' := congrArg Prod.fst heq
    rw [hmem] at hx hx'
    rw [Option.some.inj (hx.symm.trans hx')]
  · simp only [Option.map_eq_some_iff, List.mem_map, Prod.exists, Prod.map_apply, id_eq,
      Prod.mk.injEq, ← hmem]
    constructor
    · rintro ⟨k, x, hk, rfl, rfl⟩
      exact ⟨x, hk, rfl⟩
    · rintro ⟨x, hk, rfl⟩
      exact ⟨k, x, hk, rfl, rfl⟩
  · rw [List.map_map, Prod.map_snd', ← List.map_map]
    exact hxs.map f

theorem filter (h : OneForEach v xs) (p : α → Bool) :
    OneForEach (fun k => (v k).filter p) (xs.filter p) := by
  obtain ⟨entries, hnodup, hmem, hxs⟩ := h
  refine ⟨entries.filter (p ∘ Prod.snd), hnodup.filter _, fun k x => ?_, ?_⟩
  · rw [List.mem_filter, hmem, Option.filter_eq_some_iff]
    rfl
  · rw [← List.filter_map]
    exact hxs.filter p

/-- Keys of two kinds. -/
theorem append (h : OneForEach v xs) {w : ι → Option α} (hw : OneForEach w ys) :
    OneForEach (Sum.elim v w) (xs ++ ys) := by
  obtain ⟨left, hleft, hmemLeft, hxs⟩ := h
  obtain ⟨right, hright, hmemRight, hys⟩ := hw
  refine ⟨left.map (Prod.map .inl id) ++ right.map (Prod.map .inr id), .append ?_ ?_ ?_, ?_, ?_⟩
  · exact hleft.map (Function.Injective.prodMap Sum.inl_injective Function.injective_id)
  · exact hright.map (Function.Injective.prodMap Sum.inr_injective Function.injective_id)
  · intro e hl hr
    obtain ⟨l, -, rfl⟩ := List.mem_map.1 hl
    obtain ⟨r, -, heq⟩ := List.mem_map.1 hr
    exact Sum.inr_ne_inl (congrArg Prod.fst heq)
  · rintro (k | i) x
    · simp [← hmemLeft]
    · simp [← hmemRight]
  · rw [List.map_append, List.map_map, List.map_map, Prod.map_snd', Prod.map_snd',
      Function.id_comp]
    exact hxs.append hys

/-- Keys in two steps: the first leads to an element, the second on from there. -/
theorem flatMap (h : OneForEach v xs) {w : α → ι → Option β} {f : α → List β}
    (hw : ∀ x ∈ xs, OneForEach (w x) (f x)) :
    OneForEach (fun k : κ × ι => (v k.1).bind (w · k.2)) (xs.flatMap f) := by
  obtain ⟨entries, hnodup, hmem, hxs⟩ := h
  choose! inner hinner hmemInner hperm using hw
  have hvalue : ∀ e ∈ entries, e.2 ∈ xs := fun e he =>
    hxs.subset (List.mem_map_of_mem he)
  let extended (e : κ × α) : List ((κ × ι) × β) := (inner e.2).map (Prod.map (e.1, ·) id)
  refine ⟨entries.flatMap extended, List.nodup_flatMap.2 ⟨fun e he => ?_, ?_⟩, ?_, ?_⟩
  · have hinj : Function.Injective fun i : ι => (e.1, i) := fun i j hij => congrArg Prod.snd hij
    exact (hinner e.2 (hvalue e he)).map (hinj.prodMap Function.injective_id)
  · -- Entries with the same first key would be equal.
    refine hnodup.imp_of_mem fun {e e'} he he' hne r hr hr' => hne ?_
    obtain ⟨i, -, rfl⟩ := List.mem_map.1 hr
    obtain ⟨j, -, heq⟩ := List.mem_map.1 hr'
    have hkey : e'.1 = e.1 := congrArg (·.1.1) heq
    have hval : some e.2 = some e'.2 :=
      ((hmem e.1 e.2).1 he).symm.trans (hkey ▸ (hmem e'.1 e'.2).1 he')
    exact Prod.ext hkey.symm (Option.some.inj hval)
  · rintro ⟨k, i⟩ y
    rw [Option.bind_eq_some_iff, List.mem_flatMap]
    constructor
    · rintro ⟨⟨k, x⟩, he, hr⟩
      obtain ⟨⟨i, y⟩, hy, heq⟩ := List.mem_map.1 hr
      cases heq
      exact ⟨x, (hmem k x).1 he, (hmemInner x (hvalue _ he) i y).1 hy⟩
    · rintro ⟨x, hx, hy⟩
      have he := (hmem k x).2 hx
      exact ⟨(k, x), he, List.mem_map.2 ⟨(i, y), (hmemInner x (hvalue _ he) i y).2 hy, rfl⟩⟩
  · have hlists : ∀ e ∈ entries, ((inner e.2).map Prod.snd).Perm (f e.2) :=
      fun e he => hperm e.2 (hvalue e he)
    simp only [List.map_flatMap, extended, List.map_map, Prod.map_snd', Function.id_comp]
    refine (List.Perm.flatMap_left entries hlists).trans ?_
    rw [← List.flatMap_map Prod.snd f]
    exact hxs.flatMap_right f

end OneForEach

end

/-! ### Types -/

/-- A type with those nested in it: one for each way that leads to a type. -/
theorem TypeDef.oneForEach_withNested (t : TypeDef) : OneForEach t.descend? t.withNested := by
  induction t using nestedInduction with
  | node info nested ih =>
    let way : Unit ⊕ Nat × List Nat → List Nat := Sum.elim (fun _ => []) fun k => k.1 :: k.2
    have hway : Function.Injective way := by
      rintro (_ | _) (_ | _) h <;> simp_all [way, Prod.ext_iff]
    have hself := oneForEach_singleton (TypeDef.mk info nested)
    have hnested := (oneForEach_getElem? nested).flatMap ih
    rw [withNested_mk]
    refine (hself.append hnested).rekey hway fun path u => ?_
    cases path with
    | nil => simp [way, descend?_nil]
    | cons i path => simp [way, descend?_cons]

theorem Assembly.oneForEach_types (a : Assembly) : OneForEach a.typeAt? a.types := by
  let path (k : Nat × Nat × List Nat) : List Nat := k.1 :: k.2.1 :: k.2.2
  have hpath : Function.Injective path := by
    rintro ⟨m, i, way⟩ ⟨m', i', way'⟩ h
    simp_all [path]
  have hmodules := (oneForEach_getElem? a.modules).flatMap fun m _ =>
    (oneForEach_getElem? m.types).flatMap fun t _ => t.oneForEach_withNested
  simp only [types, TypeDef.allWithNested_eq_flatMap]
  refine hmodules.rekey hpath fun p u => ?_
  simp only [typeAt?_eq_some_iff, Prod.exists, path, Option.bind_eq_some_iff]
  constructor
  · rintro ⟨m, i, way, module, type, rfl, hm, ht, hu⟩
    exact ⟨m, i, way, rfl, module, hm, type, ht, hu⟩
  · rintro ⟨m, i, way, rfl, module, hm, type, ht, hu⟩
    exact ⟨m, i, way, module, type, rfl, hm, ht, hu⟩

/-- The types of a catalog: one for each place at which there is a type. -/
theorem Catalog.oneForEach_types (c : Catalog) :
    OneForEach (typeSymbolAt? c.assemblies) c.types := by
  let place (k : Nat × List Nat) : Place := ⟨k.1, k.2⟩
  have hplace : Function.Injective place := by
    rintro ⟨i, path⟩ ⟨i', path'⟩ h
    simp_all [place]
  have hassemblies := (oneForEach_getElem? c.assemblies).flatMap fun a _ =>
    a.oneForEach_types.map (TypeSymbol.mk a)
  refine hassemblies.rekey hplace fun p s => ⟨fun h => ⟨(p.assembly, p.path), rfl, h⟩, ?_⟩
  rintro ⟨k, rfl, h⟩
  exact h

/-! ### Symbols -/

/-- What is declared in a type: the type itself, and its members by their kinds and numbers. -/
inductive Part where
  | self
  | method (number : Nat)
  | field (number : Nat)
  | property (number : Nat)
deriving DecidableEq, Repr

/-- What a part of a type declares. -/
def TypeDef.declarationAt? (t : TypeDef) : Part → Option Declaration
  | .self => some ⟨.type, t.name, t.fullName⟩
  | .method i => t.methods[i]?.map fun m => ⟨.method, m.name, m.fullNameIn t.fullName⟩
  | .field i => t.fields[i]?.map fun f => ⟨.field, f.name, memberFullName t.fullName f.name⟩
  | .property i =>
    t.properties[i]?.map fun p => ⟨.property, p.name, memberFullName t.fullName p.name⟩

/-- The declarations of a type: one for each of its parts. -/
theorem TypeDef.oneForEach_declarations (t : TypeDef) :
    OneForEach t.declarationAt? t.declarations := by
  let part : ((Unit ⊕ Nat) ⊕ Nat) ⊕ Nat → Part :=
    Sum.elim (Sum.elim (Sum.elim (fun _ => .self) .method) .field) .property
  have hpart : Function.Injective part := by
    rintro (((_ | _) | _) | _) (((_ | _) | _) | _) h <;> simp_all [part]
  have hself := oneForEach_singleton (Declaration.mk .type t.name t.fullName)
  have hmethods := (oneForEach_getElem? t.methods).map fun m =>
    Declaration.mk .method m.name (m.fullNameIn t.fullName)
  have hfields := (oneForEach_getElem? t.fields).map fun f =>
    Declaration.mk .field f.name (memberFullName t.fullName f.name)
  have hproperties := (oneForEach_getElem? t.properties).map fun p =>
    Declaration.mk .property p.name (memberFullName t.fullName p.name)
  refine (((hself.append hmethods).append hfields).append hproperties).rekey hpart fun p d => ?_
  cases p <;> simp [part, declarationAt?]

/-- An occurrence of a symbol: a part of the type at a place. -/
structure Occurrence where
  /-- The place of the type. -/
  place : Place
  /-- The part of the type. -/
  part : Part
deriving DecidableEq, Repr

/-- The symbol that occurs there, if any does. -/
def Occurrence.symbol? (as : List Assembly) (o : Occurrence) : Option SymbolMatch :=
  (typeSymbolAt? as o.place).bind fun s =>
    (s.type.declarationAt? o.part).map fun d => ⟨d.kind, d.fullName, s.assembly.name⟩

/-- **The symbols of a catalog are listed one for each occurrence.** -/
theorem Catalog.oneForEach_symbols (c : Catalog) :
    OneForEach (Occurrence.symbol? c.assemblies) (c.types.flatMap symbolsOf) := by
  let occurrence (k : Place × Part) : Occurrence := ⟨k.1, k.2⟩
  have hoccurrence : Function.Injective occurrence := by
    rintro ⟨p, part⟩ ⟨p', part'⟩ h
    simp_all [occurrence]
  have hsymbols := c.oneForEach_types.flatMap fun s _ =>
    s.type.oneForEach_declarations.map fun d => SymbolMatch.mk d.kind d.fullName s.assembly.name
  refine hsymbols.rekey hoccurrence fun o m => ⟨fun h => ⟨(o.place, o.part), rfl, h⟩, ?_⟩
  rintro ⟨k, rfl, h⟩
  exact h

end AssemblyAtlas
