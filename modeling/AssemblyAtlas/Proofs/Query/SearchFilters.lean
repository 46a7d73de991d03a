import AssemblyAtlas.Proofs.Analysis.LoadOrder
import AssemblyAtlas.Proofs.Catalog.Occurrences
import AssemblyAtlas.Query.Command
import Mathlib.Data.List.Count

/-!
# Confined searches

A search can be confined to a kind of symbol and to an assembly. Both can as well be applied to what
a search without them finds, and that is one symbol for each occurrence of a declared type, method,
field or property whose full name is accepted (`Catalog.searchSymbols_confined`). None is lost or
doubled in nested types, among overloaded methods or between assemblies of the same name.
-/

namespace AssemblyAtlas

/-- The symbol is of the kind and in the assembly that a search is confined to. -/
def SymbolMatch.isWithin (m : SymbolMatch) (kind : Option SymbolKind) (assembly : Option String) :
    Bool :=
  kind.all (· == m.kind) && assembly.all fun name => Text.eqIgnoreCase m.assembly (Text.trim name)

namespace Catalog

/-- Confining the types to some assemblies confines the symbols to them. -/
theorem flatMap_symbolsOf_filter (inside : String → Bool) (ts : List TypeSymbol) :
    (ts.filter fun s => inside s.assembly.name).flatMap symbolsOf =
      (ts.flatMap symbolsOf).filter fun m => inside m.assembly := by
  induction ts with
  | nil => rfl
  | cons s ts ih =>
    have hsame : ∀ m ∈ symbolsOf s, inside m.assembly = inside s.assembly.name := by
      intro m hm
      obtain ⟨d, -, rfl⟩ := List.mem_map.1 hm
      rfl
    rw [List.flatMap_cons, List.filter_append, ← ih, List.filter_congr hsame, List.filter_cons]
    by_cases h : inside s.assembly.name = true <;> simp [h]

/-- Without confinement, a search is a selection of the declared symbols. -/
theorem searchSymbols_none (c : Catalog) (accepts : String → Bool) :
    c.searchSymbols accepts none none =
      sortedBy SymbolMatch.compare ((c.types.flatMap symbolsOf).filter (accepts ·.fullName)) := by
  simp [searchSymbols]

/-- A confined search finds the part of what the same search finds anywhere. -/
theorem searchSymbols_eq_filter (c : Catalog) (accepts : String → Bool) (kind : Option SymbolKind)
    (assembly : Option String) :
    c.searchSymbols accepts kind assembly =
      (c.searchSymbols accepts none none).filter (·.isWithin kind assembly) := by
  let inside (name : String) : Bool :=
    assembly.all fun asked => Text.eqIgnoreCase name (Text.trim asked)
  have htypes := flatMap_symbolsOf_filter inside c.types
  rw [searchSymbols_none, filter_sortedBy, List.filter_filter]
  unfold searchSymbols
  refine congrArg (sortedBy SymbolMatch.compare) ?_
  rw [show (fun s : TypeSymbol => assembly.all fun name => s.assembly.isNamed (Text.trim name)) =
    fun s => inside s.assembly.name from rfl, htypes, List.filter_filter]
  refine List.filter_congr fun m _ => ?_
  simp only [SymbolMatch.isWithin, inside]
  ac_rfl

theorem count_filter_kind (k : SymbolKind) (m : SymbolMatch) (ms : List SymbolMatch) :
    (ms.filter (·.isWithin (some k) none)).count m = if k = m.kind then ms.count m else 0 := by
  split
  · next h => exact List.count_filter (by simp [SymbolMatch.isWithin, h])
  · next h =>
    rw [List.count_eq_zero, List.mem_filter]
    rintro ⟨-, hm⟩
    simp [SymbolMatch.isWithin, h] at hm

/-- Each symbol is of one of the four kinds. -/
theorem flatMap_filter_kind_perm (ms : List SymbolMatch) :
    ([.type, .method, .field, .property].flatMap fun k => ms.filter (·.isWithin (some k) none)).Perm
      ms := by
  rw [List.perm_iff_count]
  intro m
  simp only [List.flatMap_cons, List.flatMap_nil, List.append_nil, List.count_append,
    count_filter_kind]
  cases m.kind <;> simp

/-- A search for symbols of one kind finds a part of what it finds of any kind. -/
theorem searchSymbols_kind (c : Catalog) (accepts : String → Bool) (k : SymbolKind)
    (assembly : Option String) :
    c.searchSymbols accepts (some k) assembly =
      (c.searchSymbols accepts none assembly).filter (·.isWithin (some k) none) := by
  rw [c.searchSymbols_eq_filter accepts (some k), c.searchSymbols_eq_filter accepts none assembly,
    List.filter_filter]
  refine List.filter_congr fun m _ => ?_
  simp [SymbolMatch.isWithin]

/-- **Filters commute with search.** A query with a pattern is a search with what the pattern
accepts. For whatever is accepted: a search that is confined to a kind, an assembly or both finds
exactly the symbols of this kind and this assembly that the search without confinement finds, in the
same order. What is found of the four kinds is together what is found of any kind. And a search
without confinement finds one symbol for each occurrence of a declared symbol whose full name is
accepted. -/
theorem searchSymbols_confined (c : Catalog) (accepts : String → Bool) :
    (∀ pattern kind assembly, Query.searchSymbols c pattern kind assembly =
      (Pattern.compile pattern).map fun p => c.searchSymbols p.accepts kind assembly) ∧
    (∀ kind assembly, c.searchSymbols accepts kind assembly =
      (c.searchSymbols accepts none none).filter (·.isWithin kind assembly)) ∧
    (∀ assembly, ([.type, .method, .field, .property].flatMap fun k =>
      c.searchSymbols accepts (some k) assembly).Perm (c.searchSymbols accepts none assembly)) ∧
    OneForEach (fun o : Occurrence => (o.symbol? c.assemblies).filter (accepts ·.fullName))
      (c.searchSymbols accepts none none) := by
  refine ⟨fun pattern kind assembly => ?_, c.searchSymbols_eq_filter accepts,
    fun assembly => ?_, ?_⟩
  · rw [Query.searchSymbols]
    cases Pattern.compile pattern <;> rfl
  · simp only [searchSymbols_kind]
    exact flatMap_filter_kind_perm _
  · rw [searchSymbols_none]
    exact (c.oneForEach_symbols.filter _).perm (sortedBy_perm _ _).symm

end Catalog

end AssemblyAtlas
