import AssemblyAtlas.Catalog.Basic

/-!
# Search

The declared symbols whose full name satisfies a predicate. A search can be confined to one kind
of symbol and to one assembly.
-/

namespace AssemblyAtlas

namespace Catalog

/-- The symbols that a type declares. -/
def symbolsOf (s : TypeSymbol) : List SymbolMatch :=
  s.type.declarations.map fun d => ⟨d.kind, d.fullName, s.assembly.name⟩

/-- The symbols whose full name satisfies `accepts`, in the order of presentation. -/
def searchSymbols (c : Catalog) (accepts : String → Bool) (kind : Option SymbolKind)
    (assembly : Option String) : List SymbolMatch :=
  let types := c.types.filter fun s => assembly.all fun name => s.assembly.isNamed (Text.trim name)
  sortedBy SymbolMatch.compare ((types.flatMap symbolsOf).filter fun m =>
    kind.all (· == m.kind) && accepts m.fullName)

end Catalog

end AssemblyAtlas
