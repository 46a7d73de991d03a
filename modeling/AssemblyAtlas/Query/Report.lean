import AssemblyAtlas.Analysis.CallGraph
import AssemblyAtlas.Analysis.DeadCode
import AssemblyAtlas.Analysis.Dependency
import AssemblyAtlas.Analysis.Hierarchy
import AssemblyAtlas.Analysis.Usage
import AssemblyAtlas.Paging.Page

/-!
# Reports

The answers to queries: what was asked about, and the result or one page of it.
-/

namespace AssemblyAtlas

/-- The usages of a member. -/
structure UsageReport where
  /-- The full name of the member. -/
  target : String
  /-- The name of the assembly that declares it. -/
  assembly : String
  /-- How it is used. -/
  kind : UsageKind
  /-- A page of the usages. -/
  page : Page Usage

/-- The references to a type. -/
structure ReferenceReport where
  /-- The full name of the type. -/
  target : String
  /-- The name of the assembly that declares it. -/
  assembly : String
  /-- The number of references in each context that has any. -/
  byContext : List (ReferenceContext × Nat)
  /-- A page of the references. -/
  page : Page Reference

/-- The call graph of a method. -/
structure CallGraphReport where
  /-- The full name of the method. -/
  root : String
  /-- The depth of the graph. -/
  maxDepth : Nat
  /-- The graph. -/
  graph : CallNode

/-- The dependency paths from one type to another. -/
structure PathReport where
  /-- The full name of the first type. -/
  source : String
  /-- The name of the assembly that declares it. -/
  sourceAssembly : String
  /-- The full name of the last type. -/
  target : String
  /-- The name of the assembly that declares it. -/
  targetAssembly : String
  /-- The greatest length of a path. -/
  maxLength : Nat
  /-- A page of the paths. -/
  page : Page (List String)

/-- A dead type or method. -/
structure DeadSymbol where
  /-- The kind of symbol. -/
  kind : SymbolKind
  /-- Its full name. -/
  fullName : String
deriving DecidableEq, Repr

/-- The dead symbols of an assembly, types first. -/
def DeadCode.symbols (d : DeadCode) : List DeadSymbol :=
  d.types.map (⟨.type, ·⟩) ++ d.methods.map (⟨.method, ·⟩)

/-- The dead code of an assembly. -/
structure DeadCodeReport where
  /-- The dead code. -/
  deadCode : DeadCode
  /-- A page of the dead symbols. -/
  page : Page DeadSymbol

/-- The symbols that a pattern matches. -/
structure SearchReport where
  /-- The pattern as it was given. -/
  pattern : String
  /-- A page of the symbols. -/
  page : Page SymbolMatch

end AssemblyAtlas
