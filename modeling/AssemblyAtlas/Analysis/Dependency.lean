import AssemblyAtlas.Analysis.Reference

/-!
# Dependencies

A type depends on the types that its signatures name. `Catalog.dependencyPaths` finds the ways
from one type to another along dependencies, and `Catalog.assemblyDependencies` says which
assemblies name types of which others.
-/

namespace AssemblyAtlas

/-- The signatures with the first of each name kept. -/
def TypeSig.firstOfEachName (sigs : List TypeSig) : List TypeSig :=
  sigs.eraseDupsBy fun s t => s.fullName == t.fullName

/-- The types that a type depends on, each once, in the order in which it names them. -/
def TypeDef.dependencies (t : TypeDef) : List TypeSig :=
  TypeSig.firstOfEachName (t.mentions.map (·.sig))

/-! ### Paths -/

/-- A type reached by the search, with the names on the way to it, its own included. -/
structure Reached where
  /-- The type. -/
  symbol : TypeSymbol
  /-- The names on the way, the source first. -/
  path : List String

/-- The state of the search. -/
structure PathSearch where
  /-- The paths to the target found so far. -/
  found : List (List String)
  /-- The types reached whose dependencies have not been followed, in the order in which they were
  reached. -/
  queue : List Reached
  /-- The names of all types reached so far. -/
  visited : List String

/-- The search from a type, before it takes any. -/
def PathSearch.start (source : TypeSymbol) : PathSearch :=
  { found := []
    queue := [⟨source, [source.fullName]⟩]
    visited := [source.fullName] }

namespace Catalog

/-- Follows one dependency of a reached type. The target is never marked as visited, so that each
type that depends on it gives a path. -/
def follow (c : Catalog) (target : String) (here : Reached) (s : PathSearch) (dep : TypeSig) :
    PathSearch :=
  if dep.fullName == target then { s with found := s.found ++ [here.path ++ [target]] }
  else if s.visited.contains dep.fullName then s
  else match c.resolveSig? dep here.symbol.assembly.name with
    | none => s
    | some symbol =>
      { s with
        queue := s.queue ++ [⟨symbol, here.path ++ [dep.fullName]⟩]
        visited := dep.fullName :: s.visited }

/-- Follows all dependencies of a reached type. -/
def followEach (c : Catalog) (target : String) (s : PathSearch) (here : Reached) : PathSearch :=
  here.symbol.type.dependencies.foldl (c.follow target here) s

/-- Takes types from the front of the queue until it is empty, at most `fuel` of them. The paths by
way of a type have as many dependencies as there are names on the way to it; where these are more
than `maxLength`, the type is passed over. -/
def runQueue (c : Catalog) (target : String) (maxLength : Nat) : (fuel : Nat) → PathSearch →
    PathSearch
  | 0, s => s
  | fuel + 1, s =>
    match s.queue with
    | [] => s
    | here :: queue =>
      let rest := { s with queue }
      c.runQueue target maxLength fuel
        (if maxLength < here.path.length then rest else c.followEach target rest here)

/-- The paths from one type to another with at most `maxLength` dependencies, shortest first. Each
type in between is followed once, on the first way that reaches it. From a type to itself there is
the path of no dependency alone. Besides the source, what enters the queue are declared types of
different names, so that the queue is empty after one turn for each declared type and one more. -/
def dependencyPaths (c : Catalog) (source target : TypeSymbol) (maxLength : Nat) :
    List (List String) :=
  if source.fullName == target.fullName then [[source.fullName]]
  else
    (c.runQueue target.fullName maxLength (c.types.length + 1) (.start source)).found

/-! ### Assemblies -/

/-- The names of the other assemblies whose types an assembly names. -/
def foreignOwners (c : Catalog) (a : Assembly) : List String :=
  (a.types.flatMap fun t => t.mentions.filterMap fun m => c.owner? m.sig a.name).filter
    fun owner => !Text.eqIgnoreCase owner a.name

/-- For the name of each loaded assembly the names of the assemblies it depends on; all in order
and without repetition. Assemblies of one name share a row. -/
def assemblyDependencies (c : Catalog) : List (String × List String) :=
  (distinctSorted (c.assemblies.map (·.name))).map fun name =>
    (name, distinctSorted ((c.assemblies.filter (·.name == name)).flatMap c.foreignOwners))

end Catalog

end AssemblyAtlas
