import AssemblyAtlas.Analysis.Search
import AssemblyAtlas.Pattern.Basic
import AssemblyAtlas.Query.Report
import AssemblyAtlas.Query.Resolve
import AssemblyAtlas.Settings

/-!
# Queries

The queries of a caller over a catalog: names are resolved, limits applied, and lists returned page
by page. The token of a page is checked before any name.
-/

namespace AssemblyAtlas.Query

variable (c : Catalog) (settings : Settings)

/-- The usages of a member as a report. -/
def usageReport (target assembly : String) (kind : UsageKind) (usages : List Usage)
    (request : PageRequest) : UsageReport :=
  { target, assembly, kind, page := .of (Usage.sort usages) request }

/-- The calls of a method. -/
def callers (q : SymbolQuery) (cursor : Option String) : Except Error UsageReport := do
  let request ← PageRequest.ofToken cursor settings.pageSize
  let target ← method c q
  return usageReport target.fullName target.assembly.name .call (c.callers target) request

/-- The reads of a field. -/
def readers (q : SymbolQuery) (cursor : Option String) : Except Error UsageReport := do
  let request ← PageRequest.ofToken cursor settings.pageSize
  let target ← field c q
  return usageReport target.fullName target.assembly.name .read (c.readers target) request

/-- The writes of a field. -/
def writers (q : SymbolQuery) (cursor : Option String) : Except Error UsageReport := do
  let request ← PageRequest.ofToken cursor settings.pageSize
  let target ← field c q
  return usageReport target.fullName target.assembly.name .write (c.writers target) request

/-- The references to a type, and their number in each context. -/
def references (q : SymbolQuery) (cursor : Option String) : Except Error ReferenceReport := do
  let request ← PageRequest.ofToken cursor settings.pageSize
  let target ← type c q
  let found := Reference.sort (c.references target)
  return {
    target := target.fullName
    assembly := target.assembly.name
    byContext := (Reference.groups found).map fun g => (g.context, g.count)
    page := .of found request }

/-- The call graph of a method. -/
def callGraph (q : SymbolQuery) (maxDepth : Option Int) : Except Error CallGraphReport := do
  let maxDepth := (maxDepth.map (Limits.clampDepth · Limits.maxCallDepth)).getD settings.callDepth
  let root ← method c q
  return { root := root.fullName, maxDepth, graph := c.callGraph root maxDepth }

/-- The dependency paths from one type to another. -/
def dependencyPaths (source target : SymbolQuery) (maxLength : Option Int)
    (cursor : Option String) : Except Error PathReport := do
  let request ← PageRequest.ofToken cursor settings.pageSize
  let maxLength :=
    (maxLength.map (Limits.clampPathLength · Limits.maxPathLength)).getD settings.pathLength
  let source ← type c source
  let target ← type c target
  return {
    source := source.fullName
    sourceAssembly := source.assembly.name
    target := target.fullName
    targetAssembly := target.assembly.name
    maxLength
    page := .of (c.dependencyPaths source target maxLength) request }

/-- The dependencies between assemblies, or those of one assembly. -/
def assemblyDependencies (name : Option String) : Except Error (List (String × List String)) := do
  let matrix := c.assemblyDependencies
  match name with
  | none => return matrix
  | some name =>
    let wanted ← assembly c name
    return matrix.filter (·.1 == wanted.name)

/-- The dead code of an assembly. -/
def deadCode (name : String) (includePrivate : Option Bool) (cursor : Option String) :
    Except Error DeadCodeReport := do
  let request ← PageRequest.ofToken cursor settings.pageSize
  let a ← assembly c name
  let dead := a.deadCode (includePrivate.getD settings.includePrivate)
  return { deadCode := dead, page := .of dead.symbols request }

/-- The hierarchy of a type. -/
def hierarchy (q : SymbolQuery) : Except Error Hierarchy := do
  let target ← type c q
  return c.hierarchy target

/-- The kind of symbol to search for; none for the empty text and for `any`. -/
def kindFilter (kind : Option String) : Except Error (Option SymbolKind) :=
  match kind.map Text.trim with
  | none | some "" | some "any" => return none
  | some raw => match SymbolKind.ofText? raw with
    | some k => return some k
    | none => throw (.argument (.unknownKind raw))

/-- The symbols whose full name matches a pattern. -/
def searchSymbols (pattern : String) (kind : Option SymbolKind) (assembly : Option String) :
    Except Error (List SymbolMatch) := do
  let p ← Pattern.compile pattern
  return c.searchSymbols p.accepts kind assembly

/-- The symbols whose full name matches a pattern, page by page. -/
def search (pattern : String) (kind name : Option String) (cursor : Option String) :
    Except Error SearchReport := do
  let request ← PageRequest.ofToken cursor settings.pageSize
  let kind ← kindFilter kind
  let scope ← scope c name
  let found ← searchSymbols c pattern kind (scope.map (·.name))
  return { pattern, page := .of found request }

end AssemblyAtlas.Query
