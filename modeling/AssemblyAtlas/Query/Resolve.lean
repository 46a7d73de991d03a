import AssemblyAtlas.Catalog.Basic
import AssemblyAtlas.Error
import AssemblyAtlas.Limits

/-!
# Names in queries

A caller names a symbol by its full or simple name and can confine the search to one assembly.
Names are trimmed and cut first. A member is named `Type.Member`; where several dots can divide
the two, the last is tried first, so that member names which start with a dot are found too.
-/

namespace AssemblyAtlas

/-- A symbol as a caller names it. -/
structure SymbolQuery where
  /-- The name of the symbol. -/
  name : String
  /-- The assembly to look in; all of them if absent. -/
  assembly : Option String := none
deriving DecidableEq, Repr

namespace Query

/-- The name trimmed and cut; it must not be empty. -/
def normalizeName (name : String) : Except Error String :=
  let name := Limits.normalize name
  if name.isEmpty then .error (.argument .emptyName) else .ok name

/-- The assembly with the given name. -/
def assembly (c : Catalog) (name : String) : Except Error Assembly := do
  let name ← normalizeName name
  match c.findAssemblyLoose? name with
  | some a => return a
  | none => throw (.notFound .assembly name)

/-- The assembly that a query is confined to, if it is. -/
def scope (c : Catalog) : Option String → Except Error (Option Assembly)
  | none => return none
  | some name => return some (← assembly c name)

/-- The best match for a type name in one assembly. -/
def looseTypeIn? (a : Assembly) (name : String) : Option TypeSymbol :=
  (a.findLoose? name).map fun type => { assembly := a, type }

/-- The best match for a type name. Without a scope an exact full name in any assembly comes before
a looser match. -/
def lookupType? (c : Catalog) (scope : Option Assembly) (name : String) : Option TypeSymbol :=
  match scope with
  | some a => looseTypeIn? a name
  | none => (c.resolveType? name none).or (c.assemblies.findSome? (looseTypeIn? · name))

/-- The type that a query names. -/
def type (c : Catalog) (q : SymbolQuery) : Except Error TypeSymbol := do
  let scope ← scope c q.assembly
  let name ← normalizeName q.name
  match lookupType? c scope name with
  | some s => return s
  | none => throw (.notFound .type name)

/-- The first member that `pick` finds when the name is divided into type and member. -/
def pickMember? {α : Type} (c : Catalog) (scope : Option Assembly) (name : String)
    (pick : TypeSymbol → String → Option α) : Option α :=
  (Text.cutsFromRight '.' name.toList).findSome? fun (type, member) =>
    if type.isEmpty || member.isEmpty then none
    else (lookupType? c scope (String.ofList type)).bind (pick · (String.ofList member))

/-- The member that a query names. -/
def member {α : Type} (c : Catalog) (q : SymbolQuery) (sought : Sought)
    (pick : TypeSymbol → String → Option α) : Except Error α := do
  let scope ← scope c q.assembly
  let name ← normalizeName q.name
  match pickMember? c scope name pick with
  | some found => return found
  | none => throw (.notFound sought name)

/-- The name before a list of parameter types in parentheses, and the list. -/
def splitSignature (name : String) : String × Option (List String) :=
  let cs := name.toList
  match cs.dropWhile (· != '('), cs.getLast? with
  | _ :: inner, some ')' =>
    let parameters := (Text.splitAt ',' inner.dropLast).map fun p => Text.trim (String.ofList p)
    (Text.trimEnd (String.ofList (cs.takeWhile (· != '('))), some (parameters.filter (!·.isEmpty)))
  | _, _ => (name, none)

/-- The method of a type with the given name and, if they are given, parameter types. -/
def methodOf? (parameters : Option (List String)) (s : TypeSymbol) (name : String) :
    Option MethodSymbol :=
  s.methods.find? fun m =>
    m.method.name == name && parameters.all (· == m.method.parameterTypes.map (·.fullName))

/-- The method that a query names, with or without parameter types. Whatever else is wrong with
the query, the method is reported as not found. -/
def method (c : Catalog) (q : SymbolQuery) : Except Error MethodSymbol := do
  let name ← normalizeName q.name
  let (base, parameters) := splitSignature name
  match member c { q with name := base } .method (methodOf? parameters) with
  | .ok m => return m
  | .error _ => throw (.notFound .method name)

/-- The field of a type with the given name. -/
def fieldOf? (s : TypeSymbol) (name : String) : Option FieldSymbol :=
  (s.type.fields.find? (·.name == name)).map fun field => { s with field }

/-- The field that a query names. -/
def field (c : Catalog) (q : SymbolQuery) : Except Error FieldSymbol :=
  member c q .field fieldOf?

end Query

end AssemblyAtlas
