import AssemblyAtlas.Catalog.Symbol
import AssemblyAtlas.Catalog.TypeTable

/-!
# Catalogs

A catalog holds the loaded assemblies and finds types, methods and fields in them. It finds a type
by its full name either by scanning the assemblies or by a table built beforehand.

The two ways differ in which of several types of one name they take. A scan looks for the
preferred assembly by its trimmed name, takes the first assembly of that name, and visits a type
before those nested in it. The table compares the preferred name as it is, considers every
assembly of that name, and has nested types first.
-/

namespace AssemblyAtlas

/-- The type at a place, with its assembly. -/
def typeSymbolAt? (assemblies : List Assembly) (p : Place) : Option TypeSymbol :=
  assemblies[p.assembly]?.bind fun assembly =>
    (assembly.typeAt? p.path).map (TypeSymbol.mk assembly)

/-- Assemblies with a table of their types. -/
structure TypeIndex where
  /-- The assemblies. -/
  assemblies : List Assembly
  /-- The places of their types. -/
  table : TypeTable
  /-- The table is the one built from the assemblies. -/
  table_eq : table = TypeTable.ofAssemblies assemblies

namespace TypeIndex

/-- The index of the given assemblies. -/
def ofAssemblies (assemblies : List Assembly) : TypeIndex :=
  ⟨assemblies, TypeTable.ofAssemblies assemblies, rfl⟩

/-- The first of the places in the assembly with the lowest number. -/
def lowest? : List Place → Option Place
  | [] => none
  | p :: ps => match lowest? ps with
    | none => some p
    | some q => if q.assembly < p.assembly then some q else some p

/-- The assembly at a place has the name, but for the case of ASCII letters. -/
def isIn (index : TypeIndex) (name : String) (p : Place) : Bool :=
  match index.assemblies[p.assembly]? with
  | some a => a.isNamed name
  | none => false

/-- The place of the type with the given full name: in an assembly of the preferred name if there
is one, else in the assembly with the lowest number. -/
def placeOf? (index : TypeIndex) (fullName : String) (preferred : Option String) : Option Place :=
  let places := index.table.places fullName
  (preferred.bind fun name => places.find? (index.isIn name)).or (lowest? places)

/-- The type with the given full name, preferably from the given assembly. -/
def resolveType? (index : TypeIndex) (fullName : String) (preferred : Option String) :
    Option TypeSymbol :=
  (index.placeOf? fullName preferred).bind (typeSymbolAt? index.assemblies)

end TypeIndex

/-- The loaded assemblies, with or without a table of their types. -/
inductive Catalog where
  | scanned (assemblies : List Assembly)
  | indexed (index : TypeIndex)

/-- The type with exactly the given full name. -/
def Assembly.findExact? (a : Assembly) (fullName : String) : Option TypeDef :=
  a.types.find? (·.fullName == fullName)

/-- The type with the given full name; else one with that full name ignoring case; else one with
that simple name ignoring case. -/
def Assembly.findLoose? (a : Assembly) (name : String) : Option TypeDef :=
  ((a.findExact? name).or (a.types.find? fun t => Text.eqIgnoreCase t.fullName name)).or
    (a.types.find? fun t => Text.eqIgnoreCase t.name name)

namespace Catalog

/-- The catalog with a table of the types of the assemblies. -/
def ofAssemblies (assemblies : List Assembly) : Catalog :=
  .indexed (.ofAssemblies assemblies)

/-- The loaded assemblies. -/
def assemblies : Catalog → List Assembly
  | .scanned assemblies => assemblies
  | .indexed index => index.assemblies

/-- The first assembly with the given name, with white space around it. -/
def findAssembly? (c : Catalog) (name : String) : Option Assembly :=
  c.assemblies.find? (·.name == Text.trim name)

/-- The first assembly with the given name ignoring case, with white space around it. -/
def findAssemblyLoose? (c : Catalog) (name : String) : Option Assembly :=
  c.assemblies.find? (·.isNamed (Text.trim name))

/-- The first type with the given full name in an assembly, as a symbol. -/
def typeIn? (a : Assembly) (fullName : String) : Option TypeSymbol :=
  (a.findExact? fullName).map fun type => { assembly := a, type }

/-- Finds a type by scanning: in the first assembly of the preferred name, else in the first
assembly that declares it. -/
def scanType? (assemblies : List Assembly) (fullName : String) (preferred : Option String) :
    Option TypeSymbol :=
  let favourite := preferred.bind fun name => assemblies.find? (·.isNamed (Text.trim name))
  (favourite.bind (typeIn? · fullName)).or (assemblies.findSome? (typeIn? · fullName))

/-- The type with the given full name, preferably from the given assembly. -/
def resolveType? (c : Catalog) (fullName : String) (preferred : Option String) :
    Option TypeSymbol :=
  match c with
  | .scanned assemblies => scanType? assemblies fullName preferred
  | .indexed index => index.resolveType? fullName preferred

/-- The type that a signature in the given assembly names. -/
def resolveSig? (c : Catalog) (s : TypeSig) (fromAssembly : String) : Option TypeSymbol :=
  c.resolveType? s.fullName (some (s.assembly.getD fromAssembly))

/-- The method that a reference in the given assembly names. A reference without parameter types
names the first overload. -/
def resolveMethod? (c : Catalog) (r : MemberRef) (context : Option String) :
    Option MethodSymbol := do
  let owner ← c.resolveType? r.declaringType (r.assembly.or context)
  let method ← owner.type.methods.find? r.targets
  return { owner with method }

/-- The field that a reference in the given assembly names. -/
def resolveField? (c : Catalog) (r : MemberRef) (context : Option String) :
    Option FieldSymbol := do
  let owner ← c.resolveType? r.declaringType (r.assembly.or context)
  let field ← owner.type.fields.find? (·.name == r.name)
  return { owner with field }

/-- The name of the assembly that declares the type of a signature: the one it names, else the one
it is found in. -/
def owner? (c : Catalog) (s : TypeSig) (fromAssembly : String) : Option String :=
  s.assembly.or ((c.resolveType? s.fullName (some fromAssembly)).map (·.assembly.name))

/-- All types of all assemblies, nested ones included. -/
def types (c : Catalog) : List TypeSymbol :=
  c.assemblies.flatMap fun a => a.types.map fun type => { assembly := a, type }

/-- All methods with a body. -/
def bodies (c : Catalog) : List MethodSymbol :=
  (c.types.flatMap (·.methods)).filter (·.method.hasBody)

end Catalog

end AssemblyAtlas
