import AssemblyAtlas.Catalog.Basic

/-!
# Hierarchies

What a type derives from and implements, and which types derive from it and implement it.
-/

namespace AssemblyAtlas

/-- A type by its name and the name of its assembly. -/
structure TypeLocation where
  /-- The full name of the type. -/
  fullName : String
  /-- The name of the assembly that declares it. -/
  assembly : String
deriving DecidableEq, Repr

/-- The order of presentation: by assembly and full name. -/
def TypeLocation.compare : TypeLocation → TypeLocation → Ordering :=
  compareLex (compareOn (·.assembly)) (compareOn (·.fullName))

/-- The location of a type. -/
def TypeSymbol.location (s : TypeSymbol) : TypeLocation :=
  ⟨s.fullName, s.assembly.name⟩

/-- The place of a type among others. -/
structure Hierarchy where
  /-- The full name of the type. -/
  fullName : String
  /-- The name of the assembly that declares it. -/
  assembly : String
  /-- The full names of its base type, the base type of that, and so on. -/
  baseChain : List String
  /-- The full names of the interfaces it names. -/
  interfaces : List String
  /-- The types that derive from it directly. -/
  derivedTypes : List TypeLocation
  /-- The types that name it as an interface. -/
  implementors : List TypeLocation
deriving DecidableEq, Repr

namespace Catalog

/-- The names of the base types from a type on, up to the first that was seen or is not found. At
most `fuel` names are returned. -/
def baseChainFrom (c : Catalog) : (fuel : Nat) → TypeSymbol → (seen : List String) → List String
  | 0, _, _ => []
  | fuel + 1, s, seen =>
    match s.type.baseType with
    | none => []
    | some base =>
      if seen.contains base.fullName then []
      else base.fullName ::
        match c.resolveSig? base s.assembly.name with
        | none => []
        | some next => c.baseChainFrom fuel next (base.fullName :: seen)

/-- The names of the base types of a type. The chain ends with the first type that is not found
and before the first repetition. Every name but the last is that of a declared type and none is
repeated, so there are no more names than declared types. -/
def baseChain (c : Catalog) (target : TypeSymbol) : List String :=
  c.baseChainFrom (c.types.length + 1) target [target.fullName]

/-- The types that derive from a type directly; a type does not derive from itself. -/
def derivedTypes (c : Catalog) (target : TypeSymbol) : List TypeLocation :=
  sortedBy TypeLocation.compare ((c.types.filter fun s =>
    s.fullName != target.fullName &&
      s.type.baseType.any (·.fullName == target.fullName)).map (·.location))

/-- The types that name a type as an interface. -/
def implementors (c : Catalog) (target : TypeSymbol) : List TypeLocation :=
  sortedBy TypeLocation.compare ((c.types.filter fun s =>
    s.type.interfaces.any (·.fullName == target.fullName)).map (·.location))

/-- The place of a type among others. -/
def hierarchy (c : Catalog) (target : TypeSymbol) : Hierarchy :=
  { fullName := target.fullName
    assembly := target.assembly.name
    baseChain := c.baseChain target
    interfaces := target.type.interfaces.map (·.fullName)
    derivedTypes := c.derivedTypes target
    implementors := c.implementors target }

end Catalog

end AssemblyAtlas
