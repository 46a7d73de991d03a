import AssemblyAtlas.Metadata.Member
import AssemblyAtlas.Text.Split

/-!
# Types, modules and assemblies

An assembly is a list of modules, a module a list of types, and a type can hold nested types.
`Assembly.types` lists all of them in order of declaration, a type before those nested in it.
-/

namespace AssemblyAtlas

/-- What a type declares, but for the types nested in it. -/
structure TypeInfo where
  /-- The full name: namespace, enclosing types and simple name. -/
  fullName : String
  /-- Who may use the type. -/
  visibility : Visibility := default
  /-- Its values are copied. -/
  isValueType : Bool := false
  /-- It has no instances of its own. -/
  isAbstract : Bool := false
  /-- No type derives from it. -/
  isSealed : Bool := false
  /-- It is an interface. -/
  isInterface : Bool := false
  /-- It is an enumeration. -/
  isEnum : Bool := false
  /-- The type it derives from. -/
  baseType : Option TypeSig := none
  /-- The interfaces it implements. -/
  interfaces : List TypeSig := []
  /-- Its fields. -/
  fields : List Field := []
  /-- Its methods. -/
  methods : List Method := []
  /-- Its properties. -/
  properties : List Property := []
deriving DecidableEq, Repr

/-- A type with the types nested in it. -/
structure TypeDef extends TypeInfo where
  /-- The types nested in it. -/
  nested : List TypeDef := []
deriving Repr

namespace TypeDef

/-- The simple name: what follows the last separator of namespaces or nested types. -/
def name (t : TypeDef) : String :=
  Text.afterLast (fun c => c == '.' || c == '+' || c == '/') t.fullName

/-- The namespace: what precedes the last dot. -/
def namespaceName (t : TypeDef) : String :=
  Text.beforeLast '.' t.fullName

mutual
/-- The type and all types nested in it, each before its own nested types. -/
def withNested : TypeDef → List TypeDef
  | ⟨info, nested⟩ => ⟨info, nested⟩ :: allWithNested nested
/-- The types of a list and all types nested in them. -/
def allWithNested : List TypeDef → List TypeDef
  | [] => []
  | t :: ts => withNested t ++ allWithNested ts
end

/-- A type that everyone may use. -/
def named (fullName : String) : TypeDef :=
  { fullName, visibility := .everyone }

/-- An interface that everyone may use. -/
def interfaceNamed (fullName : String) : TypeDef :=
  { named fullName with isInterface := true, isAbstract := true }

end TypeDef

/-- A module of an assembly. -/
structure Module where
  /-- The name of the module. -/
  name : String
  /-- Its types, without those nested in others. -/
  types : List TypeDef := []
deriving Repr

/-- An assembly. -/
structure Assembly where
  /-- The name of the assembly. -/
  name : String
  /-- Its version. -/
  version : String := "0.0.0.0"
  /-- Its culture, unless it is neutral. -/
  culture : Option String := none
  /-- The token of the key it was signed with, if it was. -/
  publicKeyToken : Option String := none
  /-- Its modules. -/
  modules : List Module := []
deriving Repr

namespace Assembly

/-- All types of the assembly, nested ones included, in order of declaration. -/
def types (a : Assembly) : List TypeDef :=
  a.modules.flatMap fun m => TypeDef.allWithNested m.types

/-- The full identity: `Name, Version=1.0.0.0, Culture=neutral, PublicKeyToken=null`. -/
def displayName (a : Assembly) : String :=
  a.name ++ ", Version=" ++ a.version ++ ", Culture=" ++ a.culture.getD "neutral" ++
    ", PublicKeyToken=" ++ a.publicKeyToken.getD "null"

/-- The assembly has the name, but for the case of ASCII letters. -/
def isNamed (a : Assembly) (name : String) : Bool :=
  Text.eqIgnoreCase a.name name

/-- An assembly with a single module named after it. -/
def ofTypes (name : String) (types : List TypeDef) : Assembly :=
  { name, modules := [{ name := name ++ ".dll", types }] }

end Assembly

end AssemblyAtlas
