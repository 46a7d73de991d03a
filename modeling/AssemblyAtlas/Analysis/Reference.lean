import AssemblyAtlas.Catalog.Basic

/-!
# References

Where a type is named in signatures: as a base type, an interface, the type of a field, the result
of a method or the type of a parameter. Names are compared as texts, so that instances of generic
types, arrays and pointers are types of their own.
-/

namespace AssemblyAtlas

/-- Where in a signature a type is named, in the order of presentation. -/
inductive ReferenceContext where
  | baseType
  | interface
  | fieldType
  | returnType
  | parameterType
deriving DecidableEq, Repr, Ord

namespace ReferenceContext

/-- The word for a context. -/
def label : ReferenceContext → String
  | .baseType => "base_type"
  | .interface => "interface"
  | .fieldType => "field_type"
  | .returnType => "return_type"
  | .parameterType => "parameter_type"

/-- All contexts in the order of presentation. -/
def all : List ReferenceContext :=
  [.baseType, .interface, .fieldType, .returnType, .parameterType]

/-- The context with the given name. -/
def ofLabel? (s : String) : Option ReferenceContext :=
  all.find? (·.label == s)

end ReferenceContext

/-- A type named in the signatures of another type. -/
structure Mention where
  /-- Where in the signature it is named. -/
  context : ReferenceContext
  /-- How it is named. -/
  sig : TypeSig
  /-- The full name of the type or member that names it. -/
  location : String
  /-- The name of the parameter, if a parameter names it. -/
  parameter : Option String := none
deriving DecidableEq, Repr

/-- The types that a method names: that of its result, then those of its parameters. -/
def Method.mentions (m : Method) (declaringType : String) : List Mention :=
  let location := m.fullNameIn declaringType
  (m.returnType.toList.map fun sig => { context := .returnType, sig, location }) ++
    m.parameters.map fun p =>
      { context := .parameterType, sig := p.type, location, parameter := some p.name }

/-- The types that a type names in its signatures: its base type, its interfaces, the types of its
fields, and what its methods name. -/
def TypeDef.mentions (t : TypeDef) : List Mention :=
  (t.baseType.toList.map fun sig => { context := .baseType, sig, location := t.fullName }) ++
    (t.interfaces.map fun sig => { context := .interface, sig, location := t.fullName }) ++
    (t.fields.map fun f =>
      { context := .fieldType, sig := f.type, location := memberFullName t.fullName f.name }) ++
    t.methods.flatMap (·.mentions t.fullName)

/-- A reference to a type. -/
structure Reference where
  /-- Where in the signature the type is named. -/
  context : ReferenceContext
  /-- The full name of the type or member that names it. -/
  fromMember : String
  /-- The name of the assembly that declares the type or member. -/
  inAssembly : String
  /-- The name of the parameter, if a parameter names it. -/
  parameter : Option String
deriving DecidableEq, Repr

/-- The references in one context. -/
structure ReferenceGroup where
  /-- Where in the signatures the type is named. -/
  context : ReferenceContext
  /-- The number of references. -/
  count : Nat
  /-- The references in the order of presentation. -/
  references : List Reference
deriving DecidableEq, Repr

namespace Reference

/-- The order of presentation: by assembly, context, member and parameter. -/
def compare : Reference → Reference → Ordering :=
  compareLex (compareOn (·.inAssembly)) (compareLex (compareOn (·.context))
    (compareLex (compareOn (·.fromMember)) (compareOn (·.parameter))))

/-- The references in the order of presentation. -/
def sort (rs : List Reference) : List Reference :=
  sortedBy Reference.compare rs

/-- Adds a reference to the group of its context. The groups stand in the order of their contexts,
and a context without references has none. -/
def enter (r : Reference) :
    List (ReferenceContext × List Reference) → List (ReferenceContext × List Reference)
  | [] => [(r.context, [r])]
  | (context, rs) :: rest =>
    match Ord.compare r.context context with
    | .lt => (r.context, [r]) :: (context, rs) :: rest
    | .eq => (context, rs ++ [r]) :: rest
    | .gt => (context, rs) :: enter r rest

/-- The references by context in the order of presentation, each group sorted and none empty. -/
def groups (rs : List Reference) : List ReferenceGroup :=
  (rs.foldl (fun entered r => r.enter entered) []).map fun (context, group) =>
    { context, count := group.length, references := sort group }

end Reference

/-- The mention is a reference to the type with the given full name, when a type of the name
`inside` makes it. A type is not counted as its own base type. -/
def Mention.refersTo (m : Mention) (fullName inside : String) : Bool :=
  m.sig.fullName == fullName && !(m.context == .baseType && inside == fullName)

/-- The references that a type makes to the type with the given full name. -/
def TypeSymbol.referencesTo (s : TypeSymbol) (fullName : String) : List Reference :=
  (s.type.mentions.filter (·.refersTo fullName s.fullName)).map fun m =>
    { context := m.context
      fromMember := m.location
      inAssembly := s.assembly.name
      parameter := m.parameter }

namespace Catalog

/-- The references to a type in all signatures. -/
def references (c : Catalog) (target : TypeSymbol) : List Reference :=
  c.types.flatMap (·.referencesTo target.fullName)

end Catalog

end AssemblyAtlas
