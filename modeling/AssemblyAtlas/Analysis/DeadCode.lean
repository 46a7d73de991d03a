import AssemblyAtlas.Analysis.Reference

/-!
# Dead code

A method of an assembly is dead if no instruction of the assembly calls it, and a type if no
signature of the assembly names it. There is no search from entry points.
-/

namespace AssemblyAtlas

/-- The dead code of an assembly. -/
structure DeadCode where
  /-- The name of the assembly. -/
  assembly : String
  /-- Members not visible outside the assembly are considered too. -/
  includePrivate : Bool
  /-- The full names of the dead methods, in order. -/
  methods : List String
  /-- The full names of the dead types, in order. -/
  types : List String
  /-- The number of methods considered. -/
  methodsConsidered : Nat
  /-- The number of types considered. -/
  typesConsidered : Nat
deriving DecidableEq, Repr

namespace DeadCode

/-- What the analysis does not see. -/
def caveats : List String :=
  ["Only direct call/callvirt instructions and member signatures are analysed.",
    "Members reached through reflection, delegates, dynamic dispatch or serialization are reported as dead.",
    "Entry points and framework callbacks are reported unless something in the assembly calls them.",
    "Callers in other assemblies are not considered."]

end DeadCode

namespace Assembly

/-- The methods called in an assembly, as the calls name them. -/
def calledRefs (a : Assembly) : List MemberRef :=
  a.types.flatMap fun t => t.methods.flatMap fun m => m.invocations.map (·.1)

/-- The full names of types that signatures of an assembly mention. -/
def mentionedNames (a : Assembly) : List String :=
  a.types.flatMap fun t => t.mentions.map (·.sig.fullName)

/-- The full names of the methods that are called with parameter types. -/
def calledNames (a : Assembly) : List String :=
  a.calledRefs.filterMap fun r => if r.parameters.isSome then some r.fullName else none

/-- The names of the methods that are called without parameter types, which all overloads share. -/
def calledOverloads (a : Assembly) : List String :=
  a.calledRefs.filterMap fun r =>
    if r.parameters.isSome then none else some (memberFullName r.declaringType r.name)

/-- Something of this visibility is considered. -/
def considers (includePrivate : Bool) (v : Visibility) : Bool :=
  includePrivate || v.isExternal

/-- The methods considered, each with the type that declares it. -/
def consideredMethods (a : Assembly) (includePrivate : Bool) : List (TypeDef × Method) :=
  a.types.flatMap fun t =>
    (t.methods.filter fun m => considers includePrivate m.visibility).map fun m => (t, m)

/-- The types considered. -/
def consideredTypes (a : Assembly) (includePrivate : Bool) : List TypeDef :=
  a.types.filter fun t => considers includePrivate t.visibility

/-- The dead code of an assembly. -/
def deadCode (a : Assembly) (includePrivate : Bool) : DeadCode :=
  let called := a.calledNames
  let overloads := a.calledOverloads
  let mentioned := a.mentionedNames
  let methods := a.consideredMethods includePrivate
  let types := a.consideredTypes includePrivate
  { assembly := a.name
    includePrivate
    methods := distinctSorted ((methods.filter fun (t, m) =>
      !called.contains (m.fullNameIn t.fullName) &&
        !overloads.contains (memberFullName t.fullName m.name)).map
      fun (t, m) => m.fullNameIn t.fullName)
    types := distinctSorted ((types.filter fun t => !mentioned.contains t.fullName).map
      (·.fullName))
    methodsConsidered := methods.length
    typesConsidered := types.length }

end Assembly

end AssemblyAtlas
