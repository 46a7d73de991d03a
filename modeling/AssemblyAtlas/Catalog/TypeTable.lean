import AssemblyAtlas.Metadata.Assembly

/-!
# Tables of types

A table leads from the full name of a type to the places where types of that name are declared.
`TypeTable.ofAssemblies` visits the assemblies in order and enters nested types before the type
around them; `typeAt?` leads from a place back to the type.
-/

namespace AssemblyAtlas

/-- The place of a type: the number of its assembly and the way to it from there, which is the
number of the module, the number of the outermost type, and a number for each level of nesting. -/
structure Place where
  /-- The number of the assembly. -/
  assembly : Nat
  /-- The way to the type inside the assembly. -/
  path : List Nat
deriving DecidableEq, Repr

namespace TypeDef

/-- The type that a way through nested types leads to. -/
def descend? : TypeDef → List Nat → Option TypeDef
  | t, [] => some t
  | t, i :: path => t.nested[i]?.bind (descend? · path)

mutual
/-- The full names of a type at `path` and of the types nested in it with their paths, nested
types first. -/
def placed (path : List Nat) : TypeDef → List (String × List Nat)
  | ⟨info, nested⟩ => allPlaced path 0 nested ++ [(info.fullName, path)]
/-- The same for the types of a list, which are numbered from `i` on below `path`. -/
def allPlaced (path : List Nat) (i : Nat) : List TypeDef → List (String × List Nat)
  | [] => []
  | t :: ts => placed (path ++ [i]) t ++ allPlaced path (i + 1) ts
end

end TypeDef

namespace Assembly

/-- The type at a path of the assembly. -/
def typeAt? (a : Assembly) : List Nat → Option TypeDef
  | m :: i :: path => do
    let module ← a.modules[m]?
    let type ← module.types[i]?
    type.descend? path
  | _ => none

/-- The full names of all types of the assembly with their paths. -/
def placedTypes (a : Assembly) : List (String × List Nat) :=
  a.modules.zipIdx.flatMap fun (m, i) => TypeDef.allPlaced [i] 0 m.types

end Assembly

/-- The type at a place. -/
def typeAt? (assemblies : List Assembly) (p : Place) : Option TypeDef :=
  assemblies[p.assembly]?.bind (·.typeAt? p.path)

/-- The places of types by full name; each name stands once, with its places in the order in which
they were entered. -/
abbrev TypeTable := List (String × List Place)

namespace TypeTable

/-- Enters a place under a name. -/
def add : TypeTable → String → Place → TypeTable
  | [], name, p => [(name, [p])]
  | (key, places) :: rest, name, p =>
    if key == name then (key, places ++ [p]) :: rest else (key, places) :: add rest name p

/-- The places entered under a name. -/
def places (t : TypeTable) (name : String) : List Place :=
  (t.lookup name).getD []

/-- The number of places in the table. -/
def size (t : TypeTable) : Nat :=
  t.foldr (fun e n => e.2.length + n) 0

/-- The full names of all types with their places, in the order in which they are entered. -/
def occurrences (assemblies : List Assembly) : List (String × Place) :=
  assemblies.zipIdx.flatMap fun (a, i) => a.placedTypes.map fun (name, path) => (name, ⟨i, path⟩)

/-- The table of all types of the assemblies. -/
def ofAssemblies (assemblies : List Assembly) : TypeTable :=
  (occurrences assemblies).foldl (fun t (name, p) => t.add name p) []

end TypeTable

end AssemblyAtlas
