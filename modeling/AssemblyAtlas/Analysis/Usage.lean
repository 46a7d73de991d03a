import AssemblyAtlas.Catalog.Basic

/-!
# Usages

Where a method is called and where a field is read or written. Every method body is scanned, and
each instruction that matches gives one record, so that two calls in one method give two.
-/

namespace AssemblyAtlas

/-- How a member is used. -/
inductive UsageKind where
  | call
  | read
  | write
deriving DecidableEq, Repr

namespace UsageKind

/-- The word for a kind of usage. -/
def label : UsageKind → String
  | .call => "call"
  | .read => "read"
  | .write => "write"

/-- The kind of usage with the given name. -/
def ofLabel? (s : String) : Option UsageKind :=
  [UsageKind.call, .read, .write].find? (·.label == s)

end UsageKind

/-- One use of a method or field, with the method that contains it. -/
structure Usage where
  /-- The full name of the method that contains the use. -/
  member : String
  /-- Its name. -/
  memberName : String
  /-- The full name of the type that declares it. -/
  declaringType : String
  /-- The name of the assembly that declares the type. -/
  assembly : String
  /-- How the member is used. -/
  kind : UsageKind
  /-- Where in the body the member is used. -/
  offset : Option UInt32
deriving DecidableEq, Repr

namespace Usage

/-- The order of presentation: by assembly, declaring type, member name and offset. -/
def compare : Usage → Usage → Ordering :=
  compareLex (compareOn (·.assembly)) (compareLex (compareOn (·.declaringType))
    (compareLex (compareOn (·.memberName)) (compareOn (·.offset))))

/-- The usages in the order of presentation. -/
def sort (us : List Usage) : List Usage :=
  sortedBy Usage.compare us

/-- The usage of a member by an instruction of a method. -/
def ofInstruction (m : MethodSymbol) (kind : UsageKind) (i : Instruction) : Usage :=
  { member := m.fullName
    memberName := m.method.name
    declaringType := m.type.fullName
    assembly := m.assembly.name
    kind
    offset := i.offset }

end Usage

namespace Catalog

/-- The usages by the instructions whose action satisfies `p`. -/
def usages (c : Catalog) (kind : UsageKind) (p : Action → Bool) : List Usage :=
  c.bodies.flatMap fun m =>
    (m.method.body.filter fun i => p i.action).map (Usage.ofInstruction m kind)

/-- The action calls the method: it names the type that declares it and can mean it. -/
def callsMethod (target : MethodSymbol) : Action → Bool
  | .invoke r => r.declaringType == target.type.fullName && r.targets target.method
  | _ => false

/-- The calls of a method. A call with parameter types calls one overload, a call without them
calls each. -/
def callers (c : Catalog) (target : MethodSymbol) : List Usage :=
  c.usages .call (callsMethod target)

/-- The reads of a field. -/
def readers (c : Catalog) (target : FieldSymbol) : List Usage :=
  c.usages .read fun
    | .readField r => r.fullName == target.fullName
    | _ => false

/-- The writes of a field. -/
def writers (c : Catalog) (target : FieldSymbol) : List Usage :=
  c.usages .write fun
    | .writeField r => r.fullName == target.fullName
    | _ => false

end Catalog

end AssemblyAtlas
