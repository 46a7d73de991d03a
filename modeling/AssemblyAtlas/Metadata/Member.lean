import AssemblyAtlas.Metadata.Instruction
import AssemblyAtlas.Metadata.Visibility

/-!
# Members of types

Methods, fields and properties as an assembly declares them.
-/

namespace AssemblyAtlas

/-- A parameter of a method. -/
structure Parameter where
  /-- The name of the parameter. -/
  name : String
  /-- Its type. -/
  type : TypeSig
deriving DecidableEq, Repr

/-- A method. It has no instructions when it has no body: abstract methods, methods of interfaces
and methods implemented elsewhere. -/
structure Method where
  /-- The name of the method. -/
  name : String
  /-- Who may call it. -/
  visibility : Visibility := default
  /-- It belongs to the type and not to its instances. -/
  isStatic : Bool := false
  /-- Derived types may override it. -/
  isVirtual : Bool := false
  /-- Derived types have to implement it. -/
  isAbstract : Bool := false
  /-- The type of its result, if it has one. -/
  returnType : Option TypeSig := none
  /-- Its parameters in order. -/
  parameters : List Parameter := []
  /-- Its body, if it has one. -/
  instructions : Option (List Instruction) := none
deriving DecidableEq, Repr

namespace Method

/-- The types of the parameters. -/
def parameterTypes (m : Method) : List TypeSig :=
  m.parameters.map (·.type)

/-- The full name of the method as a member of a type. -/
def fullNameIn (m : Method) (declaringType : String) : String :=
  methodFullName declaringType m.name m.parameterTypes

/-- The method has a body. -/
def hasBody (m : Method) : Bool :=
  m.instructions.isSome

/-- The instructions of the body; none without one. -/
def body (m : Method) : List Instruction :=
  m.instructions.getD []

/-- The calls in the body in order, each with its offset. -/
def invocations (m : Method) : List (MemberRef × Option UInt32) :=
  m.body.filterMap fun i => i.invoked?.map fun target => (target, i.offset)

/-- A method that everyone may call. -/
def named (name : String) : Method :=
  { name, visibility := .everyone }

end Method

/-- The reference can mean the method: the names agree, and so do the names of the parameter
types where the reference has them. -/
def MemberRef.targets (r : MemberRef) (m : Method) : Bool :=
  r.name == m.name &&
    match r.parameters with
    | none => true
    | some parameters => parameters.map (·.fullName) == m.parameterTypes.map (·.fullName)

/-- A field. -/
structure Field where
  /-- The name of the field. -/
  name : String
  /-- Its type. -/
  type : TypeSig
  /-- Who may use it. -/
  visibility : Visibility := default
  /-- It belongs to the type and not to its instances. -/
  isStatic : Bool := false
  /-- It is a constant. -/
  isLiteral : Bool := false
deriving DecidableEq, Repr

/-- A property, with the names of the methods that get and set it. -/
structure Property where
  /-- The name of the property. -/
  name : String
  /-- Its type. -/
  type : TypeSig
  /-- The method that gets it. -/
  getter : Option String := none
  /-- The method that sets it. -/
  setter : Option String := none
deriving DecidableEq, Repr

end AssemblyAtlas
