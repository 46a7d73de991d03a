/-!
# Signatures

How a type or member is named from elsewhere. A reference can carry the name of the assembly that
declares its target; without one the target is looked up by name. A method reference without
parameter types stands for every overload.
-/

namespace AssemblyAtlas

/-- A type as it is named inside a signature. -/
structure TypeSig where
  /-- The full name of the type. -/
  fullName : String
  /-- The assembly that declares the type, where it was recorded. -/
  assembly : Option String := none
deriving DecidableEq, Repr, Inhabited

/-- A method or field as an instruction names it. -/
structure MemberRef where
  /-- The full name of the type that declares the member. -/
  declaringType : String
  /-- The name of the member. -/
  name : String
  /-- The assembly that declares the type, where it was recorded. -/
  assembly : Option String := none
  /-- The parameter types of a method, where they were recorded. -/
  parameters : Option (List TypeSig) := none
deriving DecidableEq, Repr, Inhabited

/-- The full name of a field, property or unpinned method: `Type.Name`. -/
def memberFullName (declaringType name : String) : String :=
  declaringType ++ "." ++ name

/-- The full name of a method: `Type.Name(P1,P2)`. Overloads differ only here. -/
def methodFullName (declaringType name : String) (parameters : List TypeSig) : String :=
  memberFullName declaringType name ++ "(" ++ ",".intercalate (parameters.map (·.fullName)) ++ ")"

theorem toList_memberFullName (type name : String) :
    (memberFullName type name).toList = type.toList ++ '.' :: name.toList := by
  simp [memberFullName]

theorem toList_methodFullName (type name : String) (parameters : List TypeSig) :
    (methodFullName type name parameters).toList = (memberFullName type name).toList ++
      '(' :: ((",".intercalate (parameters.map (·.fullName))).toList ++ [')']) := by
  simp [methodFullName]

/-- The full name of the target, with parameter types where they are known. -/
def MemberRef.fullName (r : MemberRef) : String :=
  match r.parameters with
  | some parameters => methodFullName r.declaringType r.name parameters
  | none => memberFullName r.declaringType r.name

end AssemblyAtlas
