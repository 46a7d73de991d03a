/-!
# Visibility

Who may use a type or member. The names are those that snapshots write.
-/

namespace AssemblyAtlas

/-- Who may use a type or member. -/
inductive Visibility where
  | everyone
  | declaringType
  | family
  | assembly
  | familyOrAssembly
  | familyAndAssembly
deriving DecidableEq, Repr

namespace Visibility

/-- Unless recorded otherwise, only the declaring type may use a member. -/
instance : Inhabited Visibility := ⟨.declaringType⟩

/-- Code outside the assembly may use it. -/
def isExternal : Visibility → Bool
  | .everyone | .family | .familyOrAssembly => true
  | .declaringType | .assembly | .familyAndAssembly => false

/-- The name in a snapshot. -/
def label : Visibility → String
  | .everyone => "public"
  | .declaringType => "private"
  | .family => "family"
  | .assembly => "assembly"
  | .familyOrAssembly => "family_or_assembly"
  | .familyAndAssembly => "family_and_assembly"

/-- All visibilities. -/
def all : List Visibility :=
  [.everyone, .declaringType, .family, .assembly, .familyOrAssembly, .familyAndAssembly]

/-- The visibility with the given name. -/
def ofLabel? (s : String) : Option Visibility :=
  all.find? (·.label == s)

end Visibility

end AssemblyAtlas
