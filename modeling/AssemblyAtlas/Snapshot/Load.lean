import AssemblyAtlas.Error
import AssemblyAtlas.Json.Parser
import AssemblyAtlas.Snapshot.Decode
import AssemblyAtlas.Text.Blank

/-!
# Loading snapshots

A snapshot is accepted if it is well-formed and the assembly has a name, and types with different
names that are not blank.
-/

namespace AssemblyAtlas

/-- The text is empty or white space. -/
def isBlankText (s : String) : Bool :=
  (Text.trim s).isEmpty

namespace Assembly

/-- The first fault in the names of types, given the names that came before. -/
def typeFault? (assembly : String) : (seen : List String) → List String → Option SnapshotFault
  | _, [] => none
  | seen, name :: names =>
    if isBlankText name then some (.emptyTypeName assembly)
    else if seen.contains name then some (.repeatedType assembly name)
    else typeFault? assembly (name :: seen) names

/-- The first fault of an assembly. -/
def fault? (a : Assembly) : Option SnapshotFault :=
  if isBlankText a.name then some .emptyAssemblyName
  else typeFault? a.name [] (a.types.map (·.fullName))

end Assembly

namespace Snapshot

/-- The assembly that a text describes. -/
def load (s : String) : Except SnapshotFault Assembly :=
  match (Json.parse? s).bind (Assembly.decode maxNesting) with
  | none => .error .malformed
  | some a => match a.fault? with
    | some fault => .error fault
    | none => .ok a

/-- The assembly that the bytes of a file describe. -/
def loadBytes (bytes : List UInt8) : Except SnapshotFault Assembly :=
  match Text.Utf8.decode? bytes with
  | none => .error .notUtf8
  | some s => load s

end Snapshot

end AssemblyAtlas
