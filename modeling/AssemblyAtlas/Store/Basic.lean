import AssemblyAtlas.Catalog.Basic
import AssemblyAtlas.Digest.Crc32
import AssemblyAtlas.Digest.Sha256
import AssemblyAtlas.Snapshot.Encode
import AssemblyAtlas.Snapshot.Load
import AssemblyAtlas.Store.Schema
import AssemblyAtlas.Word

/-!
# Saving and reading assemblies

Assemblies are stored by their exact names, as the canonical text of their snapshots. An assembly
is written only if the hash of that text differs from the stored one. The symbols that it declares
are stored beside it for lookup by name.
-/

namespace AssemblyAtlas.Store

/-- The names are the same to the store, which ignores the case of ASCII letters. After a zero
character only the number of bytes is compared. -/
def sameName (s t : String) : Bool :=
  Text.eqIgnoreCase (beforeZero s) (beforeZero t) && s.utf8ByteSize == t.utf8ByteSize
where
  /-- The text up to the first zero character. -/
  beforeZero (s : String) : String := String.ofList (s.toList.takeWhile (·.toNat != 0))

/-- The number that a full name is filed under, of 31 bits. Different names may share it, so a
lookup still compares the names. -/
def nameHash (fullName : String) : UInt32 :=
  Crc32.checksum (Text.Utf8.encode fullName) &&& 0x7FFFFFFF

/-- The rows without those that have the same key as an earlier one. -/
def firstByKey {α κ : Type} [BEq κ] (key : α → κ) : List α → List α
  | [] => []
  | x :: xs => x :: (firstByKey key xs).filter fun y => key y != key x

namespace SymbolRow

/-- What no two symbols of a store have in common. -/
def key (s : SymbolRow) : String × String × String :=
  (s.kind, s.assembly, s.fullName)

/-- The order of presentation: by assembly, then the word for the kind, then full name. -/
def compare : SymbolRow → SymbolRow → Ordering :=
  compareLex (compareOn (·.assembly)) (compareLex (compareOn (·.kind)) (compareOn (·.fullName)))

end SymbolRow

/-- The row of an assembly. -/
def AssemblyRow.of (a : Assembly) : AssemblyRow :=
  { name := a.name
    version := a.version
    contentHash := Sha256.hex (Text.Utf8.encode a.canonicalText)
    typeCount := a.types.length
    payload := a.canonicalText }

/-- The assembly of a row. -/
def AssemblyRow.load (r : AssemblyRow) : Except Error Assembly :=
  match Snapshot.load r.payload with
  | .ok a => .ok a
  | .error fault => .error (.database (.corrupt r.name fault))

/-- A row of an assembly as JSON. -/
def AssemblyRow.toJson (r : AssemblyRow) : Json :=
  .record [("name", .text r.name), ("version", .text r.version),
    ("content_hash", .text r.contentHash), ("type_count", .nat r.typeCount)]

/-- A stored symbol as it is presented. -/
def SymbolRow.toMatch (s : SymbolRow) : Except Error SymbolMatch :=
  match SymbolKind.ofText? s.kind with
  | some kind => .ok { kind, fullName := s.fullName, assembly := s.assembly }
  | none => .error (.database (.unknownKind s.kind))

/-- The rows of the symbols of an assembly. -/
def SymbolRow.allOf (a : Assembly) : List SymbolRow :=
  firstByKey key <| a.types.flatMap fun t => t.declarations.map fun d =>
    { kind := d.kind.label
      assembly := a.name
      fullName := d.fullName
      fullNameHash := nameHash d.fullName
      name := d.name }

namespace Tables

variable (t : Tables)

/-! ### Writing -/

/-- The tables with a row in place of the row of the same name, or at the end. -/
def putRow (row : AssemblyRow) : List AssemblyRow → List AssemblyRow
  | [] => [row]
  | r :: rows => if r.name = row.name then row :: rows else r :: putRow row rows

/-- Saves an assembly, and says whether it was written. -/
def save (a : Assembly) : Tables × Bool :=
  let row := AssemblyRow.of a
  let stored := t.assemblies.find? (·.name == a.name)
  if stored.map (·.contentHash) = some row.contentHash then (t, false)
  else
    ({ t with
        assemblies := putRow row t.assemblies
        symbols := t.symbols.filter (·.assembly != a.name) ++ SymbolRow.allOf a }, true)

/-- Saves assemblies in order, and says how many were written. -/
def saveAll (assemblies : List Assembly) : Tables × Nat :=
  assemblies.foldl
    (fun (t, written) a =>
      let (t, new) := t.save a
      (t, if new then written + 1 else written))
    (t, 0)

/-- Removes the assemblies of a name and their symbols, and says whether there were any. -/
def remove (name : String) : Tables × Bool :=
  ({ t with
      assemblies := t.assemblies.filter fun r => !sameName r.name name
      symbols := t.symbols.filter fun s => !sameName s.assembly name },
    t.assemblies.any fun r => sameName r.name name)

/-! ### Reading -/

/-- The rows of the assemblies in the order of their names. -/
def rowsByName : List AssemblyRow :=
  sortedBy (compareOn (·.name)) t.assemblies

/-- The stored assemblies in the order of their names. -/
def load : Except Error (List Assembly) :=
  t.rowsByName.mapM AssemblyRow.load

/-- The hash under a name: of the first inserted of the assemblies that have it. -/
def contentHash? (name : String) : Option String :=
  (t.assemblies.find? fun r => sameName r.name name).map (·.contentHash)

/-- The number of rows that a limit allows. A limit that is negative as a signed 64-bit number
allows all. -/
def limitRows {α : Type} (limit : Nat) (rows : List α) : List α :=
  if limit ≤ Word.int64Max then rows.take limit else rows

/-- The symbols of a full name or, ignoring case, a simple name. A full name is compared only where
the number that it is filed under agrees. A row that is not asked for is not read, whatever its
kind. -/
def lookup (name : String) (kind : Option SymbolKind) (limit : Nat) :
    Except Error (List SymbolMatch) :=
  let found := t.symbols.filter fun s =>
    ((s.fullNameHash == nameHash name && s.fullName == name) || sameName s.name name) &&
      kind.all fun k => s.kind == k.label
  (limitRows limit (sortedBy SymbolRow.compare found)).mapM SymbolRow.toMatch

/-! ### Editing rows -/

/-- Replaces the payload of the assembly of exactly this name, and counts the rows. -/
def setPayload (name payload : String) : Tables × Nat :=
  ({ t with assemblies := t.assemblies.map fun r =>
      if r.name = name then { r with payload } else r },
    t.assemblies.countP (·.name == name))

/-- Replaces the kind of the symbols of a full name, and counts the rows. No two of them may then
have the same key. -/
def setKind (fullName kind : String) : Except Error (Tables × Nat) :=
  let edited := t.symbols.filter (·.fullName == fullName)
  if (edited.map (·.assembly)).Nodup then
    .ok ({ t with symbols := t.symbols.map fun s =>
        if s.fullName = fullName then { s with kind } else s }, edited.length)
  else .error (.engine .notUnique)

/-- Replaces the stored version. -/
def setVersion (version : Option String) : Tables :=
  { t with version }

end Tables

end AssemblyAtlas.Store
