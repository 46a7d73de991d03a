import AssemblyAtlas.Error
import AssemblyAtlas.Text.Decimal
import AssemblyAtlas.Word

/-!
# Schema of the store

The tables of a store and their version. A new database has no tables; they are created before
anything is stored. The version is kept as text and counts as 0 when it is no number, and
migrations bring it up to the current one.
-/

namespace AssemblyAtlas.Store

/-- A stored assembly: its snapshot and what is listed of it. -/
structure AssemblyRow where
  name : String
  version : String
  contentHash : String
  typeCount : Nat
  /-- The text of the snapshot. -/
  payload : String
deriving DecidableEq, Repr

/-- A stored symbol. -/
structure SymbolRow where
  /-- The word for the kind of symbol. -/
  kind : String
  /-- The name of the assembly that declares it. -/
  assembly : String
  fullName : String
  /-- The number that the full name is filed under. -/
  fullNameHash : UInt32
  /-- The simple name. -/
  name : String
deriving DecidableEq, Repr

/-- A migration that was tried. -/
structure MigrationRow where
  fromVersion : Int
  toVersion : Int
  /-- Why it failed, if it did. -/
  failure : Option String
deriving DecidableEq, Repr

namespace MigrationRow

/-- The outcome in a word. -/
def status (m : MigrationRow) : String :=
  if m.failure.isSome then "failed" else "success"

end MigrationRow

/-- The tables of a store. Rows stand in the order in which they were inserted. -/
structure Tables where
  assemblies : List AssemblyRow := []
  symbols : List SymbolRow := []
  /-- The version of the schema as it is stored. -/
  version : Option String := none
  history : List MigrationRow := []
deriving DecidableEq, Repr

/-- The names of the tables. -/
def tableNames : List String :=
  ["store_meta", "assemblies", "symbols", "migration_history"]

/-- The names of the indexes. -/
def indexNames : List String :=
  ["idx_assemblies_hash", "idx_symbols_name_hash", "idx_symbols_assembly",
    "idx_symbols_name_nocase"]

/-- The number of statements that create the tables and indexes. -/
def statementCount : Nat :=
  tableNames.length + indexNames.length

/-- The version of the schema that this library writes. -/
def currentVersion : Int := 1

namespace Tables

/-- The version of the schema; 0 when none is stored or it is no 32-bit number. -/
def schemaVersion (t : Tables) : Int :=
  (t.version.bind (Text.intBetween? Word.int32Min Word.int32Max)).getD 0

/-- The tables after one step of migration, or why there is no such step. The first version is
what the tables are created with, so the step to it changes only the version. -/
def step (t : Tables) (next : Int) : Except DatabaseFault Tables :=
  if next = 1 then .ok { t with version := some (toString next) } else .error (.noMigration next)

/-- Brings the schema up to date: the tables afterwards, and the error if a step fails. Every step
is recorded, and one that fails is recorded with the wording of its error. -/
def migrate (t : Tables) : Tables × Except Error Unit :=
  let version := t.schemaVersion
  go t version (currentVersion - version).toNat
where
  /-- Takes the given number of steps. -/
  go (t : Tables) (version : Int) : Nat → Tables × Except Error Unit
    | 0 => (t, .ok ())
    | steps + 1 =>
      let next := version + 1
      let record (t : Tables) (failure : Option String) : Tables :=
        { t with history := t.history ++ [⟨version, next, failure⟩] }
      match t.step next with
      | .ok t => go (record t none) next steps
      | .error fault =>
        let error := Error.database fault
        (record t error.message, .error error)

end Tables

/-- A database, whose tables may not have been created yet. -/
structure Database where
  tables : Option Tables := none
deriving DecidableEq, Repr

namespace Database

/-- Creates the tables unless they exist. -/
def create (d : Database) : Tables :=
  d.tables.getD {}

/-- The tables, which must exist. -/
def require (d : Database) : Except Error Tables :=
  match d.tables with
  | some t => .ok t
  | none => .error (.engine .noTables)

/-- The version of the schema; 0 when there are no tables. -/
def schemaVersion (d : Database) : Int :=
  match d.tables with
  | some t => t.schemaVersion
  | none => 0

/-- Brings the schema up to date, which takes tables unless it is up to date already. -/
def migrate (d : Database) : Database × Except Error Unit :=
  match d.tables with
  | some t =>
    let (t, result) := t.migrate
    ({ tables := some t }, result)
  | none => (d, .error (.engine .noTables))

/-- Creates the tables and brings the schema up to date. -/
def prepare (d : Database) : Database × Except Error Unit :=
  migrate { tables := some d.create }

end Database

end AssemblyAtlas.Store
