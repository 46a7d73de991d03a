/-!
# Errors

Every way in which an operation can fail, as its cause. `Error.message` words them all.
-/

namespace AssemblyAtlas

/-- The kinds of things that are looked up by name. -/
inductive Sought where
  | assembly
  | type
  | method
  | field
deriving DecidableEq, Repr

/-- The word for a kind of thing looked up by name. -/
def Sought.label : Sought → String
  | .assembly => "assembly"
  | .type => "type"
  | .method => "method"
  | .field => "field"

/-- Why a page token is refused. -/
inductive CursorFault where
  | notBase64
  | badPayload
  | negativeOffset (offset : Int)
  | emptyPage (size : Int)
deriving DecidableEq, Repr

/-- Why an argument of a query is refused. -/
inductive ArgumentFault where
  | emptyName
  | emptyPattern
  | invalidPattern
  | unknownKind (text : String)
deriving DecidableEq, Repr

/-- Why a snapshot is refused. -/
inductive SnapshotFault where
  | malformed
  | notUtf8
  | emptyAssemblyName
  | emptyTypeName (assembly : String)
  | repeatedType (assembly type : String)
deriving DecidableEq, Repr

/-- What is wrong with the contents of a store. -/
inductive DatabaseFault where
  | corrupt (assembly : String) (cause : SnapshotFault)
  | unknownKind (text : String)
  | noMigration (version : Int)
deriving DecidableEq, Repr

/-- What is wrong with a place in the file system. -/
inductive FileFault where
  | missingFolder (path : String)
  | notAFolder
deriving DecidableEq, Repr

/-- Why the database engine refuses. -/
inductive EngineFault where
  | cannotOpen
  | noTables
  | notUnique
deriving DecidableEq, Repr

/-- The ways in which an operation can fail. -/
inductive Error where
  | notFound (sought : Sought) (name : String)
  | cursor (fault : CursorFault)
  | argument (fault : ArgumentFault)
  | snapshot (fault : SnapshotFault)
  | database (fault : DatabaseFault)
  | file (fault : FileFault)
  | engine (fault : EngineFault)
deriving DecidableEq, Repr

/-! ### Wording -/

/-- The wording of a fault in a page token. -/
def CursorFault.message : CursorFault → String
  | .notBase64 => "not base64"
  | .badPayload => "bad payload"
  | .negativeOffset n => "offset must be >= 0, got " ++ toString n
  | .emptyPage n => "pageSize must be > 0, got " ++ toString n

/-- The wording of a fault in an argument. -/
def ArgumentFault.message : ArgumentFault → String
  | .emptyName => "name must not be empty"
  | .emptyPattern => "search pattern must not be empty"
  | .invalidPattern => "invalid pattern"
  | .unknownKind s => "unknown symbol kind: " ++ s

/-- The wording of a fault in a snapshot. -/
def SnapshotFault.message : SnapshotFault → String
  | .malformed => "malformed snapshot"
  | .notUtf8 => "snapshot is not UTF-8"
  | .emptyAssemblyName => "assembly name is empty"
  | .emptyTypeName a => "assembly " ++ a ++ " declares a type with an empty name"
  | .repeatedType a t => "assembly " ++ a ++ " declares type " ++ t ++ " more than once"

/-- The wording of a refused snapshot. -/
def SnapshotFault.report (f : SnapshotFault) : String :=
  "Snapshot error: " ++ f.message

/-- The wording of a fault in a store. -/
def DatabaseFault.message : DatabaseFault → String
  | .corrupt a cause => "stored assembly " ++ a ++ " is corrupt: " ++ cause.report
  | .unknownKind s => "unknown symbol kind " ++ s
  | .noMigration v => "no migration defined for schema v" ++ toString v

/-- The wording of a fault in the file system. -/
def FileFault.message : FileFault → String
  | .missingFolder path => "snapshot directory does not exist: " ++ path
  | .notAFolder => "not a directory"

/-- The wording of a refusal by the database engine. -/
def EngineFault.message : EngineFault → String
  | .cannotOpen => "unable to open database file"
  | .noTables => "no such table"
  | .notUnique => "UNIQUE constraint failed"

/-- The wording of an error. -/
def Error.message : Error → String
  | .notFound sought name => sought.label ++ " not found: " ++ name
  | .cursor f => "Invalid cursor: " ++ f.message
  | .argument f => "Invalid argument: " ++ f.message
  | .snapshot f => f.report
  | .database f => "Database error: " ++ f.message
  | .file f => "IO error: " ++ f.message
  | .engine f => "SQLite error: " ++ f.message

end AssemblyAtlas
