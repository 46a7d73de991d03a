import AssemblyAtlas.Files.Tree
import AssemblyAtlas.Store.Basic

/-!
# Stores in files

Stores are kept in database files or in memory, and at most one is open. A store in a file keeps
its contents when it is closed and opened again.
-/

namespace AssemblyAtlas.Store

/-! ### Paths -/

/-- Where paths start. -/
structure Surroundings where
  /-- What absolute paths begin with. -/
  root : String := "/"
  /-- The folder that `~` stands for. -/
  home : Option String := none
  /-- The folder that other paths start in. -/
  working : String

namespace Surroundings

variable (s : Surroundings)

/-- The path with a leading `~` replaced by the home folder, if there is one. -/
def expand (path : String) : String :=
  match s.home, path.toList with
  | some home, ['~'] | some home, ['~', '/'] => home
  | some home, '~' :: '/' :: rest => home ++ "/" ++ String.ofList rest
  | _, _ => path

/-- The path from the root on. -/
def absolute (path : String) : String :=
  if path.startsWith s.root then path else s.working ++ "/" ++ path

end Surroundings

/-! ### Stores -/

/-- The store that is open. -/
inductive Handle
  | memory (contents : Tables)
  | file (path : FilePath)

/-- The database files, and the store that is open. -/
structure Disk where
  files : FileTree Database := {}
  handle : Option Handle := none

namespace Disk

variable (d : Disk)

/-- The database in a file, which is created if it is missing. -/
def database (path : FilePath) : Except Error Database :=
  if !d.files.isFolder path.dropLast then .error (.engine .cannotOpen)
  else
    match d.files.follow? path with
    | some .folder => .error (.engine .cannotOpen)
    | some (.file contents) => .ok contents
    | _ => .ok {}

/-- The disk with a database in a file. -/
def putDatabase (path : FilePath) (contents : Database) : Disk :=
  match d.files.write? path contents with
  | some files => { d with files }
  | none => d

/-- Makes the folders above a file. -/
def makeFolders (path : FilePath) : Except Error Disk :=
  match d.files.makeFolder? path.dropLast with
  | some files => .ok { d with files }
  | none => .error (.file .notAFolder)

/-- The tables of the open store. -/
def tables? : Option Tables :=
  match d.handle with
  | none => none
  | some (.memory contents) => some contents
  | some (.file path) =>
    match d.database path with
    | .ok contents => contents.tables
    | .error _ => none

/-- The disk with other tables in the open store. -/
def putTables (t : Tables) : Disk :=
  match d.handle with
  | none => d
  | some (.memory _) => { d with handle := some (.memory t) }
  | some (.file path) => d.putDatabase path { tables := some t }

/-- The disk with no store open. -/
def close : Disk :=
  { d with handle := none }

/-- Opens a new store in memory. -/
def openMemory : Disk :=
  { d with handle := some (.memory (Tables.migrate {}).1) }

/-- Opens the store in a file, which is created with the folders above it if it is missing. Gives
the path of the file. After an error no store is open, but a step of migration that failed is
recorded in the file. -/
def openFile (s : Surroundings) (path : String) : Disk × Except Error String :=
  let d := d.close
  let resolved := s.absolute (s.expand path)
  let place := FilePath.ofText resolved
  match d.makeFolders place with
  | .error e => (d, .error e)
  | .ok d =>
    match d.database place with
    | .error e => (d, .error e)
    | .ok contents =>
      let (contents, result) := contents.prepare
      let d := d.putDatabase place contents
      match result with
      | .error e => (d, .error e)
      | .ok () => ({ d with handle := some (.file place) }, .ok resolved)

/-- Copies tables to a file, in place of what it holds, and gives the path of the file. -/
def backup (s : Surroundings) (t : Tables) (path : String) : Disk × Except Error String :=
  let resolved := s.absolute (s.expand path)
  let place := FilePath.ofText resolved
  match d.makeFolders place with
  | .error e => (d, .error e)
  | .ok d =>
    match d.database place with
    | .error e => (d, .error e)
    | .ok _ => (d.putDatabase place { tables := some t }, .ok resolved)

/-- A file or folder stands at a path. -/
def exists? (s : Surroundings) (path : String) : Bool :=
  (d.files.follow? (FilePath.ofText (s.absolute path))).isSome

/-- Edits the tables of the database in a file. A missing file is created, without tables. -/
def edit {α : Type} (s : Surroundings) (path : String) (f : Tables → Except Error (Tables × α)) :
    Disk × Except Error α :=
  let place := FilePath.ofText (s.absolute path)
  match d.database place with
  | .error e => (d, .error e)
  | .ok contents =>
    match contents.require >>= f with
    | .error e => (d.putDatabase place contents, .error e)
    | .ok (t, a) => (d.putDatabase place { tables := some t }, .ok a)

end Disk

end AssemblyAtlas.Store
