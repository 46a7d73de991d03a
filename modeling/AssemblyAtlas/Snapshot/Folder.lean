import AssemblyAtlas.Catalog.Basic
import AssemblyAtlas.Digest.Sha256
import AssemblyAtlas.Files.Tree
import AssemblyAtlas.Snapshot.Load

/-!
# Folders of snapshots

A folder is searched for snapshot files, which are loaded in the order of their paths. A file that
is no snapshot, and one whose assembly is already loaded, is reported and left out.
-/

namespace AssemblyAtlas.Snapshot

/-! ### Finding files -/

/-- The name starts with a dot. A name that is no text is never hidden. -/
def isHidden (name : FileName) : Bool :=
  name.head? == some 0x2E && (Text.Utf8.decode? name).isSome

/-- What follows the last dot of a name, if something stands before it. -/
def extension? (name : FileName) : Option (List UInt8) :=
  match name.reverse.span (· != 0x2E) with
  | (_, []) | (_, [_]) => none
  | (last, _) => some last.reverse

/-- The name is that of a snapshot file. -/
def isSnapshotName (name : FileName) : Bool :=
  match (extension? name).bind Text.Utf8.decode? with
  | some e => Text.eqIgnoreCase e "json"
  | none => false

/-- The path without the folder that it lies in. -/
def below? (folder path : FilePath) : Option FilePath :=
  if folder.isPrefixOf path then some (path.drop folder.length) else none

/-- The snapshot files below a folder, in order, with their paths from there. Hidden files, what
lies in hidden folders, and links are left out. -/
def filesIn {α : Type} (t : FileTree α) (folder : FilePath) : List (FilePath × α) :=
  let found := t.entries.filterMap fun (path, node) =>
    match below? folder path, node with
    | some below, .file contents =>
      if below.any isHidden || !below.getLast?.any isSnapshotName then none
      else some (below, contents)
    | _, _ => none
  found.mergeSort fun a b => (FilePath.compare a.1 b.1).isLE

/-- The snapshot files at a path: those in the folder that it is or links to, or the file that it
is itself. -/
def discover {α : Type} (t : FileTree α) (root : FilePath) : List (FilePath × α) :=
  match t.entry? root, t.resolve? root with
  | some (.file contents), _ =>
    if root.getLast?.any isSnapshotName then [([], contents)] else []
  | some _, some folder => if t.isFolder folder then filesIn t folder else []
  | _, _ => []

/-! ### Loading files -/

/-- A file that was loaded. -/
structure LoadedFile where
  /-- The path of the file in the folder. -/
  path : String
  /-- The name of the assembly in it. -/
  assembly : String
  contentHash : String
  sizeBytes : Nat
deriving DecidableEq, Repr

/-- Why a file was left out. -/
inductive LoadFault
  | refused (fault : SnapshotFault)
  | duplicate (assembly : String)
deriving DecidableEq, Repr

namespace LoadFault

/-- The stage of loading at which a file was left out. -/
def stage : LoadFault → String
  | .refused _ => "parse"
  | .duplicate _ => "duplicate"

/-- Why a file was left out, in words. -/
def message : LoadFault → String
  | .refused fault => fault.report
  | .duplicate assembly => "assembly " ++ assembly ++ " already loaded"

end LoadFault

/-- A file that was left out. -/
structure Diagnostic where
  path : String
  fault : LoadFault
deriving DecidableEq, Repr

/-- What became of the files of a folder. -/
structure LoadReport where
  /-- The assemblies that were loaded. -/
  assemblies : List Assembly := []
  /-- The files that were loaded. -/
  files : List LoadedFile := []
  /-- The files that were left out. -/
  diagnostics : List Diagnostic := []

/-- A report while files are loaded. -/
structure Loading extends LoadReport where
  /-- The names of the loaded assemblies in lower case. -/
  seen : List String := []

/-- The path of a file as it is reported. -/
def LoadReport.pathText (path : FilePath) : String :=
  path.text.map fun c => if c = '\\' then '/' else c

namespace Loading

/-- Reports a file that is left out. -/
def leaveOut (l : Loading) (path : String) (fault : LoadFault) : Loading :=
  { l with diagnostics := l.diagnostics ++ [⟨path, fault⟩] }

/-- Loads one more file, unless it is no snapshot or its assembly is already loaded. -/
def add (l : Loading) (file : FilePath × List UInt8) : Loading :=
  let path := LoadReport.pathText file.1
  match loadBytes file.2 with
  | .error fault => l.leaveOut path (.refused fault)
  | .ok assembly =>
    let name := Text.lower assembly.name
    if l.seen.contains name then l.leaveOut path (.duplicate assembly.name)
    else
      { l with
        assemblies := l.assemblies ++ [assembly]
        files := l.files ++
          [{ path
             assembly := assembly.name
             contentHash := Sha256.hex file.2
             sizeBytes := file.2.length }]
        seen := name :: l.seen }

end Loading

namespace LoadReport

/-- The report on files in order. -/
def ofFiles (files : List (FilePath × List UInt8)) : LoadReport :=
  (files.foldl Loading.add {}).toLoadReport

/-- The catalog of the assemblies that were loaded. -/
def catalog (r : LoadReport) : Catalog :=
  .ofAssemblies r.assemblies

end LoadReport

/-- Loads the snapshots of the folder at a path. -/
def loadFolder (t : FileTree (List UInt8)) (root : String) : Except Error LoadReport :=
  let path := FilePath.ofText root
  if t.isFolder path then .ok (.ofFiles (discover t path))
  else .error (.file (.missingFolder root))

end AssemblyAtlas.Snapshot
