import AssemblyAtlas.Text.Utf8

/-!
# File trees

Files, folders and links by their paths. A path is a list of names below the root, which is always
a folder. Names are bytes, as they need not be text.
-/

namespace AssemblyAtlas

/-- A name in a folder. -/
abbrev FileName := List UInt8

/-- Names of folders, and of what stands in the last of them. -/
abbrev FilePath := List FileName

namespace FilePath

/-- The slash that separates names. -/
def slash : UInt8 := 0x2F

/-- The parts of a list between slashes. -/
def parts : List UInt8 → List FileName
  | [] => [[]]
  | b :: bs =>
    if b = slash then [] :: parts bs
    else
      match parts bs with
      | [] => [[b]]
      | name :: names => (b :: name) :: names

/-- The name of the same folder. -/
def here : FileName := [0x2E]

/-- The name of the folder above. -/
def above : FileName := [0x2E, 0x2E]

/-- The path that bytes write. Slashes that follow another count once, and the name of the same
folder not at all. -/
def ofBytes (bytes : List UInt8) : FilePath :=
  (parts bytes).filter fun name => !name.isEmpty && name != here

/-- The path that a text writes. -/
def ofText (s : String) : FilePath :=
  ofBytes (Text.Utf8.encode s)

/-- The path as text, with a replacement for what is no text. -/
def text (p : FilePath) : String :=
  Text.Utf8.decodeLossy (List.intercalate [slash] p)

/-- The order of paths: name by name, and names byte by byte. -/
def compare (p q : FilePath) : Ordering :=
  compareOfLessAndEq p q

end FilePath

/-- What stands at a path. -/
inductive FileNode (α : Type)
  | file (contents : α)
  | folder
  /-- A link to another path, which starts in the folder of the link unless it is absolute. -/
  | link (target : List UInt8)
deriving Repr

/-- What stands at the paths below the root. -/
structure FileTree (α : Type) where
  entries : List (FilePath × FileNode α) := []

namespace FileTree

variable {α : Type} (t : FileTree α)

/-- What stands at a path. -/
def node? (p : FilePath) : Option (FileNode α) :=
  if p.isEmpty then some .folder else t.entries.lookup p

/-- The tree with a node at a path, in place of what stood there. -/
def put (p : FilePath) (node : FileNode α) : FileTree α :=
  if t.entries.any (·.1 == p) then
    { entries := t.entries.map fun e => if e.1 == p then (p, node) else e }
  else { entries := t.entries ++ [(p, node)] }

/-- The number of links that are followed on the way to a path. -/
def maxLinks : Nat := 40

/-- Goes from a folder along a path and gives the path without links that it ends at. A link at
the end is followed too. Missing folders are made if `make` is set; otherwise only the end of the
path may be missing. -/
def walk (make : Bool) (links : Nat) (t : FileTree α) (folder : FilePath) (rest : FilePath) :
    Option (FileTree α × FilePath) :=
  match rest with
  | [] => some (t, folder)
  | name :: rest =>
    if name = FilePath.above then walk make links t folder.dropLast rest
    else
      let place := folder ++ [name]
      match t.node? place with
      | some .folder => walk make links t place rest
      | some (.file _) => if rest.isEmpty then some (t, place) else none
      | some (.link target) =>
        match links with
        | 0 => none
        | links + 1 =>
          if target.head? = some FilePath.slash then none
          else walk make links t folder (FilePath.ofBytes target ++ rest)
      | none =>
        if make then walk make links (t.put place .folder) place rest
        else if rest.isEmpty then some (t, place)
        else none
termination_by (links, rest.length)

/-- The path without links that a path leads to. -/
def resolve? (p : FilePath) : Option FilePath :=
  (walk false maxLinks t [] p).map (·.2)

/-- What a path leads to, links followed. -/
def follow? (p : FilePath) : Option (FileNode α) := do
  t.node? (← t.resolve? p)

/-- What stands at a path, a link at its end not followed. -/
def entry? (p : FilePath) : Option (FileNode α) :=
  match p.getLast? with
  | none => some .folder
  | some name => do t.node? ((← t.resolve? p.dropLast) ++ [name])

/-- The path leads to a folder. -/
def isFolder (p : FilePath) : Bool :=
  match t.follow? p with
  | some .folder => true
  | _ => false

/-- Makes a folder and all folders above it. -/
def makeFolder? (p : FilePath) : Option (FileTree α) := do
  let (t, place) ← walk true maxLinks t [] p
  if t.isFolder place then some t else none

/-- Writes a file, and makes the folders above it. -/
def write? (p : FilePath) (contents : α) : Option (FileTree α) := do
  let t ← t.makeFolder? p.dropLast
  return t.put (← t.resolve? p) (.file contents)

/-- Makes a link, and the folders above it. -/
def makeLink? (p : FilePath) (target : List UInt8) : Option (FileTree α) := do
  let t ← t.makeFolder? p.dropLast
  return t.put ((← t.resolve? p.dropLast) ++ p.getLast?.toList) (.link target)

end FileTree

end AssemblyAtlas
