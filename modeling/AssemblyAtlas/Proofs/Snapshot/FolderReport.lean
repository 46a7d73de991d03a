import AssemblyAtlas.Proofs.Snapshot.Accepted
import AssemblyAtlas.Proofs.Text.AsciiCase
import AssemblyAtlas.Snapshot.Folder

/-!
# What becomes of the files of a folder

Each file of a folder has one outcome: it is loaded, or it is left out and reported. The outcome
depends on the contents of the file and on the names seen before it (`Loading.outcome`), and the
report lists the outcomes in the order of the files (`LoadReport.Accounts`). A file that is left out
has no influence on the others, so that the folder may as well be loaded without it
(`Loading.alike_keepAt`). The lists that grow while files are loaded keep step with each other
(`Loading.Consistent`), so that what is loaded makes a sound catalog: every assembly passes the
checks on snapshots, and no two have the same name (`LoadReport.Sound`).
-/

namespace AssemblyAtlas

/-- A path does not come after another if and only if it is at most as large. -/
theorem FilePath.isLE_compare_iff {p q : FilePath} : (compare p q).isLE = true ↔ p ≤ q := by
  unfold compare compareOfLessAndEq
  by_cases hlt : p < q
  · simp [hlt, List.le_of_lt hlt]
  · by_cases heq : p = q
    · simp [heq, List.lt_irrefl]
    · simpa [hlt, heq] using Std.lt_of_le_of_ne (List.not_lt.1 hlt) (Ne.symm heq)

namespace Snapshot

/-- A file that was loaded: how it is listed, and the assembly in it. -/
structure Loaded where
  file : LoadedFile
  assembly : Assembly

/-- What becomes of a file: it is loaded, or left out and reported. -/
abbrev Outcome := Except Diagnostic Loaded

namespace Outcome

/-- What the file is loaded as. -/
def loaded? : Outcome → Option Loaded
  | .ok entry => some entry
  | .error _ => none

/-- The report on the file when it was left out. -/
def leftOut? : Outcome → Option Diagnostic
  | .ok _ => none
  | .error diagnostic => some diagnostic

/-- The path under which the file is listed or reported. -/
def path : Outcome → String
  | .ok entry => entry.file.path
  | .error diagnostic => diagnostic.path

/-- Every path is listed or reported, and only once. -/
theorem perm_paths (outcomes : List Outcome) :
    ((outcomes.filterMap loaded?).map (·.file.path) ++
      (outcomes.filterMap leftOut?).map (·.path)).Perm (outcomes.map path) := by
  induction outcomes with
  | nil => exact .nil
  | cons o outcomes ih =>
    cases o with
    | ok entry => exact ih.cons entry.file.path
    | error diagnostic => exact List.perm_middle.trans (ih.cons diagnostic.path)

/-- Files are listed in order. -/
theorem sublist_paths (outcomes : List Outcome) :
    ((outcomes.filterMap loaded?).map (·.file.path)).Sublist (outcomes.map path) := by
  induction outcomes with
  | nil => exact .slnil
  | cons o outcomes ih =>
    cases o with
    | ok entry => exact ih.cons_cons entry.file.path
    | error diagnostic => exact ih.cons diagnostic.path

end Outcome

/-- The elements at the positions that `keep` has. -/
def keepAt {α : Type} (keep : Nat → Bool) : List α → List α
  | [] => []
  | x :: xs =>
    if keep 0 then x :: keepAt (fun i => keep (i + 1)) xs else keepAt (fun i => keep (i + 1)) xs

open LoadReport (pathText)

namespace Loading

variable {l : Loading} {file : FilePath × List UInt8}

/-! ### One file -/

/-- What becomes of one more file. -/
def outcome (l : Loading) (file : FilePath × List UInt8) : Outcome :=
  match loadBytes file.2 with
  | .error fault => .error ⟨pathText file.1, .refused fault⟩
  | .ok assembly =>
    if l.seen.contains (Text.lower assembly.name) then
      .error ⟨pathText file.1, .duplicate assembly.name⟩
    else
      .ok
        { file :=
            { path := pathText file.1
              assembly := assembly.name
              contentHash := Sha256.hex file.2
              sizeBytes := file.2.length }
          assembly }

/-- The report with one more outcome. -/
def record (l : Loading) : Outcome → Loading
  | .ok entry =>
    { l with
      assemblies := l.assemblies ++ [entry.assembly]
      files := l.files ++ [entry.file]
      seen := Text.lower entry.assembly.name :: l.seen }
  | .error diagnostic => { l with diagnostics := l.diagnostics ++ [diagnostic] }

/-- One more file changes the report by its outcome. -/
theorem add_eq (l : Loading) (file : FilePath × List UInt8) :
    l.add file = l.record (l.outcome file) := by
  unfold add outcome
  cases loadBytes file.2 with
  | error fault => rfl
  | ok a => by_cases h : l.seen.contains (Text.lower a.name) = true <;> simp only [h] <;> rfl

theorem outcome_eq_ok_iff {entry : Loaded} :
    l.outcome file = .ok entry ↔
      loadBytes file.2 = .ok entry.assembly ∧ Text.lower entry.assembly.name ∉ l.seen ∧
        entry.file = ⟨pathText file.1, entry.assembly.name, Sha256.hex file.2, file.2.length⟩ := by
  unfold outcome
  cases loadBytes file.2 with
  | error fault => simp
  | ok a =>
    obtain ⟨listed, b⟩ := entry
    by_cases h : Text.lower a.name ∈ l.seen <;> grind

theorem outcome_eq_duplicate_iff {name : String} :
    l.outcome file = .error ⟨pathText file.1, .duplicate name⟩ ↔
      ∃ a, loadBytes file.2 = .ok a ∧ a.name = name ∧ Text.lower a.name ∈ l.seen := by
  unfold outcome
  cases loadBytes file.2 with
  | error fault => simp
  | ok a => by_cases h : Text.lower a.name ∈ l.seen <;> simp [h]

theorem outcome_eq_refused_iff {fault : SnapshotFault} :
    l.outcome file = .error ⟨pathText file.1, .refused fault⟩ ↔
      loadBytes file.2 = .error fault := by
  unfold outcome
  cases loadBytes file.2 with
  | error fault => simp
  | ok a => by_cases h : Text.lower a.name ∈ l.seen <;> simp [h]

theorem outcome_cases (l : Loading) (file : FilePath × List UInt8) :
    (∃ entry, l.outcome file = .ok entry) ∨
      (∃ name, l.outcome file = .error ⟨pathText file.1, .duplicate name⟩) ∨
      ∃ fault, l.outcome file = .error ⟨pathText file.1, .refused fault⟩ := by
  unfold outcome
  cases loadBytes file.2 with
  | error fault => exact .inr (.inr ⟨fault, rfl⟩)
  | ok a => by_cases h : Text.lower a.name ∈ l.seen <;> simp [h]

theorem path_outcome (l : Loading) (file : FilePath × List UInt8) :
    (l.outcome file).path = pathText file.1 := by
  rcases l.outcome_cases file with ⟨entry, h⟩ | ⟨name, h⟩ | ⟨fault, h⟩
  · rw [h, Outcome.path, (outcome_eq_ok_iff.1 h).2.2]
  · rw [h, Outcome.path]
  · rw [h, Outcome.path]

/-! ### All files -/

/-- What becomes of files that are added to a report in order. -/
def outcomesFrom (l : Loading) : List (FilePath × List UInt8) → List Outcome
  | [] => []
  | file :: files => l.outcome file :: (l.add file).outcomesFrom files

theorem map_path_outcomesFrom (l : Loading) (files : List (FilePath × List UInt8)) :
    (l.outcomesFrom files).map Outcome.path = files.map fun file => pathText file.1 := by
  induction files generalizing l with
  | nil => rfl
  | cons file files ih =>
    rw [outcomesFrom, List.map_cons, ih, path_outcome, List.map_cons]

/-- The report lists the outcomes in order. -/
theorem foldl_add_eq (l : Loading) (files : List (FilePath × List UInt8)) :
    files.foldl add l = (l.outcomesFrom files).foldl record l := by
  induction files generalizing l with
  | nil => rfl
  | cons file files ih =>
    rw [List.foldl_cons, ih, outcomesFrom, List.foldl_cons, add_eq]

/-- Each of the lists grows by its part of the outcomes. -/
theorem foldl_record_eq (l : Loading) (outcomes : List Outcome) :
    outcomes.foldl record l =
      { assemblies := l.assemblies ++ (outcomes.filterMap Outcome.loaded?).map (·.assembly)
        files := l.files ++ (outcomes.filterMap Outcome.loaded?).map (·.file)
        diagnostics := l.diagnostics ++ outcomes.filterMap Outcome.leftOut?
        seen := ((outcomes.filterMap Outcome.loaded?).map
          fun entry => Text.lower entry.assembly.name).reverse ++ l.seen } := by
  induction outcomes generalizing l with
  | nil => simp
  | cons o outcomes ih =>
    rw [List.foldl_cons, ih]
    cases o <;> simp [record, Outcome.loaded?, Outcome.leftOut?, List.filterMap_cons]

/-- The outcome of a file is decided by the report on the files before it. -/
theorem getElem?_outcomesFrom (l : Loading) (files : List (FilePath × List UInt8)) (i : Nat) :
    (l.outcomesFrom files)[i]? = files[i]?.map ((files.take i).foldl add l).outcome := by
  induction files generalizing l i with
  | nil => simp [outcomesFrom]
  | cons file files ih =>
    cases i with
    | zero => simp [outcomesFrom]
    | succ i => simp [outcomesFrom, ih]

theorem outcomesFrom_take (l : Loading) (files : List (FilePath × List UInt8)) (i : Nat) :
    l.outcomesFrom (files.take i) = (l.outcomesFrom files).take i := by
  induction files generalizing l i with
  | nil => simp [outcomesFrom]
  | cons file files ih =>
    cases i with
    | zero => simp [outcomesFrom]
    | succ i => simp [outcomesFrom, ih]

end Loading

namespace LoadReport

/-- The report tells what became of every file: each has one outcome, and the outcomes are listed in
the order of the files. -/
structure Accounts (files : List (FilePath × List UInt8)) (outcomes : List Outcome)
    (r : LoadReport) : Prop where
  /-- Each file has one outcome, under its own path. -/
  paths_eq : outcomes.map Outcome.path = files.map fun file => pathText file.1
  /-- The loaded files are listed in order. -/
  files_eq : r.files = (outcomes.filterMap Outcome.loaded?).map (·.file)
  /-- Their assemblies are in the same order. -/
  assemblies_eq : r.assemblies = (outcomes.filterMap Outcome.loaded?).map (·.assembly)
  /-- The files that are left out are reported in order. -/
  diagnostics_eq : r.diagnostics = outcomes.filterMap Outcome.leftOut?
  /-- A loaded file is listed with its path, the name of the assembly that it describes, its hash
  and its size. -/
  loaded : ∀ (i : Nat) (file : FilePath × List UInt8) (entry : Loaded),
    files[i]? = some file → outcomes[i]? = some (.ok entry) →
      loadBytes file.2 = .ok entry.assembly ∧
        entry.file = ⟨pathText file.1, entry.assembly.name, Sha256.hex file.2, file.2.length⟩
  /-- A file is a duplicate if and only if it describes an assembly of the same name as one loaded
  before it, ignoring the case of ASCII letters. -/
  duplicate_iff : ∀ (i : Nat) (file : FilePath × List UInt8) name, files[i]? = some file →
    (outcomes[i]? = some (.error ⟨pathText file.1, .duplicate name⟩) ↔
      ∃ a, loadBytes file.2 = .ok a ∧ a.name = name ∧
        ∃ e ∈ (outcomes.take i).filterMap Outcome.loaded?,
          Text.eqIgnoreCase e.assembly.name a.name = true)
  /-- A file is refused if and only if it is no text, or no snapshot. -/
  refused_iff : ∀ (i : Nat) (file : FilePath × List UInt8) fault, files[i]? = some file →
    (outcomes[i]? = some (.error ⟨pathText file.1, .refused fault⟩) ↔
      Text.Utf8.decode? file.2 = none ∧ fault = .notUtf8 ∨
        ∃ s, Text.Utf8.decode? file.2 = some s ∧ load s = .error fault)
  /-- There are no other outcomes. -/
  outcome_cases : ∀ (i : Nat) (file : FilePath × List UInt8), files[i]? = some file →
    (∃ entry, outcomes[i]? = some (.ok entry)) ∨
      (∃ name, outcomes[i]? = some (.error ⟨pathText file.1, .duplicate name⟩)) ∨
      ∃ fault, outcomes[i]? = some (.error ⟨pathText file.1, .refused fault⟩)

theorem loadBytes_eq_error_iff {bytes : List UInt8} {fault : SnapshotFault} :
    loadBytes bytes = .error fault ↔
      Text.Utf8.decode? bytes = none ∧ fault = .notUtf8 ∨
        ∃ s, Text.Utf8.decode? bytes = some s ∧ load s = .error fault := by
  unfold loadBytes
  cases Text.Utf8.decode? bytes with
  | none => simp [eq_comm]
  | some s => simp

/-- **The report on files accounts for each of them.** -/
theorem accounts_ofFiles (files : List (FilePath × List UInt8)) :
    Accounts files (Loading.outcomesFrom {} files) (ofFiles files) := by
  have houtcome : ∀ i file, files[i]? = some file →
      (Loading.outcomesFrom {} files)[i]? =
        some (((files.take i).foldl Loading.add {}).outcome file) := by
    intro i file hfile
    rw [Loading.getElem?_outcomesFrom, hfile]
    rfl
  have hseen : ∀ i a, Text.lower a ∈ ((files.take i).foldl Loading.add {}).seen ↔
      ∃ e ∈ ((Loading.outcomesFrom {} files).take i).filterMap Outcome.loaded?,
        Text.eqIgnoreCase e.assembly.name a = true := by
    intro i a
    rw [Loading.foldl_add_eq, Loading.foldl_record_eq, Loading.outcomesFrom_take]
    simp only [List.append_nil, List.mem_reverse, List.mem_map, Text.eqIgnoreCase_iff]
  have hreport := congrArg Loading.toLoadReport
    ((Loading.foldl_add_eq {} files).trans (Loading.foldl_record_eq _ _))
  constructor
  case paths_eq => exact Loading.map_path_outcomesFrom {} files
  case files_eq => rw [ofFiles, hreport]; rfl
  case assemblies_eq => rw [ofFiles, hreport]; rfl
  case diagnostics_eq => rw [ofFiles, hreport]; rfl
  case loaded =>
    intro i file entry hfile hentry
    rw [houtcome i file hfile, Option.some.injEq, Loading.outcome_eq_ok_iff] at hentry
    obtain ⟨hload, -, hlisted⟩ := hentry
    exact ⟨hload, hlisted⟩
  case duplicate_iff =>
    intro i file name hfile
    rw [houtcome i file hfile, Option.some.injEq, Loading.outcome_eq_duplicate_iff]
    simp only [hseen]
  case refused_iff =>
    intro i file fault hfile
    rw [houtcome i file hfile, Option.some.injEq, Loading.outcome_eq_refused_iff,
      loadBytes_eq_error_iff]
  case outcome_cases =>
    intro i file hfile
    rw [houtcome i file hfile]
    simpa only [Option.some.injEq] using Loading.outcome_cases _ file

end LoadReport

/-! ### Files that are left out -/

namespace Loading

/-- The same has been loaded, whatever was left out. -/
structure Alike (l l' : Loading) : Prop where
  assemblies : l.assemblies = l'.assemblies
  files : l.files = l'.files
  seen : l.seen = l'.seen

namespace Alike

variable {l l' : Loading}

/-- Only the names of what is loaded decide on the outcome. -/
theorem outcome_eq (h : l.Alike l') (file : FilePath × List UInt8) :
    l.outcome file = l'.outcome file := by
  rw [outcome, outcome, h.seen]

theorem record (h : l.Alike l') (o : Outcome) : (l.record o).Alike (l'.record o) := by
  cases o with
  | error diagnostic => exact ⟨h.assemblies, h.files, h.seen⟩
  | ok entry =>
    constructor <;> simp only [Loading.record, h.assemblies, h.files, h.seen]

theorem leaveOut (h : l.Alike l') (diagnostic : Diagnostic) :
    l.Alike (l'.record (.error diagnostic)) :=
  ⟨h.assemblies, h.files, h.seen⟩

end Alike

/-- **Without files that are left out, the same is loaded.** -/
theorem alike_keepAt {l l' : Loading} (hl : l'.Alike l) {files : List (FilePath × List UInt8)}
    {keep : Nat → Bool}
    (hkeep : ∀ i entry, (l.outcomesFrom files)[i]? = some (.ok entry) → keep i = true) :
    ((keepAt keep files).foldl add l').Alike (files.foldl add l) := by
  induction files generalizing l l' keep with
  | nil => exact hl
  | cons file files ih =>
    have hrest : ∀ i entry, ((l.add file).outcomesFrom files)[i]? = some (.ok entry) →
        keep (i + 1) = true := fun i entry h => hkeep (i + 1) entry h
    rw [keepAt, List.foldl_cons]
    split
    · rw [List.foldl_cons]
      refine ih ?_ hrest
      rw [add_eq, add_eq, hl.outcome_eq]
      exact hl.record _
    · -- The file is not kept, so it is not one that is loaded.
      next hdrop =>
      refine ih ?_ hrest
      rw [add_eq]
      cases h : l.outcome file with
      | ok entry => exact absurd (hkeep 0 entry (congrArg some h)) hdrop
      | error diagnostic => exact hl.leaveOut diagnostic

end Loading

/-! ### What is loaded -/

namespace LoadReport

/-- Every loaded assembly passes the checks on snapshots, and no two have the same name, ignoring
the case of ASCII letters. -/
structure Sound (r : LoadReport) : Prop where
  valid : ∀ a ∈ r.assemblies, a.fault? = none
  distinct : r.assemblies.Pairwise fun a b => Text.eqIgnoreCase a.name b.name = false

theorem valid_of_loadBytes {bytes : List UInt8} {a : Assembly} (h : loadBytes bytes = .ok a) :
    a.fault? = none := by
  unfold loadBytes at h
  cases hs : Text.Utf8.decode? bytes with
  | none => simp [hs] at h
  | some s =>
    simp only [hs] at h
    exact (of_load h).1

end LoadReport

/-- The lists of a report keep step while files are loaded: the listed files and the names seen are
those of the assemblies, which are sound. -/
structure Loading.Consistent (l : Loading) : Prop where
  /-- The files and the assemblies have the same names in the same order. -/
  files : l.files.map (·.assembly) = l.assemblies.map (·.name)
  /-- What was seen are the names of the assemblies. -/
  seen : ∀ name, name ∈ l.seen ↔ ∃ a ∈ l.assemblies, Text.lower a.name = name
  sound : l.toLoadReport.Sound

namespace Loading.Consistent

/-- **One file** keeps the lists in step. -/
theorem add {l : Loading} (h : l.Consistent) (file : FilePath × List UInt8) :
    (l.add file).Consistent := by
  rw [add_eq]
  cases houtcome : l.outcome file with
  | error diagnostic => exact ⟨h.files, h.seen, h.sound.valid, h.sound.distinct⟩
  | ok entry =>
    obtain ⟨hload, hnew, hlisted⟩ := outcome_eq_ok_iff.1 houtcome
    have hname : entry.file.assembly = entry.assembly.name := by rw [hlisted]
    rw [h.seen] at hnew
    refine ⟨?_, fun name => ?_, fun a ha => ?_, ?_⟩
    · simp only [record, List.map_append, List.map_singleton, h.files, hname]
    · change name ∈ Text.lower entry.assembly.name :: l.seen ↔
        ∃ a ∈ l.assemblies ++ [entry.assembly], Text.lower a.name = name
      rw [List.mem_cons, h.seen, or_comm, eq_comm]
      simp only [List.mem_append, List.mem_singleton, or_and_right, exists_or, exists_eq_left]
    · rcases List.mem_append.1 ha with ha | ha
      · exact h.sound.valid a ha
      · rw [List.mem_singleton.1 ha]
        exact LoadReport.valid_of_loadBytes hload
    · refine List.pairwise_append.2 ⟨h.sound.distinct, List.pairwise_singleton _ _, ?_⟩
      intro a ha b hb
      rw [List.mem_singleton.1 hb, ← Bool.not_eq_true, Text.eqIgnoreCase_iff]
      exact fun hsame => hnew ⟨a, ha, hsame⟩

/-- **All files** keep the lists in step. -/
theorem foldl_add (files : List (FilePath × List UInt8)) :
    (files.foldl Loading.add {}).Consistent :=
  List.foldlRecOn files Loading.add ⟨rfl, by simp, by simp, .nil⟩ fun _ h file _ => h.add file

end Loading.Consistent

namespace LoadReport

/-! ### The order of the files -/

theorem pairwise_discover (t : FileTree (List UInt8)) (root : FilePath) :
    (discover t root).Pairwise fun f g => f.1 ≤ g.1 := by
  have hsorted : ∀ folder, (filesIn t folder).Pairwise fun f g => f.1 ≤ g.1 := by
    intro folder
    refine (List.pairwise_mergeSort ?_ ?_ _).imp FilePath.isLE_compare_iff.1
    · simp only [FilePath.isLE_compare_iff]
      exact fun f g h => List.le_trans
    · simp only [Bool.or_eq_true, FilePath.isLE_compare_iff]
      exact fun f g => List.le_total f.1 g.1
  unfold discover
  split
  · split
    · exact List.pairwise_singleton _ _
    · exact .nil
  · split
    · exact hsorted _
    · exact .nil
  · exact .nil

/-- **Every file of a folder is loaded or reported, and what is loaded makes a sound catalog.** A
folder is loaded by the report on the files that are found in it, in the order of their paths.
Whatever the files hold, each path is listed or reported once, the listed ones in order; a file is
reported as a duplicate or refused for its own contents and what was loaded before it; the listed
files and the assemblies of the catalog have the same names, position by position; the assemblies
pass the checks and differ in their names; and without any files that are reported the same files
are listed and the catalog is the same. -/
theorem ofFiles_accounts (files : List (FilePath × List UInt8)) :
    (∀ t root, t.isFolder (.ofText root) = true → discover t (.ofText root) = files →
      loadFolder t root = .ok (ofFiles files) ∧ files.Pairwise fun f g => f.1 ≤ g.1) ∧
    ∃ outcomes, Accounts files outcomes (ofFiles files) ∧
      ((ofFiles files).files.map (·.path) ++ (ofFiles files).diagnostics.map (·.path)).Perm
        (files.map fun file => pathText file.1) ∧
      ((ofFiles files).files.map (·.path)).Sublist (files.map fun file => pathText file.1) ∧
      (ofFiles files).files.map (·.assembly) = (ofFiles files).catalog.assemblies.map (·.name) ∧
      (ofFiles files).Sound ∧
      ∀ keep : Nat → Bool, (∀ i entry, outcomes[i]? = some (.ok entry) → keep i = true) →
        (ofFiles (keepAt keep files)).files = (ofFiles files).files ∧
          (ofFiles (keepAt keep files)).catalog = (ofFiles files).catalog := by
  have haccounts := accounts_ofFiles files
  have hconsistent := Loading.Consistent.foldl_add files
  refine ⟨fun t root hfolder hfiles => ?_, Loading.outcomesFrom {} files, haccounts, ?_, ?_,
    hconsistent.files, hconsistent.sound, fun keep hkeep => ?_⟩
  · refine ⟨?_, hfiles ▸ pairwise_discover t _⟩
    simp only [loadFolder, hfolder, hfiles, if_true]
  · rw [haccounts.files_eq, haccounts.diagnostics_eq, ← haccounts.paths_eq, List.map_map]
    exact Outcome.perm_paths _
  · rw [haccounts.files_eq, ← haccounts.paths_eq, List.map_map]
    exact Outcome.sublist_paths _
  · have hsame : ((keepAt keep files).foldl Loading.add {}).Alike (files.foldl Loading.add {}) :=
      Loading.alike_keepAt ⟨rfl, rfl, rfl⟩ hkeep
    exact ⟨hsame.files, congrArg Catalog.ofAssemblies hsame.assemblies⟩

end LoadReport

end Snapshot

end AssemblyAtlas
