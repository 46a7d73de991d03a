import Mathlib.Logic.Function.Basic
import AssemblyAtlas.Proofs.Snapshot.RoundTrip
import AssemblyAtlas.Proofs.Sorted
import AssemblyAtlas.Proofs.Text.AsciiCase
import AssemblyAtlas.Proofs.Text.ByteOrder
import AssemblyAtlas.Store.Basic

/-!
# What a store holds

Seen from outside, a store is a finite map from names to assemblies: saving sets the entry under the
name of the assembly, and removing clears the entries of a name. `Holdings` is that map, and
`Tables.Records` relates the tables to it: they have one row for every entry. Every request keeps
the relation and is answered as the map answers it (`Tables.Records.serve`), so that after any run
from an empty store the assemblies that are loaded are the entries of the map, in the order of their
names (`Tables.serveAll_refines`).

A saved assembly is told from the stored one by the hash of its text alone. The results therefore
assume that the hash tells the texts of the saved assemblies apart.
-/

namespace AssemblyAtlas.Store

/-- A request that changes a store. -/
inductive Request where
  | save (assembly : Assembly)
  | saveAll (assemblies : List Assembly)
  | remove (name : String)

/-- The assemblies that a request saves. -/
def Request.assemblies : Request → List Assembly
  | save a => [a]
  | saveAll as => as
  | remove _ => []

/-- The names that a request removes. -/
def Request.removed : Request → List String
  | save _ => []
  | saveAll _ => []
  | remove name => [name]

/-- The answer to a request. -/
inductive Reply where
  /-- Whether the assembly was written. -/
  | saved (new : Bool)
  /-- How many assemblies were written. -/
  | savedAll (written : Nat)
  /-- Whether there were assemblies of the name. -/
  | removed (found : Bool)
deriving DecidableEq

namespace Tables

/-- The tables after a request, and the answer. -/
def serve (t : Tables) : Request → Tables × Reply
  | .save a => ((t.save a).1, .saved (t.save a).2)
  | .saveAll as => ((t.saveAll as).1, .savedAll (t.saveAll as).2)
  | .remove name => ((t.remove name).1, .removed (t.remove name).2)

/-- The tables after requests in order, and the answers. -/
def serveAll (t : Tables) : List Request → Tables × List Reply
  | [] => (t, [])
  | r :: rs =>
    let rest := (t.serve r).1.serveAll rs
    (rest.1, (t.serve r).2 :: rest.2)

end Tables

/-- The assembly that is held under each name. -/
abbrev Holdings := String → Option Assembly

namespace Holdings

open Classical

variable (h : Holdings)

/-- Sets the entry of an assembly, and says whether that changes the map. -/
noncomputable def save (a : Assembly) : Holdings × Bool :=
  (Function.update h a.name (some a), decide (h a.name ≠ some a))

/-- Sets the entries of assemblies in order, and counts those that change the map. -/
noncomputable def saveAll (h : Holdings) : List Assembly → Holdings × Nat
  | [] => (h, 0)
  | a :: as =>
    let rest := (h.save a).1.saveAll as
    (rest.1, rest.2 + if (h.save a).2 then 1 else 0)

/-- Clears the entries whose names are the same as this one, and says whether there were any. -/
noncomputable def remove (same : String → String → Bool) (name : String) : Holdings × Bool :=
  (fun n => if same n name then none else h n, decide (∃ n, same n name ∧ (h n).isSome))

/-- The map after a request, and the answer. -/
noncomputable def serve (same : String → String → Bool) : Request → Holdings × Reply
  | .save a => ((h.save a).1, .saved (h.save a).2)
  | .saveAll as => ((h.saveAll as).1, .savedAll (h.saveAll as).2)
  | .remove name => ((h.remove same name).1, .removed (h.remove same name).2)

/-- The map after requests in order, and the answers, when names are compared by `same`. -/
noncomputable def serveAll (same : String → String → Bool) (h : Holdings) :
    List Request → Holdings × List Reply
  | [] => (h, [])
  | r :: rs =>
    let rest := (h.serve same r).1.serveAll same rs
    (rest.1, (h.serve same r).2 :: rest.2)

variable {h} {same same' : String → String → Bool}

theorem serve_congr {r : Request} (hsame : ∀ name ∈ r.removed, ∀ n, same n name = same' n name) :
    h.serve same r = h.serve same' r := by
  cases r with
  | save a => rfl
  | saveAll as => rfl
  | remove name =>
    have hname : ∀ n, same n name = same' n name := hsame name List.mem_cons_self
    simp only [serve, remove, hname]

/-- Only the names that are removed are compared. -/
theorem serveAll_congr {rs : List Request}
    (hsame : ∀ name ∈ rs.flatMap Request.removed, ∀ n, same n name = same' n name) :
    serveAll same h rs = serveAll same' h rs := by
  induction rs generalizing h with
  | nil => rfl
  | cons r rs ih =>
    rw [List.flatMap_cons, List.forall_mem_append] at hsame
    rw [serveAll, serveAll, serve_congr hsame.1, ih hsame.2]

end Holdings

/-! ### Names -/

theorem sameName_iff {m n : String} : sameName m n = true ↔
    Text.lower (sameName.beforeZero m) = Text.lower (sameName.beforeZero n) ∧
      m.utf8ByteSize = n.utf8ByteSize := by
  rw [sameName, Bool.and_eq_true, Text.eqIgnoreCase_iff, beq_iff_eq]

theorem sameName_self (name : String) : sameName name name = true :=
  sameName_iff.2 ⟨rfl, rfl⟩

theorem sameName_comm (m n : String) : sameName m n = sameName n m := by
  rw [Bool.eq_iff_iff, sameName_iff, sameName_iff, eq_comm, eq_comm (a := m.utf8ByteSize)]

theorem sameName_congr_left {m n : String} (h : sameName m n = true) (k : String) :
    sameName m k = sameName n k := by
  obtain ⟨hlower, hsize⟩ := sameName_iff.1 h
  rw [Bool.eq_iff_iff, sameName_iff, sameName_iff, hlower, hsize]

theorem toLower_toNat_eq_zero {c : Char} : c.toLower.toNat = 0 ↔ c.toNat = 0 := by
  rcases Text.toLower_eq_self_or_letter c with h | ⟨hA, -, hlower⟩
  · rw [h]
  · omega

theorem beforeZero_eq_self {s : String} (h : ∀ c ∈ s.toList, c.toNat ≠ 0) :
    sameName.beforeZero s = s := by
  have hall : s.toList.takeWhile (·.toNat != 0) = s.toList :=
    List.takeWhile_eq_self_iff.2 fun c hc => by simpa using h c hc
  rw [sameName.beforeZero, hall, String.ofList_toList]

/-- A text that is not cut short by its first zero character has none. -/
theorem beforeZero_eq_self_of_size {s : String}
    (h : (sameName.beforeZero s).utf8ByteSize = s.utf8ByteSize) : sameName.beforeZero s = s := by
  have hsplit : s.toList.takeWhile (·.toNat != 0) ++ s.toList.dropWhile (·.toNat != 0) = s.toList :=
    List.takeWhile_append_dropWhile
  have hs : s = String.ofList (s.toList.takeWhile (·.toNat != 0)) ++
      String.ofList (s.toList.dropWhile (·.toNat != 0)) := by
    rw [← String.ofList_append, hsplit, String.ofList_toList]
  have hrest : (String.ofList (s.toList.dropWhile (·.toNat != 0))).utf8ByteSize = 0 := by
    have hsize := congrArg String.utf8ByteSize hs
    rw [String.utf8ByteSize_append, ← sameName.beforeZero] at hsize
    omega
  rw [String.utf8ByteSize_eq_zero_iff] at hrest
  rw [hrest, String.append_empty] at hs
  exact hs.symm

/-- To the store, a name without zero characters is the same as those that differ from it in the
case of ASCII letters, and no others. -/
theorem sameName_eq_eqIgnoreCase (m : String) {n : String} (h : ∀ c ∈ n.toList, c.toNat ≠ 0) :
    sameName m n = Text.eqIgnoreCase m n := by
  rw [Bool.eq_iff_iff]
  constructor
  · intro hsame
    obtain ⟨hcase, hsize⟩ : Text.eqIgnoreCase (sameName.beforeZero m) n = true ∧
        m.utf8ByteSize = n.utf8ByteSize := by
      simpa [sameName, beforeZero_eq_self h] using hsame
    -- As long as `n` and as the part before its first zero character, `m` has nothing after it.
    have hm : (sameName.beforeZero m).utf8ByteSize = m.utf8ByteSize := by
      rw [hsize, ← Text.utf8ByteSize_lower, Text.eqIgnoreCase_iff.1 hcase, Text.utf8ByteSize_lower]
    rwa [beforeZero_eq_self_of_size hm] at hcase
  · intro hcase
    have hlower := Text.eqIgnoreCase_iff.1 hcase
    -- Only a zero character has the lower case of one.
    have hm : ∀ c ∈ m.toList, c.toNat ≠ 0 := by
      intro c hc hzero
      have hmem : c.toLower ∈ (Text.lower n).toList := by
        rw [← hlower, Text.toList_lower]
        exact List.mem_map_of_mem hc
      rw [Text.toList_lower] at hmem
      obtain ⟨d, hd, heq⟩ := List.mem_map.1 hmem
      exact h d hd (toLower_toNat_eq_zero.1 (heq ▸ toLower_toNat_eq_zero.2 hzero))
    have hsize : m.utf8ByteSize = n.utf8ByteSize := by
      rw [← Text.utf8ByteSize_lower, hlower, Text.utf8ByteSize_lower]
    simp [sameName, beforeZero_eq_self h, beforeZero_eq_self hm, hcase, hsize]

/-! ### Rows and entries -/

/-- The assemblies can be stored, and the hash tells their texts apart. -/
structure Distinguished (pool : List Assembly) : Prop where
  storable : ∀ a ∈ pool, a.IsStorable
  /-- Different texts have different hashes. -/
  hash : ∀ a ∈ pool, ∀ b ∈ pool,
    Sha256.hex (Text.Utf8.encode a.canonicalText) = Sha256.hex (Text.Utf8.encode b.canonicalText) →
      a.canonicalText = b.canonicalText

theorem Distinguished.eq_of_contentHash {pool : List Assembly} (hpool : Distinguished pool)
    {a b : Assembly} (ha : a ∈ pool) (hb : b ∈ pool)
    (h : (AssemblyRow.of a).contentHash = (AssemblyRow.of b).contentHash) : a = b :=
  Assembly.eq_of_canonicalText_eq (hpool.storable a ha) (hpool.storable b hb)
    (hpool.hash a ha b hb h)

/-- Putting the row of an assembly replaces the row of its name, or adds one. -/
theorem exists_putRow_eq (a : Assembly) {as : List Assembly} (h : (as.map (·.name)).Nodup) :
    ∃ as' : List Assembly, Tables.putRow (.of a) (as.map .of) = as'.map .of ∧
      (as'.map (·.name)).Nodup ∧ ∀ b, b ∈ as' ↔ b = a ∨ b ∈ as ∧ b.name ≠ a.name := by
  induction as with
  | nil => exact ⟨[a], rfl, by simp, by simp⟩
  | cons r as ih =>
    rw [List.map_cons, List.nodup_cons] at h
    obtain ⟨hr, hnodup⟩ := h
    have hfresh : ∀ b ∈ as, b.name ≠ r.name := fun b hb heq => hr (heq ▸ List.mem_map_of_mem hb)
    by_cases hname : r.name = a.name
    · refine ⟨a :: as, by simp [Tables.putRow, AssemblyRow.of, hname], ?_, fun b => ?_⟩
      · rw [List.map_cons, List.nodup_cons, ← hname]
        exact ⟨hr, hnodup⟩
      · grind
    · obtain ⟨as', hput, hnodup', hmem⟩ := ih hnodup
      refine ⟨r :: as', ?_, ?_, fun b => ?_⟩
      · rw [List.map_cons, Tables.putRow, if_neg (by exact hname), hput, List.map_cons]
      · rw [List.map_cons, List.nodup_cons]
        refine ⟨fun hin => ?_, hnodup'⟩
        obtain ⟨b, hb, heq⟩ := List.mem_map.1 hin
        rcases (hmem b).1 hb with rfl | ⟨hb, -⟩
        · exact hname heq.symm
        · exact hfresh b hb heq
      · grind

theorem find?_map_contentHash {as : List Assembly} (h : (as.map (·.name)).Nodup)
    (n : String) (hash : String) :
    ((as.map AssemblyRow.of).find? (·.name == n)).map (·.contentHash) = some hash ↔
      ∃ b ∈ as, b.name = n ∧ (AssemblyRow.of b).contentHash = hash := by
  induction as with
  | nil => simp
  | cons r as ih =>
    rw [List.map_cons, List.nodup_cons] at h
    have hr : (AssemblyRow.of r).name = r.name := rfl
    by_cases hname : r.name = n
    · have hfresh : ∀ b ∈ as, b.name ≠ n :=
        fun b hb heq => h.1 (hname ▸ heq ▸ List.mem_map_of_mem hb)
      simp only [List.map_cons, List.find?_cons, hr, hname, beq_self_eq_true, Option.map_some,
        Option.some.injEq, List.mem_cons]
      grind
    · rw [List.map_cons, List.find?_cons, hr, beq_false_of_ne hname, ih h.2]
      grind

theorem mapM_load_of {as : List Assembly} (h : ∀ a ∈ as, a.IsStorable) :
    (as.map AssemblyRow.of).mapM AssemblyRow.load = .ok as := by
  induction as with
  | nil => rfl
  | cons a as ih =>
    have hload : (AssemblyRow.of a).load = .ok a := by
      simp [AssemblyRow.load, AssemblyRow.of, Snapshot.load_canonicalText (h a (by simp))]
    rw [List.map_cons, List.mapM_cons, hload, ih fun b hb => h b (by simp [hb])]
    rfl

/-! ### Requests -/

namespace Tables

theorem foldl_save (as : List Assembly) (t : Tables) (n : Nat) :
    as.foldl (fun (t, written) a =>
      let (t, new) := t.save a
      (t, if new then written + 1 else written)) (t, n) =
      ((t.saveAll as).1, (t.saveAll as).2 + n) := by
  induction as generalizing t n with
  | nil => simp [saveAll]
  | cons a as ih =>
    rw [saveAll, List.foldl_cons, List.foldl_cons, ih, ih]
    cases (t.save a).2 with
    | false => simp
    | true => simp [Nat.add_assoc, Nat.add_comm 1]

theorem saveAll_cons (t : Tables) (a : Assembly) (as : List Assembly) :
    t.saveAll (a :: as) =
      (((t.save a).1.saveAll as).1,
        ((t.save a).1.saveAll as).2 + if (t.save a).2 then 1 else 0) := by
  rw [saveAll, List.foldl_cons, foldl_save]

/-- The tables have one row for each of the assemblies, which are the entries of the map and come
from the pool. -/
structure Records (pool : List Assembly) (t : Tables) (as : List Assembly) (h : Holdings) :
    Prop where
  rows : t.assemblies = as.map .of
  /-- No name is stored twice. -/
  nodup : (as.map (·.name)).Nodup
  known : ∀ a ∈ as, a ∈ pool
  entries : ∀ n a, h n = some a ↔ a ∈ as ∧ a.name = n

namespace Records

variable {pool as : List Assembly} {t : Tables} {h : Holdings}

theorem isSome_iff (hr : Records pool t as h) (n : String) :
    (h n).isSome ↔ ∃ a ∈ as, a.name = n := by
  rw [Option.isSome_iff_exists]
  exact exists_congr fun a => hr.entries n a

/-- The hash under the name of an assembly is its own exactly if the assembly is the entry there. -/
theorem find?_contentHash (hpool : Distinguished pool) (hr : Records pool t as h) {a : Assembly}
    (ha : a ∈ pool) :
    (t.assemblies.find? (·.name == a.name)).map (·.contentHash) =
      some (AssemblyRow.of a).contentHash ↔ h a.name = some a := by
  rw [hr.rows, find?_map_contentHash hr.nodup, hr.entries]
  constructor
  · rintro ⟨b, hb, -, hhash⟩
    rw [← hpool.eq_of_contentHash (hr.known b hb) ha hhash]
    exact ⟨hb, rfl⟩
  · rintro ⟨hmem, -⟩
    exact ⟨a, hmem, rfl, rfl⟩

theorem save (hpool : Distinguished pool) (hr : Records pool t as h) {a : Assembly}
    (ha : a ∈ pool) :
    (∃ as', Records pool (t.save a).1 as' (h.save a).1) ∧ (t.save a).2 = (h.save a).2 := by
  unfold Tables.save Holdings.save
  by_cases hsame : h a.name = some a
  · -- The entry is there already: neither the tables nor the map change.
    rw [if_pos ((hr.find?_contentHash hpool ha).2 hsame), ← hsame, Function.update_eq_self]
    exact ⟨⟨as, hr⟩, by simp⟩
  · rw [if_neg (mt (hr.find?_contentHash hpool ha).1 hsame)]
    obtain ⟨as', hput, hnodup, hmem⟩ := exists_putRow_eq a hr.nodup
    refine ⟨⟨as', ?_, hnodup, ?_, ?_⟩, by simp [hsame]⟩
    · rw [hr.rows, hput]
    · intro b hb
      rcases (hmem b).1 hb with rfl | ⟨hb, -⟩
      · exact ha
      · exact hr.known b hb
    · intro n b
      change Function.update h a.name (some a) n = some b ↔ _
      by_cases hn : n = a.name
      · subst hn
        rw [Function.update_self, hmem]
        grind
      · rw [Function.update_of_ne hn, hr.entries, hmem]
        grind

theorem saveAll (hpool : Distinguished pool) (hr : Records pool t as h) {bs : List Assembly}
    (hbs : ∀ b ∈ bs, b ∈ pool) :
    (∃ as', Records pool (t.saveAll bs).1 as' (h.saveAll bs).1) ∧
      (t.saveAll bs).2 = (h.saveAll bs).2 := by
  induction bs generalizing t h as with
  | nil => exact ⟨⟨as, hr⟩, rfl⟩
  | cons b bs ih =>
    obtain ⟨⟨as', hr'⟩, hnew⟩ := hr.save hpool (hbs b (by simp))
    obtain ⟨hrest, hcount⟩ := ih hr' fun c hc => hbs c (by simp [hc])
    rw [saveAll_cons, Holdings.saveAll]
    exact ⟨hrest, by rw [hcount, hnew]⟩

theorem remove (hr : Records pool t as h) (name : String) :
    (∃ as', Records pool (t.remove name).1 as' (h.remove sameName name).1) ∧
      (t.remove name).2 = (h.remove sameName name).2 := by
  unfold Tables.remove Holdings.remove
  constructor
  · refine ⟨as.filter fun a => !sameName a.name name, ?_, ?_, ?_, ?_⟩
    · rw [hr.rows, List.filter_map]
      rfl
    · exact hr.nodup.sublist (List.filter_sublist.map _)
    · exact fun a ha => hr.known a (List.mem_of_mem_filter ha)
    · intro n a
      by_cases hsame : sameName n name <;> grind [hr.entries n a]
  · rw [Bool.eq_iff_iff, hr.rows, List.any_map]
    simp only [List.any_eq_true, decide_eq_true_eq, hr.isSome_iff]
    constructor
    · rintro ⟨a, ha, hsame⟩
      exact ⟨a.name, hsame, a, ha, rfl⟩
    · rintro ⟨n, hsame, a, ha, rfl⟩
      exact ⟨a, ha, hsame⟩

/-- **A request is answered as the map answers it**, and the tables record the map afterwards. -/
theorem serve (hpool : Distinguished pool) (hr : Records pool t as h) {r : Request}
    (hsaved : ∀ a ∈ r.assemblies, a ∈ pool) :
    (∃ as', Records pool (t.serve r).1 as' (h.serve sameName r).1) ∧
      (t.serve r).2 = (h.serve sameName r).2 := by
  cases r with
  | save a =>
    obtain ⟨hrec, hreply⟩ := hr.save hpool (hsaved a (by simp [Request.assemblies]))
    exact ⟨hrec, congrArg Reply.saved hreply⟩
  | saveAll bs =>
    obtain ⟨hrec, hreply⟩ := hr.saveAll hpool hsaved
    exact ⟨hrec, congrArg Reply.savedAll hreply⟩
  | remove name =>
    obtain ⟨hrec, hreply⟩ := hr.remove name
    exact ⟨hrec, congrArg Reply.removed hreply⟩

theorem serveAll (hpool : Distinguished pool) (hr : Records pool t as h) {rs : List Request}
    (hsaved : ∀ r ∈ rs, ∀ a ∈ r.assemblies, a ∈ pool) :
    (∃ as', Records pool (t.serveAll rs).1 as' (h.serveAll sameName rs).1) ∧
      (t.serveAll rs).2 = (h.serveAll sameName rs).2 := by
  induction rs generalizing t h as with
  | nil => exact ⟨⟨as, hr⟩, rfl⟩
  | cons r rs ih =>
    obtain ⟨⟨as', hr'⟩, hreply⟩ := hr.serve hpool (hsaved r (by simp))
    obtain ⟨hrest, hreplies⟩ := ih hr' fun q hq => hsaved q (by simp [hq])
    exact ⟨hrest, by rw [Tables.serveAll, Holdings.serveAll, hreply, hreplies]⟩

theorem rowsByName_eq (hr : Records pool t as h) :
    t.rowsByName = (sortedBy (compareOn (·.name)) as).map .of := by
  rw [rowsByName, hr.rows, sortedBy_map]
  rfl

end Records

/-- What is read from the tables is what the map holds: the entries are loaded in the order of the
bytes of their names, and each is listed with its version, the hash of its text and the number of
its types. -/
def Presents (t : Tables) (h : Holdings) : Prop :=
  ∃ as : List Assembly,
    t.load = .ok as ∧
    as.Pairwise (fun a b => Text.Utf8.encode a.name < Text.Utf8.encode b.name) ∧
    (∀ n a, h n = some a ↔ a ∈ as ∧ a.name = n) ∧
    t.rowsByName = as.map fun a =>
      { name := a.name
        version := a.version
        contentHash := Sha256.hex (Text.Utf8.encode a.canonicalText)
        typeCount := a.types.length
        payload := a.canonicalText }

theorem Records.presents {pool as : List Assembly} {t : Tables} {h : Holdings}
    (hpool : Distinguished pool) (hr : Records pool t as h) : t.Presents h := by
  refine ⟨sortedBy (compareOn (·.name)) as, ?_, ?_, ?_, hr.rowsByName_eq⟩
  · rw [load, hr.rowsByName_eq]
    exact mapM_load_of fun a ha => hpool.storable a (hr.known a (mem_sortedBy.1 ha))
  · exact (pairwise_lt_sortedBy _ hr.nodup).imp Text.Utf8.encode_lt_encode_iff.2
  · simpa only [mem_sortedBy] using hr.entries

/-- **A store is a map from names to assemblies.** Requests to an empty store are answered as the
map answers them, and afterwards what is read is what the map holds. A name is removed with the
names that are the same to the store; when it has no zero character, these are the names that equal
it ignoring the case of ASCII letters. So when no name with a zero character is removed, the store
does what the map does that removes the names equal to a given one ignoring case. -/
theorem serveAll_refines (t : Tables) (empty : t.assemblies = []) (requests : List Request)
    (hpool : Distinguished (requests.flatMap Request.assemblies)) :
    (t.serveAll requests).2 = (Holdings.serveAll sameName (fun _ => none) requests).2 ∧
      (t.serveAll requests).1.Presents (Holdings.serveAll sameName (fun _ => none) requests).1 ∧
      (∀ m n : String, (∀ c ∈ n.toList, c.toNat ≠ 0) → sameName m n = Text.eqIgnoreCase m n) ∧
      ((∀ name ∈ requests.flatMap Request.removed, ∀ c ∈ name.toList, c.toNat ≠ 0) →
        (t.serveAll requests).2 =
            (Holdings.serveAll Text.eqIgnoreCase (fun _ => none) requests).2 ∧
          (t.serveAll requests).1.Presents
            (Holdings.serveAll Text.eqIgnoreCase (fun _ => none) requests).1) := by
  have hstart : Records (requests.flatMap Request.assemblies) t [] fun _ => none :=
    ⟨empty, List.nodup_nil, by simp, by simp⟩
  have hsaved : ∀ r ∈ requests, ∀ a ∈ r.assemblies, a ∈ requests.flatMap Request.assemblies :=
    fun r hr a ha => List.mem_flatMap.2 ⟨r, hr, ha⟩
  obtain ⟨⟨as, hrec⟩, hreplies⟩ := hstart.serveAll hpool hsaved
  refine ⟨hreplies, hrec.presents hpool, fun m _ hn => sameName_eq_eqIgnoreCase m hn, ?_⟩
  intro hremoved
  have hsame : Holdings.serveAll Text.eqIgnoreCase (fun _ => none) requests =
      Holdings.serveAll sameName (fun _ => none) requests :=
    Holdings.serveAll_congr fun name hname n =>
      (sameName_eq_eqIgnoreCase n (hremoved name hname)).symm
  rw [hsame]
  exact ⟨hreplies, hrec.presents hpool⟩

/-- An assembly is saved, saved again together with a later version of itself, and removed under
its name in capitals. -/
theorem serveAll_refines_replaced :
    let first : Assembly := { name := "Core" }
    let second : Assembly := { name := "Core", version := "2.0.0.0" }
    let requests : List Request := [.save first, .saveAll [first, second], .remove "CORE"]
    Distinguished (requests.flatMap Request.assemblies) ∧
      (∀ name ∈ requests.flatMap Request.removed, ∀ c ∈ name.toList, c.toNat ≠ 0) ∧
      (({} : Tables).serveAll requests).2 =
        (Holdings.serveAll Text.eqIgnoreCase (fun _ => none) requests).2 ∧
      (({} : Tables).serveAll requests).1.Presents
        (Holdings.serveAll Text.eqIgnoreCase (fun _ => none) requests).1 ∧
      sameName "Core" "CORE" = Text.eqIgnoreCase "Core" "CORE" := by
  intro first second requests
  have hhash : Sha256.hex (Text.Utf8.encode first.canonicalText) ≠
      Sha256.hex (Text.Utf8.encode second.canonicalText) := by decide +kernel
  have hmem : ∀ a ∈ requests.flatMap Request.assemblies, a = first ∨ a = second := by
    simp [requests, Request.assemblies]
  have hfirst : first.IsStorable := ⟨by decide +kernel, by simp [first, Assembly.opcodes,
    Assembly.types], by decide +kernel⟩
  have hsecond : second.IsStorable := ⟨by decide +kernel, by simp [second, Assembly.opcodes,
    Assembly.types], by decide +kernel⟩
  have hpool : Distinguished (requests.flatMap Request.assemblies) := by
    refine ⟨fun a ha => ?_, fun a ha b hb hab => ?_⟩
    · rcases hmem a ha with rfl | rfl <;> assumption
    · rcases hmem a ha with rfl | rfl <;> rcases hmem b hb with rfl | rfl
      · rfl
      · exact absurd hab hhash
      · exact absurd hab.symm hhash
      · rfl
  have hzero : ∀ c ∈ "CORE".toList, c.toNat ≠ 0 := by simp
  have hremoved : ∀ name ∈ requests.flatMap Request.removed, ∀ c ∈ name.toList, c.toNat ≠ 0 :=
    List.forall_mem_singleton.2 hzero
  obtain ⟨-, -, hnames, hplain⟩ := serveAll_refines {} rfl requests hpool
  obtain ⟨hreplies, hpresents⟩ := hplain hremoved
  exact ⟨hpool, hremoved, hreplies, hpresents, hnames "Core" "CORE" hzero⟩

/-- The text after a zero character is not compared: an assembly is removed under a name that
differs from its own in more than the case of letters. -/
theorem remove_ignores_text_after_zero :
    let a : Assembly := { name := "A\x00b" }
    let run := ({} : Tables).serveAll [.save a, .remove "A\x00c"]
    a.IsStorable ∧ Text.eqIgnoreCase a.name "A\x00c" = false ∧
      run.2 = [.saved true, .removed true] ∧ run.1.assemblies = [] := by
  refine ⟨⟨by decide +kernel, by simp [Assembly.opcodes, Assembly.types], by decide +kernel⟩, ?_⟩
  decide +kernel

end Tables

end AssemblyAtlas.Store
