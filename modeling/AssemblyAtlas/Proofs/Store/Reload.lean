import AssemblyAtlas.Proofs.Catalog.Lookup
import AssemblyAtlas.Proofs.Except
import AssemblyAtlas.Proofs.Snapshot.Accepted
import AssemblyAtlas.Proofs.Store.Holdings

/-!
# Reloading what was saved

A store loads if each of its rows does, and a row that does not makes the whole store fail. Saving
changes at most one row, so what becomes of a store after an assembly is saved depends on the
canonical text of that assembly alone. For an assembly that was loaded from some snapshot this text
is read back unless it is nested too deeply (`Tables.load_save_iff_shallow`).

That can happen: the canonical text writes out the lists that a snapshot may leave out, and in a
type at the innermost level allowed these are one level too deep (`Tables.load_save_deepChain`).
-/

namespace AssemblyAtlas.Store

namespace Tables

variable {t : Tables} {a : Assembly}

/-! ### Loading row by row -/

theorem exists_of_load {as : List Assembly} (h : t.load = .ok as) {r : AssemblyRow}
    (hr : r ∈ t.assemblies) : ∃ b ∈ as, r.load = .ok b :=
  Except.exists_of_mapM_eq_ok h (mem_sortedBy.2 hr)

theorem exists_load_eq_ok (h : ∀ r ∈ t.assemblies, ∃ b, r.load = .ok b) : ∃ as, t.load = .ok as :=
  Except.exists_mapM_eq_ok fun r hr => h r (mem_sortedBy.1 hr)

theorem load_eq_error {e : Error}
    (h : ∀ r ∈ t.assemblies, (∃ b, r.load = .ok b) ∨ r.load = .error e) {r : AssemblyRow}
    (hr : r ∈ t.assemblies) (hfail : r.load = .error e) : t.load = .error e :=
  Except.mapM_eq_error (fun r hr => h r (mem_sortedBy.1 hr)) (mem_sortedBy.2 hr) hfail

/-! ### The rows after saving -/

theorem mem_putRow_self (row : AssemblyRow) (rows : List AssemblyRow) :
    row ∈ putRow row rows := by
  induction rows with
  | nil => simp [putRow]
  | cons r rows ih => grind [putRow]

theorem eq_or_mem_of_mem_putRow {row r : AssemblyRow} {rows : List AssemblyRow}
    (h : r ∈ putRow row rows) : r = row ∨ r ∈ rows := by
  induction rows with
  | nil => simpa [putRow] using h
  | cons r' rows ih => grind [putRow]

/-- Saving an assembly finds a row with the hash of its text, or puts its row. -/
theorem save_cases (t : Tables) (a : Assembly) :
    ((t.save a).1 = t ∧ ∃ r ∈ t.assemblies, r.contentHash = (AssemblyRow.of a).contentHash) ∨
      (t.save a).1.assemblies = putRow (.of a) t.assemblies := by
  unfold save
  by_cases h : (t.assemblies.find? (·.name == a.name)).map (·.contentHash) =
      some (AssemblyRow.of a).contentHash
  · obtain ⟨r, hr, hhash⟩ := Option.map_eq_some_iff.1 h
    exact .inl ⟨by simp only [if_pos h], r, List.mem_of_find?_eq_some hr, hhash⟩
  · exact .inr (by simp only [if_neg h])

/-- The rows are as the store writes them: with the hash of their text. -/
def Hashed (t : Tables) : Prop :=
  ∀ r ∈ t.assemblies, r.contentHash = Sha256.hex (Text.Utf8.encode r.payload)

theorem Hashed.save (h : t.Hashed) (a : Assembly) : (t.save a).1.Hashed := by
  rcases save_cases t a with ⟨hsame, -⟩ | hput
  · rwa [hsame]
  · intro r hr
    rw [hput] at hr
    rcases eq_or_mem_of_mem_putRow hr with rfl | hr
    · rfl
    · exact h r hr

theorem Hashed.saveAll (h : t.Hashed) (as : List Assembly) : (t.saveAll as).1.Hashed := by
  induction as generalizing t with
  | nil => exact h
  | cons a as ih =>
    rw [saveAll_cons]
    exact ih (h.save a)

theorem Hashed.serve (h : t.Hashed) (r : Request) : (t.serve r).1.Hashed := by
  cases r with
  | save a => exact h.save a
  | saveAll as => exact h.saveAll as
  | remove name => exact fun r hr => h r (List.mem_of_mem_filter hr)

theorem Hashed.serveAll (h : t.Hashed) (rs : List Request) : (t.serveAll rs).1.Hashed := by
  induction rs generalizing t with
  | nil => exact h
  | cons r rs ih => exact ih (h.serve r)

/-! ### Reloading -/

/-- The rows are as the store writes them, and no text but that of the assembly has its hash. -/
structure TellsApart (t : Tables) (a : Assembly) : Prop where
  hashed : t.Hashed
  /-- A row whose text has the same hash has the same text. -/
  hash : ∀ r ∈ t.assemblies, Sha256.hex (Text.Utf8.encode r.payload) =
    Sha256.hex (Text.Utf8.encode a.canonicalText) → r.payload = a.canonicalText

theorem load_empty : ({} : Tables).load = .ok [] := by
  rw [load, rowsByName, sortedBy, List.mergeSort_nil]
  rfl

theorem tellsApart_empty (a : Assembly) : TellsApart {} a :=
  ⟨fun _ hr => absurd hr List.not_mem_nil, fun _ hr => absurd hr List.not_mem_nil⟩

/-- After saving, the tables have the text of the assembly under some name, and otherwise rows that
they had before. -/
theorem TellsApart.rows_save (h : t.TellsApart a) :
    (∃ r ∈ (t.save a).1.assemblies, r.payload = a.canonicalText) ∧
      ∀ r ∈ (t.save a).1.assemblies, r = .of a ∨ r ∈ t.assemblies := by
  rcases save_cases t a with ⟨hsame, r, hr, hhash⟩ | hput
  · rw [hsame]
    refine ⟨⟨r, hr, h.hash r hr ?_⟩, fun r hr => .inr hr⟩
    rw [← h.hashed r hr, hhash]
    rfl
  · rw [hput]
    exact ⟨⟨.of a, mem_putRow_self _ _, rfl⟩, fun r hr => eq_or_mem_of_mem_putRow hr⟩

theorem load_eq_ok_of_payload {r : AssemblyRow} (hr : r.payload = a.canonicalText)
    (ha : a.IsStorable) : r.load = .ok a := by
  rw [AssemblyRow.load, hr, Snapshot.load_canonicalText ha]

theorem load_save_of_shallow (h : t.TellsApart a) {as : List Assembly} (ht : t.load = .ok as)
    (ha : a.IsStorable) : ∃ bs, (t.save a).1.load = .ok bs ∧ a ∈ bs := by
  obtain ⟨⟨r, hr, hpayload⟩, hrows⟩ := h.rows_save
  obtain ⟨bs, hbs⟩ : ∃ bs, (t.save a).1.load = .ok bs := by
    refine exists_load_eq_ok fun q hq => ?_
    rcases hrows q hq with rfl | hq
    · exact ⟨a, load_eq_ok_of_payload rfl ha⟩
    · obtain ⟨b, -, hb⟩ := exists_of_load ht hq
      exact ⟨b, hb⟩
  obtain ⟨b, hb, hrb⟩ := exists_of_load hbs hr
  rw [load_eq_ok_of_payload hpayload ha] at hrb
  obtain rfl := Except.ok.inj hrb
  exact ⟨bs, hbs, hb⟩

theorem load_save_of_deep (h : t.TellsApart a) {as : List Assembly} (ht : t.load = .ok as)
    (hdeep : Snapshot.load a.canonicalText = .error .malformed) :
    (t.save a).1.load = .error (.database (.corrupt a.name .malformed)) := by
  obtain ⟨⟨r, hr, hpayload⟩, hrows⟩ := h.rows_save
  have hfail : ∀ q : AssemblyRow, q.payload = a.canonicalText →
      q.load = .error (.database (.corrupt q.name .malformed)) := by
    intro q hq
    rw [AssemblyRow.load, hq, hdeep]
  -- The text is in no row from before, since these load.
  obtain rfl : r = .of a := by
    refine (hrows r hr).resolve_right fun hold => ?_
    obtain ⟨b, -, hb⟩ := exists_of_load ht hold
    rw [hfail r hpayload] at hb
    cases hb
  refine load_eq_error (fun q hq => ?_) hr (hfail _ rfl)
  rcases hrows q hq with rfl | hq
  · exact .inr (hfail _ rfl)
  · obtain ⟨b, -, hb⟩ := exists_of_load ht hq
    exact .inl ⟨b, hb⟩

/-- **What was loaded can be stored, unless its canonical text is nested too deeply.** Saving an
assembly that was loaded from any snapshot into a store that loads leaves a store that loads, with
that assembly in it, if the canonical text has no more than 127 levels; otherwise the store does not
load any more. -/
theorem load_save_iff_shallow {s : String} (hs : Snapshot.load s = .ok a) {as : List Assembly}
    (ht : t.load = .ok as) (hhash : t.TellsApart a) :
    (a.toJson.nesting ≤ 127 → Snapshot.load a.canonicalText = .ok a ∧
      ∃ bs, (t.save a).1.load = .ok bs ∧ a ∈ bs) ∧
    (127 < a.toJson.nesting → Snapshot.load a.canonicalText = .error .malformed ∧
      (t.save a).1.load = .error (.database (.corrupt a.name .malformed))) := by
  obtain ⟨hvalid, hnormal⟩ := Snapshot.of_load hs
  constructor
  · intro hshallow
    have ha : a.IsStorable := ⟨hvalid, hnormal, hshallow⟩
    exact ⟨Snapshot.load_canonicalText ha, load_save_of_shallow hhash ht ha⟩
  · intro hdeep
    have hrefused := Snapshot.load_canonicalText_deep hnormal hdeep
    exact ⟨hrefused, load_save_of_deep hhash ht hrefused⟩

/-- A snapshot that gives nothing but a name is loaded and saved beside another assembly. -/
theorem load_save_iff_shallow_defaults :
    let app : Assembly := { name := "App" }
    let t := (({} : Tables).serveAll [.save { name := "Core" }]).1
    Snapshot.load (Json.record [("name", .text "App")]).render = .ok app ∧
      (∃ as, t.load = .ok as) ∧ t.TellsApart app ∧ app.toJson.nesting ≤ 127 ∧
      ∃ bs, (t.save app).1.load = .ok bs ∧ app ∈ bs := by
  intro app t
  have happ : Snapshot.load (Json.record [("name", .text "App")]).render = .ok app := by
    rw [Snapshot.load_eq_ok_iff, Json.parse?_render]
    exact ⟨rfl, by decide +kernel⟩
  have hcore : (Assembly.mk "Core" "0.0.0.0" none none []).IsStorable :=
    ⟨by decide +kernel, by simp [Assembly.opcodes, Assembly.types], by decide +kernel⟩
  obtain ⟨as, hload, -⟩ : ∃ as, t.load = .ok as ∧ _ ∈ as :=
    load_save_of_shallow (tellsApart_empty _) load_empty hcore
  have hhash : Sha256.hex (Text.Utf8.encode (AssemblyRow.of { name := "Core" }).payload) ≠
      Sha256.hex (Text.Utf8.encode app.canonicalText) := by decide +kernel
  have happart : t.TellsApart app := by
    refine ⟨(tellsApart_empty app).hashed.serveAll _, fun r hr heq => ?_⟩
    obtain rfl : r = .of { name := "Core" } := List.mem_singleton.1 hr
    exact absurd heq hhash
  have hshallow : app.toJson.nesting ≤ 127 := by decide +kernel
  exact ⟨happ, ⟨as, hload⟩, happart, hshallow,
    ((load_save_iff_shallow happ hload happart).1 hshallow).2⟩

end Tables

/-! ### A snapshot at the innermost level -/

/-- The names of the types in a chain, which are all different. -/
def chainName (n : Nat) : String :=
  String.ofList ('T' :: Nat.toDigits 10 n)

/-- A type with `n` types nested in it, one in the other. -/
def chain : Nat → TypeDef
  | 0 => { fullName := chainName 0 }
  | n + 1 => { fullName := chainName (n + 1), nested := [chain n] }

/-- The chain as it may be written in a snapshot, without the lists that are empty. -/
def chainJson : Nat → Json
  | 0 => .record [("full_name", .text (chainName 0))]
  | n + 1 =>
    .record [("full_name", .text (chainName (n + 1))), ("nested_types", .array [chainJson n])]

/-- An assembly with a chain for its only type. -/
def chainAssembly (n : Nat) : Assembly :=
  { name := "Deep", modules := [{ name := "Deep.dll", types := [chain n] }] }

/-- A snapshot of the assembly, without the lists that are empty. -/
def chainSnapshot (n : Nat) : String :=
  (Json.record [("name", .text "Deep"), ("modules", .array
    [.record [("name", .text "Deep.dll"), ("types", .array [chainJson n])]])]).render

open Json TypeDef

theorem chainName_injective : Function.Injective chainName := by
  intro m n h
  have hchars := String.ofList_injective h
  have hdigits := congrArg Text.nat? (List.cons.inj hchars).2
  rwa [Text.nat?_toDigits, Text.nat?_toDigits, Option.some.injEq] at hdigits

theorem not_isBlankText_chainName (n : Nat) : ¬ isBlankText (chainName n) = true := by
  intro h
  rw [isBlankText, String.isEmpty_iff, Text.trim_eq_empty_iff, chainName,
    String.toList_ofList] at h
  exact absurd (h 'T' List.mem_cons_self) (by decide)

theorem map_withNested_chain (n : Nat) :
    (chain n).withNested.map (·.fullName) = (List.range (n + 1)).reverse.map chainName := by
  induction n with
  | zero => simp [chain, withNested_mk]
  | succ n ih =>
    rw [List.range_succ, List.reverse_concat, List.map_cons, ← ih]
    simp [chain, withNested_mk]

theorem decodeWith_bare (d : Decoder TypeDef) (levels : Nat) (name : String) :
    decodeWith d (levels + 1) (record [("full_name", text name)]) =
      some { fullName := name } := rfl

theorem decodeWith_nested {d : Decoder TypeDef} {levels : Nat} {j : Json} {t : TypeDef}
    (h : d levels j = some t) (name : String) :
    decodeWith d (levels + 2)
        (record [("full_name", text name), ("nested_types", .array [j])]) =
      some { fullName := name, nested := [t] } := by
  have hlist : Decoder.list d (levels + 1) (.array [j]) = some [t] := by
    simp [Decoder.list, h]
  change (Decoder.list d (levels + 1) (.array [j])).bind (fun ts =>
    some (TypeDef.mk { fullName := name } ts)) = _
  rw [hlist]
  rfl

theorem decodeNested_chainJson {n depth levels : Nat} (hdepth : n < depth)
    (hlevels : 2 * n < levels) : decodeNested depth levels (chainJson n) = some (chain n) := by
  induction n generalizing depth levels with
  | zero =>
    obtain ⟨depth, rfl⟩ : ∃ d, depth = d + 1 := ⟨depth - 1, by omega⟩
    obtain ⟨levels, rfl⟩ : ∃ l, levels = l + 1 := ⟨levels - 1, by omega⟩
    exact decodeWith_bare _ _ _
  | succ n ih =>
    obtain ⟨depth, rfl⟩ : ∃ d, depth = d + 1 := ⟨depth - 1, by omega⟩
    obtain ⟨levels, rfl⟩ : ∃ l, levels = l + 2 := ⟨levels - 2, by omega⟩
    exact decodeWith_nested (ih (by omega) (by omega)) _

/-- The types nested in a type are inside a list inside the type. -/
theorem nesting_nested_le {t : TypeDef} {n : Nat} (h : t.toJson.nesting ≤ n + 1) :
    (list toJson t.nested).nesting ≤ n := by
  rw [toJson_eq, nesting_record_le_iff, toFields, fieldsWithin_append, fieldsWithin_cons] at h
  exact h.2.1

/-- The empty lists of the innermost type are as deep as two levels for each type and one more. -/
theorem nesting_chain (n : Nat) : 2 * n + 1 < (chain n).toJson.nesting := by
  by_contra hle
  induction n with
  | zero =>
    have hlist := nesting_nested_le (Nat.not_lt.1 hle)
    have hpos := nesting_list_pos toJson (chain 0).nested
    omega
  | succ n ih =>
    have hlist : (list toJson [chain n]).nesting ≤ 2 * n + 1 + 1 :=
      nesting_nested_le (Nat.not_lt.1 hle)
    exact ih (Nat.not_lt.2 (nesting_list_le_iff.1 hlist _ List.mem_cons_self))

theorem nesting_chainAssembly (n : Nat) : 2 * n + 5 < (chainAssembly n).toJson.nesting := by
  by_contra hle
  have hfields := nesting_record_le_iff.1 (Nat.not_lt.1 hle)
  rw [fieldsWithin_append, fieldsWithin_cons] at hfields
  have hmodules : (list Module.toJson (chainAssembly n).modules).nesting ≤ 2 * n + 3 + 1 :=
    hfields.2.1
  have hmodule := nesting_list_le_iff.1 hmodules _ List.mem_cons_self
  rw [Module.toJson, nesting_record_le_iff, fieldsWithin_cons, fieldsWithin_cons] at hmodule
  have htypes : (list toJson [chain n]).nesting ≤ 2 * n + 1 + 1 := hmodule.2.1
  exact absurd (nesting_chain n) (Nat.not_lt.2 (nesting_list_le_iff.1 htypes _ List.mem_cons_self))

theorem fault?_chainAssembly (n : Nat) : (chainAssembly n).fault? = none := by
  have hnames : (chainAssembly n).types.map (·.fullName) =
      (List.range (n + 1)).reverse.map chainName := by
    rw [← map_withNested_chain]
    simp [Assembly.types, chainAssembly, allWithNested_eq_flatMap]
  have hnodup : ((List.range (n + 1)).reverse.map chainName).Nodup :=
    (List.nodup_reverse.2 List.nodup_range).map chainName_injective
  have hname : ¬ isBlankText (chainAssembly n).name = true := by
    change ¬ isBlankText "Deep" = true
    decide +kernel
  rw [Assembly.fault?, if_neg hname, hnames]
  refine Assembly.typeFault?_eq_none_of hnodup ?_ (by simp)
  intro name hmem
  obtain ⟨k, -, rfl⟩ := List.mem_map.1 hmem
  exact not_isBlankText_chainName k

/-- With no more than 62 types, the snapshot has no more than 127 levels. -/
theorem load_chainSnapshot {n : Nat} (h : n < 62) :
    Snapshot.load (chainSnapshot n) = .ok (chainAssembly n) := by
  have htype : TypeDef.decode 123 (chainJson n) = some (chain n) :=
    decodeNested_chainJson (by omega) (by omega)
  have htypes : Decoder.list TypeDef.decode 124 (.array [chainJson n]) = some [chain n] := by
    simp [Decoder.list, htype]
  have hmodule : Module.decode 125 (record [("name", text "Deep.dll"),
      ("types", .array [chainJson n])]) = some ⟨"Deep.dll", [chain n]⟩ := by
    change (Decoder.list TypeDef.decode 124 (.array [chainJson n])).bind (fun ts =>
      some (Module.mk "Deep.dll" ts)) = _
    rw [htypes]
    rfl
  have hmodules : Decoder.list Module.decode 126 (.array [record [("name", text "Deep.dll"),
      ("types", .array [chainJson n])]]) = some [⟨"Deep.dll", [chain n]⟩] := by
    simp [Decoder.list, hmodule]
  rw [Snapshot.load_eq_ok_iff, chainSnapshot, parse?_render]
  refine ⟨?_, fault?_chainAssembly n⟩
  change (Decoder.list Module.decode 126 (.array [record [("name", text "Deep.dll"),
    ("types", .array [chainJson n])]])).bind (fun ms =>
      some (Assembly.mk "Deep" "0.0.0.0" none none ms)) = _
  rw [hmodules]
  rfl

/-- Sixty-two types, one in the other, reach the innermost level allowed. The snapshot is loaded,
but the store does not load any more once the assembly is saved. -/
theorem Tables.load_save_deepChain :
    Snapshot.load (chainSnapshot 61) = .ok (chainAssembly 61) ∧
      ({} : Tables).load = .ok [] ∧ TellsApart {} (chainAssembly 61) ∧
      Snapshot.load (chainAssembly 61).canonicalText = .error .malformed ∧
      (({} : Tables).save (chainAssembly 61)).1.load =
        .error (.database (.corrupt "Deep" .malformed)) := by
  have hload : Snapshot.load (chainSnapshot 61) = .ok (chainAssembly 61) :=
    load_chainSnapshot (by decide)
  have hrefused : Snapshot.load (chainAssembly 61).canonicalText = .error .malformed :=
    Snapshot.load_canonicalText_deep (Snapshot.of_load hload).2 (nesting_chainAssembly 61)
  exact ⟨hload, load_empty, tellsApart_empty _, hrefused,
    load_save_of_deep (tellsApart_empty _) load_empty hrefused⟩

end AssemblyAtlas.Store
