import AssemblyAtlas.Proofs.Store.Holdings

/-!
# Looking symbols up

The table of symbols keeps step with the table of assemblies: whatever was saved and removed, it
holds the symbols of the stored assemblies, each once, and no others (`Tables.Catalogued`). A lookup
therefore shows what `SymbolEntry.matching` makes of the stored assemblies alone
(`Tables.lookup_serveAll_exact`): neither the numbers that full names are filed under, nor the order
of the rows, nor assemblies that were replaced or removed show in it.
-/

namespace AssemblyAtlas.Store

/-! ### Symbols of assemblies -/

/-- A declared symbol with the name of its assembly. -/
structure SymbolEntry extends Declaration where
  assembly : String

namespace SymbolEntry

/-- The symbols of assemblies, type by type in order of declaration. -/
def all (as : List Assembly) : List SymbolEntry :=
  as.flatMap fun a => a.types.flatMap fun t => t.declarations.map fun d => ⟨d, a.name⟩

/-- The two are of the same kind and assembly and have the same full name. -/
def repeats (x y : SymbolEntry) : Bool :=
  x.kind == y.kind && x.assembly == y.assembly && x.fullName == y.fullName

/-- The symbol as it is presented. -/
def toMatch (s : SymbolEntry) : SymbolMatch :=
  { kind := s.kind, fullName := s.fullName, assembly := s.assembly }

/-- The order by assembly, then the word for the kind, then full name. -/
def order : SymbolMatch → SymbolMatch → Ordering :=
  compareLex (compareOn (·.assembly))
    (compareLex (compareOn (·.kind.label)) (compareOn (·.fullName)))

/-- The symbols of assemblies that are of the kind, if one is given, and have the name for their
full name or, up to `alike`, for their simple name. Of symbols that repeat one another only the
first counts. -/
def matching (alike : String → String → Bool) (as : List Assembly) (name : String)
    (kind : Option SymbolKind) : List SymbolMatch :=
  let found := ((all as).eraseDupsBy repeats).filter fun s =>
    kind.all (· == s.kind) && (s.fullName == name || alike s.name name)
  sortedBy order (found.map toMatch)

/-- The row of a symbol. -/
def row (s : SymbolEntry) : SymbolRow :=
  { kind := s.kind.label
    assembly := s.assembly
    fullName := s.fullName
    fullNameHash := nameHash s.fullName
    name := s.name }

end SymbolEntry

theorem ofText?_label (k : SymbolKind) : SymbolKind.ofText? k.label = some k := by
  cases k <;> decide +kernel

theorem label_injective : Function.Injective SymbolKind.label := by
  intro k l h
  have hread := congrArg SymbolKind.ofText? h
  rwa [ofText?_label, ofText?_label, Option.some.injEq] at hread

/-! ### Rows without repetition -/

section FirstByKey

variable {α β κ : Type} [BEq κ]

theorem firstByKey_map (key : β → κ) (f : α → β) (xs : List α) :
    firstByKey key (xs.map f) = (firstByKey (fun x => key (f x)) xs).map f := by
  induction xs with
  | nil => rfl
  | cons x xs ih =>
    rw [List.map_cons, firstByKey, firstByKey, ih, List.map_cons, List.filter_map]
    rfl

theorem mem_of_mem_firstByKey {key : α → κ} {xs : List α} {x : α} (h : x ∈ firstByKey key xs) :
    x ∈ xs := by
  induction xs with
  | nil => exact h
  | cons y xs ih =>
    rcases List.mem_cons.1 h with rfl | h
    · exact List.mem_cons_self
    · exact List.mem_cons_of_mem y (ih (List.mem_of_mem_filter h))

variable [LawfulBEq κ]

theorem nodup_firstByKey (key : α → κ) (xs : List α) : ((firstByKey key xs).map key).Nodup := by
  induction xs with
  | nil => exact List.nodup_nil
  | cons x xs ih =>
    rw [firstByKey, List.map_cons, List.nodup_cons]
    refine ⟨fun hmem => ?_, ih.sublist (List.filter_sublist.map key)⟩
    obtain ⟨y, hy, heq⟩ := List.mem_map.1 hmem
    have hne := (List.mem_filter.1 hy).2
    rw [heq, bne_self_eq_false] at hne
    cases hne

/-- Rows are kept or left out by their keys before or after repetitions are. -/
theorem filter_firstByKey (key : α → κ) (p : κ → Bool) (xs : List α) :
    (firstByKey key xs).filter (fun x => p (key x)) =
      firstByKey key (xs.filter fun x => p (key x)) := by
  induction xs with
  | nil => rfl
  | cons x xs ih =>
    rw [firstByKey, List.filter_cons, List.filter_cons, List.filter_comm, ih]
    split
    · rw [firstByKey]
    · next hx =>
      -- The rows with the key of `x` are left out with it.
      rw [List.filter_eq_self]
      intro y hy
      have hpy := (List.mem_filter.1 (mem_of_mem_firstByKey hy)).2
      rw [bne_iff_ne]
      intro heq
      exact hx (heq ▸ hpy)

theorem firstByKey_eq_eraseDupsBy (key : α → κ) :
    ∀ xs : List α, firstByKey key xs = xs.eraseDupsBy fun x y => key x == key y
  | [] => rfl
  | x :: xs => by
    have hfilter : (xs.filter fun y => key y != key x) =
        xs.filter fun y => decide ((key y == key x) = false) :=
      List.filter_congr fun y _ => by rw [bne]; cases key y == key x <;> rfl
    rw [firstByKey, filter_firstByKey key (· != key x), hfilter, List.eraseDupsBy_cons,
      firstByKey_eq_eraseDupsBy key (xs.filter _)]
termination_by xs => xs.length
decreasing_by
  exact Nat.lt_succ_of_le (List.length_filter_le _ _)

theorem firstByKey_append {key : α → κ} {xs ys : List α}
    (h : ∀ x ∈ xs, ∀ y ∈ ys, key y ≠ key x) :
    firstByKey key (xs ++ ys) = firstByKey key xs ++ firstByKey key ys := by
  induction xs with
  | nil => rfl
  | cons x xs ih =>
    have hfresh : (firstByKey key ys).filter (fun y => key y != key x) = firstByKey key ys :=
      List.filter_eq_self.2 fun y hy =>
        bne_iff_ne.2 (h x List.mem_cons_self y (mem_of_mem_firstByKey hy))
    rw [List.cons_append, firstByKey, firstByKey, ih fun z hz => h z (List.mem_cons_of_mem x hz),
      List.filter_append, hfresh, List.cons_append]

end FirstByKey

/-! ### Rows of symbols -/

namespace SymbolEntry

theorem key_row (s : SymbolEntry) : s.row.key = (s.kind.label, s.assembly, s.fullName) := rfl

theorem repeats_eq (x y : SymbolEntry) : repeats x y = (x.row.key == y.row.key) := by
  rw [Bool.eq_iff_iff, beq_iff_eq, key_row, key_row, Prod.mk.injEq, Prod.mk.injEq,
    label_injective.eq_iff]
  simp [repeats, and_assoc]

theorem toMatch_row (s : SymbolEntry) : s.row.toMatch = .ok s.toMatch := by
  rw [SymbolRow.toMatch, row, ofText?_label]
  rfl

theorem all_cons (a : Assembly) (as : List Assembly) : all (a :: as) = all [a] ++ all as := by
  simp [all]

theorem mem_all {as : List Assembly} {s : SymbolEntry} (h : s ∈ all as) :
    ∃ a ∈ as, s.assembly = a.name := by
  obtain ⟨a, ha, h⟩ := List.mem_flatMap.1 h
  obtain ⟨t, -, h⟩ := List.mem_flatMap.1 h
  obtain ⟨d, -, rfl⟩ := List.mem_map.1 h
  exact ⟨a, ha, rfl⟩

end SymbolEntry

theorem allOf_eq (a : Assembly) :
    SymbolRow.allOf a = firstByKey SymbolRow.key ((SymbolEntry.all [a]).map SymbolEntry.row) := by
  simp only [SymbolRow.allOf, SymbolEntry.all, List.flatMap_singleton, List.map_flatMap,
    List.map_map]
  rfl

theorem assembly_of_mem_allOf {a : Assembly} {s : SymbolRow} (h : s ∈ SymbolRow.allOf a) :
    s.assembly = a.name := by
  rw [allOf_eq] at h
  obtain ⟨e, he, rfl⟩ := List.mem_map.1 (mem_of_mem_firstByKey h)
  obtain ⟨b, hb, hname⟩ := SymbolEntry.mem_all he
  rw [List.mem_singleton.1 hb] at hname
  exact hname

/-- No two assemblies of different names have rows with the same key. -/
theorem flatMap_allOf {as : List Assembly} (h : (as.map (·.name)).Nodup) :
    as.flatMap SymbolRow.allOf =
      firstByKey SymbolRow.key ((SymbolEntry.all as).map SymbolEntry.row) := by
  induction as with
  | nil => rfl
  | cons a as ih =>
    rw [List.map_cons, List.nodup_cons] at h
    rw [List.flatMap_cons, ih h.2, allOf_eq, SymbolEntry.all_cons a as, List.map_append,
      firstByKey_append]
    intro x hx y hy hkey
    obtain ⟨e, he, rfl⟩ := List.mem_map.1 hx
    obtain ⟨f, hf, rfl⟩ := List.mem_map.1 hy
    obtain ⟨b, hb, hbname⟩ := SymbolEntry.mem_all he
    obtain ⟨c, hc, hcname⟩ := SymbolEntry.mem_all hf
    have hname : f.assembly = e.assembly := congrArg (·.2.1) hkey
    rw [hbname, hcname, List.mem_singleton.1 hb] at hname
    exact h.1 (hname ▸ List.mem_map_of_mem hc)

/-- The rows of assemblies of different names are those of their symbols without repetition. -/
theorem flatMap_allOf_eq_map_row {as : List Assembly} (h : (as.map (·.name)).Nodup) :
    as.flatMap SymbolRow.allOf =
      ((SymbolEntry.all as).eraseDupsBy SymbolEntry.repeats).map SymbolEntry.row := by
  have hrepeats : SymbolEntry.repeats = fun x y => x.row.key == y.row.key := by
    funext x y
    exact SymbolEntry.repeats_eq x y
  rw [flatMap_allOf h, firstByKey_map, firstByKey_eq_eraseDupsBy, hrepeats]

theorem filter_flatMap_allOf (p : String → Bool) (as : List Assembly) :
    (as.flatMap SymbolRow.allOf).filter (fun s => p s.assembly) =
      (as.filter fun a => p a.name).flatMap SymbolRow.allOf := by
  induction as with
  | nil => rfl
  | cons a as ih =>
    have hsame : ∀ s ∈ SymbolRow.allOf a, p s.assembly = p a.name :=
      fun s hs => by rw [assembly_of_mem_allOf hs]
    rw [List.flatMap_cons, List.filter_append, ih, List.filter_congr hsame, List.filter_cons]
    by_cases ha : p a.name = true <;> simp [ha]

/-! ### The tables in step -/

namespace Tables

/-- The tables have a row for each of the assemblies, whose names differ, and the rows of their
symbols and no others. -/
structure Catalogued (t : Tables) (as : List Assembly) : Prop where
  rows : t.assemblies = as.map .of
  /-- No name is stored twice. -/
  nodup : (as.map (·.name)).Nodup
  symbols : t.symbols.Perm (as.flatMap SymbolRow.allOf)

namespace Catalogued

variable {t : Tables} {as : List Assembly}

/-- Saving leaves the tables as they are, or puts the assembly and its symbols in place of those of
its name. -/
theorem save (h : t.Catalogued as) (a : Assembly) :
    ∃ as', (t.save a).1.Catalogued as' ∧ ∀ b ∈ as', b = a ∨ b ∈ as := by
  unfold Tables.save
  by_cases hsame : (t.assemblies.find? (·.name == a.name)).map (·.contentHash) =
      some (AssemblyRow.of a).contentHash
  · rw [if_pos hsame]
    exact ⟨as, h, fun b hb => .inr hb⟩
  · rw [if_neg hsame]
    obtain ⟨as', hput, hnodup, hmem⟩ := exists_putRow_eq a h.nodup
    refine ⟨as', ⟨?_, hnodup, ?_⟩, fun b hb => ?_⟩
    · rw [h.rows, hput]
    · have hkept := h.symbols.filter fun s => s.assembly != a.name
      rw [filter_flatMap_allOf (· != a.name)] at hkept
      -- The assemblies afterwards are the saved one and those of other names.
      have hperm : as'.Perm ((as.filter fun b => b.name != a.name) ++ [a]) := by
        rw [List.perm_ext_iff_of_nodup hnodup.of_map]
        · intro b
          rw [hmem, List.mem_append, List.mem_filter, List.mem_singleton, bne_iff_ne, or_comm]
        · refine List.Nodup.append (h.nodup.of_map.filter _) (List.nodup_singleton a) ?_
          intro b hb hba
          rw [List.mem_singleton.1 hba, List.mem_filter, bne_self_eq_false] at hb
          exact Bool.false_ne_true hb.2
      refine (hkept.append_right _).trans ?_
      rw [← List.flatMap_singleton (f := SymbolRow.allOf) a, ← List.flatMap_append]
      exact (hperm.flatMap_right _).symm
    · exact ((hmem b).1 hb).imp id And.left

theorem saveAll (h : t.Catalogued as) (bs : List Assembly) :
    ∃ as', (t.saveAll bs).1.Catalogued as' ∧ ∀ a ∈ as', a ∈ bs ∨ a ∈ as := by
  induction bs generalizing t as with
  | nil => exact ⟨as, h, fun a ha => .inr ha⟩
  | cons b bs ih =>
    obtain ⟨as₁, h₁, hsub₁⟩ := h.save b
    obtain ⟨as₂, h₂, hsub₂⟩ := ih h₁
    rw [saveAll_cons]
    refine ⟨as₂, h₂, fun a ha => ?_⟩
    rcases hsub₂ a ha with ha | ha
    · exact .inl (List.mem_cons_of_mem b ha)
    · rcases hsub₁ a ha with rfl | ha
      · exact .inl List.mem_cons_self
      · exact .inr ha

/-- Removing a name takes the assemblies and the symbols with it, since both are compared alike. -/
theorem remove (h : t.Catalogued as) (name : String) :
    (t.remove name).1.Catalogued (as.filter fun a => !sameName a.name name) where
  rows := by
    rw [Tables.remove, h.rows, List.filter_map]
    rfl
  nodup := h.nodup.sublist (List.filter_sublist.map _)
  symbols := by
    have hkept := h.symbols.filter fun s => !sameName s.assembly name
    rwa [filter_flatMap_allOf fun n => !sameName n name] at hkept

theorem serve (h : t.Catalogued as) (r : Request) :
    ∃ as', (t.serve r).1.Catalogued as' ∧ ∀ a ∈ as', a ∈ r.assemblies ∨ a ∈ as := by
  cases r with
  | save a =>
    obtain ⟨as', h', hsub⟩ := h.save a
    exact ⟨as', h', fun b hb => (hsub b hb).imp_left List.mem_singleton.2⟩
  | saveAll bs => exact h.saveAll bs
  | remove name => exact ⟨_, h.remove name, fun a ha => .inr (List.mem_of_mem_filter ha)⟩

/-- **The table of symbols keeps step with the table of assemblies**, whatever the requests. -/
theorem serveAll (h : t.Catalogued as) (rs : List Request) :
    ∃ as', (t.serveAll rs).1.Catalogued as' ∧
      ∀ a ∈ as', a ∈ rs.flatMap Request.assemblies ∨ a ∈ as := by
  induction rs generalizing t as with
  | nil => exact ⟨as, h, fun a ha => .inr ha⟩
  | cons r rs ih =>
    obtain ⟨as₁, h₁, hsub₁⟩ := h.serve r
    obtain ⟨as₂, h₂, hsub₂⟩ := ih h₁
    refine ⟨as₂, h₂, fun a ha => ?_⟩
    rw [List.flatMap_cons, List.mem_append]
    rcases hsub₂ a ha with ha | ha
    · exact .inl (.inr ha)
    · exact (hsub₁ a ha).imp_left .inl

end Catalogued

end Tables

/-! ### Lookups -/

instance : Std.TransCmp SymbolRow.compare :=
  inferInstanceAs (Std.TransCmp (compareLex _ (compareLex _ _)))

theorem key_eq_of_compare_eq {x y : SymbolRow} (h : x.compare y = .eq) : x.key = y.key := by
  simp only [SymbolRow.compare, compareLex, compareOn, Ordering.then_eq_eq,
    Std.compare_eq_iff_eq] at h
  obtain ⟨hassembly, hkind, hname⟩ := h
  rw [SymbolRow.key, hassembly, hkind, hname]
  rfl

/-- A row is wanted exactly if its symbol is: a full name that is equal is filed under an equal
number. -/
theorem wanted_row (name : String) (kind : Option SymbolKind) (s : SymbolEntry) :
    (((s.row.fullNameHash == nameHash name && s.row.fullName == name) ||
        sameName s.row.name name) && kind.all fun k => s.row.kind == k.label) =
      (kind.all (· == s.kind) && (s.fullName == name || sameName s.name name)) := by
  have hfull : (nameHash s.fullName == nameHash name && s.fullName == name) =
      (s.fullName == name) := by
    by_cases h : s.fullName = name <;> simp [h]
  have hkind : ∀ k : SymbolKind, (s.kind.label == k.label) = (k == s.kind) := fun k => by
    rw [Bool.eq_iff_iff, beq_iff_eq, beq_iff_eq, label_injective.eq_iff, eq_comm]
  simp only [SymbolEntry.row, hfull, hkind]
  exact Bool.and_comm _ _

theorem mapM_toMatch (xs : List SymbolEntry) :
    (xs.map SymbolEntry.row).mapM SymbolRow.toMatch = .ok (xs.map SymbolEntry.toMatch) := by
  induction xs with
  | nil => rfl
  | cons x xs ih =>
    rw [List.map_cons, List.mapM_cons, SymbolEntry.toMatch_row, ih]
    rfl

namespace Tables

theorem limitRows_map {α β : Type} (f : α → β) (limit : Nat) (xs : List α) :
    limitRows limit (xs.map f) = (limitRows limit xs).map f := by
  unfold limitRows
  split
  · exact List.map_take.symm
  · rfl

/-- A lookup shows the matching symbols of the assemblies, up to its limit. -/
theorem Catalogued.lookup_eq {t : Tables} {as : List Assembly} (h : t.Catalogued as)
    (name : String) (kind : Option SymbolKind) (limit : Nat) :
    t.lookup name kind limit =
      .ok (limitRows limit (SymbolEntry.matching sameName as name kind)) := by
  have hkeys : (t.symbols.map SymbolRow.key).Nodup := by
    rw [(h.symbols.map _).nodup_iff, flatMap_allOf h.nodup]
    exact nodup_firstByKey _ _
  have hperm := h.symbols
  rw [flatMap_allOf_eq_map_row h.nodup] at hperm
  -- Only rows with the same key compare equal, so the order of the rows does not matter.
  rw [lookup, sortedBy_eq_of_perm (hperm.filter _), List.filter_map, sortedBy_map, limitRows_map,
    mapM_toMatch, SymbolEntry.matching, sortedBy_map, limitRows_map]
  · simp only [Function.comp_def, wanted_row]
    rfl
  · intro x hx y hy heq
    exact List.inj_on_of_nodup_map hkeys (List.mem_of_mem_filter hx) (List.mem_of_mem_filter hy)
      (key_eq_of_compare_eq heq)

/-- Assemblies that were saved are told apart by their rows. -/
theorem mem_of_map_of_eq {pool as bs : List Assembly} (hpool : Distinguished pool)
    (has : ∀ a ∈ as, a ∈ pool) (hbs : ∀ b ∈ bs, b ∈ pool)
    (h : as.map AssemblyRow.of = bs.map AssemblyRow.of) {a : Assembly} (ha : a ∈ as) : a ∈ bs := by
  have hrow : AssemblyRow.of a ∈ bs.map AssemblyRow.of := h ▸ List.mem_map_of_mem ha
  obtain ⟨b, hb, heq⟩ := List.mem_map.1 hrow
  rwa [← hpool.eq_of_contentHash (hbs b hb) (has a ha) (congrArg (·.contentHash) heq)]

/-- **A lookup shows the matching symbols of the stored assemblies and no others.** After any
requests to an empty store, the rows of the assemblies are those of assemblies that were saved, of
different names. If the hash tells the texts of the saved assemblies apart, they are the entries of
the map that the requests make. A lookup gives the first of their matching symbols, as many as the
limit says; a limit of `2 ^ 63` or more allows all. For a name without zero characters, simple names
are compared ignoring the case of ASCII letters. -/
theorem lookup_serveAll_exact (t : Tables) (hassemblies : t.assemblies = [])
    (hsymbols : t.symbols = []) (requests : List Request) :
    ∃ stored : List Assembly,
      (t.serveAll requests).1.assemblies = stored.map .of ∧
      (stored.map (·.name)).Nodup ∧
      (∀ a ∈ stored, a ∈ requests.flatMap Request.assemblies) ∧
      (Distinguished (requests.flatMap Request.assemblies) → ∀ n a,
        (Holdings.serveAll sameName (fun _ => none) requests).1 n = some a ↔
          a ∈ stored ∧ a.name = n) ∧
      ∀ (name : String) (kind : Option SymbolKind) (limit : Nat) (found : List SymbolMatch),
        found = SymbolEntry.matching sameName stored name kind →
        (limit < 2 ^ 63 ∨ found.length ≤ limit →
          (t.serveAll requests).1.lookup name kind limit = .ok (found.take limit)) ∧
        (2 ^ 63 ≤ limit → (t.serveAll requests).1.lookup name kind limit = .ok found) ∧
        ((∀ c ∈ name.toList, c.toNat ≠ 0) →
          found = SymbolEntry.matching Text.eqIgnoreCase stored name kind) := by
  have hstart : t.Catalogued [] := ⟨hassemblies, List.nodup_nil, by rw [hsymbols]; rfl⟩
  obtain ⟨stored, h, hsub⟩ := hstart.serveAll requests
  have hsaved : ∀ a ∈ stored, a ∈ requests.flatMap Request.assemblies :=
    fun a ha => (hsub a ha).resolve_right List.not_mem_nil
  refine ⟨stored, h.rows, h.nodup, hsaved, fun hpool n a => ?_, ?_⟩
  · have hempty : Records (requests.flatMap Request.assemblies) t [] fun _ => none :=
      ⟨hassemblies, List.nodup_nil, by simp, by simp⟩
    obtain ⟨⟨as, hrec⟩, -⟩ :=
      hempty.serveAll hpool fun r hr a ha => List.mem_flatMap.2 ⟨r, hr, ha⟩
    have hrows : stored.map AssemblyRow.of = as.map AssemblyRow.of := h.rows.symm.trans hrec.rows
    rw [hrec.entries]
    exact and_congr_left fun _ =>
      ⟨mem_of_map_of_eq hpool hrec.known hsaved hrows.symm,
        mem_of_map_of_eq hpool hsaved hrec.known hrows⟩
  · rintro name kind limit _ rfl
    rw [h.lookup_eq, limitRows]
    have hlimit : limit ≤ Word.int64Max ↔ limit < 2 ^ 63 := by
      rw [Word.int64Max]
      omega
    refine ⟨fun hle => ?_, fun hge => ?_, fun hzero => ?_⟩
    · split
      · rfl
      · next hover => rw [List.take_of_length_le (hle.resolve_left (mt hlimit.2 hover))]
    · rw [if_neg (mt hlimit.1 (by omega))]
    · have halike : ∀ n, sameName n name = Text.eqIgnoreCase n name :=
        fun n => sameName_eq_eqIgnoreCase n hzero
      simp only [SymbolEntry.matching, halike]

/-- An assembly is removed and saved again with another type. Without a limit, a lookup shows this
type, and not the one of the same simple name that was removed. -/
theorem lookup_serveAll_exact_renewed :
    let requests : List Request := [.save (.ofTypes "A" [.named "N.T"]), .remove "A",
      .save (.ofTypes "A" [.named "M.T"])]
    let t := (({} : Tables).serveAll requests).1
    ({} : Tables).assemblies = [] ∧ ({} : Tables).symbols = [] ∧
      t.lookup "T" none (2 ^ 64 - 1) = .ok [⟨.type, "M.T", "A"⟩] ∧
      ∃ stored : List Assembly, t.assemblies = stored.map .of ∧
        t.lookup "T" none (2 ^ 64 - 1) =
          .ok (SymbolEntry.matching Text.eqIgnoreCase stored "T" none) := by
  intro requests t
  have hshown : t.lookup "T" none (2 ^ 64 - 1) = .ok [⟨.type, "M.T", "A"⟩] := by decide +kernel
  obtain ⟨stored, hrows, -, -, -, hlookup⟩ := lookup_serveAll_exact {} rfl rfl requests
  obtain ⟨-, hall, halike⟩ := hlookup "T" none (2 ^ 64 - 1) _ rfl
  have hname : ∀ c ∈ "T".toList, c.toNat ≠ 0 := by
    have hlist : "T".toList = ['T'] := rfl
    rw [hlist]
    exact List.forall_mem_singleton.2 (by decide)
  refine ⟨rfl, rfl, hshown, stored, hrows, ?_⟩
  rw [← halike hname]
  exact hall (by decide)

/-- The text after a zero character is not compared: a type is shown under a name that differs from
its simple name in more than the case of letters. -/
theorem lookup_ignores_text_after_zero :
    let app : Assembly := .ofTypes "App" [.named "A\x00b"]
    let t := (({} : Tables).serveAll [.save app]).1
    (TypeDef.named "A\x00b").name = "A\x00b" ∧ "A\x00b" ≠ "A\x00c" ∧
      Text.eqIgnoreCase "A\x00b" "A\x00c" = false ∧
      t.lookup "A\x00c" none 10 = .ok [⟨.type, "A\x00b", "App"⟩] := by
  have hb : Text.lower "A\x00b" = "a\x00b" := by decide +kernel
  have hc : Text.lower "A\x00c" = "a\x00c" := by decide +kernel
  refine ⟨by decide +kernel, by decide, ?_, by decide +kernel⟩
  rw [Text.eqIgnoreCase, hb, hc]
  decide

end Tables

end AssemblyAtlas.Store
