import AssemblyAtlas.Proofs.Analysis.AssemblyHops

/-!
# Spelling of owners

The table of assembly dependencies takes the name of an owner either from the loaded assembly that
declares the type or from the signature, as it is spelled there. Names of assemblies are compared
ignoring case, but a row is a list of texts: whether it names each assembly once, and as that
assembly spells its name, depends on how the signatures spell the names they give
(`Assembly.foreignScopes`), and on nothing else (`Catalog.row_spelled_iff_scopes`).
-/

namespace AssemblyAtlas

/-- The names of other assemblies that the signatures of an assembly give. -/
def Assembly.foreignScopes (a : Assembly) : List String :=
  (a.types.flatMap fun t => t.mentions.filterMap (·.sig.assembly)).filter
    fun scope => !Text.eqIgnoreCase scope a.name

theorem Assembly.mem_foreignScopes_iff {a : Assembly} {scope : String} :
    scope ∈ a.foreignScopes ↔ (∃ t ∈ a.types, ∃ m ∈ t.mentions, m.sig.assembly = some scope) ∧
      Text.eqIgnoreCase scope a.name = false := by
  simp only [foreignScopes, List.mem_filter, List.mem_flatMap, List.mem_filterMap,
    Bool.not_eq_true']

namespace Catalog

/-- The names have one spelling for each assembly: names that are equal ignoring case are equal, and
a loaded assembly is named as it spells its name. -/
structure Spelled (c : Catalog) (names : List String) : Prop where
  /-- No two spellings of one name. -/
  alike : ∀ x ∈ names, ∀ y ∈ names, Text.eqIgnoreCase x y = true → x = y
  /-- The spelling of the loaded assembly. -/
  loaded : ∀ x ∈ names, ∀ b ∈ c.assemblies, Text.eqIgnoreCase x b.name = true → x = b.name

variable {c : Catalog} {a : Assembly} {owner : String}

/-! ### Where a name comes from -/

theorem mem_foreignOwners_of_scope (h : owner ∈ a.foreignScopes) : owner ∈ c.foreignOwners a := by
  obtain ⟨⟨t, ht, m, hm, hscope⟩, hforeign⟩ := Assembly.mem_foreignScopes_iff.1 h
  refine mem_foreignOwners_iff.2 ⟨⟨t, ht, m, hm, ?_⟩, hforeign⟩
  rw [owner?, hscope, Option.some_or]

/-- The name of an owner is given by a signature, or it is that of a loaded assembly. -/
theorem scope_or_loaded_of_mem_foreignOwners (h : owner ∈ c.foreignOwners a) :
    owner ∈ a.foreignScopes ∨ ∃ b ∈ c.assemblies, b.name = owner := by
  obtain ⟨⟨t, ht, m, hm, howner⟩, hforeign⟩ := mem_foreignOwners_iff.1 h
  rcases Option.or_eq_some_iff.1 howner with hscope | ⟨-, hfound⟩
  · exact .inl (Assembly.mem_foreignScopes_iff.2 ⟨⟨t, ht, m, hm, hscope⟩, hforeign⟩)
  · obtain ⟨s, hs, hname⟩ := Option.map_eq_some_iff.1 hfound
    exact .inr ⟨s.assembly, (mem_types_iff.1 (resolveType?_sound hs).1).1, hname⟩

/-! ### Rows -/

section Distinct

variable (hnames : c.assemblies.Pairwise fun a b => Text.eqIgnoreCase a.name b.name = false)
include hnames

theorem eq_of_eqIgnoreCase_name {b : Assembly} (ha : a ∈ c.assemblies) (hb : b ∈ c.assemblies)
    (h : Text.eqIgnoreCase a.name b.name = true) : a = b :=
  eq_of_isNamed hnames ha hb h (Text.eqIgnoreCase_iff.2 rfl)

/-- An assembly has its row for itself. -/
theorem mem_dependencyRow_name (ha : a ∈ c.assemblies) :
    owner ∈ c.dependencyRow a.name ↔ owner ∈ c.foreignOwners a := by
  rw [mem_dependencyRow_iff]
  constructor
  · rintro ⟨b, hb, hname, howner⟩
    obtain rfl := eq_of_eqIgnoreCase_name hnames hb ha (Text.eqIgnoreCase_iff.2 (by rw [hname]))
    exact howner
  · intro howner
    exact ⟨a, ha, rfl, howner⟩

/-- **Only the signatures matter.** The names that are found, and not given, have the spelling of
their assembly. -/
theorem spelled_foreignOwners_iff : c.Spelled (c.foreignOwners a) ↔ c.Spelled a.foreignScopes := by
  constructor
  · intro h
    exact ⟨fun x hx y hy => h.alike x (mem_foreignOwners_of_scope hx) y
      (mem_foreignOwners_of_scope hy), fun x hx => h.loaded x (mem_foreignOwners_of_scope hx)⟩
  · intro h
    have hloaded : ∀ x ∈ c.foreignOwners a, ∀ b ∈ c.assemblies,
        Text.eqIgnoreCase x b.name = true → x = b.name := by
      intro x hx b hb heq
      rcases scope_or_loaded_of_mem_foreignOwners hx with hx | ⟨d, hd, rfl⟩
      · exact h.loaded x hx b hb heq
      · rw [eq_of_eqIgnoreCase_name hnames hd hb heq]
    refine ⟨fun x hx y hy heq => ?_, hloaded⟩
    rcases scope_or_loaded_of_mem_foreignOwners hy with hscope | ⟨b, hb, rfl⟩
    · rcases scope_or_loaded_of_mem_foreignOwners hx with hx | ⟨b, hb, rfl⟩
      · exact h.alike x hx y hscope heq
      · exact (hloaded y hy b hb (by rwa [Text.eqIgnoreCase_comm])).symm
    · exact hloaded x hx b hb heq

end Distinct

theorem row_mem_assemblyDependencies (ha : a ∈ c.assemblies) :
    (a.name, c.dependencyRow a.name) ∈ c.assemblyDependencies :=
  List.mem_map_of_mem (mem_distinctSorted.2 (List.mem_map_of_mem ha))

theorem nodup_dependencyRow (c : Catalog) (name : String) : (c.dependencyRow name).Nodup :=
  (sortedBy_perm _ _).nodup_iff.2 (nodup_eraseDups _)

/-- Different names have one spelling each if no two of them are equal ignoring case. -/
theorem pairwise_eqIgnoreCase_iff {names : List String} (h : names.Nodup) :
    (names.Pairwise fun x y => Text.eqIgnoreCase x y = false) ↔
      ∀ x ∈ names, ∀ y ∈ names, Text.eqIgnoreCase x y = true → x = y := by
  constructor
  · intro hdiff x hx y hy heq
    have : Std.Symm fun x y => Text.eqIgnoreCase x y = false :=
      ⟨fun x y hxy => by rwa [Text.eqIgnoreCase_comm]⟩
    by_contra hne
    exact absurd heq (by rw [hdiff.forall hx hy hne]; decide)
  · intro halike
    exact h.pairwise_of_forall_ne fun x hx y hy hne =>
      Bool.eq_false_iff.2 fun heq => hne (halike x hx y hy heq)

/-- **How a row spells its names.** Let no two assembly names be equal but for case. Each name in
the row of an assembly is given by one of its signatures, as it is spelled there, or is that of a
loaded assembly. No two names in the row are equal ignoring case and every loaded assembly in it has
the spelling under which it has a row itself, exactly if the names that the signatures give are
spelled alike and as the loaded assemblies spell them. -/
theorem row_spelled_iff_scopes
    (hnames : c.assemblies.Pairwise fun a b => Text.eqIgnoreCase a.name b.name = false)
    {entry : String × List String} (hentry : entry ∈ c.assemblyDependencies) :
    ∃ a ∈ c.assemblies, a.name = entry.1 ∧
      (∀ owner ∈ entry.2, owner ∈ a.foreignScopes ∨ ∃ b ∈ c.assemblies, b.name = owner) ∧
      ((entry.2.Pairwise (fun x y => Text.eqIgnoreCase x y = false) ∧
          ∀ owner ∈ entry.2, ∀ b ∈ c.assemblies, Text.eqIgnoreCase owner b.name = true →
            owner = b.name ∧ ∃ row, c.assemblyDependencies.lookup owner = some row) ↔
        c.Spelled a.foreignScopes) := by
  obtain ⟨name, hname, rfl⟩ := List.mem_map.1 hentry
  obtain ⟨a, ha, rfl⟩ := List.mem_map.1 (mem_distinctSorted.1 hname)
  have hrow : ∀ owner, owner ∈ c.dependencyRow a.name ↔ owner ∈ c.foreignOwners a :=
    fun owner => mem_dependencyRow_name hnames ha
  refine ⟨a, ha, rfl, fun owner howner => ?_, ?_⟩
  · exact scope_or_loaded_of_mem_foreignOwners ((hrow owner).1 howner)
  · change ((c.dependencyRow a.name).Pairwise _ ∧ ∀ owner ∈ c.dependencyRow a.name, _) ↔ _
    rw [← spelled_foreignOwners_iff hnames,
      pairwise_eqIgnoreCase_iff (nodup_dependencyRow c a.name)]
    simp only [hrow]
    constructor
    · rintro ⟨halike, hloaded⟩
      exact ⟨halike, fun x hx b hb heq => (hloaded x hx b hb heq).1⟩
    · rintro ⟨halike, hloaded⟩
      refine ⟨halike, fun x hx b hb heq => ?_⟩
      obtain rfl := hloaded x hx b hb heq
      exact ⟨rfl, _, lookup_assemblyDependencies hb⟩

/-- A signature that spells the name of a loaded assembly as that does, beside one that gives no
name. -/
theorem row_spelled_iff_scopes_given :
    let field (type : TypeSig) : Field := { name := "f", type }
    let main : TypeDef := { TypeDef.named "App.Main" with
      fields := [field { fullName := "Lib.Service", assembly := some "Lib" },
        field { fullName := "Lib.Service" }] }
    let app : Assembly := .ofTypes "App" [main]
    let c : Catalog := .ofAssemblies [app, .ofTypes "Lib" [.named "Lib.Service"]]
    (c.assemblies.Pairwise fun a b => Text.eqIgnoreCase a.name b.name = false) ∧
      c.Spelled app.foreignScopes ∧
      ∃ row, ("App", row) ∈ c.assemblyDependencies ∧ "Lib" ∈ row ∧
        row.Pairwise fun x y => Text.eqIgnoreCase x y = false := by
  intro field main app c
  have hnames : c.assemblies.Pairwise fun a b => Text.eqIgnoreCase a.name b.name = false := by
    decide +kernel
  have hscopes : app.foreignScopes = ["Lib"] := by decide +kernel
  have hspelled : c.Spelled app.foreignScopes := by
    rw [hscopes]
    refine ⟨by simp, fun x hx b hb heq => ?_⟩
    obtain rfl := List.mem_singleton.1 hx
    rcases List.mem_cons.1 hb with rfl | hb
    · exact absurd heq (by decide +kernel)
    · rw [List.mem_singleton.1 hb]
      rfl
  have happ : app ∈ c.assemblies := List.mem_cons_self
  have hlib : "Lib" ∈ c.dependencyRow "App" :=
    (mem_dependencyRow_name hnames happ).2 (mem_foreignOwners_of_scope (by simp [hscopes]))
  have hentry : ("App", c.dependencyRow "App") ∈ c.assemblyDependencies :=
    row_mem_assemblyDependencies happ
  obtain ⟨a, ha, hname, -, hiff⟩ := row_spelled_iff_scopes hnames hentry
  obtain rfl : a = app :=
    eq_of_eqIgnoreCase_name hnames ha happ (Text.eqIgnoreCase_iff.2 (congrArg Text.lower hname))
  exact ⟨hnames, hspelled, _, hentry, hlib, (hiff.2 hspelled).1⟩

/-- A signature that spells the name in another way, beside one that gives no name: the row has one
assembly under two names, of which one has no row. -/
theorem row_names_assembly_twice :
    let field (type : TypeSig) : Field := { name := "f", type }
    let main : TypeDef := { TypeDef.named "App.Main" with
      fields := [field { fullName := "Lib.Service", assembly := some "LIB" },
        field { fullName := "Lib.Service" }] }
    let c : Catalog :=
      .ofAssemblies [.ofTypes "App" [main], .ofTypes "Lib" [.named "Lib.Service"]]
    (c.assemblies.Pairwise fun a b => Text.eqIgnoreCase a.name b.name = false) ∧
      Text.eqIgnoreCase "LIB" "Lib" = true ∧
      (∃ row, ("App", row) ∈ c.assemblyDependencies ∧ "LIB" ∈ row ∧ "Lib" ∈ row) ∧
      c.assemblyDependencies.lookup "LIB" = none := by
  intro field main c
  have hnames : c.assemblies.Pairwise fun a b => Text.eqIgnoreCase a.name b.name = false := by
    decide +kernel
  have happ : Assembly.ofTypes "App" [main] ∈ c.assemblies := List.mem_cons_self
  have howners : c.foreignOwners (.ofTypes "App" [main]) = ["LIB", "Lib"] := by decide +kernel
  have hrow : ∀ owner ∈ ["LIB", "Lib"], owner ∈ c.dependencyRow "App" := fun owner howner =>
    (mem_dependencyRow_name hnames happ).2 (howners ▸ howner)
  have hentry : ("App", c.dependencyRow "App") ∈ c.assemblyDependencies :=
    row_mem_assemblyDependencies happ
  have hupper : Text.lower "LIB" = "lib" := by decide +kernel
  have hlower : Text.lower "Lib" = "lib" := by decide +kernel
  refine ⟨hnames, Text.eqIgnoreCase_iff.2 (hupper.trans hlower.symm),
    ⟨_, hentry, hrow _ (by simp), hrow _ (by simp)⟩, ?_⟩
  have hkeys : ∀ name ∈ ["App", "Lib"], ("LIB" != name) = true := by decide
  refine List.lookup_eq_none_iff.2 fun entry hentry => ?_
  obtain ⟨name, hname, rfl⟩ := List.mem_map.1 hentry
  exact hkeys name (mem_distinctSorted.1 hname)

end Catalog

end AssemblyAtlas
