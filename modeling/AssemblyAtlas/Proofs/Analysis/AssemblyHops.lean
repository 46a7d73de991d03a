import AssemblyAtlas.Proofs.Analysis.Dependency
import AssemblyAtlas.Proofs.Sorted

/-!
# Hops between assemblies

The search for dependency paths and the table of assembly dependencies decide in different ways
which assembly a type belongs to. The search takes the assembly that it finds the type in
(`Catalog.resolveSig?`); the table takes the assembly that the signature names, and looks the type
up only when it names none (`Catalog.owner?`). They agree where an assembly that a signature names
declares the type (`Catalog.owner?_of_resolveSig?`), and then the table has every hop of a path that
leads to another assembly (`Catalog.crossings_in_assemblyDependencies`).

The types on a path are found again from its names (`Catalog.resolveAlong`): the search keeps, for
every type it reaches, a path that leads there (`Catalog.Traced`).
-/

namespace AssemblyAtlas

/-- The signature that the dependencies of the type have under a name. -/
def TypeSymbol.keptSig? (x : TypeSymbol) (name : String) : Option TypeSig :=
  x.type.dependencies.find? (·.fullName == name)

theorem TypeSymbol.keptSig?_of_mem {x : TypeSymbol} {dep : TypeSig}
    (h : dep ∈ x.type.dependencies) : x.keptSig? dep.fullName = some dep := by
  obtain ⟨kept, hkept⟩ : ∃ kept, x.keptSig? dep.fullName = some kept :=
    Option.isSome_iff_exists.1 (List.find?_isSome.2 ⟨dep, h, beq_self_eq_true _⟩)
  have hname := List.find?_some hkept
  have hmem : kept ∈ x.type.dependencies := List.mem_of_find?_eq_some hkept
  rw [hkept, List.inj_on_of_nodup_map (TypeSig.nodup_firstOfEachName _) hmem h (eq_of_beq hname)]

/-- The signature under a name is one that the type mentions. -/
theorem TypeSymbol.exists_mention_of_keptSig? {x : TypeSymbol} {name : String} {dep : TypeSig}
    (h : x.keptSig? name = some dep) : ∃ m ∈ x.type.mentions, m.sig = dep := by
  have hmem : dep ∈ x.type.dependencies := List.mem_of_find?_eq_some h
  exact List.mem_map.1 ((TypeSig.firstOfEachName_sublist _).subset hmem)

namespace Catalog

/-! ### The types on a path -/

/-- The type that a dependency of the type leads to. -/
def hop? (c : Catalog) (x : TypeSymbol) (name : String) : Option TypeSymbol :=
  (x.keptSig? name).bind fun dep => c.resolveSig? dep x.assembly.name

/-- The type that the names lead to from the given type, one dependency after another. -/
def resolveAlong (c : Catalog) (x : TypeSymbol) (names : List String) : Option TypeSymbol :=
  names.foldlM c.hop? x

variable {c : Catalog} {source x : TypeSymbol} {names : List String} {target : String}

theorem resolveAlong_append (c : Catalog) (x : TypeSymbol) (before after : List String) :
    c.resolveAlong x (before ++ after) =
      (c.resolveAlong x before).bind (c.resolveAlong · after) :=
  List.foldlM_append

theorem resolveAlong_cons (c : Catalog) (x : TypeSymbol) (name : String) (names : List String) :
    c.resolveAlong x (name :: names) = (c.hop? x name).bind (c.resolveAlong · names) :=
  List.foldlM_cons

theorem resolveAlong_mem_types (hsource : source ∈ c.types)
    (h : c.resolveAlong source names = some x) : x ∈ c.types := by
  induction names generalizing source with
  | nil =>
    cases h
    exact hsource
  | cons name names ih =>
    rw [resolveAlong_cons] at h
    obtain ⟨y, hy, h⟩ := Option.bind_eq_some_iff.1 h
    obtain ⟨dep, -, hdep⟩ := Option.bind_eq_some_iff.1 hy
    exact ih (resolveSig?_sound hdep).1 h

/-- The names are a path to the target: each of them is a dependency of the type before it. -/
def Leads (c : Catalog) (source : TypeSymbol) (target : String) (path : List String) : Prop :=
  ∃ names x, path = source.fullName :: (names ++ [target]) ∧
    c.resolveAlong source names = some x ∧ x.Names target

/-- Each name on a path is kept by the type that the names before it lead to. -/
theorem exists_keptSig? (hx : c.resolveAlong source names = some x) (htarget : x.Names target)
    {before after : List String} {name : String}
    (hsplit : names ++ [target] = before ++ name :: after) :
    ∃ y dep, c.resolveAlong source before = some y ∧ y.keptSig? name = some dep := by
  rcases List.eq_nil_or_concat after with rfl | ⟨init, last, rfl⟩
  · -- The last name is the target.
    obtain ⟨rfl, hlast⟩ := List.append_inj' hsplit rfl
    obtain ⟨dep, hdep, hname⟩ := htarget
    obtain rfl : target = name := by simpa using hlast
    exact ⟨x, dep, hx, hname ▸ TypeSymbol.keptSig?_of_mem hdep⟩
  · have hends : names ++ [target] = (before ++ name :: init) ++ [last] := hsplit.trans (by simp)
    obtain ⟨rfl, -⟩ := List.append_inj' hends rfl
    rw [resolveAlong_append] at hx
    obtain ⟨y, hy, hx⟩ := Option.bind_eq_some_iff.1 hx
    rw [resolveAlong_cons] at hx
    obtain ⟨z, hz, -⟩ := Option.bind_eq_some_iff.1 hx
    obtain ⟨dep, hdep, -⟩ := Option.bind_eq_some_iff.1 hz
    exact ⟨y, dep, hy, hdep⟩

/-! ### The search keeps paths -/

/-- The path of a reached type leads to it. -/
def Traced (c : Catalog) (source : TypeSymbol) (r : Reached) : Prop :=
  ∃ names, r.path = source.fullName :: names ∧ c.resolveAlong source names = some r.symbol

/-- **One dependency.** What it reaches is traced if the type it starts from is. -/
theorem Traced.next {here r : Reached} (hhere : c.Traced source here) {dep : TypeSig}
    (hdep : dep ∈ here.symbol.type.dependencies)
    (hsymbol : c.resolveSig? dep here.symbol.assembly.name = some r.symbol)
    (hpath : r.path = here.path ++ [dep.fullName]) : c.Traced source r := by
  obtain ⟨names, hnames, halong⟩ := hhere
  refine ⟨names ++ [dep.fullName], by rw [hpath, hnames, List.cons_append], ?_⟩
  have hhop : c.hop? here.symbol dep.fullName = some r.symbol := by
    rw [hop?, TypeSymbol.keptSig?_of_mem hdep, Option.bind_some, hsymbol]
  rw [resolveAlong_append, halong, Option.bind_some, resolveAlong_cons, hhop]
  rfl

/-- **One round.** From traced types it finds paths to the target and reaches traced types. -/
theorem traced_followAll {frontier : List Reached} (h : ∀ r ∈ frontier, c.Traced source r)
    (target : String) (visited : List String) :
    (∀ p ∈ (c.followAll target frontier visited).found, c.Leads source target p) ∧
      ∀ r ∈ (c.followAll target frontier visited).queue, c.Traced source r := by
  refine followAll_induction (motive := fun s =>
    (∀ p ∈ s.found, c.Leads source target p) ∧ ∀ r ∈ s.queue, c.Traced source r)
    frontier visited (by simp) fun s here dep hhere hdep ⟨hfound, hqueue⟩ => ?_
  refine ⟨fun p hp => ?_, fun r hr => ?_⟩
  · rcases mem_found_follow hp with hp | ⟨htarget, rfl⟩
    · exact hfound p hp
    · obtain ⟨names, hnames, halong⟩ := h here hhere
      exact ⟨names, here.symbol, by rw [hnames, List.cons_append], halong, dep, hdep, htarget⟩
  · rcases mem_queue_follow hr with hr | ⟨hsymbol, hpath⟩
    · exact hqueue r hr
    · exact (h here hhere).next hdep hsymbol hpath

/-- **All rounds.** Every path of a search from traced types leads to the target. -/
theorem leads_of_mem_search {frontier : List Reached} (h : ∀ r ∈ frontier, c.Traced source r)
    {hops : Nat} {visited path : List String} (hp : path ∈ c.search target hops frontier visited) :
    c.Leads source target path := by
  induction hops generalizing frontier visited with
  | zero =>
    rw [search] at hp
    exact absurd hp List.not_mem_nil
  | succ hops ih =>
    obtain ⟨hfound, hnext⟩ := traced_followAll h target visited
    rw [search_succ] at hp
    rcases List.mem_append.1 hp with hp | hp
    · exact hfound path hp
    · exact ih hnext hp

theorem leads_of_mem_dependencyPaths {goal : TypeSymbol} (hne : source.fullName ≠ goal.fullName)
    {maxLength : Nat} {path : List String} (hp : path ∈ c.dependencyPaths source goal maxLength) :
    c.Leads source goal.fullName path := by
  rw [dependencyPaths_eq_search c hne] at hp
  refine leads_of_mem_search (fun r hr => ?_) hp
  rw [List.mem_singleton.1 hr]
  exact ⟨[], rfl, rfl⟩

/-! ### Owners -/

/-- An assembly that a signature names is loaded under exactly that name and declares the type. -/
def ScopesDeclared (c : Catalog) : Prop :=
  ∀ x ∈ c.types, ∀ m ∈ x.type.mentions, ∀ scope ∈ m.sig.assembly,
    ∃ owner ∈ c.types, owner.assembly.name = scope ∧ owner.fullName = m.sig.fullName

/-- **The two ways to find the owner agree**: the type is found in the assembly that the signature
names. -/
theorem owner?_of_resolveSig? {index : TypeIndex}
    (hnames : index.assemblies.Pairwise fun a b => Text.eqIgnoreCase a.name b.name = false)
    {sig : TypeSig} (hscope : ∀ scope ∈ sig.assembly,
      ∃ owner ∈ (indexed index).types, owner.assembly.name = scope ∧ owner.fullName = sig.fullName)
    {fromAssembly : String} {found : TypeSymbol}
    (h : (indexed index).resolveSig? sig fromAssembly = some found) :
    (indexed index).owner? sig fromAssembly = some found.assembly.name := by
  rw [resolveSig?] at h
  cases hassembly : sig.assembly with
  | none =>
    rw [hassembly, Option.getD_none] at h
    rw [owner?, hassembly, Option.none_or, h, Option.map_some]
  | some scope =>
    rw [hassembly, Option.getD_some] at h
    obtain ⟨owner, howner, rfl, hname⟩ := hscope scope hassembly
    obtain ⟨ha, ht⟩ := mem_types_iff.1 howner
    have hself : owner.assembly.isNamed owner.assembly.name = true := Text.eqIgnoreCase_iff.2 rfl
    rw [← hname] at h
    have hnamed := TypeIndex.isNamed_of_resolveType? ha ht hself h
    have hfound := (mem_types_iff.1 (resolveType?_sound h).1).1
    rw [owner?, hassembly, Option.some_or, eq_of_isNamed hnames hfound ha hnamed hself]

/-! ### The table -/

theorem mem_foreignOwners_iff {a : Assembly} {owner : String} : owner ∈ c.foreignOwners a ↔
    (∃ t ∈ a.types, ∃ m ∈ t.mentions, c.owner? m.sig a.name = some owner) ∧
      Text.eqIgnoreCase owner a.name = false := by
  simp only [foreignOwners, List.mem_filter, List.mem_flatMap, List.mem_filterMap,
    Bool.not_eq_true']

/-- The row of an assembly name. -/
def dependencyRow (c : Catalog) (name : String) : List String :=
  distinctSorted ((c.assemblies.filter (·.name == name)).flatMap c.foreignOwners)

theorem mem_dependencyRow_iff {name owner : String} : owner ∈ c.dependencyRow name ↔
    ∃ a ∈ c.assemblies, a.name = name ∧ owner ∈ c.foreignOwners a := by
  simp only [dependencyRow, mem_distinctSorted, List.mem_flatMap, List.mem_filter, beq_iff_eq,
    and_assoc]

theorem lookup_assemblyDependencies {a : Assembly} (ha : a ∈ c.assemblies) :
    c.assemblyDependencies.lookup a.name = some (c.dependencyRow a.name) :=
  List.lookup_graph c.dependencyRow (mem_distinctSorted.2 (List.mem_map_of_mem ha))

/-- **Every hop to another assembly is in the table of assembly dependencies.** Let no two assembly
names be equal but for case, and let each assembly that a signature names declare the type. Each
name on a path after the first is then a dependency of the type that the names before it lead to;
and if the signature kept for it is found in an assembly of another name, the row of the assembly
that the hop leaves has that name. No row has the name it belongs to. -/
theorem crossings_in_assemblyDependencies {index : TypeIndex}
    (hnames : index.assemblies.Pairwise fun a b => Text.eqIgnoreCase a.name b.name = false)
    (hscopes : (indexed index).ScopesDeclared) {source goal : TypeSymbol}
    (hsource : source ∈ (indexed index).types) (hne : source.fullName ≠ goal.fullName)
    (maxLength : Nat) :
    (∀ path ∈ (indexed index).dependencyPaths source goal maxLength,
      ∃ names, path = source.fullName :: (names ++ [goal.fullName]) ∧
        ∀ before name after, names ++ [goal.fullName] = before ++ name :: after →
          ∃ x dep, (indexed index).resolveAlong source before = some x ∧
            x.keptSig? name = some dep ∧
            ∀ found, (indexed index).resolveSig? dep x.assembly.name = some found →
              Text.eqIgnoreCase found.assembly.name x.assembly.name = false →
              ∃ row, (indexed index).assemblyDependencies.lookup x.assembly.name = some row ∧
                found.assembly.name ∈ row) ∧
      ∀ entry ∈ (indexed index).assemblyDependencies, ∀ owner ∈ entry.2,
        Text.eqIgnoreCase owner entry.1 = false := by
  refine ⟨fun path hp => ?_, fun entry hentry owner howner => ?_⟩
  · obtain ⟨names, last, hpath, hlast, htarget⟩ := leads_of_mem_dependencyPaths hne hp
    refine ⟨names, hpath, fun before name after hsplit => ?_⟩
    obtain ⟨x, dep, hx, hdep⟩ := exists_keptSig? hlast htarget hsplit
    refine ⟨x, dep, hx, hdep, fun found hfound hother => ?_⟩
    have hmem := resolveAlong_mem_types hsource hx
    obtain ⟨ha, ht⟩ := mem_types_iff.1 hmem
    obtain ⟨m, hm, rfl⟩ := TypeSymbol.exists_mention_of_keptSig? hdep
    have howner := owner?_of_resolveSig? hnames (hscopes x hmem m hm) hfound
    refine ⟨_, lookup_assemblyDependencies ha, mem_dependencyRow_iff.2 ⟨x.assembly, ha, rfl, ?_⟩⟩
    exact mem_foreignOwners_iff.2 ⟨⟨x.type, ht, m, hm, howner⟩, hother⟩
  · obtain ⟨name, -, rfl⟩ := List.mem_map.1 hentry
    obtain ⟨a, -, rfl, hforeign⟩ := mem_dependencyRow_iff.1 howner
    exact (mem_foreignOwners_iff.1 hforeign).2

/-- A path of two hops through three assemblies. The first signature names the assembly that it
leads to, although a type of that name is nearer; the second names none. -/
theorem crossings_in_assemblyDependencies_scoped :
    let field (type : TypeSig) : Field := { name := "f", type }
    let a : TypeDef :=
      { TypeDef.named "A" with fields := [field { fullName := "B", assembly := some "Lib" }] }
    let b : TypeDef := { TypeDef.named "B" with fields := [field { fullName := "C" }] }
    let app : Assembly := .ofTypes "App" [a, .named "B"]
    let lib : Assembly := .ofTypes "Lib" [b]
    let base : Assembly := .ofTypes "Base" [.named "C"]
    let c : Catalog := .ofAssemblies [app, lib, base]
    c.ScopesDeclared ∧
      ["A", "B", "C"] ∈ c.dependencyPaths ⟨app, a⟩ ⟨base, .named "C"⟩ 5 ∧
      (∃ row, c.assemblyDependencies.lookup "App" = some row ∧ "Lib" ∈ row) ∧
      ∃ row, c.assemblyDependencies.lookup "Lib" = some row ∧ "Base" ∈ row := by
  intro field a b app lib base c
  have hnames : [app, lib, base].Pairwise fun a b => Text.eqIgnoreCase a.name b.name = false := by
    decide +kernel
  have hscopes : c.ScopesDeclared := by
    unfold ScopesDeclared
    decide +kernel
  have hpath : ["A", "B", "C"] ∈ c.dependencyPaths ⟨app, a⟩ ⟨base, .named "C"⟩ 5 := by
    decide +kernel
  have hb : c.resolveType? "B" (some "Lib") = some ⟨lib, b⟩ :=
    TypeIndex.resolveType?_eq_some_iff.2 ⟨⟨1, [0, 0]⟩, by decide +kernel, rfl, rfl⟩
  have hc : c.resolveType? "C" (some "Lib") = some ⟨base, .named "C"⟩ :=
    TypeIndex.resolveType?_eq_some_iff.2 ⟨⟨2, [0, 0]⟩, by decide +kernel, rfl, rfl⟩
  have hkeptB : (TypeSymbol.mk app a).keptSig? "B" =
      some { fullName := "B", assembly := some "Lib" } := by decide +kernel
  have hkeptC : (TypeSymbol.mk lib b).keptSig? "C" = some { fullName := "C" } := by decide +kernel
  have hfirst : c.resolveAlong ⟨app, a⟩ ["B"] = some ⟨lib, b⟩ := by
    rw [resolveAlong_cons, hop?, hkeptB]
    exact congrArg (·.bind (c.resolveAlong · [])) hb
  obtain ⟨names, hsplit, hhop⟩ := (@crossings_in_assemblyDependencies
    (.ofAssemblies [app, lib, base]) hnames hscopes ⟨app, a⟩ ⟨base, .named "C"⟩ List.mem_cons_self
    (by decide +kernel) 5).1 _ hpath
  obtain ⟨-, hsplit⟩ := List.cons.inj hsplit
  refine ⟨hscopes, hpath, ?_, ?_⟩
  · obtain ⟨x, dep, hx, hdep, hrow⟩ := hhop [] "B" ["C"] hsplit.symm
    cases hx
    cases hdep.symm.trans hkeptB
    exact hrow ⟨lib, b⟩ hb (by decide +kernel)
  · obtain ⟨x, dep, hx, hdep, hrow⟩ := hhop ["B"] "C" [] hsplit.symm
    cases hx.symm.trans hfirst
    cases hdep.symm.trans hkeptC
    exact hrow ⟨base, .named "C"⟩ hc (by decide +kernel)

end Catalog

end AssemblyAtlas
