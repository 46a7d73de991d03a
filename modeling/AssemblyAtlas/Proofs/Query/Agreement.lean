import AssemblyAtlas.Proofs.Catalog.Agreement
import AssemblyAtlas.Proofs.Except
import AssemblyAtlas.Query.Command

/-!
# Queries do not depend on how types are found

Catalogs that agree give the same answers: the analyses only ever follow references of declared
types and methods, and a query resolves names in the same way in both. So a catalog with a table
and one that scans its assemblies answer every query alike
(`Catalog.ofAssemblies_sameAnswers_scanned`).
-/

namespace AssemblyAtlas

theorem Catalog.childrenOf_congr {c d : Catalog} {remaining : Nat}
    (hexpand : ∀ m depth callCount expanded, c.Declares m →
      c.expand remaining m depth callCount expanded = d.expand remaining m depth callCount expanded)
    (depth : Nat) (expanded : List String) {xs : List Callee}
    (hxs : ∀ x ∈ xs, ∀ r, x.resolved = some r → c.Declares r) :
    c.childrenOf remaining depth expanded xs = d.childrenOf remaining depth expanded xs := by
  induction xs generalizing expanded with
  | nil => rfl
  | cons x xs ih =>
    have hchild : c.childOf remaining depth expanded x = d.childOf remaining depth expanded x := by
      unfold childOf
      cases hr : x.resolved with
      | none => rfl
      | some r => simp only [hexpand r _ _ _ (hxs x (by simp) r hr)]
    rw [childrenOf, childrenOf, hchild, ih _ fun y hy => hxs y (by simp [hy])]

namespace Catalog.Agree

variable {c d : Catalog} (h : c.Agree d)
include h

/-! ### Analyses -/

theorem expand (remaining : Nat) {m : MethodSymbol} (hm : c.Declares m) (depth callCount : Nat)
    (expanded : List String) :
    c.expand remaining m depth callCount expanded =
      d.expand remaining m depth callCount expanded := by
  induction remaining generalizing m depth callCount expanded with
  | zero => rfl
  | succ remaining ih =>
    have hdeclared : ∀ x ∈ c.callees m, ∀ r, x.resolved = some r → c.Declares r :=
      fun x hx r hr => (callees_resolved hx hr).1
    rw [expand_succ, expand_succ, ← h.callees hm,
      childrenOf_congr (fun m depth callCount expanded hm => ih hm depth callCount expanded)
        depth _ hdeclared]

theorem callGraph {root : MethodSymbol} (hroot : c.Declares root) (maxDepth : Nat) :
    c.callGraph root maxDepth = d.callGraph root maxDepth := by
  rw [Catalog.callGraph, Catalog.callGraph, h.expand maxDepth hroot]

theorem resolveDependency {s : TypeSymbol} (hs : s ∈ c.types) {dep : TypeSig}
    (hdep : dep ∈ s.type.dependencies) :
    c.resolveSig? dep s.assembly.name = d.resolveSig? dep s.assembly.name := by
  obtain ⟨m, hm, rfl⟩ := List.mem_map.1 ((TypeSig.firstOfEachName_sublist _).subset hdep)
  exact h.resolveSig? hs hm

theorem followAll (target : String) {frontier : List Reached}
    (hf : ∀ x ∈ frontier, x.symbol ∈ c.types) (visited : List String) :
    c.followAll target frontier visited = d.followAll target frontier visited := by
  refine List.foldl_ext _ _ _ fun r x hx => List.foldl_ext _ _ _ fun r dep hdep => ?_
  rw [follow, follow, h.resolveDependency (hf x hx) hdep]

theorem search (target : String) (hops : Nat) {frontier : List Reached}
    (hf : ∀ x ∈ frontier, x.symbol ∈ c.types) (visited : List String) :
    c.search target hops frontier visited = d.search target hops frontier visited := by
  induction hops generalizing frontier visited with
  | zero => rfl
  | succ hops ih =>
    rw [search_succ, search_succ, ih (followAll_queue_mem_types target frontier visited),
      h.followAll target hf]

theorem dependencyPaths {source : TypeSymbol} (hs : source ∈ c.types) (target : TypeSymbol)
    (maxLength : Nat) :
    c.dependencyPaths source target maxLength = d.dependencyPaths source target maxLength := by
  by_cases hname : source.fullName = target.fullName
  · rw [Catalog.dependencyPaths, Catalog.dependencyPaths, if_pos (by simpa using hname),
      if_pos (by simpa using hname)]
  · rw [dependencyPaths_eq_search c hname, dependencyPaths_eq_search d hname,
      h.search _ _ (List.forall_mem_singleton.2 hs)]

theorem foreignOwners {a : Assembly} (ha : a ∈ c.assemblies) :
    c.foreignOwners a = d.foreignOwners a := by
  have howner : ∀ sig, c.owner? sig a.name = d.owner? sig a.name := by
    intro sig
    rw [owner?, owner?, h.resolveType? sig.fullName]
    exact fun name hname => Option.some.inj hname ▸ h.tidyNames a ha
  simp only [Catalog.foreignOwners, howner]

theorem assemblyDependencies : c.assemblyDependencies = d.assemblyDependencies := by
  rw [Catalog.assemblyDependencies, Catalog.assemblyDependencies, ← h.assemblies]
  refine List.map_congr_left fun name _ => ?_
  rw [List.flatMap_congr fun a ha => h.foreignOwners (List.mem_of_mem_filter ha)]

theorem baseChainFrom (fuel : Nat) {s : TypeSymbol} (hs : s ∈ c.types) (seen : List String) :
    c.baseChainFrom fuel s seen = d.baseChainFrom fuel s seen := by
  induction fuel generalizing s seen with
  | zero => rfl
  | succ fuel ih =>
    rw [Catalog.baseChainFrom, Catalog.baseChainFrom]
    cases hbase : s.type.baseType with
    | none => rfl
    | some base =>
      have hmention :
          ({ context := .baseType, sig := base, location := s.type.fullName } : Mention) ∈
            s.type.mentions := by
        simp [TypeDef.mentions, hbase]
      have hresolve := h.resolveSig? hs hmention
      simp only [← hresolve]
      cases hnext : c.resolveSig? base s.assembly.name with
      | none => rfl
      | some next => simp only [ih (resolveSig?_sound hnext).1]

theorem hierarchy {target : TypeSymbol} (ht : target ∈ c.types) :
    c.hierarchy target = d.hierarchy target := by
  simp only [Catalog.hierarchy, baseChain, derivedTypes, implementors, ← h.types,
    h.baseChainFrom _ ht]

end Catalog.Agree

/-! ### What queries name -/

namespace Query

variable {c : Catalog}

theorem assembly_sound {name : String} {a : Assembly} (h : assembly c name = .ok a) :
    a ∈ c.assemblies := by
  obtain ⟨name, -, h⟩ := Except.bind_eq_ok_iff.1 h
  split at h
  · next b hb =>
    obtain rfl : b = a := Except.ok.inj h
    exact List.mem_of_find?_eq_some hb
  · exact absurd h (by simp [throw, throwThe, MonadExceptOf.throw])

theorem scope_sound {name : Option String} {a : Assembly} (h : scope c name = .ok (some a)) :
    a ∈ c.assemblies := by
  cases name with
  | none => exact absurd (Except.ok.inj h) (by simp)
  | some name =>
    obtain ⟨b, hb, h⟩ := Except.bind_eq_ok_iff.1 h
    obtain rfl : b = a := Option.some.inj (Except.ok.inj h)
    exact assembly_sound hb

theorem looseTypeIn?_sound {a : Assembly} {name : String} {s : TypeSymbol}
    (h : looseTypeIn? a name = some s) : s.assembly = a ∧ s.type ∈ a.types := by
  obtain ⟨t, ht, rfl⟩ := Option.map_eq_some_iff.1 h
  refine ⟨rfl, ?_⟩
  rcases Option.or_eq_some_iff.1 ht with ht | ⟨-, ht⟩
  · rcases Option.or_eq_some_iff.1 ht with ht | ⟨-, ht⟩ <;> exact List.mem_of_find?_eq_some ht
  · exact List.mem_of_find?_eq_some ht

theorem lookupType?_sound {scope : Option Assembly} (hscope : ∀ a ∈ scope, a ∈ c.assemblies)
    {name : String} {s : TypeSymbol} (h : lookupType? c scope name = some s) : s ∈ c.types := by
  cases scope with
  | some a =>
    obtain ⟨rfl, ht⟩ := looseTypeIn?_sound h
    exact Catalog.mem_types_iff.2 ⟨hscope _ rfl, ht⟩
  | none =>
    rcases Option.or_eq_some_iff.1 h with h | ⟨-, h⟩
    · exact (Catalog.resolveType?_sound h).1
    · obtain ⟨a, ha, h⟩ := List.exists_of_findSome?_eq_some h
      obtain ⟨rfl, ht⟩ := looseTypeIn?_sound h
      exact Catalog.mem_types_iff.2 ⟨ha, ht⟩

/-- A query for a type names a declared type. -/
theorem type_sound {q : SymbolQuery} {s : TypeSymbol} (h : type c q = .ok s) : s ∈ c.types := by
  obtain ⟨scope, hscope, h⟩ := Except.bind_eq_ok_iff.1 h
  obtain ⟨name, -, h⟩ := Except.bind_eq_ok_iff.1 h
  split at h
  · next s' hs =>
    obtain rfl : s' = s := Except.ok.inj h
    exact lookupType?_sound (fun a ha => scope_sound (ha ▸ hscope)) hs
  · exact absurd h (by simp [throw, throwThe, MonadExceptOf.throw])

/-- A query for a member names one that is picked from a declared type. -/
theorem member_sound {α : Type} {q : SymbolQuery} {sought : Sought}
    {pick : TypeSymbol → String → Option α} {x : α} (h : member c q sought pick = .ok x) :
    ∃ s ∈ c.types, ∃ name, pick s name = some x := by
  obtain ⟨scope, hscope, h⟩ := Except.bind_eq_ok_iff.1 h
  obtain ⟨name, -, h⟩ := Except.bind_eq_ok_iff.1 h
  split at h
  · next y hy =>
    obtain rfl : y = x := Except.ok.inj h
    obtain ⟨⟨type, member⟩, -, hpick⟩ := List.exists_of_findSome?_eq_some hy
    simp only [Option.ite_none_left_eq_some] at hpick
    obtain ⟨s, hs, hpick⟩ := Option.bind_eq_some_iff.1 hpick.2
    exact ⟨s, lookupType?_sound (fun a ha => scope_sound (ha ▸ hscope)) hs, _, hpick⟩
  · exact absurd h (by simp [throw, throwThe, MonadExceptOf.throw])

/-- A query for a method names a declared method. -/
theorem method_sound {q : SymbolQuery} {m : MethodSymbol} (h : method c q = .ok m) :
    c.Declares m := by
  obtain ⟨name, -, h⟩ := Except.bind_eq_ok_iff.1 h
  obtain ⟨base, parameters⟩ := splitSignature name
  dsimp only at h
  split at h
  · next m' hm =>
    obtain rfl : m' = m := Except.ok.inj h
    obtain ⟨s, hs, name, hpick⟩ := member_sound hm
    obtain ⟨f, hf, rfl⟩ := List.mem_map.1 (List.mem_of_find?_eq_some hpick)
    exact ⟨hs, hf⟩
  · exact absurd h (by simp [throw, throwThe, MonadExceptOf.throw])

end Query

/-! ### Answers -/

namespace Catalog

/-- Every query has the same answer or the same error in both catalogs. -/
structure SameAnswers (c d : Catalog) : Prop where
  assembly : ∀ name, Query.assembly c name = Query.assembly d name
  type : ∀ q, Query.type c q = Query.type d q
  method : ∀ q, Query.method c q = Query.method d q
  field : ∀ q, Query.field c q = Query.field d q
  callers : ∀ settings q cursor,
    Query.callers c settings q cursor = Query.callers d settings q cursor
  readers : ∀ settings q cursor,
    Query.readers c settings q cursor = Query.readers d settings q cursor
  writers : ∀ settings q cursor,
    Query.writers c settings q cursor = Query.writers d settings q cursor
  references : ∀ settings q cursor,
    Query.references c settings q cursor = Query.references d settings q cursor
  callGraph : ∀ settings q maxDepth,
    Query.callGraph c settings q maxDepth = Query.callGraph d settings q maxDepth
  dependencyPaths : ∀ settings source target maxLength cursor,
    Query.dependencyPaths c settings source target maxLength cursor =
      Query.dependencyPaths d settings source target maxLength cursor
  assemblyDependencies : ∀ name,
    Query.assemblyDependencies c name = Query.assemblyDependencies d name
  deadCode : ∀ settings name includePrivate cursor,
    Query.deadCode c settings name includePrivate cursor =
      Query.deadCode d settings name includePrivate cursor
  hierarchy : ∀ q, Query.hierarchy c q = Query.hierarchy d q
  search : ∀ settings pattern kind name cursor,
    Query.search c settings pattern kind name cursor =
      Query.search d settings pattern kind name cursor

namespace Agree

variable {c d : Catalog} (h : c.Agree d)
include h

theorem query_assembly (name : String) : Query.assembly c name = Query.assembly d name := by
  simp only [Query.assembly, findAssemblyLoose?, h.assemblies]

theorem query_scope (name : Option String) : Query.scope c name = Query.scope d name := by
  cases name with
  | none => rfl
  | some name => rw [Query.scope, Query.scope, h.query_assembly]

theorem lookupType? (scope : Option Assembly) (name : String) :
    Query.lookupType? c scope name = Query.lookupType? d scope name := by
  cases scope with
  | some a => rfl
  | none => rw [Query.lookupType?, Query.lookupType?, h.assemblies, h.resolveType? name (by simp)]

theorem query_type (q : SymbolQuery) : Query.type c q = Query.type d q := by
  simp only [Query.type, h.query_scope, h.lookupType?]

theorem query_member {α : Type} (q : SymbolQuery) (sought : Sought)
    (pick : TypeSymbol → String → Option α) :
    Query.member c q sought pick = Query.member d q sought pick := by
  simp only [Query.member, Query.pickMember?, h.query_scope, h.lookupType?]

theorem query_method (q : SymbolQuery) : Query.method c q = Query.method d q := by
  simp only [Query.method, h.query_member]

theorem usages (kind : UsageKind) (p : Action → Bool) : c.usages kind p = d.usages kind p := by
  rw [Catalog.usages, Catalog.usages, bodies, bodies, h.types]

theorem references (target : TypeSymbol) : c.references target = d.references target := by
  rw [Catalog.references, Catalog.references, h.types]

theorem searchSymbols (accepts : String → Bool) (kind : Option SymbolKind)
    (assembly : Option String) :
    c.searchSymbols accepts kind assembly = d.searchSymbols accepts kind assembly := by
  rw [Catalog.searchSymbols, Catalog.searchSymbols, h.types]

/-- **Catalogs that agree give the same answers.** -/
theorem sameAnswers : c.SameAnswers d where
  assembly := h.query_assembly
  type := h.query_type
  method := h.query_method
  field q := h.query_member q _ _
  callers settings q cursor := by
    simp only [Query.callers, h.query_method, Catalog.callers, h.usages]
  readers settings q cursor := by
    simp only [Query.readers, Query.field, h.query_member, Catalog.readers, h.usages]
  writers settings q cursor := by
    simp only [Query.writers, Query.field, h.query_member, Catalog.writers, h.usages]
  references settings q cursor := by
    simp only [Query.references, h.query_type, h.references]
  callGraph settings q maxDepth := by
    simp only [Query.callGraph, ← h.query_method]
    refine Except.bind_congr_ok fun root hroot => ?_
    rw [h.callGraph (Query.method_sound hroot)]
  dependencyPaths settings source target maxLength cursor := by
    simp only [Query.dependencyPaths, ← h.query_type]
    refine Except.bind_congr_ok fun request _ => Except.bind_congr_ok fun source hsource => ?_
    simp only [h.dependencyPaths (Query.type_sound hsource)]
  assemblyDependencies name := by
    simp only [Query.assemblyDependencies, h.assemblyDependencies, h.query_assembly]
  deadCode settings name includePrivate cursor := by
    simp only [Query.deadCode, h.query_assembly]
  hierarchy q := by
    simp only [Query.hierarchy, ← h.query_type]
    refine Except.bind_congr_ok fun target htarget => ?_
    rw [h.hierarchy (Query.type_sound htarget)]
  search settings pattern kind name cursor := by
    simp only [Query.search, Query.searchSymbols, h.query_scope, h.searchSymbols]

end Agree

/-! ### Table and scan -/

/-- The assemblies differ in name by more than the case of letters, pass the checks on snapshots,
and have no white space around their names and the scopes recorded in them. -/
structure Orderly (as : List Assembly) : Prop where
  names : as.Pairwise fun a b => Text.eqIgnoreCase a.name b.name = false
  valid : ∀ a ∈ as, a.fault? = none
  tidyNames : ∀ a ∈ as, Text.trim a.name = a.name
  tidyScopes : ∀ a ∈ as, ∀ name ∈ a.scopes, Text.trim name = name

theorem Orderly.agree {as : List Assembly} (h : Orderly as) :
    (ofAssemblies as).Agree (.scanned as) where
  assemblies := rfl
  resolveType? n _ htidy :=
    TypeIndex.resolveType?_eq_scanType? h.names
      (fun a ha => Assembly.nodup_of_fault?_eq_none (h.valid a ha)) n htidy
  tidyNames := h.tidyNames
  tidyScopes := h.tidyScopes

/-- **The table and the scan are interchangeable:** over orderly assemblies both find the same type
for every name and tidy preferred name, and every query has the same answer. -/
theorem ofAssemblies_sameAnswers_scanned {as : List Assembly} (h : Orderly as) :
    (∀ (n : String) (preferred : Option String), (∀ name ∈ preferred, Text.trim name = name) →
      (ofAssemblies as).resolveType? n preferred = (scanned as).resolveType? n preferred) ∧
      (ofAssemblies as).SameAnswers (scanned as) :=
  ⟨fun n _ htidy => h.agree.resolveType? n htidy, h.agree.sameAnswers⟩

/-- Two assemblies declare types of one name, one of them nested, and one refers to the other. -/
theorem ofAssemblies_sameAnswers_scanned_twice :
    let core : Assembly := .ofTypes "Core" [{ TypeDef.named "N.A" with nested := [.named "N.A+B"] }]
    let app : Assembly := .ofTypes "App" [.named "N.A+B",
      { TypeDef.named "N.C" with
        baseType := some { fullName := "N.A+B", assembly := some "core" } }]
    Orderly [core, app] ∧
      (ofAssemblies [core, app]).resolveType? "N.A+B" (some "APP") =
        (scanned [core, app]).resolveType? "N.A+B" (some "APP") ∧
      (ofAssemblies [core, app]).SameAnswers (scanned [core, app]) := by
  intro core app
  have horderly : Orderly [core, app] := by
    refine ⟨?_, ?_, ?_, ?_⟩
    · simp only [List.pairwise_cons, List.mem_singleton, forall_eq]
      exact ⟨by decide +kernel, by simp⟩
    · simp only [List.mem_cons, List.not_mem_nil, or_false, forall_eq_or_imp, forall_eq]
      exact ⟨by decide +kernel, by decide +kernel⟩
    · simp only [List.mem_cons, List.not_mem_nil, or_false, forall_eq_or_imp, forall_eq]
      exact ⟨by decide +kernel, by decide +kernel⟩
    · have hcore : core.scopes = [] := by decide +kernel
      have happ : app.scopes = ["core"] := by decide +kernel
      simp only [List.mem_cons, List.not_mem_nil, or_false, forall_eq_or_imp, forall_eq, hcore,
        happ, false_implies, implies_true, true_and]
      decide +kernel
  obtain ⟨hresolve, hanswers⟩ := ofAssemblies_sameAnswers_scanned horderly
  refine ⟨horderly, hresolve "N.A+B" (some "APP") fun name hname => ?_, hanswers⟩
  obtain rfl := Option.some.inj hname
  decide +kernel

end Catalog

end AssemblyAtlas
