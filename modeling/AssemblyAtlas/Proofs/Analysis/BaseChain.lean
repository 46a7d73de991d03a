import Mathlib.Data.List.Perm.Subperm
import AssemblyAtlas.Analysis.Hierarchy
import AssemblyAtlas.Proofs.Catalog.Lookup
import AssemblyAtlas.Proofs.Sorted

/-!
# Chains of base types

The chain of base types of a type is what a loop collects that goes from each type to the type that
its base type is found as, until it has to stop. `Catalog.BaseWalk` describes the runs of this loop,
with no bound on the number of steps. A run has no name twice (`Catalog.BaseWalk.nodup`) and ends
for one of three reasons (`Catalog.BaseWalk.ended`).

The names that a run leaves behind are different names of declared types. Hence there is a run from
every declared type (`Catalog.exists_baseWalk`), it has no more names than are declared
(`Catalog.BaseWalk.length_le`), and a bound on the steps that is not smaller never cuts it off
(`Catalog.BaseWalk.baseChainFrom_eq`). `Catalog.baseChain_exact` puts this together.
-/

namespace AssemblyAtlas.Catalog

/-- The type that the base type of a type is found as. -/
def baseOf? (c : Catalog) (s : TypeSymbol) : Option TypeSymbol :=
  s.type.baseType.bind fun base => c.resolveSig? base s.assembly.name

/-- The type that is reached by going to the base type the given number of times. -/
def ancestor? (c : Catalog) (s : TypeSymbol) : Nat → Option TypeSymbol
  | 0 => some s
  | n + 1 => (c.ancestor? s n).bind c.baseOf?

/-- The different full names of the declared types. -/
def typeNames (c : Catalog) : List String :=
  (c.types.map (·.fullName)).eraseDups

/-- Why the chain of base types of a type ends where it does, where the names `seen` and those of
the chain are not taken again. -/
inductive Ended (c : Catalog) (s : TypeSymbol) (seen chain : List String) : Prop where
  /-- The last type that was found has no base type. -/
  | noBase (last : TypeSymbol) (found : c.ancestor? s chain.length = some last)
      (top : last.type.baseType = none)
  /-- The name of its base type came before. -/
  | repeated (last : TypeSymbol) (base : TypeSig) (found : c.ancestor? s chain.length = some last)
      (next : last.type.baseType = some base)
      (before : base.fullName ∈ seen ∨ base.fullName ∈ chain)
  /-- The last name is not found. -/
  | notFound (init : List String) (last : TypeSymbol) (base : TypeSig)
      (split : chain = init ++ [base.fullName]) (found : c.ancestor? s init.length = some last)
      (next : last.type.baseType = some base)
      (missing : c.resolveSig? base last.assembly.name = none)

/-- The run of the loop from a type on with the names `seen` behind it collects the names of the
chain and ends. -/
inductive BaseWalk (c : Catalog) : TypeSymbol → (seen chain : List String) → Prop where
  /-- There is no base type. -/
  | noBase {s : TypeSymbol} {seen : List String} (top : s.type.baseType = none) :
      BaseWalk c s seen []
  /-- The name of the base type came before. -/
  | repeated {s : TypeSymbol} {seen : List String} {base : TypeSig}
      (base_eq : s.type.baseType = some base) (again : base.fullName ∈ seen) : BaseWalk c s seen []
  /-- The base type is not found. -/
  | notFound {s : TypeSymbol} {seen : List String} {base : TypeSig}
      (base_eq : s.type.baseType = some base) (fresh : base.fullName ∉ seen)
      (missing : c.resolveSig? base s.assembly.name = none) : BaseWalk c s seen [base.fullName]
  /-- The base type is found, and the run goes on from there. -/
  | step {s next : TypeSymbol} {seen chain : List String} {base : TypeSig}
      (base_eq : s.type.baseType = some base) (fresh : base.fullName ∉ seen)
      (found : c.resolveSig? base s.assembly.name = some next)
      (rest : BaseWalk c next (base.fullName :: seen) chain) :
      BaseWalk c s seen (base.fullName :: chain)

variable {c : Catalog} {s next : TypeSymbol} {seen chain : List String}

/-! ### Steps -/

theorem baseOf?_eq_some {base : TypeSig} (hbase : s.type.baseType = some base)
    (hfound : c.resolveSig? base s.assembly.name = some next) : c.baseOf? s = some next := by
  rw [baseOf?, hbase, Option.bind_some, hfound]

/-- A step at the beginning is the same as one at the end. -/
theorem ancestor?_succ (h : c.baseOf? s = some next) (n : Nat) :
    c.ancestor? s (n + 1) = c.ancestor? next n := by
  induction n with
  | zero => exact h
  | succ n ih =>
    rw [ancestor?, ih]
    rfl

/-- Each name of a run is that of the base type of the type that the names before it lead to. -/
theorem BaseWalk.steps (h : c.BaseWalk s seen chain) {i : Nat} {name : String}
    (hi : chain[i]? = some name) :
    ∃ t base, c.ancestor? s i = some t ∧ t.type.baseType = some base ∧ base.fullName = name := by
  induction h generalizing i with
  | noBase top => exact absurd hi (by simp)
  | repeated base_eq again => exact absurd hi (by simp)
  | @notFound s _ base base_eq fresh missing =>
    cases i with
    | zero => exact ⟨s, base, rfl, base_eq, Option.some.inj hi⟩
    | succ i => exact absurd hi (by simp)
  | @step s next _ _ base base_eq fresh found rest ih =>
    cases i with
    | zero => exact ⟨s, base, rfl, base_eq, Option.some.inj hi⟩
    | succ i =>
      rw [ancestor?_succ (baseOf?_eq_some base_eq found)]
      exact ih hi

theorem Ended.step (h : c.baseOf? s = some next) {name : String}
    (hended : c.Ended next (name :: seen) chain) : c.Ended s seen (name :: chain) := by
  cases hended with
  | noBase last found top =>
    exact .noBase last (by rw [List.length_cons, ancestor?_succ h, found]) top
  | repeated last base found base_eq before =>
    refine .repeated last base (by rw [List.length_cons, ancestor?_succ h, found]) base_eq ?_
    simp only [List.mem_cons] at before ⊢
    tauto
  | notFound init last base split found base_eq missing =>
    refine .notFound (name :: init) last base (by rw [split, List.cons_append]) ?_ base_eq missing
    rw [List.length_cons, ancestor?_succ h, found]

theorem BaseWalk.ended (h : c.BaseWalk s seen chain) : c.Ended s seen chain := by
  induction h with
  | noBase top => exact .noBase _ rfl top
  | repeated base_eq again => exact .repeated _ _ rfl base_eq (.inl again)
  | notFound base_eq fresh missing => exact .notFound [] _ _ rfl rfl base_eq missing
  | step base_eq fresh found rest ih => exact ih.step (baseOf?_eq_some base_eq found)

/-- No name comes twice, and none of those behind the run comes again. -/
theorem BaseWalk.nodup (h : c.BaseWalk s seen chain) :
    chain.Nodup ∧ ∀ name ∈ chain, name ∉ seen := by
  induction h with
  | noBase top => simp
  | repeated base_eq again => simp
  | notFound base_eq fresh missing => simpa using fresh
  | step base_eq fresh found rest ih =>
    obtain ⟨hnodup, hfresh⟩ := ih
    refine ⟨List.nodup_cons.2 ⟨fun hmem => hfresh _ hmem List.mem_cons_self, hnodup⟩, ?_⟩
    refine List.forall_mem_cons.2 ⟨fresh, fun name hname hseen => ?_⟩
    exact hfresh name hname (List.mem_cons_of_mem _ hseen)

/-- A run starts with the name of the base type, if that did not come before. -/
theorem BaseWalk.head?_eq (h : c.BaseWalk s seen chain) {base : TypeSig}
    (hbase : s.type.baseType = some base) (hfresh : base.fullName ∉ seen) :
    chain.head? = some base.fullName := by
  cases h with
  | noBase top => exact absurd (hbase.symm.trans top) (by simp)
  | repeated base_eq again =>
    obtain rfl := Option.some.inj (hbase.symm.trans base_eq)
    exact absurd again hfresh
  | notFound base_eq | step base_eq =>
    obtain rfl := Option.some.inj (hbase.symm.trans base_eq)
    rfl

/-! ### The number of steps -/

/-- What the loop returns is the run, if it may take as many steps as the run has names. -/
theorem BaseWalk.baseChainFrom_eq (h : c.BaseWalk s seen chain) {fuel : Nat}
    (hfuel : chain.length ≤ fuel) : c.baseChainFrom fuel s seen = chain := by
  induction h generalizing fuel with
  | noBase top =>
    cases fuel with
    | zero => rfl
    | succ fuel => rw [baseChainFrom, top]
  | repeated base_eq again =>
    cases fuel with
    | zero => rfl
    | succ fuel =>
      rw [baseChainFrom, base_eq]
      exact if_pos (List.contains_iff_mem.2 again)
  | notFound base_eq fresh missing =>
    cases fuel with
    | zero => exact absurd hfuel (by simp)
    | succ fuel =>
      rw [baseChainFrom, base_eq]
      simp only [List.contains_iff_mem, if_neg fresh, missing]
  | step base_eq fresh found rest ih =>
    cases fuel with
    | zero => exact absurd hfuel (by simp)
    | succ fuel =>
      rw [baseChainFrom, base_eq]
      simp only [List.contains_iff_mem, if_neg fresh, found, ih (Nat.le_of_succ_le_succ hfuel)]

theorem length_le_typeNames (hnodup : seen.Nodup) (hseen : seen ⊆ c.typeNames) :
    seen.length ≤ c.typeNames.length :=
  (hnodup.subperm hseen).length_le

theorem mem_typeNames_iff {name : String} :
    name ∈ c.typeNames ↔ ∃ s ∈ c.types, s.fullName = name := by
  rw [typeNames, List.mem_eraseDups, List.mem_map]

/-- The names behind a run stay different names of declared types when a base type is found. -/
theorem seen_cons {base : TypeSig} {assembly : String} (hnodup : seen.Nodup)
    (hseen : seen ⊆ c.typeNames) (hfresh : base.fullName ∉ seen)
    (hfound : c.resolveSig? base assembly = some next) :
    (base.fullName :: seen).Nodup ∧ base.fullName :: seen ⊆ c.typeNames := by
  have hdeclared : base.fullName ∈ c.typeNames :=
    mem_typeNames_iff.2 ⟨next, resolveSig?_sound hfound⟩
  exact ⟨List.nodup_cons.2 ⟨hfresh, hnodup⟩, List.cons_subset.2 ⟨hdeclared, hseen⟩⟩

/-- Only the last name of a run need not be that of a declared type. -/
theorem BaseWalk.length_le (h : c.BaseWalk s seen chain) (hnodup : seen.Nodup)
    (hseen : seen ⊆ c.typeNames) : seen.length + chain.length ≤ c.typeNames.length + 1 := by
  induction h with
  | noBase | repeated =>
    have hle := length_le_typeNames hnodup hseen
    simp only [List.length_nil]
    omega
  | notFound base_eq fresh missing =>
    exact Nat.add_le_add_right (length_le_typeNames hnodup hseen) 1
  | step base_eq fresh found rest ih =>
    obtain ⟨hnodup, hseen⟩ := seen_cons hnodup hseen fresh found
    have hle := ih hnodup hseen
    simp only [List.length_cons] at hle ⊢
    omega

/-- **The loop ends.** The names behind it become more with each step, and they are different names
of declared types. -/
theorem exists_baseWalk (s : TypeSymbol) (hnodup : seen.Nodup) (hseen : seen ⊆ c.typeNames) :
    ∃ chain, c.BaseWalk s seen chain := by
  induction hn : c.typeNames.length - seen.length using Nat.strongRecOn generalizing s seen with
  | ind n ih =>
    cases base_eq : s.type.baseType with
    | none => exact ⟨[], .noBase base_eq⟩
    | some base =>
      by_cases hagain : base.fullName ∈ seen
      · exact ⟨[], .repeated base_eq hagain⟩
      cases hfound : c.resolveSig? base s.assembly.name with
      | none => exact ⟨_, .notFound base_eq hagain hfound⟩
      | some next =>
        obtain ⟨hnodup', hseen'⟩ := seen_cons hnodup hseen hagain hfound
        have hle := length_le_typeNames hnodup' hseen'
        rw [List.length_cons] at hle
        obtain ⟨chain, hchain⟩ := ih _ (by rw [List.length_cons]; omega) next hnodup' hseen' rfl
        exact ⟨_, .step base_eq hagain hfound hchain⟩

theorem length_typeNames_le : c.typeNames.length ≤ c.types.length := by
  have hsub : c.typeNames ⊆ c.types.map (·.fullName) := fun _ => List.mem_eraseDups.1
  have hle := ((nodup_eraseDups _).subperm hsub).length_le
  rwa [List.length_map] at hle

/-- **Chains of base types.** The chain of a declared type has no name twice and not its own. It
starts with the name of the base type, and each name is that of the base type of the type that the
one before it is found as. It ends only where it must; it has at most as many names as there are
different names of declared types, and no more steps than that make it longer. -/
theorem baseChain_exact {target : TypeSymbol} (h : target ∈ c.types) :
    let chain := (c.hierarchy target).baseChain
    chain.Nodup ∧ target.fullName ∉ chain ∧
    (∀ base, target.type.baseType = some base → base.fullName ≠ target.fullName →
      chain.head? = some base.fullName) ∧
    (∀ i name, chain[i]? = some name → ∃ s base, c.ancestor? target i = some s ∧
      s.type.baseType = some base ∧ base.fullName = name) ∧
    c.Ended target [target.fullName] chain ∧
    chain.length ≤ c.typeNames.length ∧
    ∀ steps, c.typeNames.length ≤ steps →
      c.baseChainFrom steps target [target.fullName] = chain := by
  have hnodup : [target.fullName].Nodup := List.nodup_singleton _
  have hseen : [target.fullName] ⊆ c.typeNames :=
    List.cons_subset.2 ⟨mem_typeNames_iff.2 ⟨target, h, rfl⟩, List.nil_subset _⟩
  obtain ⟨chain, hwalk⟩ := exists_baseWalk target hnodup hseen
  have hlength : chain.length ≤ c.typeNames.length := by
    have hle := hwalk.length_le hnodup hseen
    rw [List.length_singleton] at hle
    omega
  have hchain : (c.hierarchy target).baseChain = chain :=
    hwalk.baseChainFrom_eq (hlength.trans (length_typeNames_le.trans (Nat.le_succ _)))
  rw [hchain]
  refine ⟨hwalk.nodup.1, fun hmem => hwalk.nodup.2 _ hmem List.mem_cons_self, ?_, ?_, hwalk.ended,
    hlength, fun steps hsteps => hwalk.baseChainFrom_eq (hlength.trans hsteps)⟩
  · intro base hbase hne
    exact hwalk.head?_eq hbase (mt List.mem_singleton.1 hne)
  · intro i name hi
    exact hwalk.steps hi

/-- A cycle through three assemblies. The signature leads past the type of that name in the assembly
where it stands. -/
theorem baseChain_exact_cycle :
    let a : TypeDef :=
      { TypeDef.named "A" with baseType := some { fullName := "B", assembly := some "Lib" } }
    let b : TypeDef := { TypeDef.named "B" with baseType := some { fullName := "C" } }
    let d : TypeDef := { TypeDef.named "C" with baseType := some { fullName := "A" } }
    let app : Assembly := .ofTypes "App" [a, .named "B"]
    let c : Catalog := .ofAssemblies [app, .ofTypes "Lib" [b], .ofTypes "Base" [d]]
    (⟨app, a⟩ : TypeSymbol) ∈ c.types ∧ c.typeNames.length = 3 ∧
      (c.hierarchy ⟨app, a⟩).baseChain = ["B", "C"] ∧ c.Ended ⟨app, a⟩ ["A"] ["B", "C"] ∧
      ∀ steps, 3 ≤ steps → c.baseChainFrom steps ⟨app, a⟩ ["A"] = ["B", "C"] := by
  intro a b d app c
  have hmem : (⟨app, a⟩ : TypeSymbol) ∈ c.types :=
    mem_types_iff.2 ⟨List.mem_cons_self, List.mem_cons_self⟩
  have hnames : c.typeNames.length = 3 := by decide +kernel
  have hchain : (c.hierarchy ⟨app, a⟩).baseChain = ["B", "C"] := by decide +kernel
  obtain ⟨-, -, -, -, hended, -, hsteps⟩ := baseChain_exact hmem
  rw [hchain] at hended
  refine ⟨hmem, hnames, hchain, hended, fun steps hle => ?_⟩
  exact (hsteps steps (hnames.trans_le hle)).trans hchain

end AssemblyAtlas.Catalog
