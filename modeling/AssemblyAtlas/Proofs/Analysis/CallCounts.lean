import Mathlib.Algebra.GroupWithZero.Nat
import AssemblyAtlas.Proofs.Analysis.CallSites

/-!
# Calls below an expanded method

The calls in a body are entered under the names of the methods they are found as, or else under the
names that they give. Below an expanded method each of these names has one node, in the order of
their first calls, and no call is lost: a node counts the calls of its name, and the counts add up
to the number of calls in the body (`Catalog.expand_conserves_calls`). This holds whatever becomes
of a called method, since the tally of the calls is done before any of them is expanded.
-/

namespace AssemblyAtlas

namespace Callee

/-- **The names of a tally:** those from before, then the new ones in the order in which they first
come. -/
theorem map_key_foldl_tally (calls entries : List Callee) :
    (calls.foldl tally entries).map (·.key) = entries.map (·.key) ++
      ((calls.map (·.key)).filter (· ∉ entries.map (·.key))).eraseDups := by
  induction calls generalizing entries with
  | nil => simp
  | cons call calls ih =>
    rw [List.foldl_cons, ih, map_key_tally, List.map_cons]
    by_cases hold : call.key ∈ entries.map (·.key)
    · rw [if_pos hold, List.filter_cons_of_neg (by simpa using hold)]
    · rw [if_neg hold, List.filter_cons_of_pos (by simpa using hold), List.eraseDups_cons,
        List.append_assoc, List.singleton_append, List.filter_filter]
      congr 3
      refine List.filter_congr fun key _ => ?_
      by_cases hkey : key = call.key <;> simp [hkey, hold]

theorem sum_count_tally (entries : List Callee) (new : Callee) :
    ((tally entries new).map (·.count)).sum = (entries.map (·.count)).sum + new.count := by
  induction entries with
  | nil => simp [tally]
  | cons old entries ih =>
    rw [tally]
    split
    · simp only [List.map_cons, List.sum_cons]
      omega
    · simp only [List.map_cons, List.sum_cons, ih]
      omega

/-- No call is lost or counted twice. -/
theorem sum_count_foldl_tally (calls entries : List Callee) :
    ((calls.foldl tally entries).map (·.count)).sum =
      (entries.map (·.count)).sum + (calls.map (·.count)).sum := by
  induction calls generalizing entries with
  | nil => simp
  | cons call calls ih =>
    rw [List.foldl_cons, ih, sum_count_tally, List.map_cons, List.sum_cons, Nat.add_assoc]

end Callee

namespace Catalog

variable {c : Catalog} {m : MethodSymbol}

/-! ### The calls in a body -/

/-- The name under which an instruction of a method is entered if it is a call: the full name of
the method it is found as, looked up from the assembly of the calling method, and else the name
that it gives. -/
def calledName? (c : Catalog) (m : MethodSymbol) (i : Instruction) : Option String :=
  match i.action with
  | .invoke target => match c.resolveMethod? target (some m.assembly.name) with
    | some r => some r.fullName
    | none => some target.fullName
  | _ => none

theorem calledName?_eq (c : Catalog) (m : MethodSymbol) (i : Instruction) :
    c.calledName? m i = i.invoked?.map fun target => (c.calleeOf m target).key := by
  unfold calledName? Instruction.invoked? calleeOf
  cases i.action with
  | invoke target =>
    dsimp only [Option.map_some]
    cases c.resolveMethod? target (some m.assembly.name) <;> rfl
  | _ => rfl

theorem map_key_callSites (c : Catalog) (m : MethodSymbol) :
    (c.callSites m).map (·.key) = m.method.body.filterMap (c.calledName? m) := by
  rw [callSites, List.map_map, Method.invocations, List.map_filterMap]
  refine congrArg (List.filterMap · _) (funext fun i => ?_)
  rw [calledName?_eq, Option.map_map]
  rfl

/-- The names that a method calls come in the order of their first calls. -/
theorem map_key_callees (c : Catalog) (m : MethodSymbol) :
    (c.callees m).map (·.key) = (m.method.body.filterMap (c.calledName? m)).eraseDups := by
  rw [callees_eq, Callee.map_key_foldl_tally, map_key_callSites]
  simp

theorem countP_callSites (c : Catalog) (m : MethodSymbol) (name : String) :
    (c.callSites m).countP (·.key == name) =
      m.method.body.countP (c.calledName? m · == some name) := by
  have hkeys : (c.callSites m).countP (·.key == name) =
      ((c.callSites m).map (·.key)).countP (· == name) := by
    rw [List.countP_map]
    rfl
  rw [hkeys, map_key_callSites, List.countP_filterMap]
  refine List.countP_congr fun i _ => ?_
  cases c.calledName? m i <;> simp

/-- The calls that are counted are all calls in the body. -/
theorem sum_count_callees (c : Catalog) (m : MethodSymbol) :
    ((c.callees m).map (·.count)).sum = m.method.callTotal := by
  have hone : (c.callSites m).map (·.count) = m.method.invocations.map fun _ => 1 := by
    rw [callSites, List.map_map]
    rfl
  rw [callees_eq, Callee.sum_count_foldl_tally, hone, List.map_const', List.sum_replicate_nat,
    Method.length_invocations]
  simp

/-- The calls of a name are calls. -/
theorem countP_calledName?_le (c : Catalog) (m : MethodSymbol) (name : String) :
    m.method.body.countP (c.calledName? m · == some name) ≤ m.method.callTotal := by
  refine List.countP_mono_left fun i _ hi => ?_
  rw [calledName?_eq, beq_iff_eq, Option.map_eq_some_iff] at hi
  obtain ⟨target, htarget, -⟩ := hi
  rw [htarget]
  rfl

/-! ### The nodes of called methods -/

/-- The nodes of called methods have the names and the numbers of the calls, in order. -/
theorem map_childrenOf {xs : List Callee} (hxs : ∀ x ∈ xs, x ∈ c.callees m)
    (remaining depth : Nat) (expanded : List String) :
    (c.childrenOf remaining depth expanded xs).1.map (fun n => (n.method, n.callCount)) =
      xs.map fun x => (x.key, x.count) := by
  induction xs generalizing expanded with
  | nil => rfl
  | cons x xs ih =>
    obtain ⟨hmethod, hcount⟩ :=
      callCount_childOf (hxs x List.mem_cons_self) remaining depth expanded
    rw [childrenOf, List.map_cons, List.map_cons, hmethod, hcount,
      ih fun y hy => hxs y (List.mem_cons_of_mem x hy)]

/-- **Calls are conserved below every expanded method.** Above the depth limit, and whatever was
expanded before, the nodes below a method are one for each name that its body calls, in the order
of the first calls; each node counts the calls of its name; and the counts add up to the number of
calls in the body. When that fits in 32 bits, so does each count. -/
theorem expand_conserves_calls (c : Catalog) (m : MethodSymbol) {depth maxDepth : Nat}
    (hdepth : depth < maxDepth) (callCount : Nat) (expanded : List String)
    (hsize : m.method.callTotal < 2 ^ 32) :
    let calls := (c.expand (maxDepth - depth) m depth callCount expanded).1.calls
    calls.map (·.method) = (m.method.body.filterMap (c.calledName? m)).eraseDups ∧
      (∀ n ∈ calls, n.callCount = m.method.body.countP (c.calledName? m · == some n.method) ∧
        n.callCount < 2 ^ 32) ∧
      (calls.map (·.callCount)).sum = m.method.callTotal := by
  obtain ⟨remaining, hremaining⟩ : ∃ n, maxDepth - depth = n + 1 := ⟨maxDepth - depth - 1, by omega⟩
  rw [hremaining, expand_succ]
  dsimp only
  have hnodes := map_childrenOf (fun x (hx : x ∈ c.callees m) => hx) remaining depth
    (m.fullName :: expanded)
  generalize (c.childrenOf remaining depth (m.fullName :: expanded) (c.callees m)).1 = nodes at *
  have hnames : nodes.map (·.method) = (c.callees m).map (·.key) := by
    simpa only [List.map_map, Function.comp_def] using congrArg (List.map Prod.fst) hnodes
  have hcounts : nodes.map (·.callCount) = (c.callees m).map (·.count) := by
    simpa only [List.map_map, Function.comp_def] using congrArg (List.map Prod.snd) hnodes
  refine ⟨hnames.trans (map_key_callees c m), fun n hn => ?_, ?_⟩
  · have hmem : (n.method, n.callCount) ∈ (c.callees m).map fun x => (x.key, x.count) :=
      hnodes ▸ List.mem_map_of_mem hn
    obtain ⟨x, hx, heq⟩ := List.mem_map.1 hmem
    obtain ⟨hkey, hcount⟩ := Prod.mk.inj heq
    have hexact : n.callCount = m.method.body.countP (c.calledName? m · == some n.method) := by
      rw [← hcount, ← hkey, count_callee hx, countP_callSites]
    have hle := countP_calledName?_le c m n.method
    exact ⟨hexact, by omega⟩
  · rw [hcounts, sum_count_callees]

/-- A method calls another of its type three times, once with its parameter types, and between them
a method that is not found twice. The first was expanded before. -/
theorem expand_conserves_calls_mixed :
    let f : MemberRef := { declaringType := "A", name := "f" }
    let g : MemberRef := { declaringType := "X", name := "g" }
    let main : Method := .calling "Main" [f, g, { f with parameters := some [] }, g, f]
    let a : TypeDef := { TypeDef.named "A" with methods := [.named "f", main] }
    let app : Assembly := .ofTypes "App" [a]
    let c : Catalog := .ofAssemblies [app]
    let calls := (c.expand (5 - 3) ⟨⟨app, a⟩, main⟩ 3 1 ["A.f()"]).1.calls
    main.callTotal < 2 ^ 32 ∧
      calls.map (·.method) = ["A.f()", "X.g"] ∧
      (∀ n ∈ calls, n.callCount =
        main.body.countP (c.calledName? ⟨⟨app, a⟩, main⟩ · == some n.method)) ∧
      (calls.map (·.callCount)).sum = 5 := by
  intro f g main a app c calls
  have hsize : main.callTotal < 2 ^ 32 := by decide
  have hnames : (main.body.filterMap (c.calledName? ⟨⟨app, a⟩, main⟩)).eraseDups =
      ["A.f()", "X.g"] := by decide +kernel
  obtain ⟨hcalls, hcounts, hsum⟩ :=
    expand_conserves_calls c ⟨⟨app, a⟩, main⟩ (show 3 < 5 by decide) 1 ["A.f()"] hsize
  exact ⟨hsize, hcalls.trans hnames, fun n hn => (hcounts n hn).1, hsum⟩

end Catalog

end AssemblyAtlas
