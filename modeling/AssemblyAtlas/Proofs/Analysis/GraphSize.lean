import Mathlib.Algebra.GroupWithZero.Nat
import AssemblyAtlas.Proofs.Analysis.CallSites

/-!
# The size of call graphs

A call graph is a tree in which a method may have many nodes, but only one of them has calls. Every
node but the root is charged to the node that calls it (`CallNode.size_eq`), and a node with calls
to the method it stands for. Different nodes are charged to different methods, since no name is
expanded twice, and a method has no more called names than calls in its body. So the size of a call
graph is at most the number of calls in the code, plus one, however deep it is
(`Catalog.size_callGraph_le`).
-/

namespace AssemblyAtlas

/-! ### Charging nodes to the nodes that call them -/

namespace CallNode

theorem sizeOfAll_eq_sum (ns : List CallNode) : sizeOfAll ns = (ns.map size).sum := by
  induction ns with
  | nil => simp [sizeOfAll]
  | cons n ns ih => simp [sizeOfAll, ih]

theorem size_eq_sum_calls (t : CallNode) : t.size = (t.calls.map size).sum + 1 := by
  obtain ⟨info, calls⟩ := t
  rw [size, sizeOfAll_eq_sum]

/-- Some trees together, when each of them has one node more than its nodes have calls. -/
theorem sum_size_eq {ns : List CallNode}
    (h : ∀ n ∈ ns, n.size = 1 + (n.preorder.map (·.calls.length)).sum) :
    (ns.map size).sum = ns.length + ((ns.flatMap preorder).map (·.calls.length)).sum := by
  induction ns with
  | nil => rfl
  | cons n ns ih =>
    have hn := h n List.mem_cons_self
    have hrest := ih fun k hk => h k (List.mem_cons_of_mem n hk)
    simp only [List.map_cons, List.sum_cons, List.flatMap_cons, List.map_append, List.sum_append,
      List.length_cons]
    omega

/-- **Every node but the root is a call of one node.** -/
theorem size_eq (t : CallNode) : t.size = 1 + (t.preorder.map (·.calls.length)).sum := by
  induction t using callInduction with
  | node t ih =>
    have hcalls := sum_size_eq ih
    rw [size_eq_sum_calls, preorder_eq, List.map_cons, List.sum_cons]
    omega

end CallNode

/-! ### Charging nodes to methods -/

/-- If each element that costs anything is charged to an element of another list with its name, and
no two of them have the same name, the costs add up to no more than the weights of that list. -/
theorem sum_le_of_charged {α β : Type} {cost : α → Nat} {weight : β → Nat} {name : α → String}
    {owner : β → String} {xs : List α} {ys : List β}
    (hnames : ((xs.filter (cost · != 0)).map name).Nodup)
    (h : ∀ x ∈ xs, cost x ≠ 0 → ∃ y ∈ ys, owner y = name x ∧ cost x ≤ weight y) :
    (xs.map cost).sum ≤ (ys.map weight).sum := by
  induction xs generalizing ys with
  | nil => simp
  | cons x xs ih =>
    rw [List.map_cons, List.sum_cons]
    by_cases hfree : cost x = 0
    · rw [List.filter_cons_of_neg (by simpa using hfree)] at hnames
      rw [hfree, Nat.zero_add]
      exact ih hnames fun z hz => h z (List.mem_cons_of_mem x hz)
    · rw [List.filter_cons_of_pos (by simpa using hfree), List.map_cons, List.nodup_cons] at hnames
      obtain ⟨y, hy, howner, hcost⟩ := h x List.mem_cons_self hfree
      obtain ⟨before, after, rfl⟩ := List.append_of_mem hy
      -- The others have other names, so that they are charged to what is left.
      have hrest : (xs.map cost).sum ≤ ((before ++ after).map weight).sum := by
        refine ih hnames.2 fun z hz hpays => ?_
        obtain ⟨u, hu, huz, hle⟩ := h z (List.mem_cons_of_mem x hz) hpays
        refine ⟨u, ?_, huz, hle⟩
        have hne : u ≠ y := by
          rintro rfl
          refine hnames.1 (List.mem_map.2 ⟨z, List.mem_filter.2 ⟨hz, by simpa using hpays⟩, ?_⟩)
          rw [← huz, howner]
        simpa [hne] using hu
      simp only [List.map_cons, List.sum_cons, List.map_append, List.sum_append] at hrest ⊢
      omega

namespace Catalog

variable {c : Catalog} {root : MethodSymbol} {maxDepth : Nat}

/-- A method calls no more names than there are calls in its body. -/
theorem length_callees_le (c : Catalog) (m : MethodSymbol) :
    (c.callees m).length ≤ m.method.callTotal := by
  have hnames : (c.callees m).map (·.key) ⊆ (c.callSites m).map (·.key) := by
    intro key hkey
    rw [callees_eq, Callee.mem_map_key_foldl_tally] at hkey
    exact hkey.resolve_left List.not_mem_nil
  have hle := (tallies_callees c m).nodup.length_le_of_subset hnames
  rwa [List.length_map, List.length_map, callSites, List.length_map,
    Method.length_invocations] at hle

/-- Only expanded nodes have calls. -/
theorem expanded_of_calls {n : CallNode} (hn : n ∈ (c.callGraph root maxDepth).preorder)
    (hcalls : n.calls.length ≠ 0) : n.status = .expanded := by
  obtain ⟨d, hat⟩ := CallNode.mem_preorder_iff.1 hn
  exact ((grown_callGraph c root maxDepth).levelled d n hat).2.2
    (mt List.length_eq_zero_iff.2 hcalls)

/-- No two nodes with calls have the same name. -/
theorem nodup_names_with_calls (c : Catalog) (root : MethodSymbol) (maxDepth : Nat) :
    (((c.callGraph root maxDepth).preorder.filter (·.calls.length != 0)).map (·.method)).Nodup := by
  have hfilter : (c.callGraph root maxDepth).preorder.filter (·.calls.length != 0) =
      ((c.callGraph root maxDepth).preorder.filter (·.status == .expanded)).filter
        (·.calls.length != 0) := by
    rw [List.filter_filter]
    refine List.filter_congr fun n hn => ?_
    by_cases hcalls : n.calls.length = 0
    · simp [hcalls]
    · simp [expanded_of_calls hn hcalls]
  rw [hfilter]
  exact (grown_callGraph c root maxDepth).ruled.nodup_expandedNames.sublist
    (List.filter_sublist.map _)

/-- A node with calls stands for a method with a body, which has at least as many calls. -/
theorem exists_charged (hroot : c.Declares root) {n : CallNode}
    (hn : n ∈ (c.callGraph root maxDepth).preorder) (hcalls : n.calls.length ≠ 0) :
    ∃ m ∈ c.bodies, m.fullName = n.method ∧ n.calls.length ≤ m.method.callTotal := by
  have hexpanded := expanded_of_calls hn hcalls
  obtain ⟨m, hm, hcallsAs⟩ := exists_reached hn (by rw [hexpanded]; decide)
  have hlength : n.calls.length ≤ m.method.callTotal := by
    have hnames := congrArg List.length (hcallsAs.calls hexpanded)
    rw [List.length_map, List.length_map] at hnames
    exact hnames.trans_le (length_callees_le c m)
  have hdeclared := mem_methods_iff.1 (hm.mem_methods (mem_methods_iff.2 hroot))
  refine ⟨m, mem_bodies_iff.2 ⟨hdeclared.type, hdeclared.method, ?_⟩, hcallsAs.method.symm, hlength⟩
  -- A method without a body has no calls.
  cases hbody : m.method.instructions with
  | none =>
    have hnone : m.method.callTotal = 0 := by simp [Method.callTotal, Method.body, hbody]
    omega
  | some is => simp [Method.hasBody, hbody]

/-- **The size of a call graph is linear in the code.** Whatever the depth, the call graph of a
declared method has at most one node more than there are calls in all bodies. -/
theorem size_callGraph_le (hroot : c.Declares root) (maxDepth : Nat) :
    (c.callGraph root maxDepth).size ≤ 1 + (c.bodies.map (·.method.callTotal)).sum := by
  rw [CallNode.size_eq]
  refine Nat.add_le_add_left ?_ 1
  exact sum_le_of_charged (nodup_names_with_calls c root maxDepth) fun n => exists_charged hroot

/-- Two methods called by the first call a third, and that one calls the first. Five calls give six
nodes, as many as the bound allows. -/
theorem size_callGraph_le_diamond :
    let ref (name : String) : MemberRef := { declaringType := "A", name }
    let main : Method := .calling "Main" [ref "f", ref "g"]
    let a : TypeDef := { TypeDef.named "A" with methods := [main, .calling "f" [ref "h"],
      .calling "g" [ref "h"], .calling "h" [ref "Main"]] }
    let app : Assembly := .ofTypes "App" [a]
    let c : Catalog := .ofAssemblies [app]
    let root : MethodSymbol := ⟨⟨app, a⟩, main⟩
    c.Declares root ∧ (c.bodies.map (·.method.callTotal)).sum = 5 ∧
      (c.callGraph root 9).size ≤ 1 + 5 ∧ (c.callGraph root 9).size = 6 := by
  intro ref main a app c root
  have hroot : c.Declares root := ⟨List.mem_cons_self, List.mem_cons_self⟩
  have hcalls : (c.bodies.map (·.method.callTotal)).sum = 5 := by decide +kernel
  exact ⟨hroot, hcalls, hcalls ▸ size_callGraph_le hroot 9, by decide +kernel⟩

end Catalog

end AssemblyAtlas
