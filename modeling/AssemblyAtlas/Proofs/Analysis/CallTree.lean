import AssemblyAtlas.Analysis.CallGraph
import Mathlib.Data.List.Basic
import Mathlib.Data.List.Nodup

/-!
# Trees of calls

The nodes of a tree, with their distances from its root (`CallNode.At`), are those of its preorder
(`CallNode.mem_preorder_iff`). A list of nodes is `Ruled` when each method in it is expanded at its
first node above the depth limit and is a leaf at the others; a method is then expanded at one node
of the list at most (`CallNode.Ruled.nodup_expandedNames`).
-/

namespace AssemblyAtlas.CallNode

/-! ### Nodes and their distances -/

/-- The node is in the tree, `d` calls below its root. -/
inductive At : CallNode → Nat → CallNode → Prop
  | root (t : CallNode) : At t 0 t
  | call {t child n : CallNode} {d : Nat} (hcall : child ∈ t.calls) (h : At child d n) :
      At t (d + 1) n

/-- A tree without calls is its root. -/
theorem At.of_calls_eq_nil {t n : CallNode} {d : Nat} (h : t.At d n) (ht : t.calls = []) :
    n = t := by
  cases h with
  | root => rfl
  | call hcall => rw [ht] at hcall; cases hcall

theorem preorderOfAll_eq_flatMap (ns : List CallNode) :
    preorderOfAll ns = ns.flatMap preorder := by
  induction ns with
  | nil => simp [preorderOfAll]
  | cons n ns ih => simp [preorderOfAll, ih]

theorem preorder_eq (t : CallNode) : t.preorder = t :: t.calls.flatMap preorder := by
  obtain ⟨info, calls⟩ := t
  rw [preorder, preorderOfAll_eq_flatMap]

/-- A property that a node has when the nodes it calls do, every node has. -/
@[elab_as_elim]
theorem callInduction {motive : CallNode → Prop}
    (node : ∀ t, (∀ child ∈ t.calls, motive child) → motive t) (t : CallNode) : motive t := by
  refine @CallNode.rec motive (fun ns => ∀ n ∈ ns, motive n)
    (fun info calls ih => node ⟨info, calls⟩ ih) (by simp) (fun n ns hn hns => ?_) t
  exact List.forall_mem_cons.2 ⟨hn, hns⟩

/-- **The preorder lists the nodes of the tree.** -/
theorem mem_preorder_iff {t n : CallNode} : n ∈ t.preorder ↔ ∃ d, t.At d n := by
  induction t using callInduction with
  | node t ih =>
    rw [preorder_eq, List.mem_cons, List.mem_flatMap]
    constructor
    · rintro (rfl | ⟨child, hcall, hn⟩)
      · exact ⟨0, .root n⟩
      · obtain ⟨d, h⟩ := (ih child hcall).1 hn
        exact ⟨d + 1, .call hcall h⟩
    · rintro ⟨d, h⟩
      cases h with
      | root => exact .inl rfl
      | call hcall h => exact .inr ⟨_, hcall, (ih _ hcall).2 ⟨_, h⟩⟩

/-! ### Depths -/

/-- The root has the given depth, each node is as much deeper as it is below the root, none is
below the limit, and only expanded nodes have calls. -/
def Levelled (limit depth : Nat) (t : CallNode) : Prop :=
  ∀ d n, t.At d n → n.depth = depth + d ∧ n.depth ≤ limit ∧ (n.calls ≠ [] → n.status = .expanded)

/-- A tree is levelled when its root is and the trees of its calls are, one call deeper. -/
theorem Levelled.of_calls {limit depth : Nat} {t : CallNode} (hdepth : t.depth = depth)
    (hlimit : depth ≤ limit) (hstatus : t.calls ≠ [] → t.status = .expanded)
    (hcalls : ∀ child ∈ t.calls, child.Levelled limit (depth + 1)) : t.Levelled limit depth := by
  intro d n h
  cases h with
  | root => exact ⟨hdepth, hdepth ▸ hlimit, hstatus⟩
  | call hcall h =>
    obtain ⟨hn, hrest⟩ := hcalls _ hcall _ _ h
    exact ⟨by omega, hrest⟩

/-- An external node has no calls. -/
theorem Levelled.calls_eq_nil {limit depth : Nat} {t : CallNode} (h : t.Levelled limit depth)
    (hexternal : t.status = .external) : t.calls = [] := by
  by_contra hcalls
  have hexpanded := (h 0 t (.root t)).2.2 hcalls
  rw [hexternal] at hexpanded
  cases hexpanded

/-! ### Which nodes are expanded -/

/-- The methods of the expanded nodes in order. -/
def expandedNames (ns : List CallNode) : List String :=
  (ns.filter (·.status == .expanded)).map (·.method)

/-- The status of a node for a method that is found, given the methods expanded before it. -/
def statusAfter (limit : Nat) (seen : List String) (n : CallNode) : CallStatus :=
  if n.method ∈ seen then .recursive else if n.depth = limit then .depthLimit else .expanded

/-- Adds the method of a node to those expanded before, if the node is expanded. -/
def mark (seen : List String) (n : CallNode) : List String :=
  if n.status = .expanded then n.method :: seen else seen

/-- Each node for a method that is found has the status that the methods expanded before it give. -/
def Ruled (limit : Nat) : List String → List CallNode → Prop
  | _, [] => True
  | seen, n :: ns =>
    (n.status ≠ .external → n.status = n.statusAfter limit seen) ∧ Ruled limit (mark seen n) ns

theorem foldl_mark (seen : List String) (ns : List CallNode) :
    ns.foldl mark seen = (expandedNames ns).reverse ++ seen := by
  induction ns generalizing seen with
  | nil => rfl
  | cons n ns ih =>
    rw [List.foldl_cons, ih, mark]
    by_cases hn : n.status = .expanded <;> simp [expandedNames, hn]

theorem expandedNames_append (ms ns : List CallNode) :
    expandedNames (ms ++ ns) = expandedNames ms ++ expandedNames ns := by
  rw [expandedNames, List.filter_append, List.map_append]
  rfl

namespace Ruled

variable {limit : Nat} {seen : List String} {ms ns : List CallNode}

theorem append_iff :
    Ruled limit seen (ms ++ ns) ↔ Ruled limit seen ms ∧ Ruled limit (ms.foldl mark seen) ns := by
  induction ms generalizing seen with
  | nil => simp [Ruled]
  | cons m ms ih => simp only [List.cons_append, Ruled, ih, List.foldl_cons, and_assoc]

/-- In a ruled list, the status of a node follows from the nodes before it. -/
theorem status_eq {n : CallNode} (h : Ruled limit seen (ms ++ n :: ns))
    (hn : n.status ≠ .external) :
    n.status = n.statusAfter limit ((expandedNames ms).reverse ++ seen) := by
  rw [← foldl_mark]
  exact (append_iff.1 h).2.1 hn

/-- The methods expanded in the end differ, if those expanded before do. -/
theorem nodup_foldl_mark (h : Ruled limit seen ns) (hseen : seen.Nodup) :
    (ns.foldl mark seen).Nodup := by
  induction ns generalizing seen with
  | nil => exact hseen
  | cons n ns ih =>
    refine ih h.2 ?_
    rw [mark]
    split
    · next hn =>
      -- An expanded node follows the rule, so its method is not among those before.
      have hstatus := h.1 (by rw [hn]; decide)
      rw [hn, statusAfter] at hstatus
      split at hstatus
      · cases hstatus
      · next hfresh => exact List.nodup_cons.2 ⟨hfresh, hseen⟩
    · exact hseen

/-- **No method is expanded twice.** -/
theorem nodup_expandedNames (h : Ruled limit [] ns) : (expandedNames ns).Nodup := by
  have hnodup := h.nodup_foldl_mark List.nodup_nil
  rwa [foldl_mark, List.append_nil, List.nodup_reverse] at hnodup

/-- **A method at a recursive node is expanded once.** -/
theorem count_expandedNames (h : Ruled limit [] ns) {n : CallNode} (hn : n ∈ ns)
    (hstatus : n.status = .recursive) : (expandedNames ns).count n.method = 1 := by
  obtain ⟨before, after, rfl⟩ := List.append_of_mem hn
  have hrule := h.status_eq (by rw [hstatus]; decide)
  -- The rule makes a node recursive only if its method was expanded before.
  have hbefore : n.method ∈ expandedNames before := by
    rw [hstatus, statusAfter, List.append_nil] at hrule
    by_contra hfresh
    rw [if_neg (by simpa using hfresh)] at hrule
    split at hrule <;> cases hrule
  refine List.count_eq_one_of_mem h.nodup_expandedNames ?_
  rw [expandedNames_append]
  exact List.mem_append_left _ hbefore

end Ruled

end AssemblyAtlas.CallNode
