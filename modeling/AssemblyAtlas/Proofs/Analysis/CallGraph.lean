import AssemblyAtlas.Proofs.Analysis.CallTree
import AssemblyAtlas.Proofs.Catalog.Lookup

/-!
# Call graphs

The calls of a method are tallied by the names of the called methods; each entry keeps what the
first call of that name says (`Catalog.exists_firstCall?`). What an expansion grows is a tree in
which depths are distances, calls are those of the method that a node stands for, and each status
follows from the methods expanded before (`Catalog.Grown`). It is shown of one called method, of
the called methods in order, and by induction on the levels left of the whole tree; the shape of
every call graph (`Catalog.callGraph_hasShape`) is the case of the root.
-/

namespace AssemblyAtlas

/-! ### Calls -/

namespace Callee

/-- The two are calls of one method that are named and resolved in the same way. -/
structure Matches (x y : Callee) : Prop where
  key : x.key = y.key
  resolved : x.resolved = y.resolved
  target : x.target = y.target

theorem Matches.trans {x y z : Callee} (hxy : x.Matches y) (hyz : y.Matches z) : x.Matches z :=
  ⟨hxy.key.trans hyz.key, hxy.resolved.trans hyz.resolved, hxy.target.trans hyz.target⟩

/-- An entry after counting a call is an old one with another count, or the call itself when no
entry had its name. -/
theorem mem_tally {entries : List Callee} {new x : Callee} (h : x ∈ tally entries new) :
    (∃ y ∈ entries, x.Matches y) ∨ x = new ∧ ∀ y ∈ entries, y.key ≠ new.key := by
  induction entries with
  | nil =>
    rw [tally, List.mem_singleton] at h
    exact .inr ⟨h, by simp⟩
  | cons old entries ih =>
    rw [tally] at h
    by_cases hkey : old.key = new.key
    · rw [if_pos (by simpa using hkey)] at h
      rcases List.mem_cons.1 h with rfl | h
      · -- Only the count of the old entry changes.
        exact .inl ⟨old, by simp, rfl, rfl, rfl⟩
      · exact .inl ⟨x, by simp [h], rfl, rfl, rfl⟩
    · rw [if_neg (by simpa using hkey)] at h
      rcases List.mem_cons.1 h with rfl | h
      · exact .inl ⟨x, by simp, rfl, rfl, rfl⟩
      · rcases ih h with ⟨y, hy, hm⟩ | ⟨rfl, hfresh⟩
        · exact .inl ⟨y, by simp [hy], hm⟩
        · exact .inr ⟨rfl, by simpa [hkey] using hfresh⟩

/-- A name is added at the end unless it is there. -/
theorem map_key_tally (entries : List Callee) (new : Callee) :
    (tally entries new).map (·.key) =
      if new.key ∈ entries.map (·.key) then entries.map (·.key)
      else entries.map (·.key) ++ [new.key] := by
  induction entries with
  | nil => simp [tally]
  | cons old entries ih =>
    rw [tally]
    by_cases hkey : old.key = new.key
    · simp [hkey]
    · rw [if_neg (by simpa using hkey), List.map_cons, ih, List.map_cons]
      by_cases hmem : new.key ∈ entries.map (·.key)
      · rw [if_pos hmem, if_pos (List.mem_cons_of_mem _ hmem)]
      · rw [if_neg hmem, if_neg (by simpa [Ne.symm hkey] using hmem), List.cons_append]

theorem mem_map_key_tally {entries : List Callee} {new : Callee} {key : String} :
    key ∈ (tally entries new).map (·.key) ↔ key ∈ entries.map (·.key) ∨ key = new.key := by
  rw [map_key_tally]
  split
  · next hmem =>
    constructor
    · exact .inl
    · rintro (h | rfl) <;> assumption
  · rw [List.mem_append, List.mem_singleton]

/-- An entry of a tally matches an entry from before or the first call of its name. -/
theorem mem_foldl_tally {calls entries : List Callee} {x : Callee}
    (h : x ∈ calls.foldl tally entries) :
    (∃ y ∈ entries, x.Matches y) ∨
      x.key ∉ entries.map (·.key) ∧
        ∃ y, calls.find? (·.key == x.key) = some y ∧ x.Matches y := by
  induction calls generalizing entries with
  | nil => exact .inl ⟨x, h, rfl, rfl, rfl⟩
  | cons call calls ih =>
    rcases ih h with ⟨y, hy, hxy⟩ | ⟨hfresh, y, hfind, hxy⟩
    · rcases mem_tally hy with ⟨z, hz, hyz⟩ | ⟨rfl, hnew⟩
      · exact .inl ⟨z, hz, hxy.trans hyz⟩
      · -- The call made the entry, so it is the first of its name.
        refine .inr ⟨?_, y, by rw [List.find?_cons_of_pos (by simp [hxy.key])], hxy⟩
        rw [hxy.key, List.mem_map]
        rintro ⟨z, hz, hkey⟩
        exact hnew z hz hkey
    · rw [mem_map_key_tally, not_or] at hfresh
      refine .inr ⟨hfresh.1, y, ?_, hxy⟩
      rw [List.find?_cons_of_neg (by simpa using Ne.symm hfresh.2), hfind]

end Callee

namespace Catalog

variable {c : Catalog} {m : MethodSymbol}

/-- The method is one of those that the catalog declares. -/
structure Declares (c : Catalog) (m : MethodSymbol) : Prop where
  type : m.toTypeSymbol ∈ c.types
  method : m.method ∈ m.type.methods

theorem resolveMethod?_sound {r : MemberRef} {context : Option String}
    (h : c.resolveMethod? r context = some m) : c.Declares m := by
  obtain ⟨s, hs, h⟩ := Option.bind_eq_some_iff.1 h
  obtain ⟨f, hf, h⟩ := Option.bind_eq_some_iff.1 h
  rw [Option.pure_def, Option.some.injEq] at h
  subst h
  exact ⟨(resolveType?_sound hs).1, List.mem_of_find?_eq_some hf⟩

/-- The calls in the body of a method in order. -/
def callSites (c : Catalog) (m : MethodSymbol) : List Callee :=
  m.method.invocations.map fun (target, _) => c.calleeOf m target

/-- The first call of a name in the body of a method. -/
def firstCall? (c : Catalog) (m : MethodSymbol) (name : String) : Option Callee :=
  (c.callSites m).find? (·.key == name)

theorem callees_eq (c : Catalog) (m : MethodSymbol) :
    c.callees m = (c.callSites m).foldl Callee.tally [] := rfl

/-- **An entry for the calls of a method keeps what the first of the calls says.** -/
theorem exists_firstCall? {x : Callee} (h : x ∈ c.callees m) :
    ∃ y, c.firstCall? m x.key = some y ∧ x.Matches y := by
  rw [callees_eq] at h
  rcases Callee.mem_foldl_tally h with ⟨y, hy, -⟩ | ⟨-, y, hfind, hxy⟩
  · exact absurd hy (by simp)
  · exact ⟨y, hfind, hxy⟩

theorem mem_callSites_iff {y : Callee} :
    y ∈ c.callSites m ↔ ∃ target offset, (target, offset) ∈ m.method.invocations ∧
      y = c.calleeOf m target := by
  simp only [callSites, List.mem_map, Prod.exists]
  exact ⟨fun ⟨t, o, h, e⟩ => ⟨t, o, h, e.symm⟩, fun ⟨t, o, h, e⟩ => ⟨t, o, h, e.symm⟩⟩

/-- A called method that is found is declared, and the calls have its name. -/
theorem callees_resolved {x : Callee} (h : x ∈ c.callees m) {r : MethodSymbol}
    (hr : x.resolved = some r) : c.Declares r ∧ x.key = r.fullName := by
  obtain ⟨y, hfind, hxy⟩ := exists_firstCall? h
  obtain ⟨target, _, -, rfl⟩ := mem_callSites_iff.1 (List.mem_of_find?_eq_some hfind)
  have hy : c.resolveMethod? target (some m.assembly.name) = some r := hxy.resolved.symm.trans hr
  refine ⟨resolveMethod?_sound hy, ?_⟩
  rw [hxy.key, calleeOf, hy]
  rfl

/-! ### Expansion, call by call -/

/-- The node of a called method below a method at `depth`, and the methods expanded after it. -/
def childOf (c : Catalog) (remaining depth : Nat) (expanded : List String) (x : Callee) :
    CallNode × List String :=
  match x.resolved with
  | none => (x.externalNode (depth + 1), expanded)
  | some r =>
    if expanded.contains x.key then (.ofMethod r (depth + 1) x.count .recursive, expanded)
    else c.expand remaining r (depth + 1) x.count expanded

/-- The nodes of called methods in order, and the methods expanded after them. -/
def childrenOf (c : Catalog) (remaining depth : Nat) (expanded : List String) :
    List Callee → List CallNode × List String
  | [] => ([], expanded)
  | x :: xs =>
    let first := c.childOf remaining depth expanded x
    let rest := childrenOf c remaining depth first.2 xs
    (first.1 :: rest.1, rest.2)

theorem foldl_childOf (c : Catalog) (remaining depth : Nat) (xs : List Callee)
    (nodes : List CallNode) (expanded : List String) :
    xs.foldl (fun (acc : List CallNode × List String) (x : Callee) =>
      (acc.1 ++ [(c.childOf remaining depth acc.2 x).1], (c.childOf remaining depth acc.2 x).2))
      (nodes, expanded) =
      (nodes ++ (c.childrenOf remaining depth expanded xs).1,
        (c.childrenOf remaining depth expanded xs).2) := by
  induction xs generalizing nodes expanded with
  | nil => simp [childrenOf]
  | cons x xs ih =>
    rw [List.foldl_cons, ih]
    simp [childrenOf]

/-- **A method above the depth limit is expanded:** its calls follow one another, each with the
methods that were expanded before it. -/
theorem expand_succ (c : Catalog) (remaining : Nat) (m : MethodSymbol) (depth callCount : Nat)
    (expanded : List String) :
    c.expand (remaining + 1) m depth callCount expanded =
      let children := c.childrenOf remaining depth (m.fullName :: expanded) (c.callees m)
      ({ CallNode.ofMethod m depth callCount .expanded with calls := children.1 }, children.2) := by
  have hfold := foldl_childOf c remaining depth (c.callees m) [] (m.fullName :: expanded)
  rw [List.nil_append] at hfold
  rw [expand]
  refine congrArg (fun children : List CallNode × List String =>
    ({ CallNode.ofMethod m depth callCount .expanded with calls := children.1 }, children.2))
    (Eq.trans (List.foldl_ext _ _ _ fun acc x _ => ?_) hfold)
  unfold childOf
  cases x.resolved with
  | none => rfl
  | some r => by_cases hseen : acc.2.contains x.key = true <;> simp only [hseen] <;> rfl

/-! ### The method that a node stands for -/

/-- The node `n` of the tree `t` stands for the method `m'`, when the root stands for `m`: on the
way to `n`, each call is the first of its name in the method above, and is found. -/
inductive StandsFor (c : Catalog) : MethodSymbol → CallNode → MethodSymbol → CallNode → Prop
  | root (m : MethodSymbol) (t : CallNode) : StandsFor c m t m t
  | call {m r m' : MethodSymbol} {t child n : CallNode} {y : Callee} (hcall : child ∈ t.calls)
      (hfirst : c.firstCall? m child.method = some y) (hr : y.resolved = some r)
      (h : StandsFor c r child m' n) : StandsFor c m t m' n

/-- The node has the name of the method and, if it is expanded, the calls of the method; a call is
external if and only if the first of its name is not found. -/
structure CallsAs (c : Catalog) (m : MethodSymbol) (n : CallNode) : Prop where
  method : n.method = m.fullName
  calls : n.status = .expanded → n.calls.map (·.method) = (c.callees m).map (·.key)
  external_iff : ∀ child ∈ n.calls, ∃ y, c.firstCall? m child.method = some y ∧
    (child.status = .external ↔ y.resolved = none)

/-- Each node that is not external stands for a method, and calls as that method does. -/
structure Explains (c : Catalog) (m : MethodSymbol) (t : CallNode) : Prop where
  exists_standsFor : ∀ d n, t.At d n → n.status ≠ .external → ∃ m', c.StandsFor m t m' n
  callsAs : ∀ m' n, c.StandsFor m t m' n → c.CallsAs m' n

/-- A tree is explained when its root calls as the method does, external calls are leaves, and the
trees of the calls that are found are explained. -/
theorem Explains.of_calls {t : CallNode} (hroot : c.CallsAs m t)
    (hleaf : ∀ child ∈ t.calls, child.status = .external → child.calls = [])
    (hcalls : ∀ child ∈ t.calls, ∀ y r, c.firstCall? m child.method = some y →
      y.resolved = some r → c.Explains r child) : c.Explains m t := by
  constructor
  · intro d n h hn
    cases h with
    | root => exact ⟨m, .root m t⟩
    | @call _ child _ _ hcall h =>
      obtain ⟨y, hfirst, hexternal⟩ := hroot.external_iff child hcall
      cases hr : y.resolved with
      | none =>
        -- The call is a leaf, so the node is the call itself, which is external.
        have hchild := hexternal.2 hr
        rw [h.of_calls_eq_nil (hleaf child hcall hchild)] at hn
        exact absurd hchild hn
      | some r =>
        obtain ⟨m', h'⟩ := (hcalls child hcall y r hfirst hr).exists_standsFor _ n h hn
        exact ⟨m', .call hcall hfirst hr h'⟩
  · intro m' n h
    cases h with
    | root => exact hroot
    | call hcall hfirst hr h => exact (hcalls _ hcall _ _ hfirst hr).callsAs m' n h

/-! ### What an expansion grows -/

/-- A tree at the given depth for calls of a name, with the methods expanded after it: external if
no method is found, and else explained by the method, with each status as the methods expanded
before it say. -/
structure Grown (c : Catalog) (limit depth : Nat) (seen : List String)
    (resolved : Option MethodSymbol) (name : String) (t : CallNode) (after : List String) :
    Prop where
  method : t.method = name
  levelled : t.Levelled limit depth
  external_iff : t.status = .external ↔ resolved = none
  explains : ∀ r, resolved = some r → c.Explains r t
  ruled : CallNode.Ruled limit seen t.preorder
  after_eq : after = t.preorder.foldl CallNode.mark seen

variable {limit depth callCount remaining : Nat} {seen : List String}

/-- A method that is not expanded is a leaf. -/
theorem grown_leaf (c : Catalog) {r : MethodSymbol} {status : CallStatus} (hlimit : depth ≤ limit)
    (hstatus : status ≠ .external) (hexpanded : status ≠ .expanded)
    (hrule : status = (CallNode.ofMethod r depth callCount status).statusAfter limit seen) :
    c.Grown limit depth seen (some r) r.fullName (.ofMethod r depth callCount status) seen where
  method := rfl
  levelled := .of_calls rfl hlimit (absurd rfl) (fun _ h => absurd h List.not_mem_nil)
  external_iff := ⟨fun h => absurd h hstatus, fun h => absurd h (Option.some_ne_none r)⟩
  explains := by
    intro r' hr'
    cases hr'
    exact .of_calls ⟨rfl, fun h => absurd h hexpanded, fun _ h => absurd h List.not_mem_nil⟩
      (fun _ h => absurd h List.not_mem_nil) (fun _ h => absurd h List.not_mem_nil)
  ruled := ⟨fun _ => hrule, trivial⟩
  after_eq := (if_neg hexpanded).symm

/-- A method that is not found is an external leaf. -/
theorem grown_externalNode (c : Catalog) (x : Callee) (hlimit : depth ≤ limit) :
    c.Grown limit depth seen none x.key (x.externalNode depth) seen where
  method := rfl
  levelled := .of_calls rfl hlimit (absurd rfl) (fun _ h => absurd h List.not_mem_nil)
  external_iff := ⟨fun _ => rfl, fun _ => rfl⟩
  explains := by
    intro r hr
    cases hr
  ruled := ⟨absurd rfl, trivial⟩
  after_eq := rfl

/-- The spec of `expand` for a number of levels left. -/
def Expands (c : Catalog) (limit remaining : Nat) : Prop :=
  ∀ (m : MethodSymbol) (depth callCount : Nat) (seen : List String), depth + remaining = limit →
    m.fullName ∉ seen → c.Grown limit depth seen (some m) m.fullName
      (c.expand remaining m depth callCount seen).1 (c.expand remaining m depth callCount seen).2

/-- What is grown for one called method. -/
theorem grown_childOf (ih : c.Expands limit remaining) (hlimit : depth + 1 + remaining = limit)
    {x : Callee} (hx : x ∈ c.callees m) (seen : List String) :
    c.Grown limit (depth + 1) seen x.resolved x.key (c.childOf remaining depth seen x).1
      (c.childOf remaining depth seen x).2 := by
  have hdepth : depth + 1 ≤ limit := by omega
  rw [childOf]
  cases hr : x.resolved with
  | none => exact grown_externalNode c x hdepth
  | some r =>
    have hkey : x.key = r.fullName := (callees_resolved hx hr).2
    rw [hkey]
    -- The name that is looked up among those expanded is the name of the method itself.
    by_cases hseen : r.fullName ∈ seen
    · simp only [List.contains_iff_mem.2 hseen, if_true]
      exact grown_leaf c hdepth (by decide) (by decide) (if_pos hseen).symm
    · simp only [List.contains_iff_mem, hseen, if_false]
      exact ih r (depth + 1) x.count seen hlimit hseen

/-- The trees of called methods follow one another. -/
theorem grown_childrenOf (ih : c.Expands limit remaining) (hlimit : depth + 1 + remaining = limit)
    {xs : List Callee} (hxs : ∀ x ∈ xs, x ∈ c.callees m) (seen : List String) :
    (c.childrenOf remaining depth seen xs).1.map (·.method) = xs.map (·.key) ∧
      (∀ child ∈ (c.childrenOf remaining depth seen xs).1, ∃ x ∈ xs, ∃ before after,
        c.Grown limit (depth + 1) before x.resolved x.key child after) ∧
      CallNode.Ruled limit seen
        ((c.childrenOf remaining depth seen xs).1.flatMap CallNode.preorder) ∧
      (c.childrenOf remaining depth seen xs).2 =
        ((c.childrenOf remaining depth seen xs).1.flatMap CallNode.preorder).foldl
          CallNode.mark seen := by
  induction xs generalizing seen with
  | nil => exact ⟨rfl, by simp [childrenOf], trivial, rfl⟩
  | cons x xs ihxs =>
    have hx := grown_childOf ih hlimit (hxs x List.mem_cons_self) seen
    obtain ⟨hnames, hgrown, hruled, hafter⟩ :=
      ihxs (fun z hz => hxs z (List.mem_cons_of_mem x hz)) (c.childOf remaining depth seen x).2
    simp only [childrenOf, List.map_cons, List.flatMap_cons, List.foldl_append]
    refine ⟨by rw [hx.method, hnames], ?_, ?_, ?_⟩
    · intro child hchild
      rcases List.mem_cons.1 hchild with rfl | hchild
      · exact ⟨x, List.mem_cons_self, _, _, hx⟩
      · obtain ⟨z, hz, h⟩ := hgrown child hchild
        exact ⟨z, List.mem_cons_of_mem x hz, h⟩
    · rw [CallNode.Ruled.append_iff, ← hx.after_eq]
      exact ⟨hx.ruled, hruled⟩
    · rw [← hx.after_eq]
      exact hafter

/-- What the tree for an entry of the calls says of the method is what the first call says. -/
theorem Grown.exists_firstCall? {x : Callee} {child : CallNode} {after : List String}
    (h : c.Grown limit depth seen x.resolved x.key child after) (hx : x ∈ c.callees m) :
    ∃ y, c.firstCall? m child.method = some y ∧ (child.status = .external ↔ y.resolved = none) ∧
      ∀ r, y.resolved = some r → c.Explains r child := by
  obtain ⟨y, hfirst, hxy⟩ := Catalog.exists_firstCall? hx
  refine ⟨y, by rw [h.method, hfirst], ?_⟩
  rw [← hxy.resolved]
  exact ⟨h.external_iff, h.explains⟩

/-- **What `expand` grows.** -/
theorem expands (c : Catalog) (limit remaining : Nat) : c.Expands limit remaining := by
  induction remaining with
  | zero =>
    intro m depth callCount seen hlimit hfresh
    refine grown_leaf c (by omega) (by decide) (by decide) ?_
    exact ((if_neg hfresh).trans (if_pos hlimit)).symm
  | succ remaining ih =>
    intro m depth callCount seen hlimit hfresh
    have hlimit' : depth + 1 + remaining = limit := by omega
    obtain ⟨hnames, hgrown, hruled, hafter⟩ :=
      grown_childrenOf ih hlimit' (fun x (hx : x ∈ c.callees m) => hx) (m.fullName :: seen)
    rw [expand_succ]
    generalize c.childrenOf remaining depth (m.fullName :: seen) (c.callees m) = children at *
    have hlevelled : ∀ child ∈ children.1, child.Levelled limit (depth + 1) := by
      intro child hchild
      obtain ⟨x, -, _, _, h⟩ := hgrown child hchild
      exact h.levelled
    refine ⟨rfl, ?_, ⟨nofun, nofun⟩, ?_, ?_, ?_⟩
    · exact .of_calls rfl (by omega) (fun _ => rfl) hlevelled
    · intro r hr
      cases hr
      refine .of_calls ⟨rfl, fun _ => hnames, ?_⟩ ?_ ?_
      · intro child hchild
        obtain ⟨x, hx, _, _, h⟩ := hgrown child hchild
        obtain ⟨y, hfirst, hexternal, -⟩ := h.exists_firstCall? hx
        exact ⟨y, hfirst, hexternal⟩
      · intro child hchild
        exact (hlevelled child hchild).calls_eq_nil
      · intro child hchild y r hfirst hr
        obtain ⟨x, hx, _, _, h⟩ := hgrown child hchild
        obtain ⟨y', hfirst', -, hexplains⟩ := h.exists_firstCall? hx
        obtain rfl : y = y' := Option.some.inj (hfirst.symm.trans hfirst')
        exact hexplains r hr
    · -- The root comes first: it is not expanded before, and a level is left below it.
      rw [CallNode.preorder_eq]
      refine ⟨fun _ => ?_, hruled⟩
      have hdepth : depth ≠ limit := by omega
      exact ((if_neg hfresh).trans (if_neg hdepth)).symm
    · rw [CallNode.preorder_eq, List.foldl_cons]
      exact hafter

/-! ### The shape of call graphs -/

/-- The tree has the shape of a call graph of `root` to the depth `maxDepth`. -/
structure HasShape (c : Catalog) (root : MethodSymbol) (maxDepth : Nat) (t : CallNode) : Prop where
  /-- The depth of a node is its distance from the root and at most the given one. -/
  depth : ∀ d n, t.At d n → n.depth = d ∧ d ≤ maxDepth
  /-- Only expanded nodes have calls. -/
  leaf : ∀ n ∈ t.preorder, n.calls ≠ [] → n.status = .expanded
  /-- A node that is not external stands for a method. -/
  exists_standsFor : ∀ n ∈ t.preorder, n.status ≠ .external → ∃ m, c.StandsFor root t m n
  /-- A node has the name and the calls of the method it stands for, and a call is external if and
  only if the first call of its name in that method is not found. -/
  callsAs : ∀ m n, c.StandsFor root t m n → c.CallsAs m n
  /-- A node that is not external is recursive if and only if its method is expanded before it, and
  otherwise it is expanded but at the depth limit. -/
  status : ∀ before n after, t.preorder = before ++ n :: after → n.status ≠ .external →
    n.status =
      if n.method ∈ CallNode.expandedNames before then .recursive
      else if n.depth = maxDepth then .depthLimit
      else .expanded
  /-- No two expanded nodes have the same method. -/
  nodup : (CallNode.expandedNames t.preorder).Nodup
  /-- The method of a recursive node is expanded once. -/
  once : ∀ n ∈ t.preorder, n.status = .recursive →
    (CallNode.expandedNames t.preorder).count n.method = 1

/-- **Every call graph has the shape of one,** for all catalogs, roots and depths. -/
theorem callGraph_hasShape (c : Catalog) (root : MethodSymbol) (maxDepth : Nat) :
    c.HasShape root maxDepth (c.callGraph root maxDepth) := by
  have h : c.Grown maxDepth 0 [] (some root) root.fullName (c.callGraph root maxDepth)
      (c.expand maxDepth root 0 0 []).2 :=
    c.expands maxDepth maxDepth root 0 0 [] (Nat.zero_add maxDepth) List.not_mem_nil
  have hexplains := h.explains root rfl
  constructor
  case depth =>
    intro d n hn
    obtain ⟨hdepth, hlimit, -⟩ := h.levelled d n hn
    omega
  case leaf =>
    intro n hn
    obtain ⟨d, hn⟩ := CallNode.mem_preorder_iff.1 hn
    exact (h.levelled d n hn).2.2
  case exists_standsFor =>
    intro n hn
    obtain ⟨d, hn⟩ := CallNode.mem_preorder_iff.1 hn
    exact hexplains.exists_standsFor d n hn
  case callsAs => exact hexplains.callsAs
  case status =>
    intro before n after hsplit hn
    have hstatus := (hsplit ▸ h.ruled).status_eq hn
    rw [List.append_nil, CallNode.statusAfter] at hstatus
    simpa only [List.mem_reverse] using hstatus
  case nodup => exact h.ruled.nodup_expandedNames
  case once => exact fun n hn => h.ruled.count_expandedNames hn

end Catalog

end AssemblyAtlas
