import AssemblyAtlas.Proofs.Analysis.CallGraph

/-!
# Methods that calls lead to

`Catalog.Reaches` is the least set of methods that holds the root and, with each method, those that
its calls are resolved to. A call graph expands each name once, along the first way that leads to
it, and prunes all others. Still, where no two of these methods share a name, a graph that is
nowhere cut off at the depth limit expands all of them, and its external nodes are all their calls
that are not found (`Catalog.callGraph_complete`).

The names expanded so far are names of declared methods and all different, so there are never more
of them than methods. Each level adds one, which is why a depth of as many levels as there are
methods cuts nothing off (`Catalog.suffices_methods`).
-/

namespace AssemblyAtlas

/-! ### Trees -/

namespace CallNode

theorem At.snoc {t p n : CallNode} {d : Nat} (hp : t.At d p) (hn : n ∈ p.calls) :
    t.At (d + 1) n := by
  induction hp with
  | root t => exact .call hn (.root n)
  | call hcall _ ih => exact .call hcall (ih hn)

/-- A node below the root is called by a node one level above. -/
theorem At.exists_parent {t n : CallNode} {d : Nat} (h : t.At (d + 1) n) :
    ∃ p, t.At d p ∧ n ∈ p.calls := by
  induction d generalizing t with
  | zero =>
    cases h with
    | call hcall h =>
      cases h with
      | root => exact ⟨t, .root t, hcall⟩
  | succ d ih =>
    cases h with
    | call hcall h =>
      obtain ⟨p, hp, hn⟩ := ih h
      exact ⟨p, .call hcall hp, hn⟩

theorem self_mem_preorder (t : CallNode) : t ∈ t.preorder :=
  mem_preorder_iff.2 ⟨0, .root t⟩

theorem mem_preorder_of_mem_calls {t p n : CallNode} (hp : p ∈ t.preorder) (hn : n ∈ p.calls) :
    n ∈ t.preorder := by
  obtain ⟨d, hp⟩ := mem_preorder_iff.1 hp
  exact mem_preorder_iff.2 ⟨d + 1, hp.snoc hn⟩

/-- No node of the tree is at the depth limit. -/
def Uncut (t : CallNode) : Prop :=
  ∀ n ∈ t.preorder, n.status ≠ .depthLimit

theorem Uncut.of_calls {t : CallNode} (hroot : t.status ≠ .depthLimit)
    (hcalls : ∀ child ∈ t.calls, child.Uncut) : t.Uncut := by
  intro n hn
  rw [preorder_eq, List.mem_cons, List.mem_flatMap] at hn
  rcases hn with rfl | ⟨child, hcall, hn⟩
  · exact hroot
  · exact hcalls child hcall n hn

theorem mem_expandedNames {ns : List CallNode} {name : String} :
    name ∈ expandedNames ns ↔ ∃ n ∈ ns, n.status = .expanded ∧ n.method = name := by
  simp [expandedNames, and_assoc]

end CallNode

/-- A method with the given calls for its body. -/
def Method.calling (name : String) (targets : List MemberRef) : Method :=
  { Method.named name with instructions := some <| targets.map fun target =>
      { opcode := .call, operand := some (.method target) } }

/-- The names of a tally are those of the entries before it and of the calls. -/
theorem Callee.mem_map_key_foldl_tally {calls entries : List Callee} {key : String} :
    key ∈ (calls.foldl tally entries).map (·.key) ↔
      key ∈ entries.map (·.key) ∨ key ∈ calls.map (·.key) := by
  induction calls generalizing entries with
  | nil => simp
  | cons call calls ih =>
    rw [List.foldl_cons, ih, mem_map_key_tally, List.map_cons, List.mem_cons, or_assoc]

namespace Catalog

variable {c : Catalog} {m r root : MethodSymbol}

/-! ### Reached methods -/

theorem resolveMethod?_eq_some {target : MemberRef} {context : Option String} {s : TypeSymbol}
    {method : Method}
    (hs : c.resolveType? target.declaringType (target.assembly.or context) = some s)
    (hmethod : s.type.methods.find? target.targets = some method) :
    c.resolveMethod? target context = some { s with method } := by
  simp [resolveMethod?, hs, hmethod]

/-- All methods of all types. -/
def methods (c : Catalog) : List MethodSymbol :=
  c.types.flatMap (·.methods)

theorem mem_methods_iff : m ∈ c.methods ↔ c.Declares m := by
  simp only [methods, TypeSymbol.methods, List.mem_flatMap, List.mem_map]
  constructor
  · rintro ⟨s, hs, method, hmethod, rfl⟩
    exact ⟨hs, hmethod⟩
  · intro h
    exact ⟨m.toTypeSymbol, h.type, m.method, h.method, rfl⟩

/-- The methods that calls lead to from the root: the root itself, and with each method those that
its calls are resolved to in its assembly. -/
inductive Reaches (c : Catalog) (root : MethodSymbol) : MethodSymbol → Prop
  | root : Reaches c root root
  | call {m r : MethodSymbol} {target : MemberRef} {offset : Option UInt32}
      (hm : Reaches c root m) (hcall : (target, offset) ∈ m.method.invocations)
      (hr : c.resolveMethod? target (some m.assembly.name) = some r) : Reaches c root r

/-- What is reached from a called method is reached from the calling one. -/
theorem Reaches.of_call {target : MemberRef} {offset : Option UInt32} {m' : MethodSymbol}
    (hcall : (target, offset) ∈ m.method.invocations)
    (hr : c.resolveMethod? target (some m.assembly.name) = some r) (h : c.Reaches r m') :
    c.Reaches m m' := by
  induction h with
  | root => exact .call .root hcall hr
  | call _ hcall' hr' ih => exact .call ih hcall' hr'

theorem Reaches.mem_methods (hroot : root ∈ c.methods) (h : c.Reaches root m) :
    m ∈ c.methods := by
  cases h with
  | root => exact hroot
  | call _ _ hr => exact mem_methods_iff.2 (resolveMethod?_sound hr)

/-- The methods that nodes stand for are reached from the one that the root stands for. -/
theorem StandsFor.reaches {t n : CallNode} (h : c.StandsFor root t m n) : c.Reaches root m := by
  induction h with
  | root => exact .root
  | call _ hfirst hr _ ih =>
    obtain ⟨target, offset, hcall, rfl⟩ := mem_callSites_iff.1 (List.mem_of_find?_eq_some hfirst)
    exact .of_call hcall hr ih

/-! ### Entries for calls -/

theorem exists_callee_of_call {target : MemberRef} {offset : Option UInt32}
    (hcall : (target, offset) ∈ m.method.invocations) :
    ∃ x ∈ c.callees m, x.key = (c.calleeOf m target).key := by
  have hsite : c.calleeOf m target ∈ c.callSites m :=
    mem_callSites_iff.2 ⟨target, offset, hcall, rfl⟩
  rw [callees_eq]
  exact List.mem_map.1 (Callee.mem_map_key_foldl_tally.2 (.inr (List.mem_map_of_mem hsite)))

/-- An entry for calls has the name and the result of some call. -/
theorem exists_call_of_callee {x : Callee} (hx : x ∈ c.callees m) :
    ∃ target offset, (target, offset) ∈ m.method.invocations ∧
      x.key = (c.calleeOf m target).key ∧
      x.resolved = c.resolveMethod? target (some m.assembly.name) := by
  obtain ⟨y, hfirst, hxy⟩ := exists_firstCall? hx
  obtain ⟨target, offset, hcall, rfl⟩ := mem_callSites_iff.1 (List.mem_of_find?_eq_some hfirst)
  exact ⟨target, offset, hcall, hxy.key, hxy.resolved⟩

theorem key_calleeOf_of_some {target : MemberRef}
    (h : c.resolveMethod? target (some m.assembly.name) = some r) :
    (c.calleeOf m target).key = r.fullName := by
  simp [calleeOf, h]

theorem key_calleeOf_of_none {target : MemberRef}
    (h : c.resolveMethod? target (some m.assembly.name) = none) :
    (c.calleeOf m target).key = target.fullName := by
  simp [calleeOf, h]

/-! ### Nodes of a call graph -/

section Graph

variable {maxDepth : Nat} {n : CallNode}

theorem grown_callGraph (c : Catalog) (root : MethodSymbol) (maxDepth : Nat) :
    c.Grown maxDepth 0 [] (some root) root.fullName (c.callGraph root maxDepth)
      (c.expand maxDepth root 0 0 []).2 :=
  c.expands maxDepth maxDepth root 0 0 [] (Nat.zero_add maxDepth) List.not_mem_nil

/-- A node that is not external has the name and the calls of a method that is reached. -/
theorem exists_reached (hn : n ∈ (c.callGraph root maxDepth).preorder)
    (hfound : n.status ≠ .external) : ∃ m, c.Reaches root m ∧ c.CallsAs m n := by
  have h := (grown_callGraph c root maxDepth).explains root rfl
  obtain ⟨d, hn⟩ := CallNode.mem_preorder_iff.1 hn
  obtain ⟨m, hm⟩ := h.exists_standsFor d n hn hfound
  exact ⟨m, hm.reaches, h.callsAs m n hm⟩

/-- A method that is found is expanded somewhere, unless the node is at the depth limit. -/
theorem mem_expandedNames_of_found (hn : n ∈ (c.callGraph root maxDepth).preorder)
    (hfound : n.status ≠ .external) (hlimit : n.status ≠ .depthLimit) :
    n.method ∈ CallNode.expandedNames (c.callGraph root maxDepth).preorder := by
  cases hstatus : n.status with
  | expanded => exact CallNode.mem_expandedNames.2 ⟨n, hn, hstatus, rfl⟩
  | recursive =>
    have hcount := (grown_callGraph c root maxDepth).ruled.count_expandedNames hn hstatus
    exact List.count_pos_iff.1 (by omega)
  | depthLimit => exact absurd hstatus hlimit
  | external => exact absurd hstatus hfound

theorem root_found : (c.callGraph root maxDepth).status ≠ .external := fun h =>
  absurd ((grown_callGraph c root maxDepth).external_iff.1 h) (Option.some_ne_none root)

/-- A call of a node and the entry of the same name both say what the first call of that name
says. -/
theorem CallsAs.external_iff_resolved {p : CallNode} (h : c.CallsAs m p) (hn : n ∈ p.calls)
    {x : Callee} (hx : x ∈ c.callees m) (hkey : n.method = x.key) :
    n.status = .external ↔ x.resolved = none := by
  obtain ⟨y, hfirst, hexternal⟩ := h.external_iff n hn
  obtain ⟨y', hfirst', hxy⟩ := exists_firstCall? hx
  rw [← hkey, hfirst, Option.some.injEq] at hfirst'
  rwa [hxy.resolved, ← hfirst']

/-- A node below the root is an entry for the calls of a method that is reached and expanded. -/
theorem exists_caller {d : Nat} (hn : (c.callGraph root maxDepth).At (d + 1) n) :
    ∃ p m x, (c.callGraph root maxDepth).At d p ∧ n ∈ p.calls ∧ p.status = .expanded ∧
      p.method = m.fullName ∧ c.Reaches root m ∧ x ∈ c.callees m ∧ n.method = x.key ∧
      (n.status = .external ↔ x.resolved = none) := by
  obtain ⟨p, hp, hcall⟩ := hn.exists_parent
  have hexpanded : p.status = .expanded :=
    ((grown_callGraph c root maxDepth).levelled d p hp).2.2 (List.ne_nil_of_mem hcall)
  obtain ⟨m, hm, hcalls⟩ := exists_reached (CallNode.mem_preorder_iff.2 ⟨d, hp⟩)
    (by rw [hexpanded]; decide)
  have hname : n.method ∈ (c.callees m).map (·.key) :=
    hcalls.calls hexpanded ▸ List.mem_map_of_mem hcall
  obtain ⟨x, hx, hkey⟩ := List.mem_map.1 hname
  exact ⟨p, m, x, hp, hcall, hexpanded, hcalls.method, hm, hx, hkey.symm,
    hcalls.external_iff_resolved hcall hx hkey.symm⟩

/-- Where reached methods do not share names, each entry for the calls of an expanded method has a
node. -/
theorem exists_node_of_callee
    (hsame : ∀ m m', c.Reaches root m → c.Reaches root m' → m.fullName = m'.fullName → m = m')
    (hm : c.Reaches root m)
    (hexpanded : m.fullName ∈ CallNode.expandedNames (c.callGraph root maxDepth).preorder)
    {x : Callee} (hx : x ∈ c.callees m) :
    ∃ n ∈ (c.callGraph root maxDepth).preorder, n.method = x.key ∧
      (n.status = .external ↔ x.resolved = none) := by
  obtain ⟨p, hp, hstatus, hname⟩ := CallNode.mem_expandedNames.1 hexpanded
  -- The node that is expanded under the name stands for this method, as no other has the name.
  obtain ⟨m', hm', hcalls⟩ := exists_reached hp (by rw [hstatus]; decide)
  obtain rfl : m' = m := hsame m' m hm' hm (hcalls.method.symm.trans hname)
  have hkey : x.key ∈ p.calls.map (·.method) := hcalls.calls hstatus ▸ List.mem_map_of_mem hx
  obtain ⟨n, hn, hnx⟩ := List.mem_map.1 hkey
  exact ⟨n, CallNode.mem_preorder_of_mem_calls hp hn, hnx,
    hcalls.external_iff_resolved hn hx hnx⟩

end Graph

/-! ### Complete graphs -/

/-- Some reference names the method. -/
def Resolvable (c : Catalog) (m : MethodSymbol) : Prop :=
  ∃ target context, c.resolveMethod? target context = some m

theorem Reaches.eq_or_resolvable (h : c.Reaches root m) : m = root ∨ c.Resolvable m := by
  cases h with
  | root => exact .inl rfl
  | call _ _ hr => exact .inr ⟨_, _, hr⟩

theorem Resolvable.mem_methods (h : c.Resolvable m) : m ∈ c.methods := by
  obtain ⟨target, context, h⟩ := h
  exact mem_methods_iff.2 (resolveMethod?_sound h)

theorem Resolvable.exists_resolveType? (h : c.Resolvable m) :
    ∃ preferred, c.resolveType? m.type.fullName preferred = some m.toTypeSymbol := by
  obtain ⟨target, context, h⟩ := h
  simp only [resolveMethod?, Option.bind_eq_bind, Option.bind_eq_some_iff] at h
  obtain ⟨s, hs, method, -, hm⟩ := h
  obtain rfl := Option.some.inj hm
  have hname : s.type.fullName = target.declaringType := (resolveType?_sound hs).2
  exact ⟨_, hname ▸ hs⟩

/-- No call that is not found is named like a method that a call is resolved to. -/
def NamesApart (c : Catalog) : Prop :=
  ∀ m ∈ c.methods, ∀ call ∈ m.method.invocations,
    c.resolveMethod? call.1 (some m.assembly.name) = none →
      ∀ m' ∈ c.methods, ∀ call' ∈ m'.method.invocations,
        ∀ r ∈ c.resolveMethod? call'.1 (some m'.assembly.name), call.1.fullName ≠ r.fullName

section Complete

variable {maxDepth : Nat}

/-- The entry for a call is found exactly if the call is, as no call of the other sort has its
name. -/
theorem NamesApart.exists_callee (hapart : c.NamesApart) (hm : m ∈ c.methods) {target : MemberRef}
    {offset : Option UInt32} (hcall : (target, offset) ∈ m.method.invocations) :
    ∃ x ∈ c.callees m, x.key = (c.calleeOf m target).key ∧
      (x.resolved = none ↔ c.resolveMethod? target (some m.assembly.name) = none) := by
  obtain ⟨x, hx, hkey⟩ := exists_callee_of_call (c := c) hcall
  -- The entry says what the first call of its name says, and that may be another call.
  obtain ⟨first, offset', hfirst, hfirstKey, hresolved⟩ := exists_call_of_callee hx
  refine ⟨x, hx, hkey, ?_⟩
  rw [hresolved]
  rw [hfirstKey] at hkey
  constructor
  · intro hnone
    by_contra hsome
    obtain ⟨r, hr⟩ := Option.ne_none_iff_exists'.1 hsome
    rw [key_calleeOf_of_none hnone, key_calleeOf_of_some hr] at hkey
    exact hapart m hm _ hfirst hnone m hm _ hcall r hr hkey
  · intro hnone
    by_contra hsome
    obtain ⟨r, hr⟩ := Option.ne_none_iff_exists'.1 hsome
    rw [key_calleeOf_of_some hr, key_calleeOf_of_none hnone] at hkey
    exact hapart m hm _ hcall hnone m hm _ hfirst r hr hkey.symm

/-- In a graph that is nowhere cut off, every reached method is expanded. -/
theorem Reaches.mem_expandedNames (hroot : root ∈ c.methods) (hapart : c.NamesApart)
    (hsame : ∀ m m', c.Reaches root m → c.Reaches root m' → m.fullName = m'.fullName → m = m')
    (huncut : (c.callGraph root maxDepth).Uncut)
    (h : c.Reaches root m) :
    m.fullName ∈ CallNode.expandedNames (c.callGraph root maxDepth).preorder := by
  induction h with
  | root =>
    rw [← (grown_callGraph c root maxDepth).method]
    have hself := CallNode.self_mem_preorder (c.callGraph root maxDepth)
    exact mem_expandedNames_of_found hself root_found (huncut _ hself)
  | @call m r target offset hm hcall hr ih =>
    obtain ⟨x, hx, hkey, hresolved⟩ := hapart.exists_callee (hm.mem_methods hroot) hcall
    obtain ⟨n, hn, hname, hexternal⟩ := exists_node_of_callee hsame hm ih hx
    have hfound : n.status ≠ .external := by
      rw [Ne, hexternal, hresolved, hr]
      exact Option.some_ne_none r
    rw [← key_calleeOf_of_some hr, ← hkey, ← hname]
    exact mem_expandedNames_of_found hn hfound (huncut n hn)

end Complete

/-! ### Enough depth -/

/-- The names are different names of declared methods. -/
structure Fits (c : Catalog) (names : List String) : Prop where
  nodup : names.Nodup
  declared : ∀ name ∈ names, ∃ m ∈ c.methods, m.fullName = name

section Depth

variable {limit depth callCount remaining : Nat} {seen : List String}

theorem Fits.length_le (h : c.Fits seen) : seen.length ≤ c.methods.length := by
  have hsub : seen ⊆ c.methods.map (·.fullName) := by
    intro name hname
    obtain ⟨m, hm, rfl⟩ := h.declared name hname
    exact List.mem_map_of_mem hm
  have hlen := h.nodup.length_le_of_subset hsub
  rwa [List.length_map] at hlen

theorem Fits.cons (h : c.Fits seen) (hm : m ∈ c.methods) (hfresh : m.fullName ∉ seen) :
    c.Fits (m.fullName :: seen) where
  nodup := List.nodup_cons.2 ⟨hfresh, h.nodup⟩
  declared := by
    intro name hname
    rcases List.mem_cons.1 hname with rfl | hname
    · exact ⟨m, hm, rfl⟩
    · exact h.declared name hname

/-- The names expanded after a tree are again different names of declared methods, and no fewer. -/
theorem Grown.fits {resolved : Option MethodSymbol} {name : String} {t : CallNode}
    {after : List String} (h : c.Grown limit depth seen resolved name t after)
    (hdeclared : ∀ r, resolved = some r → r ∈ c.methods) (hseen : c.Fits seen) :
    c.Fits after ∧ seen.length ≤ after.length := by
  have hafter : after = (CallNode.expandedNames t.preorder).reverse ++ seen :=
    h.after_eq.trans (CallNode.foldl_mark seen t.preorder)
  refine ⟨⟨h.after_eq ▸ h.ruled.nodup_foldl_mark hseen.nodup, ?_⟩, by rw [hafter]; simp⟩
  intro s hs
  rw [hafter, List.mem_append, List.mem_reverse, CallNode.mem_expandedNames] at hs
  rcases hs with ⟨n, hn, hstatus, rfl⟩ | hs
  · obtain ⟨d, hn⟩ := CallNode.mem_preorder_iff.1 hn
    have hfound : n.status ≠ .external := by rw [hstatus]; decide
    cases hr : resolved with
    | none =>
      -- A tree for which no method is found is an external leaf.
      have hexternal := h.external_iff.2 hr
      rw [hn.of_calls_eq_nil (h.levelled.calls_eq_nil hexternal)] at hfound
      exact absurd hexternal hfound
    | some r =>
      obtain ⟨m, hm⟩ := (h.explains r hr).exists_standsFor d n hn hfound
      exact ⟨m, hm.reaches.mem_methods (hdeclared r hr),
        ((h.explains r hr).callsAs m n hm).method.symm⟩
  · exact hseen.declared s hs

/-- Nothing is cut off below a method, when the levels left and the names expanded before are
together as many as the methods. -/
def Suffices (c : Catalog) (remaining : Nat) : Prop :=
  ∀ (m : MethodSymbol) (depth callCount : Nat) (seen : List String), m ∈ c.methods →
    m.fullName ∉ seen → c.Fits seen → c.methods.length ≤ remaining + seen.length →
      (c.expand remaining m depth callCount seen).1.Uncut

theorem uncut_childOf (ih : c.Suffices remaining) {x : Callee} (hx : x ∈ c.callees m)
    (hseen : c.Fits seen) (hlen : c.methods.length ≤ remaining + seen.length) :
    (c.childOf remaining depth seen x).1.Uncut := by
  have hleaf : ∀ n : CallNode, n.status ≠ .depthLimit → n.calls = [] → n.Uncut :=
    fun n hn hcalls => .of_calls hn (by rw [hcalls]; exact fun _ h => absurd h List.not_mem_nil)
  rw [childOf]
  cases hr : x.resolved with
  | none => exact hleaf _ (by rintro ⟨⟩) rfl
  | some r =>
    obtain ⟨hdeclared, hkey⟩ := callees_resolved hx hr
    rw [hkey]
    by_cases hfresh : r.fullName ∈ seen
    · simp only [List.contains_iff_mem.2 hfresh, if_true]
      exact hleaf _ (by rintro ⟨⟩) rfl
    · simp only [List.contains_iff_mem, hfresh, if_false]
      exact ih r (depth + 1) x.count seen (mem_methods_iff.2 hdeclared) hfresh hseen hlen

theorem uncut_childrenOf (ih : c.Suffices remaining) {xs : List Callee}
    (hxs : ∀ x ∈ xs, x ∈ c.callees m) (hseen : c.Fits seen)
    (hlen : c.methods.length ≤ remaining + seen.length) :
    ∀ child ∈ (c.childrenOf remaining depth seen xs).1, child.Uncut := by
  induction xs generalizing seen with
  | nil => exact fun _ h => absurd h List.not_mem_nil
  | cons x xs ihxs =>
    have hx := hxs x List.mem_cons_self
    have hgrown := grown_childOf (c.expands (depth + 1 + remaining) remaining) rfl hx seen
    obtain ⟨hafter, hmore⟩ :=
      hgrown.fits (fun r hr => mem_methods_iff.2 (callees_resolved hx hr).1) hseen
    intro child hchild
    rcases List.mem_cons.1 hchild with rfl | hchild
    · exact uncut_childOf ih hx hseen hlen
    · exact ihxs (fun z hz => hxs z (List.mem_cons_of_mem x hz)) hafter (by omega) child hchild

/-- **As many levels as methods are enough:** each level expands one more of the names, of which
there are no more than methods. -/
theorem suffices_methods (c : Catalog) (remaining : Nat) : c.Suffices remaining := by
  induction remaining with
  | zero =>
    intro m depth callCount seen hm hfresh hseen hlen
    -- All names of methods are expanded already, so this one is, too.
    have hmore := (hseen.cons hm hfresh).length_le
    rw [List.length_cons] at hmore
    omega
  | succ remaining ih =>
    intro m depth callCount seen hm hfresh hseen hlen
    rw [expand_succ]
    refine .of_calls nofun ?_
    refine uncut_childrenOf ih (fun x (hx : x ∈ c.callees m) => hx) (hseen.cons hm hfresh) ?_
    rw [List.length_cons]
    omega

theorem uncut_of_length_le {maxDepth : Nat} (hroot : root ∈ c.methods)
    (hdepth : c.methods.length ≤ maxDepth) : (c.callGraph root maxDepth).Uncut :=
  suffices_methods c maxDepth root 0 0 [] hroot List.not_mem_nil
    ⟨List.nodup_nil, fun _ h => absurd h List.not_mem_nil⟩ hdepth

end Depth

/-! ### The whole of what is reached -/

/-- **A call graph that is not cut off is the whole of what is reached.** Suppose that methods which
references name, or the root, are the same when they have the same full name, and that no call which
is not found is named like a method that a call is resolved to. If no node is at the depth limit,
the expanded nodes name the methods that calls lead to from the root, and the external nodes name
the calls of these methods that are not found. With a depth of at least the number of methods, no
node is at the depth limit. -/
theorem callGraph_complete (hroot : root ∈ c.methods)
    (hsame : ∀ m m', m = root ∨ c.Resolvable m → m' = root ∨ c.Resolvable m' →
      m.fullName = m'.fullName → m = m')
    (hapart : c.NamesApart) (maxDepth : Nat) :
    ((c.callGraph root maxDepth).Uncut →
      (∀ name, (∃ n ∈ (c.callGraph root maxDepth).preorder,
          n.status = .expanded ∧ n.method = name) ↔
        ∃ m, c.Reaches root m ∧ m.fullName = name) ∧
      ∀ name, (∃ n ∈ (c.callGraph root maxDepth).preorder,
          n.status = .external ∧ n.method = name) ↔
        ∃ m target offset, c.Reaches root m ∧ (target, offset) ∈ m.method.invocations ∧
          c.resolveMethod? target (some m.assembly.name) = none ∧ target.fullName = name) ∧
    (c.methods.length ≤ maxDepth → (c.callGraph root maxDepth).Uncut) := by
  have hreached : ∀ m m', c.Reaches root m → c.Reaches root m' → m.fullName = m'.fullName →
      m = m' := fun m m' hm hm' => hsame m m' hm.eq_or_resolvable hm'.eq_or_resolvable
  refine ⟨fun huncut => ⟨fun name => ⟨?_, ?_⟩, fun name => ⟨?_, ?_⟩⟩, fun hdepth => ?_⟩
  · rintro ⟨n, hn, hstatus, rfl⟩
    obtain ⟨m, hm, hcalls⟩ := exists_reached hn (by rw [hstatus]; decide)
    exact ⟨m, hm, hcalls.method.symm⟩
  · rintro ⟨m, hm, rfl⟩
    exact CallNode.mem_expandedNames.1 (hm.mem_expandedNames hroot hapart hreached huncut)
  · rintro ⟨n, hn, hstatus, rfl⟩
    obtain ⟨d, hn⟩ := CallNode.mem_preorder_iff.1 hn
    cases hn with
    | root => exact absurd hstatus root_found
    | call hcall h =>
      obtain ⟨p, m, x, -, -, -, -, hm, hx, hkey, hexternal⟩ := exists_caller (.call hcall h)
      obtain ⟨target, offset, hcall, hxkey, hresolved⟩ := exists_call_of_callee hx
      rw [hexternal.1 hstatus] at hresolved
      refine ⟨m, target, offset, hm, hcall, hresolved.symm, ?_⟩
      rw [hkey, hxkey, key_calleeOf_of_none hresolved.symm]
  · rintro ⟨m, target, offset, hm, hcall, hnone, rfl⟩
    have hexpanded := hm.mem_expandedNames hroot hapart hreached huncut
    obtain ⟨x, hx, hkey, hresolved⟩ := hapart.exists_callee (hm.mem_methods hroot) hcall
    obtain ⟨n, hn, hname, hexternal⟩ := exists_node_of_callee hreached hm hexpanded hx
    refine ⟨n, hn, hexternal.2 (hresolved.2 hnone), ?_⟩
    rw [hname, hkey, key_calleeOf_of_none hnone]
  · exact uncut_of_length_le hroot hdepth

/-- Where no two methods share a name, the root and methods that references name are told apart by
it. -/
theorem eq_of_fullName_eq (h : (c.methods.map (·.fullName)).Nodup) (hroot : root ∈ c.methods)
    {m m' : MethodSymbol} (hm : m = root ∨ c.Resolvable m) (hm' : m' = root ∨ c.Resolvable m')
    (hname : m.fullName = m'.fullName) : m = m' := by
  have hmem : ∀ m, m = root ∨ c.Resolvable m → m ∈ c.methods := by
    rintro m (rfl | hm)
    · exact hroot
    · exact hm.mem_methods
  exact List.inj_on_of_nodup_map h (hmem m hm) (hmem m' hm') hname

/-- Two ways lead from `Main` to `D`, which calls `Main` again, and one call is not found. -/
theorem callGraph_complete_diamond :
    let main : Method := .calling "Main"
      [{ declaringType := "G", name := "B" }, { declaringType := "G", name := "C" }]
    let g : TypeDef := { TypeDef.named "G" with methods := [main,
      .calling "B" [{ declaringType := "G", name := "D" }],
      .calling "C" [{ declaringType := "G", name := "D" },
        { declaringType := "Log", name := "Add" }],
      .calling "D" [{ declaringType := "G", name := "Main" }]] }
    let a : Assembly := .ofTypes "App" [g]
    let c : Catalog := .ofAssemblies [a]
    let root : MethodSymbol := ⟨⟨a, g⟩, main⟩
    root ∈ c.methods ∧ c.NamesApart ∧
      (∀ m m', m = root ∨ c.Resolvable m → m' = root ∨ c.Resolvable m' →
        m.fullName = m'.fullName → m = m') ∧
      c.methods.length = 4 ∧ (c.callGraph root 4).Uncut ∧
      (∀ name, (∃ n ∈ (c.callGraph root 4).preorder, n.status = .expanded ∧ n.method = name) ↔
        ∃ m, c.Reaches root m ∧ m.fullName = name) ∧
      ∃ m target offset, c.Reaches root m ∧ (target, offset) ∈ m.method.invocations ∧
        c.resolveMethod? target (some m.assembly.name) = none ∧ target.fullName = "Log.Add" := by
  intro main g a c root
  have hroot : root ∈ c.methods := List.mem_cons_self
  have hnodup : (c.methods.map (·.fullName)).Nodup := by decide +kernel
  have hsame : ∀ m m', m = root ∨ c.Resolvable m → m' = root ∨ c.Resolvable m' →
      m.fullName = m'.fullName → m = m' := fun m m' => eq_of_fullName_eq hnodup hroot
  have hapart : c.NamesApart := by
    unfold NamesApart
    decide +kernel
  obtain ⟨hcomplete, hdepth⟩ := callGraph_complete hroot hsame hapart 4
  have huncut := hdepth (by decide +kernel)
  obtain ⟨hexpanded, hexternal⟩ := hcomplete huncut
  refine ⟨hroot, hapart, hsame, by decide +kernel, huncut, hexpanded, ?_⟩
  exact (hexternal "Log.Add").1 (by decide +kernel)

/-- No call that is not found reads like one that is found. -/
def OperandsApart (c : Catalog) : Prop :=
  ∀ m ∈ c.methods, ∀ call ∈ m.method.invocations,
    c.resolveMethod? call.1 (some m.assembly.name) = none →
      ∀ m' ∈ c.methods, ∀ call' ∈ m'.method.invocations,
        c.resolveMethod? call'.1 (some m'.assembly.name) ≠ none → call.1.fullName ≠ call'.1.fullName

/-- It is not enough to ask of methods that references name to be told apart by their names, and of
calls that are not found to read unlike those that are.

A type nested in a type of the same name comes first in the table, so no reference names the method
of the outer type. That method calls the inner one, which has its name and is therefore taken for a
recursive call, and what the inner one calls is lost.

And a call that is not found may read like the full name of a method, while the call of that method
is written without parameter types. The two calls share one node. -/
theorem callGraph_misses_same_names :
    (let inside : Method := .calling "m" [{ declaringType := "X", name := "x" }]
      let outside : Method := .calling "m" [{ declaringType := "T", name := "m" }]
      let inner : TypeDef := { TypeDef.named "T" with methods := [inside] }
      let outer : TypeDef := { TypeDef.named "T" with nested := [inner], methods := [outside] }
      let other : TypeDef := { TypeDef.named "X" with methods := [.named "x"] }
      let a : Assembly := .ofTypes "App" [outer, other]
      let c : Catalog := .ofAssemblies [a]
      let root : MethodSymbol := ⟨⟨a, outer⟩, outside⟩
      root ∈ c.methods ∧
        (∀ m m', c.Resolvable m → c.Resolvable m' → m.fullName = m'.fullName → m = m') ∧
        c.OperandsApart ∧ (c.callGraph root 3).Uncut ∧ c.Reaches root ⟨⟨a, other⟩, .named "x"⟩ ∧
        "X.x()" ∉ CallNode.expandedNames (c.callGraph root 3).preorder) ∧
    (let main : Method := .calling "Main"
        [{ declaringType := "A.B", name := "m" },
          { declaringType := "A", name := "B.m", parameters := some [] }]
      let t : TypeDef := { TypeDef.named "A.B" with methods := [main, .named "m"] }
      let a : Assembly := .ofTypes "App" [t]
      let c : Catalog := .ofAssemblies [a]
      let root : MethodSymbol := ⟨⟨a, t⟩, main⟩
      root ∈ c.methods ∧
        (∀ m m', c.Resolvable m → c.Resolvable m' → m.fullName = m'.fullName → m = m') ∧
        c.OperandsApart ∧ (c.callGraph root 2).Uncut ∧
        (∃ call ∈ main.invocations, c.resolveMethod? call.1 (some "App") = none ∧
          call.1.fullName = "A.B.m()") ∧
        ∀ n ∈ (c.callGraph root 2).preorder, n.status ≠ .external) := by
  constructor
  · intro inside outside inner outer other a c root
    have hplaces : (TypeTable.ofAssemblies [a]).places "T" = [⟨0, [0, 0, 0]⟩, ⟨0, [0, 0]⟩] := by
      decide +kernel
    have hinner : ∀ preferred, c.resolveType? "T" preferred = some ⟨a, inner⟩ := by
      intro preferred
      refine TypeIndex.resolveType?_eq_some_iff.2 ⟨⟨0, [0, 0, 0]⟩, ?_, rfl, rfl⟩
      rw [TypeIndex.placeOf?, TypeIndex.ofAssemblies, hplaces]
      cases preferred with
      | none => rfl
      | some name =>
        simp only [Option.bind_some, List.find?_cons, TypeIndex.isIn]
        cases h : a.isNamed name with
        | true => simp [h]
        | false =>
          simp [h]
          rfl
    have hresolvable : ∀ m, c.Resolvable m →
        m = ⟨⟨a, inner⟩, inside⟩ ∨ m = ⟨⟨a, other⟩, .named "x"⟩ := by
      intro m hm
      have hmem : m ∈ [root, ⟨⟨a, inner⟩, inside⟩, ⟨⟨a, other⟩, .named "x"⟩] := hm.mem_methods
      rcases List.mem_cons.1 hmem with rfl | hmem
      · obtain ⟨preferred, h⟩ := hm.exists_resolveType?
        have hsame := (hinner preferred).symm.trans h
        cases congrArg (Option.map (·.type.nested.length)) hsame
      · simpa using hmem
    have hsame : ∀ m m', c.Resolvable m → c.Resolvable m' → m.fullName = m'.fullName → m = m' := by
      intro m m' hm hm' hname
      rcases hresolvable m hm with rfl | rfl <;> rcases hresolvable m' hm' with rfl | rfl
      · rfl
      · exact absurd hname (by decide +kernel)
      · exact absurd hname (by decide +kernel)
      · rfl
    have hother : c.resolveType? "X" (some "App") = some ⟨a, other⟩ :=
      TypeIndex.resolveType?_eq_some_iff.2 ⟨⟨0, [0, 1]⟩, by decide +kernel, rfl, rfl⟩
    have hinside : c.Reaches root ⟨⟨a, inner⟩, inside⟩ := by
      have hcall : (⟨"T", "m", none, none⟩, none) ∈ root.method.invocations := by decide +kernel
      refine .call .root hcall (resolveMethod?_eq_some (hinner _) ?_)
      exact List.find?_cons_of_pos (by decide +kernel)
    have hreaches : c.Reaches root ⟨⟨a, other⟩, .named "x"⟩ := by
      have hcall : (⟨"X", "x", none, none⟩, none) ∈ inside.invocations := by decide +kernel
      refine .call hinside hcall (resolveMethod?_eq_some hother ?_)
      exact List.find?_cons_of_pos (by decide +kernel)
    refine ⟨List.mem_cons_self, hsame, ?_, ?_, hreaches, by decide +kernel⟩
    · unfold OperandsApart
      decide +kernel
    · unfold CallNode.Uncut
      decide +kernel
  · intro main t a c root
    have hroot : root ∈ c.methods := List.mem_cons_self
    have hnodup : (c.methods.map (·.fullName)).Nodup := by decide +kernel
    refine ⟨hroot, fun m m' hm hm' => eq_of_fullName_eq hnodup hroot (.inr hm) (.inr hm'), ?_, ?_,
      by decide +kernel, by decide +kernel⟩
    · unfold OperandsApart
      decide +kernel
    · unfold CallNode.Uncut
      decide +kernel

end Catalog

end AssemblyAtlas
