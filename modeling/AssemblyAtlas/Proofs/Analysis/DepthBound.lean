import AssemblyAtlas.Proofs.Analysis.Reachability

/-!
# Call graphs of different depths

A call graph that is nowhere cut off stays as it is when the depth limit is raised. One that is cut
off may lose methods: with more levels, a method is first met further down and expanded there, close
to the limit, and the shorter way to it, which had more levels left, is pruned as a repetition.

Where reached methods do not share names, no other losses occur. Whatever is missing in the deeper
graph stands below a method that the deeper graph cuts off and expands nowhere, so nothing is
missing when the depth is at least the number of methods (`Catalog.callGraph_deepen`).
-/

namespace AssemblyAtlas

namespace CallNode

theorem Uncut.status_ne {t : CallNode} (h : t.Uncut) : t.status ≠ .depthLimit :=
  h t t.self_mem_preorder

theorem Uncut.of_mem_calls {t child : CallNode} (h : t.Uncut) (hcall : child ∈ t.calls) :
    child.Uncut := by
  intro n hn
  obtain ⟨d, hn⟩ := mem_preorder_iff.1 hn
  exact h n (mem_preorder_iff.2 ⟨d + 1, .call hcall hn⟩)

/-- The tree has the method at the depth limit and expands it nowhere. -/
def CutsOff (t : CallNode) (name : String) : Prop :=
  (∃ n ∈ t.preorder, n.method = name ∧ n.status = .depthLimit) ∧
    name ∉ expandedNames t.preorder

theorem Uncut.not_cutsOff {t : CallNode} (h : t.Uncut) (name : String) : ¬ t.CutsOff name := by
  rintro ⟨⟨n, hn, -, hstatus⟩, -⟩
  exact h n hn hstatus

end CallNode

namespace Catalog

variable {c : Catalog} {m root : MethodSymbol}

/-! ### Graphs that are not cut off -/

section Settled

variable {k k' depth : Nat} {seen : List String}

/-- What is not cut off with `k` levels left stays as it is with `k'` levels left. -/
def Settled (c : Catalog) (k k' : Nat) : Prop :=
  ∀ (m : MethodSymbol) (depth callCount : Nat) (seen : List String),
    (c.expand k m depth callCount seen).1.Uncut →
      c.expand k' m depth callCount seen = c.expand k m depth callCount seen

theorem childOf_eq_of_uncut (ih : c.Settled k k') {x : Callee}
    (h : (c.childOf k depth seen x).1.Uncut) :
    c.childOf k' depth seen x = c.childOf k depth seen x := by
  unfold childOf at h ⊢
  cases hr : x.resolved with
  | none => rfl
  | some r =>
    -- Only a method that is not yet expanded depends on the levels left.
    by_cases hseen : seen.contains x.key = true
    · simp only [hseen, if_true]
    · simp only [hr, hseen, Bool.false_eq_true, if_false] at h ⊢
      exact ih r (depth + 1) x.count seen h

theorem childrenOf_eq_of_uncut (ih : c.Settled k k') {xs : List Callee}
    (h : ∀ child ∈ (c.childrenOf k depth seen xs).1, child.Uncut) :
    c.childrenOf k' depth seen xs = c.childrenOf k depth seen xs := by
  induction xs generalizing seen with
  | nil => rfl
  | cons x xs ihxs =>
    have hfirst := childOf_eq_of_uncut ih (h _ List.mem_cons_self)
    have hrest := ihxs fun child hchild => h child (List.mem_cons_of_mem _ hchild)
    simp only [childrenOf, hfirst, hrest]

theorem settled_of_le (c : Catalog) (hle : k ≤ k') : c.Settled k k' := by
  induction k generalizing k' with
  | zero =>
    -- Without a level left, the method itself is at the limit.
    intro m depth callCount seen h
    exact absurd rfl h.status_ne
  | succ k ih =>
    intro m depth callCount seen h
    obtain ⟨k', rfl⟩ : ∃ j, k' = j + 1 := ⟨k' - 1, by omega⟩
    rw [expand_succ] at h
    rw [expand_succ, expand_succ]
    have hle' : k ≤ k' := by omega
    simp only [childrenOf_eq_of_uncut (ih hle') fun _ hchild => h.of_mem_calls hchild]

end Settled

/-! ### What a deeper graph keeps -/

/-- Each node has its method in the graph of another depth, found or not as here, or it stands below
a method that the other graph cuts off. The induction is on the distance from the root. -/
theorem kept_or_cutsOff
    (hsame : ∀ m m', c.Reaches root m → c.Reaches root m' → m.fullName = m'.fullName → m = m')
    (d₁ d₂ : Nat) {n : CallNode} {d : Nat} (hn : (c.callGraph root d₁).At d n) :
    (∃ n' ∈ (c.callGraph root d₂).preorder, n'.method = n.method ∧
      (n'.status = .external ↔ n.status = .external)) ∨
    ∃ p ∈ (c.callGraph root d₁).preorder, p.status = .expanded ∧ n ∈ p.preorder ∧
      (c.callGraph root d₂).CutsOff p.method := by
  induction d generalizing n with
  | zero =>
    obtain ⟨⟩ := hn
    refine .inl ⟨_, CallNode.self_mem_preorder _, ?_, iff_of_false root_found root_found⟩
    rw [(grown_callGraph c root d₁).method, (grown_callGraph c root d₂).method]
  | succ d ih =>
    obtain ⟨p, m, x, hp, hcall, hexpanded, hname, hm, hx, hkey, hexternal⟩ := exists_caller hn
    rcases ih hp with ⟨q, hq, hqname, hqexternal⟩ | ⟨p', hp', hexpanded', hbelow, hcut⟩
    · by_cases hmem : p.method ∈ CallNode.expandedNames (c.callGraph root d₂).preorder
      · -- The other graph expands the caller too, which has the same calls there.
        rw [hname] at hmem
        obtain ⟨n', hn', hkey', hexternal'⟩ := exists_node_of_callee hsame hm hmem hx
        exact .inl ⟨n', hn', hkey'.trans hkey.symm, hexternal'.trans hexternal.symm⟩
      · -- A method that is found is expanded somewhere, unless the limit is in the way everywhere.
        have hfound : q.status ≠ .external := by
          rw [Ne, hqexternal, hexpanded]
          decide
        have hlimit : q.status = .depthLimit := by
          by_contra hlimit
          exact hmem (hqname ▸ mem_expandedNames_of_found hq hfound hlimit)
        exact .inr ⟨p, CallNode.mem_preorder_iff.2 ⟨d, hp⟩, hexpanded,
          CallNode.mem_preorder_of_mem_calls p.self_mem_preorder hcall,
          ⟨q, hq, hqname, hlimit⟩, hmem⟩
    · exact .inr ⟨p', hp', hexpanded', CallNode.mem_preorder_of_mem_calls hbelow hcall, hcut⟩

/-- **Raising the depth limit.** A graph that is nowhere cut off stays the same. Where reached
methods do not share names, each method of the graph is also in the deeper one, unless it stands
below a method that the deeper graph cuts off and expands nowhere; and it is always there when the
depth is at least the number of methods. -/
theorem callGraph_deepen {d₁ d₂ : Nat} (hle : d₁ ≤ d₂) :
    ((c.callGraph root d₁).Uncut → c.callGraph root d₂ = c.callGraph root d₁) ∧
    ((∀ m m', c.Reaches root m → c.Reaches root m' → m.fullName = m'.fullName → m = m') →
      (∀ n ∈ (c.callGraph root d₁).preorder,
        (∃ n' ∈ (c.callGraph root d₂).preorder, n'.method = n.method) ∨
        ∃ p ∈ (c.callGraph root d₁).preorder, p.status = .expanded ∧ n ∈ p.preorder ∧
          (c.callGraph root d₂).CutsOff p.method) ∧
      (root ∈ c.methods → c.methods.length ≤ d₂ →
        ∀ n ∈ (c.callGraph root d₁).preorder,
          ∃ n' ∈ (c.callGraph root d₂).preorder, n'.method = n.method)) := by
  refine ⟨fun huncut => ?_, fun hsame => ?_⟩
  · exact congrArg Prod.fst (c.settled_of_le hle root 0 0 [] huncut)
  · have hkept : ∀ n ∈ (c.callGraph root d₁).preorder,
        (∃ n' ∈ (c.callGraph root d₂).preorder, n'.method = n.method) ∨
        ∃ p ∈ (c.callGraph root d₁).preorder, p.status = .expanded ∧ n ∈ p.preorder ∧
          (c.callGraph root d₂).CutsOff p.method := by
      intro n hn
      obtain ⟨d, hn⟩ := CallNode.mem_preorder_iff.1 hn
      exact (kept_or_cutsOff hsame d₁ d₂ hn).imp_left fun ⟨n', hn', hname, _⟩ => ⟨n', hn', hname⟩
    refine ⟨hkept, fun hroot hdepth n hn => (hkept n hn).resolve_right ?_⟩
    rintro ⟨p, -, -, -, hcut⟩
    exact (uncut_of_length_le hroot hdepth).not_cutsOff p.method hcut

/-- A method that leads to `X` on two ways: by `B` and `C`, and then directly. -/
def detourStart : Method :=
  .calling "A" [{ declaringType := "G", name := "B" }, { declaringType := "G", name := "X" }]

/-- The type of `detourStart`, with the methods it leads to. -/
def detour : TypeDef :=
  let call (name : String) : MemberRef := { declaringType := "G", name }
  { TypeDef.named "G" with methods := [
      detourStart, .calling "B" [call "C"], .calling "C" [call "X"],
      .calling "X" [call "Y"], .calling "Y" [call "Z"], .named "Z"] }

/-- The type has six methods. At depth 3, `Z` is called by `Y` on the direct way. At depth 4, `Y` is
on the long way and cut off. At depth 6, nothing is missing or cut off. -/
theorem callGraph_deepen_detour :
    let a : Assembly := .ofTypes "App" [detour]
    let c : Catalog := .ofAssemblies [a]
    let root : MethodSymbol := ⟨⟨a, detour⟩, detourStart⟩
    (∀ m m', c.Reaches root m → c.Reaches root m' → m.fullName = m'.fullName → m = m') ∧
      root ∈ c.methods ∧ c.methods.length = 6 ∧
      (∀ n ∈ (c.callGraph root 3).preorder,
        (∃ n' ∈ (c.callGraph root 4).preorder, n'.method = n.method) ∨
        ∃ p ∈ (c.callGraph root 3).preorder, p.status = .expanded ∧ n ∈ p.preorder ∧
          (c.callGraph root 4).CutsOff p.method) ∧
      (∀ n ∈ (c.callGraph root 3).preorder,
        ∃ n' ∈ (c.callGraph root 6).preorder, n'.method = n.method) ∧
      (c.callGraph root 6).Uncut ∧ c.callGraph root 7 = c.callGraph root 6 := by
  intro a c root
  have hroot : root ∈ c.methods := List.mem_cons_self
  have hnodup : (c.methods.map (·.fullName)).Nodup := by decide +kernel
  have hsame : ∀ m m', c.Reaches root m → c.Reaches root m' → m.fullName = m'.fullName → m = m' :=
    fun m m' hm hm' => eq_of_fullName_eq hnodup hroot hm.eq_or_resolvable hm'.eq_or_resolvable
  have hlength : c.methods.length = 6 := by decide +kernel
  have hnear := ((callGraph_deepen (by decide : 3 ≤ 4)).2 hsame).1
  have hfar := ((callGraph_deepen (by decide : 3 ≤ 6)).2 hsame).2 hroot (Nat.le_of_eq hlength)
  have huncut : (c.callGraph root 6).Uncut := uncut_of_length_le hroot (Nat.le_of_eq hlength)
  have hsettled := (callGraph_deepen (by decide : 6 ≤ 7)).1 huncut
  exact ⟨hsame, hroot, hlength, hnear, hfar, huncut, hsettled⟩

/-- The deeper graph may lose methods. In the type `detour`, depth 4 loses `Z` though no two methods
share a name. And where the assemblies `App` and `Lib` both declare `T.m`, depth 4 loses what the
one in `Lib` calls, though nothing is cut off: the one in `App` is expanded first, on a longer
way. -/
theorem callGraph_deepen_loses :
    (let a : Assembly := .ofTypes "App" [detour]
      let c : Catalog := .ofAssemblies [a]
      let root : MethodSymbol := ⟨⟨a, detour⟩, detourStart⟩
      root ∈ c.methods ∧ (c.methods.map (·.fullName)).Nodup ∧
        (∃ n ∈ (c.callGraph root 3).preorder, n.method = "G.Z()") ∧
        ¬ ∃ n ∈ (c.callGraph root 4).preorder, n.method = "G.Z()") ∧
    (let main : Method := .calling "Main"
        [{ declaringType := "R", name := "p" }, { declaringType := "Q", name := "q" }]
      let r : TypeDef := { TypeDef.named "R" with methods := [main,
        .calling "p" [{ declaringType := "R", name := "o" }],
        .calling "o" [{ declaringType := "T", name := "m" }]] }
      let a : Assembly := .ofTypes "App" [r, { TypeDef.named "T" with methods := [.named "m"] }]
      let q : Method := .calling "q" [{ declaringType := "T", name := "m" }]
      let m : Method := .calling "m" [{ declaringType := "Z", name := "z" }]
      let lib : Assembly := .ofTypes "Lib" [{ TypeDef.named "Q" with methods := [q] },
        { TypeDef.named "T" with methods := [m] },
        { TypeDef.named "Z" with methods := [.named "z"] }]
      let c : Catalog := .ofAssemblies [a, lib]
      let root : MethodSymbol := ⟨⟨a, r⟩, main⟩
      root ∈ c.methods ∧
        (∃ n ∈ (c.callGraph root 3).preorder, n.method = "Z.z()") ∧ (c.callGraph root 4).Uncut ∧
        ¬ ∃ n ∈ (c.callGraph root 4).preorder, n.method = "Z.z()") := by
  constructor
  · intro a c root
    exact ⟨List.mem_cons_self, by decide +kernel, by decide +kernel, by decide +kernel⟩
  · intro main r a q m lib c root
    refine ⟨List.mem_cons_self, by decide +kernel, ?_, by decide +kernel⟩
    unfold CallNode.Uncut
    decide +kernel

end Catalog

end AssemblyAtlas
