import AssemblyAtlas.Proofs.Analysis.DeadCode
import AssemblyAtlas.Proofs.Analysis.Reachability

/-!
# Call sites

The call graph and the scan for callers tell called methods apart in different ways: the graph looks
a call up from the assembly of the calling method and groups calls by the full name of what it
finds, the scan compares the declaring type and the parameter types of every call with the method.
They agree at every call that is found (`Catalog.callSites_agree`): the scan records it, and the
graph counts it. The count of a node is exact (`Callee.Tallies`): it is the number of calls that are
entered under its name.
-/

namespace AssemblyAtlas

/-! ### Counting calls -/

namespace Callee

/-- The entries count the calls by name: no name has two entries, and an entry has the number of
calls of its name. -/
structure Tallies (calls entries : List Callee) : Prop where
  nodup : (entries.map (·.key)).Nodup
  count : ∀ x ∈ entries, x.count = calls.countP (·.key == x.key)
  missing : ∀ key, key ∉ entries.map (·.key) → calls.countP (·.key == key) = 0

/-- An entry after counting a call is an old one of another name, the old one of the name with a
greater count, or the call itself when no entry had its name. -/
theorem mem_tally_cases {entries : List Callee} (hnodup : (entries.map (·.key)).Nodup)
    {new x : Callee} (h : x ∈ tally entries new) :
    x ∈ entries ∧ x.key ≠ new.key ∨
      (∃ old ∈ entries, old.key = new.key ∧ x = { old with count := old.count + new.count }) ∨
      x = new ∧ new.key ∉ entries.map (·.key) := by
  induction entries with
  | nil => exact .inr (.inr ⟨List.mem_singleton.1 h, by simp⟩)
  | cons old entries ih =>
    rw [List.map_cons, List.nodup_cons] at hnodup
    rw [tally] at h
    by_cases hkey : old.key = new.key
    · rw [if_pos (by simpa using hkey)] at h
      rcases List.mem_cons.1 h with rfl | h
      · exact .inr (.inl ⟨old, List.mem_cons_self, hkey, rfl⟩)
      · refine .inl ⟨List.mem_cons_of_mem _ h, fun hx => hnodup.1 ?_⟩
        rw [hkey, ← hx]
        exact List.mem_map_of_mem h
    · rw [if_neg (by simpa using hkey)] at h
      rcases List.mem_cons.1 h with rfl | h
      · exact .inl ⟨List.mem_cons_self, hkey⟩
      · rcases ih hnodup.2 h with ⟨hx, hne⟩ | ⟨y, hy, hynew, hx⟩ | ⟨hx, hfresh⟩
        · exact .inl ⟨List.mem_cons_of_mem _ hx, hne⟩
        · exact .inr (.inl ⟨y, List.mem_cons_of_mem _ hy, hynew, hx⟩)
        · exact .inr (.inr ⟨hx, by simpa [Ne.symm hkey] using hfresh⟩)

/-- **One more call.** -/
theorem Tallies.tally {calls entries : List Callee} (h : Tallies calls entries) {new : Callee}
    (hnew : new.count = 1) : Tallies (calls ++ [new]) (Callee.tally entries new) where
  nodup := by
    rw [map_key_tally]
    split
    · exact h.nodup
    · next hfresh =>
      refine List.nodup_append.2 ⟨h.nodup, by simp, fun key hkey key' hkey' heq => hfresh ?_⟩
      rwa [← List.mem_singleton.1 hkey', ← heq]
  count x hx := by
    rw [List.countP_append, List.countP_singleton]
    rcases mem_tally_cases h.nodup hx with ⟨hx, hne⟩ | ⟨old, hold, hkey, rfl⟩ | ⟨rfl, hfresh⟩
    · simp [h.count x hx, Ne.symm hne]
    · simp [h.count old hold, hkey, hnew]
    · simp [h.missing _ hfresh, hnew]
  missing key hkey := by
    rw [mem_map_key_tally, not_or] at hkey
    rw [List.countP_append, List.countP_singleton, h.missing key hkey.1]
    simp [Ne.symm hkey.2]

theorem Tallies.foldl {calls done entries : List Callee} (h : Tallies done entries)
    (hcalls : ∀ x ∈ calls, x.count = 1) :
    Tallies (done ++ calls) (calls.foldl Callee.tally entries) := by
  induction calls generalizing done entries with
  | nil => simpa using h
  | cons call calls ih =>
    rw [List.append_cons]
    exact ih (h.tally (hcalls call List.mem_cons_self))
      fun x hx => hcalls x (List.mem_cons_of_mem call hx)

end Callee

namespace Method

/-- The number of calls in the body. -/
def callTotal (m : Method) : Nat :=
  m.body.countP (·.invoked?.isSome)

theorem length_invocations (m : Method) : m.invocations.length = m.callTotal := by
  rw [invocations, List.length_filterMap_eq_countP, callTotal]
  simp

end Method

namespace Catalog

variable {c : Catalog} {m r : MethodSymbol} {i : Instruction}

/-- The entries for the calls of a method count its calls by name. -/
theorem tallies_callees (c : Catalog) (m : MethodSymbol) :
    Callee.Tallies (c.callSites m) (c.callees m) := by
  have hone : ∀ y ∈ c.callSites m, y.count = 1 := by
    intro y hy
    obtain ⟨target, _, -, rfl⟩ := mem_callSites_iff.1 hy
    rfl
  have hempty : Callee.Tallies [] [] := ⟨by simp, by simp, by simp⟩
  exact hempty.foldl hone

/-- **An entry for the calls of a method has the number of calls of its name.** -/
theorem count_callee {x : Callee} (hx : x ∈ c.callees m) :
    x.count = (c.callSites m).countP (·.key == x.key) :=
  (tallies_callees c m).count x hx

theorem length_callSites_le (c : Catalog) (m : MethodSymbol) :
    (c.callSites m).length ≤ m.method.body.length := by
  rw [callSites, List.length_map, Method.invocations]
  exact List.length_filterMap_le _ _

/-- The instruction is a call that is found as this method, looked up from the assembly of the
method that it stands in. -/
def CallsTo (c : Catalog) (m r : MethodSymbol) (i : Instruction) : Prop :=
  ∃ target, i.action = .invoke target ∧ c.resolveMethod? target (some m.assembly.name) = some r

open Classical in
/-- The number of calls in the body of `m` that are found as `r`. -/
noncomputable def siteCount (c : Catalog) (m r : MethodSymbol) : Nat :=
  m.method.body.countP fun i => c.CallsTo m r i

theorem siteCount_le_countP {p : Instruction → Bool}
    (h : ∀ i ∈ m.method.body, c.CallsTo m r i → p i = true) :
    c.siteCount m r ≤ m.method.body.countP p := by
  classical
  exact List.countP_mono_left fun i hi hr => h i hi (of_decide_eq_true hr)

theorem length_le_siteCount {sites : List Instruction} (hsites : sites.Sublist m.method.body)
    (h : ∀ i ∈ sites, c.CallsTo m r i) : sites.length ≤ c.siteCount m r := by
  classical
  have hall : sites.countP (fun i => decide (c.CallsTo m r i)) = sites.length :=
    List.countP_eq_length.2 fun i hi => decide_eq_true (h i hi)
  rw [← hall]
  exact hsites.countP_le

/-! ### Call sites in the graph -/

/-- Calls that are found as one method are entered under its name. -/
theorem siteCount_le_countP_callSites (c : Catalog) (m r : MethodSymbol) :
    c.siteCount m r ≤ (c.callSites m).countP (·.key == r.fullName) := by
  rw [callSites, List.countP_map, Method.invocations, List.countP_filterMap]
  refine siteCount_le_countP fun i _ hi => ?_
  obtain ⟨target, haction, hr⟩ := hi
  simp [Instruction.invoked?, haction, key_calleeOf_of_some hr]

theorem callCount_expand (c : Catalog) (remaining : Nat) (m : MethodSymbol) (depth callCount : Nat)
    (expanded : List String) :
    (c.expand remaining m depth callCount expanded).1.method = m.fullName ∧
      (c.expand remaining m depth callCount expanded).1.callCount = callCount := by
  cases remaining with
  | zero => exact ⟨rfl, rfl⟩
  | succ remaining =>
    rw [expand_succ]
    exact ⟨rfl, rfl⟩

/-- The node for calls of a method has their name and number, whatever becomes of it. -/
theorem callCount_childOf {x : Callee} (hx : x ∈ c.callees m) (remaining depth : Nat)
    (expanded : List String) :
    (c.childOf remaining depth expanded x).1.method = x.key ∧
      (c.childOf remaining depth expanded x).1.callCount = x.count := by
  unfold childOf
  cases hr : x.resolved with
  | none => exact ⟨rfl, rfl⟩
  | some r =>
    rw [(callees_resolved hx hr).2]
    dsimp only
    split
    · exact ⟨rfl, rfl⟩
    · exact callCount_expand c remaining r (depth + 1) x.count expanded

theorem exists_child_of_callee {xs : List Callee} (hxs : ∀ x ∈ xs, x ∈ c.callees m)
    (remaining depth : Nat) (expanded : List String) {x : Callee} (hx : x ∈ xs) :
    ∃ child ∈ (c.childrenOf remaining depth expanded xs).1,
      child.method = x.key ∧ child.callCount = x.count := by
  induction xs generalizing expanded with
  | nil => exact absurd hx List.not_mem_nil
  | cons y xs ih =>
    rw [childrenOf]
    rcases List.mem_cons.1 hx with rfl | hx
    · exact ⟨_, List.mem_cons_self, callCount_childOf (hxs x List.mem_cons_self) _ _ _⟩
    · obtain ⟨child, hchild, h⟩ := ih (fun z hz => hxs z (List.mem_cons_of_mem y hz)) _ hx
      exact ⟨child, List.mem_cons_of_mem _ hchild, h⟩

/-- The root of a call graph that is not cut off at once has a node for each name that it calls,
with the number of calls of that name. -/
theorem exists_child_callGraph {maxDepth : Nat} (hdepth : 1 ≤ maxDepth) {x : Callee}
    (hx : x ∈ c.callees m) :
    ∃ child ∈ (c.callGraph m maxDepth).calls,
      child.method = x.key ∧ child.callCount = (c.callSites m).countP (·.key == x.key) := by
  obtain ⟨remaining, rfl⟩ : ∃ n, maxDepth = n + 1 := ⟨maxDepth - 1, by omega⟩
  rw [callGraph, expand_succ, ← count_callee hx]
  exact exists_child_of_callee (fun _ h => h) remaining 0 _ hx

/-! ### Call sites in the scan -/

/-- A method that is found for a reference is one that the reference can mean. -/
theorem targets_of_resolveMethod? {target : MemberRef} {context : Option String}
    (h : c.resolveMethod? target context = some r) :
    target.declaringType = r.type.fullName ∧ target.targets r.method = true := by
  obtain ⟨s, hs, h⟩ := Option.bind_eq_some_iff.1 h
  obtain ⟨f, hf, h⟩ := Option.bind_eq_some_iff.1 h
  rw [Option.pure_def, Option.some.injEq] at h
  subst h
  exact ⟨(resolveType?_sound hs).2.symm, List.find?_some hf⟩

theorem CallsTo.callsMethod (h : c.CallsTo m r i) : callsMethod r i.action = true := by
  obtain ⟨target, haction, hr⟩ := h
  exact callsMethod_iff.2 ⟨target, haction, targets_of_resolveMethod? hr⟩

/-- The records of the calls of `r` in the body of `m`. -/
def recordsIn (m r : MethodSymbol) : List Usage :=
  (m.method.body.filter fun i => callsMethod r i.action).map (Usage.ofInstruction m .call)

theorem recordsIn_sublist (hm : c.Declares m) (hbody : m.method.hasBody = true) :
    (recordsIn m r).Sublist (c.callers r) := by
  obtain ⟨before, after, hsplit⟩ :=
    List.append_of_mem (mem_bodies_iff.2 ⟨hm.type, hm.method, hbody⟩)
  rw [callers, usages, hsplit, List.flatMap_append, List.flatMap_cons]
  exact (List.sublist_append_left _ _).trans (List.sublist_append_right _ _)

theorem siteCount_le_countP_recordsIn (c : Catalog) (m r : MethodSymbol) :
    c.siteCount m r ≤ (recordsIn m r).countP
      fun u => u.member == m.fullName && u.assembly == m.assembly.name := by
  rw [recordsIn, List.countP_map, List.countP_filter]
  refine siteCount_le_countP fun i _ hi => ?_
  simp [hi.callsMethod, Usage.ofInstruction]

/-- **The call graph and the scan for callers agree at every call.** Take a call in a declared
method `m` that is found as the method `r`. The scan for callers of `r` has a record of it, with its
offset; the scan has at least as many records in `m` as there are calls in `m` found as `r`; and in
every call graph of `m` that is not cut off at once, a node below the root has the name of `r` and
counts at least as many calls. The count is no greater than the number of instructions, so that it
fits in 32 bits when that does. -/
theorem callSites_agree (hm : c.Declares m) (hsize : m.method.body.length < 2 ^ 32)
    (hi : i ∈ m.method.body) (hr : c.CallsTo m r i) :
    (∃ u ∈ c.callers r, u.member = m.fullName ∧ u.declaringType = m.type.fullName ∧
      u.assembly = m.assembly.name ∧ u.kind = .call ∧ u.offset = i.offset) ∧
    c.siteCount m r ≤ (c.callers r).countP
      (fun u => u.member == m.fullName && u.assembly == m.assembly.name) ∧
    ∀ maxDepth, 1 ≤ maxDepth → ∃ child ∈ (c.callGraph m maxDepth).calls,
      child.method = r.fullName ∧ c.siteCount m r ≤ child.callCount ∧
        child.callCount < 2 ^ 32 := by
  have hbody : m.method.hasBody = true := by
    cases h : m.method.instructions with
    | none => simp [Method.body, h] at hi
    | some is => simp [Method.hasBody, h]
  have hsub : (recordsIn m r).Sublist (c.callers r) := recordsIn_sublist hm hbody
  refine ⟨?_, ?_, fun maxDepth hdepth => ?_⟩
  · have hrecord : Usage.ofInstruction m .call i ∈ recordsIn m r :=
      List.mem_map_of_mem (List.mem_filter.2 ⟨hi, hr.callsMethod⟩)
    exact ⟨_, hsub.subset hrecord, rfl, rfl, rfl, rfl, rfl⟩
  · exact (siteCount_le_countP_recordsIn c m r).trans (hsub.countP_le)
  · obtain ⟨target, haction, hresolve⟩ := hr
    have hcall : (target, i.offset) ∈ m.method.invocations := by
      refine List.mem_filterMap.2 ⟨i, hi, ?_⟩
      simp [Instruction.invoked?, haction]
    -- The call is entered under the name of `r`, together with all calls of that name.
    obtain ⟨x, hx, hkey⟩ := exists_callee_of_call (c := c) hcall
    rw [key_calleeOf_of_some hresolve] at hkey
    obtain ⟨child, hchild, hname, hcount⟩ := exists_child_callGraph hdepth hx
    rw [hkey] at hname hcount
    refine ⟨child, hchild, hname, ?_, ?_⟩
    · rw [hcount]
      exact siteCount_le_countP_callSites c m r
    · have hle : child.callCount ≤ (c.callSites m).length := by
        rw [hcount]
        exact List.countP_le_length
      have hlength := length_callSites_le c m
      omega

/-- Two assemblies declare a method `T.m(Int)`. Of four calls of a method `m`, the first, without
parameter types, and the second are found as the one in `Lib`, the third as another overload, and
the last as the one in `App`. -/
theorem callSites_agree_overloads :
    let number : TypeSig := { fullName := "Int" }
    let plain : Method := .named "m"
    let taking : Method := { plain with parameters := [{ name := "x", type := number }] }
    let call (offset : UInt32) (assembly : Option String) (parameters : Option (List TypeSig)) :
        Instruction := { offset := some offset, opcode := .call, operand := some (.method
          { declaringType := "T", name := "m", assembly, parameters }) }
    let first := call 0 (some "Lib") none
    let second := call 5 (some "Lib") (some [number])
    let main : Method := { Method.named "Main" with instructions := some [
      first, second, call 10 (some "Lib") (some []), call 15 none none] }
    let t : TypeDef := { TypeDef.named "T" with methods := [taking, plain] }
    let p : TypeDef := { TypeDef.named "P" with methods := [main] }
    let lib : Assembly := .ofTypes "Lib" [t]
    let app : Assembly := .ofTypes "App" [p, { TypeDef.named "T" with methods := [taking] }]
    let c : Catalog := .ofAssemblies [app, lib]
    let m : MethodSymbol := ⟨⟨app, p⟩, main⟩
    let r : MethodSymbol := ⟨⟨lib, t⟩, taking⟩
    c.Declares m ∧ m.method.body.length < 2 ^ 32 ∧ second ∈ m.method.body ∧ c.CallsTo m r second ∧
      (∃ u ∈ c.callers r, u.member = "P.Main()" ∧ u.declaringType = "P" ∧ u.assembly = "App" ∧
        u.offset = some 5) ∧
      (2 ≤ c.siteCount m r ∧ c.siteCount m r ≤ (c.callers r).countP
        (fun u => u.member == m.fullName && u.assembly == m.assembly.name)) ∧
      ∃ child ∈ (c.callGraph m 1).calls, child.method = "T.m(Int)" ∧
        c.siteCount m r ≤ child.callCount := by
  intro number plain taking call first second main t p lib app c m r
  have hm : c.Declares m := ⟨List.mem_cons_self, List.mem_cons_self⟩
  have hsize : m.method.body.length < 2 ^ 32 := by decide
  have ht : c.resolveType? "T" (some "Lib") = some ⟨lib, t⟩ :=
    TypeIndex.resolveType?_eq_some_iff.2 ⟨⟨1, [0, 0]⟩, by decide +kernel, rfl, rfl⟩
  have hfirst : c.CallsTo m r first :=
    ⟨_, rfl, resolveMethod?_eq_some ht (List.find?_cons_of_pos (by decide +kernel))⟩
  have hsecond : c.CallsTo m r second :=
    ⟨_, rfl, resolveMethod?_eq_some ht (List.find?_cons_of_pos (by decide +kernel))⟩
  have hmem : second ∈ m.method.body := List.mem_cons_of_mem _ List.mem_cons_self
  have hcount : [first, second].length ≤ c.siteCount m r := by
    refine length_le_siteCount (List.sublist_append_left [first, second] _) fun i hi => ?_
    rcases List.mem_cons.1 hi with rfl | hi
    · exact hfirst
    · rw [List.mem_singleton.1 hi]
      exact hsecond
  have hmain : m.fullName = "P.Main()" := by decide +kernel
  have hname : r.fullName = "T.m(Int)" := by decide +kernel
  obtain ⟨⟨u, hu, hmember, htype, hassembly, -, hoffset⟩, hscan, hgraph⟩ :=
    callSites_agree hm hsize hmem hsecond
  obtain ⟨child, hchild, hmethod, hle, -⟩ := hgraph 1 (Nat.le_refl 1)
  exact ⟨hm, hsize, hmem, hsecond, ⟨u, hu, hmember.trans hmain, htype, hassembly, hoffset⟩,
    ⟨hcount, hscan⟩, child, hchild, hmethod.trans hname, hle⟩

end Catalog

end AssemblyAtlas
