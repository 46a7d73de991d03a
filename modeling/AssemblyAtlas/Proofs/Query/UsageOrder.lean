import AssemblyAtlas.Proofs.Paging.Walk
import AssemblyAtlas.Proofs.Query.LoadedMembers
import AssemblyAtlas.Proofs.Sorted

/-!
# The order of usages

Usages are presented by their positions: assembly, declaring type, name of the method and offset. A
position leaves out the parameter types of the method, so that two overloads can use a member at
one position; these usages stay in the order in which the scan meets the overloads. The positions
come in the same order whatever the order of loading, and the usages do exactly if no position is
shared by different usages (`Query.usageOrder_determined`). Otherwise the pages of a query change
with the order of two methods (`Query.callers_follow_overloads`).
-/

namespace AssemblyAtlas

/-! ### Positions -/

namespace Usage

/-- What the order of presentation reads of a usage. -/
structure Position where
  /-- The name of the assembly that declares the type. -/
  assembly : String
  /-- The full name of the type that declares the method. -/
  declaringType : String
  /-- The name of the method that contains the use. -/
  memberName : String
  /-- Where in the body the member is used. -/
  offset : Option UInt32
deriving DecidableEq

/-- The order of positions. -/
def Position.compare : Position → Position → Ordering :=
  compareLex (compareOn (·.assembly)) (compareLex (compareOn (·.declaringType))
    (compareLex (compareOn (·.memberName)) (compareOn (·.offset))))

instance : Std.TransCmp Position.compare :=
  inferInstanceAs (Std.TransCmp (compareLex _ (compareLex _ (compareLex _ _))))

instance : Std.LawfulEqCmp Position.compare where
  eq_of_compare {p q} h := by
    obtain ⟨assembly, declaringType, memberName, offset⟩ := p
    simp only [Position.compare, compareLex, compareOn, Ordering.then_eq_eq,
      Std.compare_eq_iff_eq] at h
    obtain ⟨rfl, rfl, rfl, rfl⟩ := h
    rfl

/-- The position of a usage. -/
def position (u : Usage) : Position :=
  ⟨u.assembly, u.declaringType, u.memberName, u.offset⟩

instance : Std.TransCmp Usage.compare :=
  inferInstanceAs (Std.TransCmp (compareLex _ (compareLex _ (compareLex _ _))))

theorem compare_eq (u v : Usage) : Usage.compare u v = u.position.compare v.position := rfl

theorem compare_eq_eq_iff {u v : Usage} : Usage.compare u v = .eq ↔ u.position = v.position := by
  rw [compare_eq]
  exact Std.LawfulEqCmp.compare_eq_iff_eq

theorem ties_eq (u v : Usage) : ties Usage.compare u v = (u.position == v.position) := by
  rw [Bool.eq_iff_iff, ties_iff, compare_eq_eq_iff, beq_iff_eq]

/-- The positions are sorted without regard to what else is known of the usages. -/
theorem map_position_sort (us : List Usage) :
    (sort us).map position = sortedBy Position.compare (us.map position) := by
  rw [sortedBy_map]
  rfl

end Usage

/-! ### Scans -/

/-- What a usage tells of the method that contains it: the names of its assembly and type, and the
method. -/
def MethodSymbol.outline (m : MethodSymbol) : String × String × Method :=
  (m.assembly.name, m.type.fullName, m.method)

namespace Catalog

variable {c d : Catalog}

/-- The same methods with bodies, in any order of assemblies, modules, types and methods. -/
def SameBodies (c d : Catalog) : Prop :=
  (c.bodies.map MethodSymbol.outline).Perm (d.bodies.map MethodSymbol.outline)

/-- The usages by a method with the given outline. -/
def usagesIn (kind : UsageKind) (p : Action → Bool) (o : String × String × Method) : List Usage :=
  (o.2.2.body.filter fun i => p i.action).map fun i =>
    { member := o.2.2.fullNameIn o.2.1, memberName := o.2.2.name, declaringType := o.2.1,
      assembly := o.1, kind, offset := i.offset }

theorem usages_eq (c : Catalog) (kind : UsageKind) (p : Action → Bool) :
    c.usages kind p = (c.bodies.map MethodSymbol.outline).flatMap (usagesIn kind p) := by
  rw [List.flatMap_map]
  rfl

/-- A scan finds the same usages, whatever the order of the methods. -/
theorem SameBodies.usages_perm (h : c.SameBodies d) (kind : UsageKind) (p : Action → Bool) :
    (c.usages kind p).Perm (d.usages kind p) := by
  rw [usages_eq, usages_eq]
  exact h.flatMap_right _

theorem kind_of_mem_usages {kind : UsageKind} {p : Action → Bool} {u : Usage}
    (h : u ∈ c.usages kind p) : u.kind = kind := by
  obtain ⟨m, -, hu⟩ := List.mem_flatMap.1 h
  obtain ⟨i, -, rfl⟩ := List.mem_map.1 hu
  rfl

end Catalog

/-- Usages at one position are in one method: no two overloads use the member at one offset. -/
def Usage.InOneMethod (us : List Usage) : Prop :=
  ∀ u ∈ us, ∀ v ∈ us, u.position = v.position → u.member = v.member

/-- Where usages at one position are in one method, a scan is presented in the same way whatever
the order of the methods. -/
theorem Catalog.SameBodies.sort_usages {c d : Catalog} (h : c.SameBodies d) {kind : UsageKind}
    {p : Action → Bool} (hone : Usage.InOneMethod (c.usages kind p)) :
    Usage.sort (c.usages kind p) = Usage.sort (d.usages kind p) := by
  refine sortedBy_eq_of_perm (h.usages_perm kind p) fun u hu v hv huv => ?_
  have hposition := Usage.compare_eq_eq_iff.1 huv
  have hmember := hone u hu v hv hposition
  have hkind : u.kind = v.kind := (kind_of_mem_usages hu).trans (kind_of_mem_usages hv).symm
  obtain ⟨member, memberName, declaringType, assembly, kind, offset⟩ := u
  obtain ⟨rfl, rfl, rfl, rfl⟩ := Usage.Position.mk.inj hposition
  cases hmember
  cases hkind
  rfl

/-! ### Pages -/

namespace Query

variable {c d : Catalog} {settings : Settings} {q : SymbolQuery}

theorem page_callers {r : MethodSymbol} (h : method c q = .ok r) (cursor : Option String) :
    (callers c settings q cursor).map (·.page) =
      Page.fetch (Usage.sort (c.callers r)) settings.pageSize cursor := by
  simp only [callers, h, Except.ok_bind, Except.map_bind_pure]
  rfl

theorem page_readers {r : FieldSymbol} (h : field c q = .ok r) (cursor : Option String) :
    (readers c settings q cursor).map (·.page) =
      Page.fetch (Usage.sort (c.readers r)) settings.pageSize cursor := by
  simp only [readers, h, Except.ok_bind, Except.map_bind_pure]
  rfl

theorem page_writers {r : FieldSymbol} (h : field c q = .ok r) (cursor : Option String) :
    (writers c settings q cursor).map (·.page) =
      Page.fetch (Usage.sort (c.writers r)) settings.pageSize cursor := by
  simp only [writers, h, Except.ok_bind, Except.map_bind_pure]
  rfl

/-- The queries for the usages of one member have the same pages in two catalogs, where usages at
one position are in one method. -/
structure SamePages (c d : Catalog) (settings : Settings) (q : SymbolQuery) : Prop where
  callers : ∀ r s, method c q = .ok r → method d q = .ok s → r.type.fullName = s.type.fullName →
    r.method = s.method → Usage.InOneMethod (c.callers r) → ∀ cursor,
      (Query.callers c settings q cursor).map (·.page) =
        (Query.callers d settings q cursor).map (·.page)
  readers : ∀ r s, field c q = .ok r → field d q = .ok s → r.fullName = s.fullName →
    Usage.InOneMethod (c.readers r) → ∀ cursor,
      (Query.readers c settings q cursor).map (·.page) =
        (Query.readers d settings q cursor).map (·.page)
  writers : ∀ r s, field c q = .ok r → field d q = .ok s → r.fullName = s.fullName →
    Usage.InOneMethod (c.writers r) → ∀ cursor,
      (Query.writers c settings q cursor).map (·.page) =
        (Query.writers d settings q cursor).map (·.page)

theorem samePages (h : c.SameBodies d) (settings : Settings) (q : SymbolQuery) :
    SamePages c d settings q where
  callers r s hr hs htype hmethod hone cursor := by
    have hcalls : Catalog.callsMethod s = Catalog.callsMethod r := by
      funext action
      cases action <;> simp only [Catalog.callsMethod, htype, hmethod]
    rw [page_callers hr, page_callers hs, Catalog.callers, Catalog.callers, hcalls,
      h.sort_usages hone]
  readers r s hr hs hname hone cursor := by
    rw [page_readers hr, page_readers hs, Catalog.readers, Catalog.readers, ← hname,
      h.sort_usages hone]
  writers r s hr hs hname hone cursor := by
    rw [page_writers hr, page_writers hs, Catalog.writers, Catalog.writers, ← hname,
      h.sort_usages hone]

/-- **What the order of usages depends on.** Lists of the same usages are presented with their
positions in the same order. Two lists are presented as the same list exactly if at each position
the usages come in the same order in both; so the order of a list does not matter exactly if no two
different usages in it have the same position. For catalogs with the same bodies in any order, the
queries for callers, readers and writers of a member have the same pages, if usages at one position
are in one method. -/
theorem usageOrder_determined (us vs : List Usage) (c d : Catalog) (settings : Settings)
    (q : SymbolQuery) :
    (us.Perm vs → (Usage.sort us).map Usage.position = (Usage.sort vs).map Usage.position) ∧
    (Usage.sort us = Usage.sort vs ↔
      ∀ u : Usage, us.filter (u.position == ·.position) = vs.filter (u.position == ·.position)) ∧
    ((∀ ws, us.Perm ws → Usage.sort us = Usage.sort ws) ↔
      ∀ u ∈ us, ∀ v ∈ us, u.position = v.position → u = v) ∧
    (c.SameBodies d → SamePages c d settings q) := by
  refine ⟨fun h => ?_, ?_, ?_, fun h => samePages h settings q⟩
  · rw [Usage.map_position_sort, Usage.map_position_sort]
    exact sortedBy_congr (h.map _)
  · simp only [← Usage.ties_eq]
    exact sortedBy_eq_iff
  · simp only [← Usage.compare_eq_eq_iff]
    exact sortedBy_perm_invariant_iff

/-- A type with a method `Go` and two overloads of a method `Run`, which call it at the offsets `i`
and `j`; the overloads come in either order. -/
def runner (i j : UInt32) (swapped : Bool) : TypeDef :=
  let call (offset : UInt32) : Instruction :=
    { offset := some offset, opcode := .call
      operand := some (.method { declaringType := "T", name := "Go" }) }
  let plain : Method := { Method.named "Run" with instructions := some [call i] }
  let taking : Method := { Method.named "Run" with
    parameters := [{ name := "x", type := { fullName := "Int" } }]
    instructions := some [call j] }
  { TypeDef.named "T" with
    methods := .named "Go" :: if swapped then [taking, plain] else [plain, taking] }

/-- The catalog of that type. -/
def runnerCatalog (i j : UInt32) (swapped : Bool) : Catalog :=
  .ofAssemblies [.ofTypes "App" [runner i j swapped]]

/-- The method that the overloads call. -/
def runnerTarget (i j : UInt32) (swapped : Bool) : MethodSymbol :=
  ⟨⟨.ofTypes "App" [runner i j swapped], runner i j swapped⟩, .named "Go"⟩

theorem sameBodies_runner (i j : UInt32) :
    (runnerCatalog i j false).SameBodies (runnerCatalog i j true) :=
  .swap _ _ _

theorem method_runner (i j : UInt32) (swapped : Bool) :
    method (runnerCatalog i j swapped) { name := "T.Go" } = .ok (runnerTarget i j swapped) := by
  have hname : Limits.Within "T.Go" := by decide +kernel
  rw [method_eq hname (by decide) (by decide +kernel)]
  cases swapped <;> rfl

/-- Two overloads call the method, at different offsets. The scan meets them in either order. -/
theorem usageOrder_determined_apart :
    let c := runnerCatalog 0 5 false
    let d := runnerCatalog 0 5 true
    let us := c.callers (runnerTarget 0 5 false)
    let vs := d.callers (runnerTarget 0 5 true)
    c.SameBodies d ∧ Usage.InOneMethod us ∧ us ≠ vs ∧ Usage.sort us = Usage.sort vs ∧
      ∀ cursor, (callers c {} { name := "T.Go" } cursor).map (·.page) =
        (callers d {} { name := "T.Go" } cursor).map (·.page) := by
  intro c d us vs
  have hbodies : c.SameBodies d := sameBodies_runner 0 5
  have hapart : ∀ u ∈ us, ∀ v ∈ us, u.position = v.position → u = v := by decide +kernel
  have hone : Usage.InOneMethod us := fun u hu v hv h => congrArg Usage.member (hapart u hu v hv h)
  obtain ⟨-, -, hsort, hpages⟩ := usageOrder_determined us vs c d {} { name := "T.Go" }
  exact ⟨hbodies, hone, by decide +kernel, hsort.2 hapart vs (hbodies.usages_perm _ _),
    (hpages hbodies).callers _ _ (method_runner 0 5 false) (method_runner 0 5 true) rfl rfl hone⟩

/-- Two overloads call the method at one offset. Their calls are the same usages in another order,
but each list is presented as it is, and the pages differ. -/
theorem callers_follow_overloads :
    let c := runnerCatalog 0 0 false
    let d := runnerCatalog 0 0 true
    let us := c.callers (runnerTarget 0 0 false)
    let vs := d.callers (runnerTarget 0 0 true)
    c.SameBodies d ∧ us.Perm vs ∧ Usage.sort us ≠ Usage.sort vs ∧
      (callers c {} { name := "T.Go" } none).map (·.page.items.map (·.member)) =
        .ok ["T.Run()", "T.Run(Int)"] ∧
      (callers d {} { name := "T.Go" } none).map (·.page.items.map (·.member)) =
        .ok ["T.Run(Int)", "T.Run()"] := by
  intro c d us vs
  let call (member : String) : Usage :=
    { member, memberName := "Run", declaringType := "T", assembly := "App", kind := .call
      offset := some 0 }
  have hus : us = [call "T.Run()", call "T.Run(Int)"] := by decide +kernel
  have hvs : vs = [call "T.Run(Int)", call "T.Run()"] := by decide +kernel
  have hsort : ∀ m n, Usage.sort [call m, call n] = [call m, call n] := fun m n => by
    have htie : Usage.compare (call m) (call n) = .eq := Usage.compare_eq_eq_iff.2 rfl
    refine List.mergeSort_of_pairwise (List.pairwise_pair.2 ?_)
    rw [htie]
    rfl
  have hpage : ∀ (c : Catalog) (r : MethodSymbol), method c { name := "T.Go" } = .ok r →
      (callers c {} { name := "T.Go" } none).map (·.page.items.map (·.member)) =
        .ok (((Usage.sort (c.callers r)).take Limits.defaultPageSize).map (·.member)) := by
    intro c r hr
    simp only [callers, hr, Except.ok_bind, Except.map_bind_pure]
    rfl
  have husort : Usage.sort us = us := by rw [hus, hsort]
  have hvsort : Usage.sort vs = vs := by rw [hvs, hsort]
  refine ⟨sameBodies_runner 0 0, (sameBodies_runner 0 0).usages_perm _ _, ?_, ?_, ?_⟩
  · rw [husort, hvsort]
    decide +kernel
  · rw [hpage c _ (method_runner 0 0 false), husort, hus]
    rfl
  · rw [hpage d _ (method_runner 0 0 true), hvsort, hvs]
    rfl

end Query

end AssemblyAtlas
