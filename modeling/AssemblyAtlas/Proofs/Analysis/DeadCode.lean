import AssemblyAtlas.Analysis.DeadCode
import AssemblyAtlas.Analysis.Usage
import AssemblyAtlas.Proofs.Catalog.Lookup
import AssemblyAtlas.Proofs.Sorted

/-!
# Dead code is code without usages

Dead code is found by comparing full names as texts, while the scans for callers compare declaring
types, names and parameter types one by one. A text does not always tell its parts: a method `C` of
the type `A.B` and a method `B.C` of the type `A` have the same full name. Where the texts of an
assembly do tell them (`Assembly.FullNamesTell`, `Assembly.ShortNamesTell`), the dead methods are
those without a caller in the assembly, and the dead types those without a reference in it that are
not their own base types (`Catalog.deadCode_agrees`).
-/

namespace AssemblyAtlas

/-! ### Names and their parts -/

namespace MemberRef

/-- The references agree in the declaring type, the name and, where both have them, the names of
the parameter types. -/
def Agrees (r q : MemberRef) : Prop :=
  r.declaringType = q.declaringType ∧ r.name = q.name ∧
    ∀ ps ∈ r.parameters, ∀ qs ∈ q.parameters, ps.map (·.fullName) = qs.map (·.fullName)

instance (r q : MemberRef) : Decidable (r.Agrees q) :=
  inferInstanceAs (Decidable (_ ∧ _ ∧ _))

end MemberRef

/-- The reference to a method of a type, with its parameter types. -/
def Method.refIn (m : Method) (declaringType : String) : MemberRef :=
  { declaringType, name := m.name, parameters := some m.parameterTypes }

/-- The references to the members of a type. -/
def TypeDef.memberRefs (t : TypeDef) : List MemberRef :=
  t.methods.map (·.refIn t.fullName) ++
    t.fields.map (fun f => { declaringType := t.fullName, name := f.name }) ++
    t.properties.map fun p => { declaringType := t.fullName, name := p.name }

namespace Assembly

/-- The members of an assembly and the methods called in it, as references. -/
def namedRefs (a : Assembly) : List MemberRef :=
  a.types.flatMap TypeDef.memberRefs ++ a.calledRefs

/-- In this assembly, members and methods called that have the same full name are named by the same
parts. -/
def FullNamesTell (a : Assembly) : Prop :=
  ∀ r ∈ a.namedRefs, ∀ q ∈ a.namedRefs, r.fullName = q.fullName → r.Agrees q

/-- In this assembly, a call without parameter types that reads like a method without its parameter
types names the type and the name of that method. -/
def ShortNamesTell (a : Assembly) : Prop :=
  ∀ r ∈ a.calledRefs, r.parameters = none → ∀ t ∈ a.types, ∀ m ∈ t.methods,
    r.fullName = memberFullName t.fullName m.name →
      r.declaringType = t.fullName ∧ r.name = m.name

instance (a : Assembly) : Decidable a.FullNamesTell :=
  inferInstanceAs (Decidable (∀ _ ∈ _, _))

instance (a : Assembly) : Decidable a.ShortNamesTell :=
  inferInstanceAs (Decidable (∀ _ ∈ _, _))

variable {a : Assembly} {t : TypeDef} {m : Method}

theorem refIn_mem_namedRefs (ht : t ∈ a.types) (hm : m ∈ t.methods) :
    m.refIn t.fullName ∈ a.namedRefs := by
  refine List.mem_append_left _ (List.mem_flatMap.2 ⟨t, ht, ?_⟩)
  exact List.mem_append_left _ (List.mem_append_left _ (List.mem_map_of_mem hm))

/-! ### Calls -/

theorem mem_calledRefs {r : MemberRef} :
    r ∈ a.calledRefs ↔ ∃ t ∈ a.types, ∃ m ∈ t.methods, ∃ i ∈ m.body, i.action = .invoke r := by
  have hinvoked : ∀ i : Instruction, i.invoked? = some r ↔ i.action = .invoke r := by
    intro i
    unfold Instruction.invoked?
    cases i.action <;> simp
  simp only [calledRefs, Method.invocations, List.mem_flatMap, List.map_filterMap,
    Option.map_map, List.mem_filterMap]
  simp [Function.comp_def, hinvoked]

theorem mem_calledNames {name : String} :
    name ∈ a.calledNames ↔ ∃ r ∈ a.calledRefs, r.parameters.isSome ∧ r.fullName = name := by
  simp [calledNames, List.mem_filterMap]

theorem mem_calledOverloads {name : String} :
    name ∈ a.calledOverloads ↔
      ∃ r ∈ a.calledRefs, r.parameters = none ∧ memberFullName r.declaringType r.name = name := by
  simp [calledOverloads, List.mem_filterMap]

/-- Some call in the assembly names the type and can mean the method. -/
def Calls (a : Assembly) (t : TypeDef) (m : Method) : Prop :=
  ∃ r ∈ a.calledRefs, r.declaringType = t.fullName ∧ r.targets m = true

theorem targets_of_none {r : MemberRef} (h : r.parameters = none) :
    r.targets m = true ↔ r.name = m.name := by
  simp [MemberRef.targets, h]

theorem targets_of_some {r : MemberRef} {ps : List TypeSig} (h : r.parameters = some ps) :
    r.targets m = true ↔
      r.name = m.name ∧ ps.map (·.fullName) = m.parameterTypes.map (·.fullName) := by
  simp [MemberRef.targets, h]

/-- **The names of called methods are those of the methods that are called.** A call with parameter
types is found under its full name, one without under the name that all overloads share. -/
theorem called_iff (hfull : a.FullNamesTell) (hshort : a.ShortNamesTell) (ht : t ∈ a.types)
    (hm : m ∈ t.methods) :
    m.fullNameIn t.fullName ∈ a.calledNames ∨
      memberFullName t.fullName m.name ∈ a.calledOverloads ↔ a.Calls t m := by
  rw [mem_calledNames, mem_calledOverloads]
  constructor
  · rintro (⟨r, hr, hpinned, hname⟩ | ⟨r, hr, hnone, hname⟩)
    · obtain ⟨ps, hps⟩ := Option.isSome_iff_exists.1 hpinned
      obtain ⟨htype, hmethod, hparameters⟩ :=
        hfull r (List.mem_append_right _ hr) _ (refIn_mem_namedRefs ht hm) hname
      exact ⟨r, hr, htype, (targets_of_some hps).2 ⟨hmethod, hparameters ps hps _ rfl⟩⟩
    · have hread : r.fullName = memberFullName t.fullName m.name := by
        rw [MemberRef.fullName, hnone]
        exact hname
      obtain ⟨htype, hmethod⟩ := hshort r hr hnone t ht m hm hread
      exact ⟨r, hr, htype, (targets_of_none hnone).2 hmethod⟩
  · rintro ⟨r, hr, htype, htargets⟩
    cases hps : r.parameters with
    | none =>
      rw [targets_of_none hps] at htargets
      exact .inr ⟨r, hr, hps, by rw [htype, htargets]⟩
    | some ps =>
      obtain ⟨hmethod, hparameters⟩ := (targets_of_some hps).1 htargets
      refine .inl ⟨r, hr, by simp [hps], ?_⟩
      rw [MemberRef.fullName, hps]
      simp only [Method.fullNameIn, methodFullName, htype, hmethod, hparameters]

theorem mem_consideredMethods {includePrivate : Bool} :
    (t, m) ∈ a.consideredMethods includePrivate ↔
      t ∈ a.types ∧ m ∈ t.methods ∧ considers includePrivate m.visibility = true := by
  simp only [consideredMethods, List.mem_flatMap, List.mem_map, List.mem_filter, Prod.mk.injEq]
  constructor
  · rintro ⟨t, ht, m, ⟨hm, hv⟩, rfl, rfl⟩
    exact ⟨ht, hm, hv⟩
  · rintro ⟨ht, hm, hv⟩
    exact ⟨t, ht, m, ⟨hm, hv⟩, rfl, rfl⟩

theorem mem_deadMethods_iff (hfull : a.FullNamesTell) (hshort : a.ShortNamesTell)
    {includePrivate : Bool} (h : (t, m) ∈ a.consideredMethods includePrivate) :
    m.fullNameIn t.fullName ∈ (a.deadCode includePrivate).methods ↔ ¬ a.Calls t m := by
  obtain ⟨ht, hm, -⟩ := mem_consideredMethods.1 h
  rw [← called_iff hfull hshort ht hm, not_or]
  simp only [deadCode, mem_distinctSorted, List.mem_map, List.mem_filter, Bool.and_eq_true,
    Bool.not_eq_true', List.contains_eq_mem, decide_eq_false_iff_not, Prod.exists]
  constructor
  · -- A method that is listed may be another one of the same full name, but not of other parts.
    rintro ⟨u, f, ⟨hf, hnames, hoverloads⟩, heq⟩
    obtain ⟨hu, hfu, -⟩ := mem_consideredMethods.1 hf
    obtain ⟨htype, hmethod, -⟩ := hfull (f.refIn u.fullName) (refIn_mem_namedRefs hu hfu)
      (m.refIn t.fullName) (refIn_mem_namedRefs ht hm) heq
    have hshared : memberFullName u.fullName f.name = memberFullName t.fullName m.name :=
      congrArg₂ memberFullName htype hmethod
    exact ⟨heq ▸ hnames, hshared ▸ hoverloads⟩
  · rintro ⟨hnames, hoverloads⟩
    exact ⟨t, m, ⟨h, hnames, hoverloads⟩, rfl⟩

/-! ### Mentions -/

theorem mem_mentionedNames {name : String} :
    name ∈ a.mentionedNames ↔ ∃ t ∈ a.types, ∃ f ∈ t.mentions, f.sig.fullName = name := by
  simp [mentionedNames]

theorem mem_deadTypes_iff {includePrivate : Bool} (h : t ∈ a.consideredTypes includePrivate) :
    t.fullName ∈ (a.deadCode includePrivate).types ↔ t.fullName ∉ a.mentionedNames := by
  simp only [deadCode, mem_distinctSorted, List.mem_map, List.mem_filter, Bool.not_eq_true',
    List.contains_eq_mem, decide_eq_false_iff_not]
  constructor
  · rintro ⟨u, ⟨-, hu⟩, heq⟩
    rwa [← heq]
  · intro hfree
    exact ⟨t, ⟨h, hfree⟩, rfl⟩

end Assembly

theorem Mention.refersTo_iff {f : Mention} {name inside : String} :
    f.refersTo name inside = true ↔
      f.sig.fullName = name ∧ ¬ (f.context = .baseType ∧ inside = name) := by
  simp [refersTo, -not_and, not_and_or]

/-- The base type of a type is what it mentions as its base type. -/
theorem TypeDef.exists_base_mention_iff {t : TypeDef} {sig : TypeSig} :
    (∃ f ∈ t.mentions, f.context = .baseType ∧ f.sig = sig) ↔ t.baseType = some sig := by
  constructor
  · rintro ⟨f, hf, hcontext, rfl⟩
    simp only [mentions, Method.mentions, List.mem_append, List.mem_map, List.mem_flatMap,
      Option.mem_toList] at hf
    rcases hf with ((⟨sig, hsig, rfl⟩ | ⟨sig, -, rfl⟩) | ⟨g, -, rfl⟩) |
        ⟨g, -, ⟨sig, -, rfl⟩ | ⟨p, -, rfl⟩⟩
    · exact hsig
    all_goals cases hcontext
  · intro h
    refine ⟨⟨.baseType, sig, t.fullName, none⟩, ?_, rfl, rfl⟩
    simp [mentions, h]

namespace Catalog

variable {c : Catalog} {a : Assembly}

/-! ### What the scans find in one assembly -/

theorem eq_of_name_eq (hnames : (c.assemblies.map (·.name)).Nodup) {b : Assembly}
    (ha : a ∈ c.assemblies) (hb : b ∈ c.assemblies) (h : b.name = a.name) : b = a :=
  List.inj_on_of_nodup_map hnames hb ha h

theorem mem_bodies_iff {s : MethodSymbol} :
    s ∈ c.bodies ↔
      s.toTypeSymbol ∈ c.types ∧ s.method ∈ s.type.methods ∧ s.method.hasBody = true := by
  simp only [bodies, List.mem_filter, List.mem_flatMap, TypeSymbol.methods, List.mem_map]
  constructor
  · rintro ⟨⟨owner, howner, m, hm, rfl⟩, hbody⟩
    exact ⟨howner, hm, hbody⟩
  · rintro ⟨howner, hm, hbody⟩
    exact ⟨⟨s.toTypeSymbol, howner, s.method, hm, rfl⟩, hbody⟩

theorem callsMethod_iff {target : MethodSymbol} {action : Action} :
    callsMethod target action = true ↔ ∃ r, action = .invoke r ∧
      r.declaringType = target.type.fullName ∧ r.targets target.method = true := by
  cases action <;> simp [callsMethod]

theorem exists_caller_iff (hnames : (c.assemblies.map (·.name)).Nodup) (ha : a ∈ c.assemblies)
    (target : MethodSymbol) :
    (∃ u ∈ c.callers target, u.assembly = a.name) ↔ a.Calls target.type target.method := by
  simp only [callers, usages, List.mem_flatMap, List.mem_map, List.mem_filter]
  constructor
  · rintro ⟨u, ⟨s, hs, i, ⟨hi, hcalls⟩, rfl⟩, hname⟩
    obtain ⟨howner, hm, -⟩ := mem_bodies_iff.1 hs
    obtain ⟨hassembly, htype⟩ := mem_types_iff.1 howner
    obtain ⟨r, haction, hdeclaring, htargets⟩ := callsMethod_iff.1 hcalls
    rw [eq_of_name_eq hnames ha hassembly hname] at htype
    exact ⟨r, Assembly.mem_calledRefs.2 ⟨s.type, htype, s.method, hm, i, hi, haction⟩,
      hdeclaring, htargets⟩
  · rintro ⟨r, hr, hdeclaring, htargets⟩
    obtain ⟨t, ht, m, hm, i, hi, haction⟩ := Assembly.mem_calledRefs.1 hr
    have hbody : m.hasBody = true := by
      cases h : m.instructions with
      | none => simp [Method.body, h] at hi
      | some is => simp [Method.hasBody, h]
    have hs : (⟨⟨a, t⟩, m⟩ : MethodSymbol) ∈ c.bodies :=
      mem_bodies_iff.2 ⟨mem_types_iff.2 ⟨ha, ht⟩, hm, hbody⟩
    exact ⟨_, ⟨_, hs, i, ⟨hi, callsMethod_iff.2 ⟨r, haction, hdeclaring, htargets⟩⟩, rfl⟩, rfl⟩

theorem exists_reference_iff (hnames : (c.assemblies.map (·.name)).Nodup)
    (ha : a ∈ c.assemblies) (target : TypeSymbol) :
    (∃ r ∈ c.references target, r.inAssembly = a.name) ↔
      ∃ t ∈ a.types, ∃ f ∈ t.mentions, f.refersTo target.fullName t.fullName = true := by
  simp only [references, TypeSymbol.referencesTo, List.mem_flatMap, List.mem_map, List.mem_filter]
  constructor
  · rintro ⟨r, ⟨s, hs, f, ⟨hf, hrefers⟩, rfl⟩, hname⟩
    obtain ⟨hassembly, htype⟩ := mem_types_iff.1 hs
    rw [eq_of_name_eq hnames ha hassembly hname] at htype
    exact ⟨s.type, htype, f, hf, hrefers⟩
  · rintro ⟨t, ht, f, hf, hrefers⟩
    have hs : (⟨a, t⟩ : TypeSymbol) ∈ c.types := mem_types_iff.2 ⟨ha, ht⟩
    exact ⟨_, ⟨_, hs, f, ⟨hf, hrefers⟩, rfl⟩, rfl⟩

/-- A mention of a type is a reference to it, or the type is its own base type. -/
theorem mentioned_iff {name : String} :
    name ∈ a.mentionedNames ↔
      (∃ t ∈ a.types, ∃ f ∈ t.mentions, f.refersTo name t.fullName = true) ∨
        ∃ t ∈ a.types, t.fullName = name ∧ ∃ sig, t.baseType = some sig ∧ sig.fullName = name := by
  rw [Assembly.mem_mentionedNames]
  constructor
  · rintro ⟨t, ht, f, hf, rfl⟩
    by_cases hself : f.context = .baseType ∧ t.fullName = f.sig.fullName
    · exact .inr ⟨t, ht, hself.2, f.sig, TypeDef.exists_base_mention_iff.1
        ⟨f, hf, hself.1, rfl⟩, rfl⟩
    · exact .inl ⟨t, ht, f, hf, Mention.refersTo_iff.2 ⟨rfl, hself⟩⟩
  · rintro (⟨t, ht, f, hf, hrefers⟩ | ⟨t, ht, -, sig, hsig, hname⟩)
    · exact ⟨t, ht, f, hf, (Mention.refersTo_iff.1 hrefers).1⟩
    · obtain ⟨f, hf, -, rfl⟩ := TypeDef.exists_base_mention_iff.2 hsig
      exact ⟨t, ht, f, hf, hname⟩

/-- **Dead code agrees with the scans.** Among the methods considered, those listed as dead are
those without a caller in the assembly. Among the types considered, they are those without a
reference in the assembly, unless a type of that name is its own base type. -/
theorem deadCode_agrees (hnames : (c.assemblies.map (·.name)).Nodup) (ha : a ∈ c.assemblies)
    (hfull : a.FullNamesTell) (hshort : a.ShortNamesTell) (includePrivate : Bool) :
    (∀ t m, (t, m) ∈ a.consideredMethods includePrivate →
      (m.fullNameIn t.fullName ∈ (a.deadCode includePrivate).methods ↔
        ∀ u ∈ c.callers ⟨⟨a, t⟩, m⟩, u.assembly ≠ a.name)) ∧
    ∀ t ∈ a.consideredTypes includePrivate,
      (t.fullName ∈ (a.deadCode includePrivate).types ↔
        (∀ r ∈ c.references ⟨a, t⟩, r.inAssembly ≠ a.name) ∧
          ∀ u ∈ a.types, u.fullName = t.fullName →
            ∀ sig, u.baseType = some sig → sig.fullName ≠ t.fullName) := by
  constructor
  · intro t m h
    rw [Assembly.mem_deadMethods_iff hfull hshort h,
      ← exists_caller_iff hnames ha ⟨⟨a, t⟩, m⟩]
    simp only [not_exists, not_and, ne_eq]
  · intro t h
    rw [Assembly.mem_deadTypes_iff h, mentioned_iff, not_or]
    have hreferences := exists_reference_iff hnames ha ⟨a, t⟩
    rw [TypeSymbol.fullName] at hreferences
    rw [← hreferences]
    simp only [not_exists, not_and, ne_eq]

/-- An assembly in which one overload is called by its parameter types, another method without
them, and a type is its own base type. The other overload is dead. -/
theorem deadCode_agrees_overloads :
    let text : TypeSig := { fullName := "String" }
    let number : TypeSig := { fullName := "Int" }
    let print (type : TypeSig) : Method :=
      { Method.named "Print" with parameters := [{ name := "value", type }] }
    let main : Method := { Method.named "Main" with instructions := some [
      { opcode := .call, operand := some (.method
        { declaringType := "App.View", name := "Print", parameters := some [text] }) },
      { opcode := .callVirtual, operand := some (.method
        { declaringType := "App.View", name := "Close" }) }] }
    let view : TypeDef :=
      { TypeDef.named "App.View" with methods := [print text, print number, .named "Close", main] }
    let loop : TypeDef :=
      { TypeDef.named "App.Loop" with baseType := some { fullName := "App.Loop" } }
    let a : Assembly := .ofTypes "App" [view, loop]
    let c : Catalog := .ofAssemblies [a, { name := "Core" }]
    (c.assemblies.map (·.name)).Nodup ∧ a ∈ c.assemblies ∧ a.FullNamesTell ∧ a.ShortNamesTell ∧
      (view, print number) ∈ a.consideredMethods false ∧ loop ∈ a.consideredTypes false ∧
      ("App.View.Print(Int)" ∈ (a.deadCode false).methods ↔
        ∀ u ∈ c.callers ⟨⟨a, view⟩, print number⟩, u.assembly ≠ "App") ∧
      ("App.Loop" ∈ (a.deadCode false).types ↔
        (∀ r ∈ c.references ⟨a, loop⟩, r.inAssembly ≠ "App") ∧
          ∀ u ∈ a.types, u.fullName = "App.Loop" →
            ∀ sig, u.baseType = some sig → sig.fullName ≠ "App.Loop") := by
  intro text number print main view loop a c
  have hnames : (c.assemblies.map (·.name)).Nodup := by decide +kernel
  have ha : a ∈ c.assemblies := List.mem_cons_self
  have hfull : a.FullNamesTell := by decide +kernel
  have hshort : a.ShortNamesTell := by decide +kernel
  have hdeclared : a.types = [view, loop] := rfl
  have hmethod : (view, print number) ∈ a.consideredMethods false :=
    Assembly.mem_consideredMethods.2 ⟨by simp [hdeclared], by simp [view], rfl⟩
  have hloop : loop ∈ a.consideredTypes false :=
    List.mem_filter.2 ⟨by simp [hdeclared], rfl⟩
  obtain ⟨hmethods, htypes⟩ := deadCode_agrees hnames ha hfull hshort false
  exact ⟨hnames, ha, hfull, hshort, hmethod, hloop, hmethods view (print number) hmethod,
    htypes loop hloop⟩

/-- A call of `B.C` in the type `A` without parameter types reads like one of `C` in the type `A.B`,
whose full name ends with its parameter types. All full names differ, and `C` has no caller, but it
is not listed as dead. -/
theorem deadCode_misses_same_reading :
    let callee : Method := .named "C"
    let main : Method := { Method.named "Main" with instructions := some [
      { opcode := .call, operand := some (.method { declaringType := "A", name := "B.C" }) }] }
    let t : TypeDef := { TypeDef.named "A.B" with methods := [callee, main] }
    let a : Assembly := .ofTypes "App" [t]
    let c : Catalog := .ofAssemblies [a]
    (c.assemblies.map (·.name)).Nodup ∧ a ∈ c.assemblies ∧ a.FullNamesTell ∧
      (t, callee) ∈ a.consideredMethods false ∧ callee.fullNameIn t.fullName = "A.B.C()" ∧
      c.callers ⟨⟨a, t⟩, callee⟩ = [] ∧ "A.B.C()" ∉ (a.deadCode false).methods := by
  intro callee main t a c
  have hmethod : (t, callee) ∈ a.consideredMethods false :=
    Assembly.mem_consideredMethods.2 ⟨List.mem_cons_self, List.mem_cons_self, rfl⟩
  have hfull : a.FullNamesTell := by decide +kernel
  have hcallers : c.callers ⟨⟨a, t⟩, callee⟩ = [] := by decide +kernel
  refine ⟨by decide +kernel, List.mem_cons_self, hfull, hmethod, by decide +kernel, hcallers, ?_⟩
  rw [Assembly.deadCode, mem_distinctSorted]
  decide +kernel

end Catalog

end AssemblyAtlas
