import AssemblyAtlas.Proofs.Analysis.CallGraph
import AssemblyAtlas.Proofs.Analysis.Dependency

/-!
# Catalogs that find the same types

Two catalogs agree when they hold the same assemblies and find the same type for every name,
provided that the preferred name has no white space around it (`Catalog.Agree`). The names that a
catalog itself prefers are recorded in its assemblies (`Assembly.scopes`). When these are tidy too,
the catalogs also resolve every reference in their own types and methods in the same way.
-/

namespace AssemblyAtlas

/-! ### Recorded scopes -/

/-- The assembly that a signature names, if it names one. -/
def TypeSig.scopes (s : TypeSig) : List String :=
  s.assembly.toList

/-- The assemblies that a reference names, for its type and for those of its parameters. -/
def MemberRef.scopes (r : MemberRef) : List String :=
  r.assembly.toList ++ (r.parameters.getD []).flatMap (·.scopes)

/-- The assemblies that an operand names. -/
def Operand.scopes : Operand → List String
  | .method r => r.scopes
  | .field r => r.scopes
  | .type s => s.scopes

/-- The assemblies that the signature and the body of a method name. -/
def Method.scopes (m : Method) : List String :=
  m.returnType.toList.flatMap (·.scopes) ++ m.parameters.flatMap (·.type.scopes) ++
    m.body.flatMap fun i => i.operand.toList.flatMap (·.scopes)

/-- The assemblies that a type names, apart from the types nested in it. -/
def TypeDef.scopes (t : TypeDef) : List String :=
  t.baseType.toList.flatMap (·.scopes) ++ t.interfaces.flatMap (·.scopes) ++
    t.fields.flatMap (·.type.scopes) ++ t.methods.flatMap (·.scopes) ++
    t.properties.flatMap (·.type.scopes)

/-- All assemblies that an assembly names. -/
def Assembly.scopes (a : Assembly) : List String :=
  a.types.flatMap (·.scopes)

theorem TypeDef.mem_scopes_of_mem_mentions {t : TypeDef} {m : Mention} (hm : m ∈ t.mentions)
    {name : String} (h : name ∈ m.sig.assembly) : name ∈ t.scopes := by
  have hsig : name ∈ m.sig.scopes := Option.mem_toList.2 h
  simp only [mentions, Method.mentions, List.mem_append, List.mem_map, List.mem_flatMap] at hm
  simp only [scopes, Method.scopes, List.mem_append, List.mem_flatMap]
  rcases hm with ((⟨s, hs, rfl⟩ | ⟨s, hs, rfl⟩) | ⟨f, hf, rfl⟩) |
    ⟨f, hf, ⟨s, hs, rfl⟩ | ⟨p, hp, rfl⟩⟩
  · exact .inl (.inl (.inl (.inl ⟨s, hs, hsig⟩)))
  · exact .inl (.inl (.inl (.inr ⟨s, hs, hsig⟩)))
  · exact .inl (.inl (.inr ⟨f, hf, hsig⟩))
  · exact .inl (.inr ⟨f, hf, .inl (.inl ⟨s, hs, hsig⟩)⟩)
  · exact .inl (.inr ⟨f, hf, .inl (.inr ⟨p, hp, hsig⟩)⟩)

theorem Instruction.operand_of_invoked? {i : Instruction} {r : MemberRef}
    (h : i.invoked? = some r) : i.operand = some (.method r) := by
  unfold invoked? action at h
  split at h
  · next heq => split at heq <;> simp_all
  · exact absurd h (by simp)

theorem Method.mem_scopes_of_mem_invocations {m : Method} {r : MemberRef} {offset : Option UInt32}
    (hr : (r, offset) ∈ m.invocations) {name : String} (h : name ∈ r.assembly) :
    name ∈ m.scopes := by
  obtain ⟨i, hi, hinv⟩ := List.mem_filterMap.1 hr
  obtain ⟨r', hr', heq⟩ := Option.map_eq_some_iff.1 hinv
  obtain ⟨rfl, -⟩ := Prod.mk.inj heq
  have hoperand := Instruction.operand_of_invoked? hr'
  simp only [scopes, List.mem_append, List.mem_flatMap]
  refine .inr ⟨i, hi, .method r', by simp [hoperand], ?_⟩
  exact List.mem_append_left _ (Option.mem_toList.2 h)

/-! ### Agreement -/

namespace Catalog

/-- The catalogs hold the same assemblies, whose names and scopes are tidy, and find the same types
for tidy preferred names. A text is tidy when it has no white space around it. -/
structure Agree (c d : Catalog) : Prop where
  assemblies : c.assemblies = d.assemblies
  resolveType? : ∀ (n : String) {preferred : Option String},
    (∀ name ∈ preferred, Text.trim name = name) →
      c.resolveType? n preferred = d.resolveType? n preferred
  tidyNames : ∀ a ∈ c.assemblies, Text.trim a.name = a.name
  tidyScopes : ∀ a ∈ c.assemblies, ∀ name ∈ a.scopes, Text.trim name = name

namespace Agree

variable {c d : Catalog} (h : c.Agree d)
include h

theorem types : c.types = d.types := by
  rw [Catalog.types, Catalog.types, h.assemblies]

theorem tidy_name {s : TypeSymbol} (hs : s ∈ c.types) :
    Text.trim s.assembly.name = s.assembly.name :=
  h.tidyNames _ (mem_types_iff.1 hs).1

theorem tidy_scope {s : TypeSymbol} (hs : s ∈ c.types) {name : String}
    (hname : name ∈ s.type.scopes) : Text.trim name = name := by
  obtain ⟨ha, ht⟩ := mem_types_iff.1 hs
  exact h.tidyScopes _ ha name (List.mem_flatMap.2 ⟨s.type, ht, hname⟩)

/-- What a declared type mentions is resolved in the same way. -/
theorem resolveSig? {s : TypeSymbol} (hs : s ∈ c.types) {m : Mention} (hm : m ∈ s.type.mentions) :
    c.resolveSig? m.sig s.assembly.name = d.resolveSig? m.sig s.assembly.name := by
  refine h.resolveType? _ fun name hname => ?_
  rw [Option.mem_some] at hname
  subst hname
  cases hscope : m.sig.assembly with
  | none => exact h.tidy_name hs
  | some scope => exact h.tidy_scope hs (TypeDef.mem_scopes_of_mem_mentions hm hscope)

/-- What a declared method calls is resolved in the same way. -/
theorem calleeOf {m : MethodSymbol} (hm : c.Declares m) {r : MemberRef} {offset : Option UInt32}
    (hr : (r, offset) ∈ m.method.invocations) : c.calleeOf m r = d.calleeOf m r := by
  have hresolve : c.resolveMethod? r (some m.assembly.name) =
      d.resolveMethod? r (some m.assembly.name) := by
    unfold resolveMethod?
    rw [h.resolveType?]
    intro name hname
    rcases Option.or_eq_some_iff.1 hname with hscope | ⟨-, hown⟩
    · refine h.tidy_scope hm.type (List.mem_append_left _ (List.mem_append_right _ ?_))
      exact List.mem_flatMap.2 ⟨m.method, hm.method, Method.mem_scopes_of_mem_invocations hr hscope⟩
    · rw [← Option.some.inj hown]
      exact h.tidy_name hm.type
  rw [Catalog.calleeOf, Catalog.calleeOf, hresolve]

theorem callees {m : MethodSymbol} (hm : c.Declares m) : c.callees m = d.callees m := by
  have hsites : c.callSites m = d.callSites m :=
    List.map_congr_left fun ⟨_, _⟩ hr => h.calleeOf hm hr
  rw [callees_eq, callees_eq, hsites]

end Agree

end Catalog

end AssemblyAtlas
