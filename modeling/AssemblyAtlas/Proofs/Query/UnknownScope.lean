import AssemblyAtlas.Proofs.Query.MethodNames
import AssemblyAtlas.Query.Command

/-!
# Queries confined to an assembly that is not loaded

A query that is confined to an assembly looks for the assembly before anything else. If it is not
loaded, a query for a type or a field fails with that error. A query for a method replaces it, as
any other error, by one that says that the method was not found. So the queries about usages of
fields, about types and about whole assemblies name the assembly that is missing, and those about
calls do not (`Query.unknown_scope_reported`).
-/

namespace AssemblyAtlas

namespace Query

variable {c : Catalog} {q : SymbolQuery} {e : Error}

/-! ### Errors of the scope -/

/-- An assembly is reported as missing if and only if no loaded assembly has the name. The name is
trimmed once more when it is looked up, since white space can be left where it was cut. -/
theorem assembly_eq_notFound_iff {s : String} (hs : Limits.normalize s ≠ "") :
    assembly c s = .error (.notFound .assembly (Limits.normalize s)) ↔
      ∀ a ∈ c.assemblies, a.isNamed (Text.trim (Limits.normalize s)) = false := by
  rw [assembly, normalizeName_of_ne_empty hs, Except.ok_bind]
  cases hfind : c.findAssemblyLoose? (Limits.normalize s) with
  | none =>
    refine iff_of_true rfl fun a ha => ?_
    simpa using List.find?_eq_none.1 hfind a ha
  | some a =>
    refine iff_of_false (by rintro ⟨⟩) fun h => ?_
    have hnamed := List.find?_some hfind
    rw [h a (List.mem_of_find?_eq_some hfind)] at hnamed
    cases hnamed

theorem scope_eq_error {s : String} (h : assembly c s = .error e) : scope c (some s) = .error e := by
  rw [scope, h, Except.error_bind]

theorem type_eq_error (h : scope c q.assembly = .error e) : type c q = .error e := by
  rw [type, h, Except.error_bind]

theorem member_eq_error {α : Type} {s : Option String} (h : scope c s = .error e) (name : String)
    (sought : Sought) (pick : TypeSymbol → String → Option α) :
    member c { name, assembly := s } sought pick = .error e := by
  rw [member, h, Except.error_bind]

/-- Whatever is wrong with the scope, a query for a method reports the method. -/
theorem method_eq_notFound (hname : Limits.normalize q.name ≠ "")
    (h : scope c q.assembly = .error e) :
    method c q = .error (.notFound .method (Limits.normalize q.name)) := by
  rw [method, normalizeName_of_ne_empty hname, Except.ok_bind]
  dsimp only
  rw [member_eq_error h]
  rfl

/-! ### Queries -/

/-- **An assembly that is not loaded is reported by the queries about fields, types and whole
assemblies**, under its name as it was looked up. The queries for the calls of a method and for its
call graph report the method in its place. -/
theorem unknown_scope_reported (settings : Settings) {s : String} (hscope : q.assembly = some s)
    (hname : Text.trim q.name ≠ "") (hs : Limits.normalize s ≠ "")
    (hunknown : ∀ a ∈ c.assemblies, a.isNamed (Text.trim (Limits.normalize s)) = false)
    {cursor : Option String} {request : PageRequest}
    (hcursor : PageRequest.ofToken cursor settings.pageSize = .ok request) :
    let missing : Error := .notFound .assembly (Limits.normalize s)
    let hidden : Error := .notFound .method (Limits.normalize q.name)
    readers c settings q cursor = .error missing ∧
      writers c settings q cursor = .error missing ∧
      references c settings q cursor = .error missing ∧
      (∀ target maxLength, dependencyPaths c settings q target maxLength cursor = .error missing) ∧
      (∀ includePrivate, deadCode c settings s includePrivate cursor = .error missing) ∧
      hierarchy c q = .error missing ∧
      callers c settings q cursor = .error hidden ∧
      ∀ maxDepth, callGraph c settings q maxDepth = .error hidden := by
  intro missing hidden
  have hassembly : assembly c s = .error missing := (assembly_eq_notFound_iff hs).2 hunknown
  have hmissing : scope c q.assembly = .error missing := hscope ▸ scope_eq_error hassembly
  have htype : type c q = .error missing := type_eq_error hmissing
  have hfield : field c q = .error missing := member_eq_error hmissing _ _ _
  have hmethod : method c q = .error hidden :=
    method_eq_notFound (Limits.normalize_ne_empty hname) hmissing
  refine ⟨?_, ?_, ?_, fun target maxLength => ?_, fun includePrivate => ?_, ?_, ?_,
    fun maxDepth => ?_⟩
  · rw [readers, hcursor, Except.ok_bind, hfield, Except.error_bind]
  · rw [writers, hcursor, Except.ok_bind, hfield, Except.error_bind]
  · rw [references, hcursor, Except.ok_bind, htype, Except.error_bind]
  · rw [dependencyPaths, hcursor, Except.ok_bind, htype, Except.error_bind]
  · rw [deadCode, hcursor, Except.ok_bind, hassembly, Except.error_bind]
  · rw [hierarchy, htype, Except.error_bind]
  · rw [callers, hcursor, Except.ok_bind, hmethod, Except.error_bind]
  · rw [callGraph, hmethod, Except.error_bind]

/-- A query for a declared method, confined to an assembly that is not loaded, whose name has white
space around it. -/
theorem unknown_scope_reported_padded :
    let worker : TypeDef := { TypeDef.named "App.Worker" with methods := [.named "Work"] }
    let c : Catalog := .ofAssemblies [.ofTypes "App" [worker]]
    let q : SymbolQuery := { name := "App.Worker.Work", assembly := some " Other " }
    Text.trim q.name ≠ "" ∧ Limits.normalize " Other " = "Other" ∧
      (∀ a ∈ c.assemblies, a.isNamed (Text.trim (Limits.normalize " Other ")) = false) ∧
      PageRequest.ofToken none ({} : Settings).pageSize = .ok (.first 10) ∧
      hierarchy c q = .error (.notFound .assembly "Other") ∧
      callers c {} q none = .error (.notFound .method "App.Worker.Work") := by
  intro worker c q
  have htrim : Text.trim q.name ≠ "" := by decide +kernel
  have hscope : Limits.normalize " Other " = "Other" := by decide +kernel
  have hname : Limits.normalize q.name = "App.Worker.Work" := by decide +kernel
  have hunknown : ∀ a ∈ c.assemblies,
      a.isNamed (Text.trim (Limits.normalize " Other ")) = false := by
    have htrimmed : Text.trim (Limits.normalize " Other ") = "Other" := by decide +kernel
    refine List.forall_mem_singleton.2 ?_
    rw [htrimmed]
    decide +kernel
  have hcursor : PageRequest.ofToken none ({} : Settings).pageSize = .ok (.first 10) := rfl
  obtain ⟨-, -, -, -, -, hhierarchy, hcallers, -⟩ :=
    unknown_scope_reported {} (q := q) rfl htrim (by rw [hscope]; decide) hunknown hcursor
  rw [hscope] at hhierarchy
  rw [hname] at hcallers
  exact ⟨htrim, hscope, hunknown, hcursor, hhierarchy, hcallers⟩

/-- The calls of a declared method are asked for in an assembly that is not loaded. The error says
that the method was not found, not that the assembly was not. -/
theorem callers_hides_unknown_scope :
    let worker : TypeDef := { TypeDef.named "App.Worker" with methods := [.named "Work"] }
    let c : Catalog := .ofAssemblies [.ofTypes "App" [worker]]
    let q : SymbolQuery := { name := "App.Worker.Work", assembly := some "Other" }
    assembly c "Other" = .error (.notFound .assembly "Other") ∧
      callers c {} q none ≠ .error (.notFound .assembly "Other") ∧
      callGraph c {} q none ≠ .error (.notFound .assembly "Other") := by
  intro worker c q
  have hassembly : assembly c "Other" = .error (.notFound .assembly "Other") := by
    have hscope : Limits.normalize "Other" = "Other" := by decide +kernel
    have htrim : Text.trim "Other" = "Other" := by decide +kernel
    have hiff := assembly_eq_notFound_iff (c := c) (s := "Other") (by rw [hscope]; decide)
    rw [hscope, htrim] at hiff
    exact hiff.2 (List.forall_mem_singleton.2 (by decide +kernel))
  have hname : Limits.normalize q.name ≠ "" := by decide +kernel
  have hmethod := method_eq_notFound (c := c) hname (scope_eq_error hassembly)
  refine ⟨hassembly, ?_, ?_⟩
  · rw [callers, show PageRequest.ofToken none ({} : Settings).pageSize = .ok (.first 10) from rfl,
      Except.ok_bind, hmethod]
    rintro ⟨⟩
  · rw [callGraph, hmethod]
    rintro ⟨⟩

end Query

end AssemblyAtlas
