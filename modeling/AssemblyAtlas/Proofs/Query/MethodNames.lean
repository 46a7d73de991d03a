import AssemblyAtlas.Proofs.Limits
import AssemblyAtlas.Proofs.Query.Agreement
import AssemblyAtlas.Proofs.Text.Split
import Mathlib.Tactic.MkIffOfInductiveProp

/-!
# Methods by their full names

The full name of a method, `Type.Name(P1,P2)`, is also a query for it. A query is taken apart at the
first parenthesis, the list of parameter types at its commas, and the rest at its dots from the
last to the first. This undoes the writing of the name exactly for methods whose names have none of
these signs in the wrong place (`MethodSymbol.IsPlain`): a type such as `Map<Key,Value>` for a
parameter has a comma of its own, and such a method is not found (`Query.method_fullName_iff`).
-/

namespace AssemblyAtlas

/-! ### Lists of parameter types -/

namespace Query

/-- The parameter types that are written between the parentheses of a query. -/
def listed (inner : List Char) : List String :=
  ((Text.splitAt ',' inner).map fun p => Text.trim (String.ofList p)).filter (!·.isEmpty)

/-- A name that can stand in a list of parameter types. -/
@[mk_iff]
structure IsListable (p : String) : Prop where
  ne_empty : p ≠ ""
  no_comma : ',' ∉ p.toList
  trim_eq : Text.trim p = p

instance (p : String) : Decidable (IsListable p) :=
  decidable_of_iff' _ (isListable_iff p)

theorem splitSignature_eq {name : String} {before inner : List Char}
    (hname : name.toList = before ++ '(' :: (inner ++ [')'])) (hbefore : '(' ∉ before) :
    splitSignature name = (Text.trimEnd (String.ofList before), some (listed inner)) := by
  have hopen : ∀ c ∈ before, (c != '(') = true := fun c hc =>
    bne_iff_ne.2 fun heq => hbefore (heq ▸ hc)
  have hlast : (before ++ '(' :: (inner ++ [')'])).getLast? = some ')' := by
    rw [← List.cons_append, ← List.append_assoc, List.getLast?_concat]
  rw [splitSignature, hname, hlast, List.dropWhile_append_of_pos hopen,
    List.takeWhile_append_of_pos hopen, List.dropWhile_cons_of_neg (by decide),
    List.takeWhile_cons_of_neg (by decide), List.append_nil]
  simp only [List.dropLast_concat, listed]

theorem isListable_of_mem_listed {inner : List Char} {p : String} (h : p ∈ listed inner) :
    IsListable p := by
  obtain ⟨h, hne⟩ := List.mem_filter.1 h
  obtain ⟨piece, hpiece, rfl⟩ := List.mem_map.1 h
  refine ⟨by simpa using hne, fun hcomma => ?_, Text.trim_trim _⟩
  rw [Text.toList_trim, String.toList_ofList] at hcomma
  exact Text.not_mem_of_mem_splitAt hpiece
    ((List.dropWhile_suffix _).subset ((List.rdropWhile_prefix _ _).subset hcomma))

/-- The names of a list are found again in what is written for them. -/
theorem listed_intercalate {ps : List String} (h : ∀ p ∈ ps, IsListable p) :
    listed (",".intercalate ps).toList = ps := by
  cases ps with
  | nil => decide +kernel
  | cons p ps =>
    have hsplit : Text.splitAt ',' (",".intercalate (p :: ps)).toList =
        (p :: ps).map String.toList := by
      rw [String.toList_intercalate]
      refine Text.splitAt_intercalate (by simp) ?_
      simpa using fun q hq => (h q hq).no_comma
    have htrim : (p :: ps).map (fun q => Text.trim (String.ofList q.toList)) = p :: ps := by
      conv_rhs => rw [← List.map_id (p :: ps)]
      exact List.map_congr_left fun q hq => by rw [String.ofList_toList, (h q hq).trim_eq, id]
    rw [listed, hsplit, List.map_map, Function.comp_def, htrim, List.filter_eq_self]
    exact fun q hq => by simpa using (h q hq).ne_empty

/-- Writing the list again changes commas and white space only. -/
theorem count_listed {c : Char} (hcomma : c ≠ ',') (hblank : Text.isBlank c = false)
    (inner : List Char) : (",".intercalate (listed inner)).toList.count c = inner.count c := by
  -- The names that are left out are empty.
  have hempty : ∀ ps : List String,
      ((ps.filter (!·.isEmpty)).map (·.toList.count c)).sum = (ps.map (·.toList.count c)).sum := by
    intro ps
    induction ps with
    | nil => rfl
    | cons p ps ih =>
      by_cases hp : p = "" <;> simp [hp, ih]
  have htrim : ((Text.splitAt ',' inner).map fun p => Text.trim (String.ofList p)).map
      (·.toList.count c) = (Text.splitAt ',' inner).map (List.count c) := by
    rw [List.map_map]
    refine List.map_congr_left fun p _ => ?_
    rw [Function.comp_apply, Text.count_trim hblank, String.toList_ofList]
  have hsep : ",".toList = [','] := rfl
  rw [String.toList_intercalate, hsep, Text.count_intercalate hcomma, List.map_map,
    Function.comp_def, listed, hempty, htrim, Text.sum_count_splitAt hcomma]

/-! ### Steps of a query -/

variable {c : Catalog} {a : Assembly}

theorem normalizeName_of_ne_empty {name : String} (h : Limits.normalize name ≠ "") :
    normalizeName name = .ok (Limits.normalize name) := by
  rw [normalizeName]
  exact if_neg (by simpa using h)

theorem normalizeName_eq_ok {name : String} (h : Limits.Within name) (hne : name ≠ "") :
    normalizeName name = .ok name := by
  rw [normalizeName_of_ne_empty (by rwa [h.normalize_eq]), h.normalize_eq]

theorem normalizeName_empty : normalizeName "" = .error (.argument .emptyName) := by
  rw [normalizeName]
  exact if_pos (by decide +kernel)

/-- An assembly is found by its name. -/
theorem assembly_eq_ok
    (hnames : c.assemblies.Pairwise fun a b => Text.eqIgnoreCase a.name b.name = false)
    (ha : a ∈ c.assemblies) (hname : Limits.Within a.name) (hne : a.name ≠ "") :
    assembly c a.name = .ok a := by
  have hself : a.isNamed a.name = true := Text.eqIgnoreCase_iff.2 rfl
  have hfind : c.findAssemblyLoose? a.name = some a := by
    rw [Catalog.findAssemblyLoose?, hname.trim_eq]
    cases hb : c.assemblies.find? (·.isNamed a.name) with
    | none => exact absurd hself (List.find?_eq_none.1 hb a ha)
    | some b =>
      have hnamed := List.find?_some hb
      rw [eq_of_isNamed hnames (List.mem_of_find?_eq_some hb) ha hnamed hself]
  rw [assembly, normalizeName_eq_ok hname hne, Except.ok_bind, hfind]
  rfl

theorem scope_eq_ok {name : String} (h : assembly c name = .ok a) :
    scope c (some name) = .ok (some a) := by
  rw [scope, h]
  rfl

/-- A query for a member gives what is picked in its scope for the two parts of the name, and an
error if nothing is. -/
theorem member_eq {α : Type} {name : String} {asked : Option String} {inside : Option Assembly}
    (hname : Limits.Within name) (hne : name ≠ "") (hscope : scope c asked = .ok inside)
    (sought : Sought) (pick : TypeSymbol → String → Option α) :
    member c { name, assembly := asked } sought pick =
      (pickMember? c inside name pick).elim (.error (.notFound sought name)) .ok := by
  rw [member, hscope, Except.ok_bind, normalizeName_eq_ok hname hne, Except.ok_bind]
  cases pickMember? c inside name pick <;> rfl

/-- A query for a member finds what is picked from the assembly for the two parts of the name. -/
theorem member_eq_ok_iff {α : Type} {name assemblyName : String} {sought : Sought}
    {pick : TypeSymbol → String → Option α} (hname : Limits.Within name)
    (hscope : assembly c assemblyName = .ok a) {x : α} :
    member c { name, assembly := some assemblyName } sought pick = .ok x ↔
      pickMember? c (some a) name pick = some x := by
  by_cases hempty : name = ""
  · -- The empty name is refused, and has no two parts.
    subst hempty
    rw [member, scope_eq_ok hscope, Except.ok_bind, normalizeName_empty, Except.error_bind]
    exact iff_of_false (by rintro ⟨⟩) (by rintro ⟨⟩)
  · rw [member_eq hname hempty (scope_eq_ok hscope)]
    cases pickMember? c (some a) name pick with
    | none => exact iff_of_false (by rintro ⟨⟩) (by rintro ⟨⟩)
    | some y => simp

/-- The same for a method, of which the name and the list of parameter types are taken apart at the
first parenthesis. -/
theorem method_eq_ok_iff {name assemblyName : String} {before inner : List Char}
    (hname : Limits.Within name) (hparts : name.toList = before ++ '(' :: (inner ++ [')']))
    (hbefore : '(' ∉ before) (hscope : assembly c assemblyName = .ok a) {r : MethodSymbol} :
    method c { name, assembly := some assemblyName } = .ok r ↔
      pickMember? c (some a) (Text.trimEnd (String.ofList before))
        (methodOf? (some (listed inner))) = some r := by
  have hne : name ≠ "" := by
    rintro rfl
    simp at hparts
  have hbase := hname.of_prefix ⟨_, hparts.symm⟩
  rw [← member_eq_ok_iff hbase hscope, method, normalizeName_eq_ok hname hne, Except.ok_bind,
    splitSignature_eq hparts hbefore]
  dsimp only
  cases member c { name := Text.trimEnd (String.ofList before), assembly := some assemblyName }
    .method (methodOf? (some (listed inner))) with
  | error e => exact iff_of_false (by rintro ⟨⟩) (by rintro ⟨⟩)
  | ok m => rfl

/-! ### Types and members -/

section Cuts

variable {α : Type} {scope : Option Assembly} {pick : TypeSymbol → String → Option α}

/-- The member that is picked for the two parts of a name. -/
def pickAt (c : Catalog) (scope : Option Assembly) (pick : TypeSymbol → String → Option α)
    (cut : List Char × List Char) : Option α :=
  if cut.1.isEmpty || cut.2.isEmpty then none
  else (lookupType? c scope (String.ofList cut.1)).bind (pick · (String.ofList cut.2))

theorem pickMember?_eq (c : Catalog) (scope : Option Assembly) (name : String)
    (pick : TypeSymbol → String → Option α) : pickMember? c scope name pick =
      (Text.cutsFromRight '.' name.toList).findSome? (pickAt c scope pick) := rfl

theorem pickAt_eq_some_iff {cut : List Char × List Char} {x : α} :
    pickAt c scope pick cut = some x ↔ cut.1 ≠ [] ∧ cut.2 ≠ [] ∧
      ∃ s, lookupType? c scope (String.ofList cut.1) = some s ∧
        pick s (String.ofList cut.2) = some x := by
  rw [pickAt, Option.ite_none_left_eq_some, Option.bind_eq_some_iff]
  simp [and_assoc]

/-- The type and the member that are found are what the name is made of, and the dot between them is
the last one with which anything is found. -/
theorem exists_cut {name : String} {x : α} (h : pickMember? c scope name pick = some x) :
    ∃ type member s, name = memberFullName type member ∧ member ≠ "" ∧
      lookupType? c scope type = some s ∧ pick s member = some x ∧
      ∀ type' member', name = memberFullName type' member' → type' ≠ "" → member' ≠ "" →
        ∀ s' x', lookupType? c scope type' = some s' → pick s' member' = some x' →
          type'.toList.length ≤ type.toList.length := by
  rw [pickMember?_eq] at h
  obtain ⟨cut, hcut, hx, hlast⟩ := Text.exists_of_findSome?_cutsFromRight h
  obtain ⟨-, hmember, s, hs, hpick⟩ := pickAt_eq_some_iff.1 hx
  refine ⟨.ofList cut.1, .ofList cut.2, s, ?_, by simpa using hmember, hs, hpick, ?_⟩
  · apply String.toList_injective
    rw [toList_memberFullName, String.toList_ofList, String.toList_ofList,
      ← Text.mem_cutsFromRight.1 hcut]
  · intro type' member' hname htype' hmember' s' x' hs' hpick'
    rw [String.toList_ofList]
    refine hlast (type'.toList, member'.toList) ?_ (Option.ne_none_iff_exists'.2 ⟨x', ?_⟩)
    · rw [Text.mem_cutsFromRight, hname, toList_memberFullName]
    · exact pickAt_eq_some_iff.2 ⟨by simpa using htype', by simpa using hmember', s',
        by rwa [String.ofList_toList], by rwa [String.ofList_toList]⟩

/-- A member is found if the name can be divided so that the type has it. -/
theorem pickMember?_isSome_iff {name : String} : (pickMember? c scope name pick).isSome ↔
    ∃ type member s, name = memberFullName type member ∧ type ≠ "" ∧ member ≠ "" ∧
      lookupType? c scope type = some s ∧ (pick s member).isSome := by
  rw [pickMember?_eq, List.findSome?_isSome_iff]
  constructor
  · rintro ⟨cut, hcut, hsome⟩
    obtain ⟨x, hx⟩ := Option.isSome_iff_exists.1 hsome
    obtain ⟨htype, hmember, s, hs, hpick⟩ := pickAt_eq_some_iff.1 hx
    refine ⟨.ofList cut.1, .ofList cut.2, s, ?_, by simpa using htype, by simpa using hmember, hs,
      Option.isSome_iff_exists.2 ⟨x, hpick⟩⟩
    apply String.toList_injective
    rw [toList_memberFullName, String.toList_ofList, String.toList_ofList,
      ← Text.mem_cutsFromRight.1 hcut]
  · rintro ⟨type, member, s, rfl, htype, hmember, hs, hsome⟩
    obtain ⟨x, hx⟩ := Option.isSome_iff_exists.1 hsome
    refine ⟨(type.toList, member.toList), ?_, Option.isSome_iff_exists.2 ⟨x, ?_⟩⟩
    · rw [Text.mem_cutsFromRight, toList_memberFullName]
    · exact pickAt_eq_some_iff.2 ⟨by simpa using htype, by simpa using hmember, s,
        by rwa [String.ofList_toList], by rwa [String.ofList_toList]⟩

end Cuts

/-- A type that is found by a name has it for its full name or its simple name, but for the case of
letters. -/
theorem looseTypeIn?_named {name : String} {s : TypeSymbol} (h : looseTypeIn? a name = some s) :
    Text.eqIgnoreCase s.fullName name = true ∨ Text.eqIgnoreCase s.type.name name = true := by
  obtain ⟨t, ht, rfl⟩ := Option.map_eq_some_iff.1 h
  rcases Option.or_eq_some_iff.1 ht with ht | ⟨-, ht⟩
  · rcases Option.or_eq_some_iff.1 ht with ht | ⟨-, ht⟩
    · have hname := List.find?_some ht
      rw [beq_iff_eq] at hname
      exact .inl (Text.eqIgnoreCase_iff.2 (congrArg Text.lower hname))
    · have hname := List.find?_some ht
      exact .inl hname
  · have hname := List.find?_some ht
    exact .inr hname

theorem looseTypeIn?_fullName (h : a.fault? = none) {t : TypeDef} (ht : t ∈ a.types) :
    looseTypeIn? a t.fullName = some ⟨a, t⟩ := by
  rw [looseTypeIn?, Assembly.findLoose?,
    Assembly.findExact?_of_mem (Assembly.nodup_of_fault?_eq_none h) ht]
  rfl

/-- The names of the parameter types of a method. -/
def parameterNames (m : MethodSymbol) : List String :=
  m.method.parameterTypes.map (·.fullName)

theorem fullName_eq (m : MethodSymbol) :
    m.fullName = memberFullName m.type.fullName m.method.name ++ "(" ++
      ",".intercalate (parameterNames m) ++ ")" := rfl

theorem methodOf?_sound {parameters : List String} {s : TypeSymbol} {name : String}
    {r : MethodSymbol} (h : methodOf? (some parameters) s name = some r) :
    r.toTypeSymbol = s ∧ r.method ∈ s.type.methods ∧ r.method.name = name ∧
      parameterNames r = parameters := by
  obtain ⟨f, hf, rfl⟩ := List.mem_map.1 (List.mem_of_find?_eq_some h)
  have hr := List.find?_some h
  simp only [Bool.and_eq_true, beq_iff_eq, Option.all_some] at hr
  exact ⟨rfl, hf, hr.1, hr.2.symm⟩

theorem exists_methodOf? {m : MethodSymbol} (hm : m.method ∈ m.type.methods) :
    ∃ r, methodOf? (some (parameterNames m)) m.toTypeSymbol m.method.name = some r := by
  refine Option.isSome_iff_exists.1 (List.find?_isSome.2 ⟨m, List.mem_map.2 ⟨_, hm, rfl⟩, ?_⟩)
  simp [parameterNames]

end Query

/-! ### Plain names -/

/-- No sign in the names of the method is taken for another when its full name is taken apart: its
type and its name have no parenthesis, its name is not empty and does not end with white space, and
its parameter types can stand in a list. -/
@[mk_iff]
structure MethodSymbol.IsPlain (m : MethodSymbol) : Prop where
  type : '(' ∉ m.type.fullName.toList
  name : '(' ∉ m.method.name.toList
  name_ne : m.method.name ≠ ""
  name_trim : Text.trimEnd m.method.name = m.method.name
  parameters : ∀ p ∈ Query.parameterNames m, Query.IsListable p

instance (m : MethodSymbol) : Decidable m.IsPlain :=
  decidable_of_iff' _ (MethodSymbol.isPlain_iff m)

namespace Query

variable {c : Catalog} {a : Assembly} {m r : MethodSymbol}

theorem toList_fullName (m : MethodSymbol) :
    m.fullName.toList = (memberFullName m.type.fullName m.method.name).toList ++
      '(' :: ((",".intercalate (parameterNames m)).toList ++ [')']) :=
  toList_methodFullName _ _ _

theorem trimEnd_memberFullName_iff (type : String) {name : String} (hne : name ≠ "") :
    Text.trimEnd (memberFullName type name) = memberFullName type name ↔
      Text.trimEnd name = name := by
  have hne' : name.toList ≠ [] := by simpa using hne
  rw [← String.toList_inj, ← String.toList_inj, Text.toList_trimEnd, Text.toList_trimEnd,
    List.rdropWhile_eq_self_iff, List.rdropWhile_eq_self_iff, toList_memberFullName]
  simp [hne, List.getLast_append_of_ne_nil, List.getLast_cons hne']

/-- A method that is found by its full name is plain. -/
theorem isPlain_of_method_eq_ok (hname : Limits.Within r.fullName) {assemblyName : String}
    (hscope : assembly c assemblyName = .ok a)
    (h : method c { name := r.fullName, assembly := some assemblyName } = .ok r) :
    r.assembly = a ∧ r.IsPlain := by
  have hfull := toList_fullName r
  by_cases hopen : '(' ∈ (memberFullName r.type.fullName r.method.name).toList
  · -- The list of parameter types starts too early, and has a parenthesis more than the real one.
    obtain ⟨before, rest, hparts, hbefore⟩ := List.eq_append_cons_of_mem hopen
    have hearly : r.fullName.toList = before ++
        '(' :: ((rest ++ '(' :: (",".intercalate (parameterNames r)).toList) ++ [')']) := by
      rw [hfull, hparts]
      simp
    obtain ⟨type, member, s, -, -, -, hpick, -⟩ :=
      exists_cut ((method_eq_ok_iff hname hearly hbefore hscope).1 h)
    obtain ⟨-, -, -, hparameters⟩ := methodOf?_sound hpick
    have hcount := count_listed (c := '(') (by decide) (by decide +kernel)
      (rest ++ '(' :: (",".intercalate (parameterNames r)).toList)
    rw [← hparameters, List.count_append, List.count_cons_self] at hcount
    omega
  · obtain ⟨type, member, s, hbase, hmember, hs, hpick, -⟩ :=
      exists_cut ((method_eq_ok_iff hname hfull hopen hscope).1 h)
    obtain ⟨rfl, -, rfl, hparameters⟩ := methodOf?_sound hpick
    rw [toList_memberFullName, List.mem_append, List.mem_cons, not_or, not_or] at hopen
    refine ⟨(looseTypeIn?_sound hs).1, hopen.1, hopen.2.2, hmember, ?_, ?_⟩
    · rw [← trimEnd_memberFullName_iff type hmember, ← hbase]
      apply String.toList_injective
      rw [Text.toList_trimEnd, Text.toList_trimEnd, List.rdropWhile_idempotent]
    · rw [hparameters]
      exact fun p hp => isListable_of_mem_listed hp

/-- A type that is found by a part of a name which is no shorter than its own type has the part for
its full name, but for the case of letters: a longer part has a dot, and simple names have none. -/
theorem eqIgnoreCase_of_looseTypeIn? {t : TypeDef} (ht : looseTypeIn? a t.fullName = some ⟨a, t⟩)
    {type name member : String} {s : TypeSymbol} (hs : looseTypeIn? a type = some s)
    (hcut : memberFullName t.fullName name = memberFullName type member)
    (hlength : t.fullName.toList.length ≤ type.toList.length) :
    Text.eqIgnoreCase s.fullName type = true := by
  have hlists := congrArg String.toList hcut
  rw [toList_memberFullName, toList_memberFullName, List.append_eq_append_iff] at hlists
  -- The two ways to cut the name are the same, or the dot of the other is part of the longer type.
  have hcases : type = t.fullName ∨ '.' ∈ type.toList := by
    rcases hlists with ⟨more, htype, hdot⟩ | ⟨more, hfull, -⟩
    · cases more with
      | nil => exact .inl (String.toList_injective (by rw [htype, List.append_nil]))
      | cons d more =>
        obtain ⟨rfl, -⟩ := List.cons.inj hdot
        exact .inr (by rw [htype]; simp)
    · have hmore : more = [] := by
        have hlen := congrArg List.length hfull
        rw [List.length_append] at hlen
        exact List.eq_nil_of_length_eq_zero (by omega)
      exact .inl (String.toList_injective (by rw [hfull, hmore, List.append_nil]))
  rcases hcases with rfl | hdot
  · rw [ht] at hs
    cases hs
    exact Text.eqIgnoreCase_iff.2 rfl
  · rcases looseTypeIn?_named hs with hfull | hsimple
    · exact hfull
    · rw [Text.eqIgnoreCase_comm] at hsimple
      have hdot' := Text.not_of_mem_afterLast (Text.dot_mem_of_eqIgnoreCase hsimple hdot)
      exact absurd hdot' (by decide)

/-- A plain method is found by its full name, or another is whose full name differs in the case of
letters only. -/
theorem exists_method_eq_ok (hvalid : m.assembly.fault? = none) (hm : c.Declares m)
    (hplain : m.IsPlain) (hname : Limits.Within m.fullName) {assemblyName : String}
    (hscope : assembly c assemblyName = .ok m.assembly) :
    ∃ r, method c { name := m.fullName, assembly := some assemblyName } = .ok r ∧
      r.assembly = m.assembly ∧ Text.eqIgnoreCase r.fullName m.fullName = true := by
  have htype : m.type ∈ m.assembly.types := (Catalog.mem_types_iff.1 hm.type).2
  have hloose : looseTypeIn? m.assembly m.type.fullName = some m.toTypeSymbol :=
    looseTypeIn?_fullName hvalid htype
  have hopen : '(' ∉ (memberFullName m.type.fullName m.method.name).toList := by
    rw [toList_memberFullName, List.mem_append, List.mem_cons, not_or, not_or]
    exact ⟨hplain.type, by decide, hplain.name⟩
  have hbase : Text.trimEnd (String.ofList (memberFullName m.type.fullName m.method.name).toList) =
      memberFullName m.type.fullName m.method.name := by
    rw [String.ofList_toList, (trimEnd_memberFullName_iff _ hplain.name_ne).2 hplain.name_trim]
  obtain ⟨first, hfirst⟩ := exists_methodOf? hm.method
  -- Cut where it was put together, the name leads to the method, so the query finds something.
  have htypeName := (Assembly.ne_empty_of_fault?_eq_none hvalid).2 m.type htype
  obtain ⟨r, hr⟩ : ∃ r, pickMember? c (some m.assembly)
      (memberFullName m.type.fullName m.method.name) (methodOf? (some (parameterNames m))) =
        some r := Option.isSome_iff_exists.1 (pickMember?_isSome_iff.2
          ⟨_, _, _, rfl, htypeName, hplain.name_ne, hloose, Option.isSome_iff_exists.2 ⟨_, hfirst⟩⟩)
  refine ⟨r, ?_, ?_⟩
  · rw [method_eq_ok_iff hname (toList_fullName m) hopen hscope, hbase,
      listed_intercalate hplain.parameters, hr]
  · -- What it finds stands at this cut or at one further to the right.
    obtain ⟨type, member, s, hcut, -, hs, hpick, hlast⟩ := exists_cut hr
    obtain ⟨rfl, -, rfl, hparameters⟩ := methodOf?_sound hpick
    refine ⟨(looseTypeIn?_sound hs).1, ?_⟩
    have hlength := hlast _ _ rfl htypeName hplain.name_ne _ _ hloose hfirst
    have hcase := Text.eqIgnoreCase_iff.1 (eqIgnoreCase_of_looseTypeIn? hloose hs hcut hlength)
    rw [Text.eqIgnoreCase_iff, fullName_eq, fullName_eq, hparameters, hcut]
    simp only [memberFullName, Text.lower_append, TypeSymbol.fullName] at hcase ⊢
    rw [hcase]

/-- No method of the assembly has a full name that differs from the given one only in the case of
letters. -/
def NoCaseVariant (a : Assembly) (name : String) : Prop :=
  ∀ t ∈ a.types, ∀ f ∈ t.methods,
    Text.eqIgnoreCase (f.fullNameIn t.fullName) name = true → f.fullNameIn t.fullName = name

/-- **Methods by their full names.** Let the names of the assemblies differ by more than case, and
let the assembly of the method be without faults. A query for the full name of the method, confined
to the assembly, finds a method of that name up to case if the method is plain. If no full name in
the assembly differs from it only by case, the query finds a method of exactly that full name if
and only if there is a plain one. -/
theorem method_fullName_iff
    (hnames : c.assemblies.Pairwise fun a b => Text.eqIgnoreCase a.name b.name = false)
    (hm : c.Declares m) (hvalid : m.assembly.fault? = none)
    (hassembly : Limits.Within m.assembly.name) (hname : Limits.Within m.fullName) :
    (m.IsPlain → ∃ r, method c { name := m.fullName, assembly := some m.assembly.name } = .ok r ∧
      r.assembly = m.assembly ∧ Text.eqIgnoreCase r.fullName m.fullName = true) ∧
    (NoCaseVariant m.assembly m.fullName →
      ((∃ r, method c { name := m.fullName, assembly := some m.assembly.name } = .ok r ∧
          r.fullName = m.fullName) ↔
        ∃ r, c.Declares r ∧ r.assembly = m.assembly ∧ r.fullName = m.fullName ∧ r.IsPlain)) := by
  have hscope : assembly c m.assembly.name = .ok m.assembly :=
    assembly_eq_ok hnames (Catalog.mem_types_iff.1 hm.type).1 hassembly
      (Assembly.ne_empty_of_fault?_eq_none hvalid).1
  refine ⟨fun hplain => exists_method_eq_ok hvalid hm hplain hname hscope, fun hcase => ⟨?_, ?_⟩⟩
  · rintro ⟨r, hr, hfull⟩
    rw [← hfull] at hr hname
    obtain ⟨hrassembly, hplain⟩ := isPlain_of_method_eq_ok hname hscope hr
    exact ⟨r, method_sound hr, hrassembly, hfull, hplain⟩
  · rintro ⟨r, hr, hrassembly, hfull, hplain⟩
    have hscope' : assembly c m.assembly.name = .ok r.assembly := by rw [hscope, hrassembly]
    rw [← hrassembly] at hvalid
    rw [← hfull] at hname
    obtain ⟨found, hfound, hassembly', hfoundName⟩ :=
      exists_method_eq_ok hvalid hr hplain hname hscope'
    rw [hfull] at hfound hfoundName
    refine ⟨found, hfound, ?_⟩
    have hdeclared := method_sound hfound
    have htype := (Catalog.mem_types_iff.1 hdeclared.type).2
    rw [hassembly', hrassembly] at htype
    exact hcase found.type htype found.method hdeclared.method hfoundName

/-- A constructor with two parameters in a nested type, beside an overload. -/
theorem method_fullName_iff_constructor :
    let text : Parameter := { name := "text", type := { fullName := "System.String" } }
    let number : Parameter := { name := "number", type := { fullName := "System.Int32" } }
    let constructor : Method := { Method.named ".ctor" with parameters := [text, number] }
    let t : TypeDef := { TypeDef.named "App.View+Line" with methods := [
      { Method.named ".ctor" with parameters := [text] }, constructor] }
    let a : Assembly := .ofTypes "App" [t]
    let c : Catalog := .ofAssemblies [a, { name := "Lib" }]
    let m : MethodSymbol := ⟨⟨a, t⟩, constructor⟩
    m.fullName = "App.View+Line..ctor(System.String,System.Int32)" ∧
      c.assemblies.Pairwise (fun a b => Text.eqIgnoreCase a.name b.name = false) ∧
      c.Declares m ∧ a.fault? = none ∧ Limits.Within a.name ∧ Limits.Within m.fullName ∧
      m.IsPlain ∧ NoCaseVariant a m.fullName ∧
      ∃ r, method c { name := m.fullName, assembly := some a.name } = .ok r ∧
        r.fullName = m.fullName := by
  intro text number constructor t a c m
  have hname : m.fullName = "App.View+Line..ctor(System.String,System.Int32)" := by decide +kernel
  have hnames : c.assemblies.Pairwise fun a b => Text.eqIgnoreCase a.name b.name = false := by
    decide +kernel
  have hm : c.Declares m := ⟨List.mem_cons_self, List.mem_cons_of_mem _ List.mem_cons_self⟩
  have hvalid : a.fault? = none := by decide +kernel
  have hassembly : Limits.Within a.name := by decide +kernel
  have hwithin : Limits.Within m.fullName := by decide +kernel
  have hplain : m.IsPlain := by decide +kernel
  have hcase : NoCaseVariant a m.fullName := by
    intro u hu f hf hsame
    obtain rfl := List.mem_singleton.1 (hu : u ∈ [t])
    rcases List.mem_cons.1 hf with rfl | hf
    · -- The full name of the overload is shorter.
      exact absurd (Text.utf8ByteSize_eq_of_eqIgnoreCase hsame) (by decide +kernel)
    · rw [List.mem_singleton.1 hf]
      rfl
  obtain ⟨-, hiff⟩ := method_fullName_iff hnames hm hvalid hassembly hwithin
  exact ⟨hname, hnames, hm, hvalid, hassembly, hwithin, hplain, hcase,
    (hiff hcase).2 ⟨m, hm, rfl, rfl, hplain⟩⟩

/-- Two methods that are not found by their full names. A generic type for a parameter is taken for
two types, as it has a comma of its own. And a type whose name differs from the beginning of the
full name only by case comes before the type of the method, if it is the longer one. -/
theorem method_fullName_misses :
    (let entries : Parameter :=
        { name := "entries", type := { fullName := "Dictionary`2<String,Int32>" } }
      let load : Method := { Method.named "Load" with parameters := [entries] }
      let t : TypeDef := { TypeDef.named "Cache" with methods := [load] }
      let a : Assembly := .ofTypes "App" [t]
      let c : Catalog := .ofAssemblies [a]
      let m : MethodSymbol := ⟨⟨a, t⟩, load⟩
      c.Declares m ∧ a.fault? = none ∧ Limits.Within a.name ∧ Limits.Within m.fullName ∧
        NoCaseVariant a m.fullName ∧ m.fullName = "Cache.Load(Dictionary`2<String,Int32>)" ∧
        (method c { name := m.fullName, assembly := some a.name }).map (·.fullName) =
          .error (.notFound .method "Cache.Load(Dictionary`2<String,Int32>)")) ∧
    (let shorter : TypeDef := { TypeDef.named "A" with methods := [.named "B.C"] }
      let longer : TypeDef := { TypeDef.named "A.b" with methods := [.named "C"] }
      let a : Assembly := .ofTypes "App" [shorter, longer]
      let c : Catalog := .ofAssemblies [a]
      let m : MethodSymbol := ⟨⟨a, shorter⟩, .named "B.C"⟩
      c.Declares m ∧ a.fault? = none ∧ Limits.Within a.name ∧ Limits.Within m.fullName ∧
        m.IsPlain ∧ m.fullName = "A.B.C()" ∧
        ∃ r, method c { name := m.fullName, assembly := some a.name } = .ok r ∧
          r.fullName = "A.b.C()") := by
  constructor
  · intro entries load t a c m
    refine ⟨⟨List.mem_cons_self, List.mem_cons_self⟩, by decide +kernel, by decide +kernel,
      by decide +kernel, ?_, by decide +kernel, by decide +kernel⟩
    intro u hu f hf _
    rw [List.mem_singleton.1 (hu : u ∈ [t])] at hf ⊢
    rw [List.mem_singleton.1 (hf : f ∈ [load])]
    rfl
  · intro shorter longer a c m
    have hvalid : a.fault? = none := by decide +kernel
    have hassembly : Limits.Within a.name := by decide +kernel
    have hname : Limits.Within m.fullName := by decide +kernel
    have hscope : assembly c a.name = .ok a :=
      assembly_eq_ok (List.pairwise_singleton _ a) List.mem_cons_self hassembly (by decide +kernel)
    have hcase : Text.eqIgnoreCase "A.b" "A.B" = true := by
      have hlower : Text.lower "A.b" = "a.b" := by decide +kernel
      have hlower' : Text.lower "A.B" = "a.b" := by decide +kernel
      rw [Text.eqIgnoreCase_iff, hlower, hlower']
    have hloose : looseTypeIn? a "A.B" = some ⟨a, longer⟩ := by
      have hexact : a.findExact? "A.B" = none := by decide +kernel
      have hfind : a.types.find? (fun t => Text.eqIgnoreCase t.fullName "A.B") = some longer :=
        (List.find?_cons_of_neg (by decide +kernel)).trans (List.find?_cons_of_pos hcase)
      rw [looseTypeIn?, Assembly.findLoose?, hexact, hfind]
      rfl
    have hcuts : Text.cutsFromRight '.' "A.B.C".toList =
        [("A.B".toList, "C".toList), ("A".toList, "B.C".toList)] := by decide +kernel
    have hfirst : pickAt c (some a) (methodOf? (some [])) ("A.B".toList, "C".toList) =
        some ⟨⟨a, longer⟩, .named "C"⟩ :=
      pickAt_eq_some_iff.2 ⟨by decide +kernel, by decide +kernel, ⟨a, longer⟩, hloose,
        List.find?_cons_of_pos (by decide +kernel)⟩
    have hparts : m.fullName.toList = "A.B.C".toList ++ '(' :: ([] ++ [')']) := by decide +kernel
    have hfound : method c { name := m.fullName, assembly := some a.name } =
        .ok ⟨⟨a, longer⟩, .named "C"⟩ := by
      have hbase : Text.trimEnd (String.ofList "A.B.C".toList) = "A.B.C" := by decide +kernel
      have hlisted : listed [] = [] := by decide +kernel
      rw [method_eq_ok_iff hname hparts (by decide +kernel) hscope, hbase, hlisted, pickMember?_eq,
        hcuts, List.findSome?_cons, hfirst]
    exact ⟨⟨List.mem_cons_self, List.mem_cons_self⟩, hvalid, hassembly, hname, by decide +kernel,
      by decide +kernel, _, hfound, by decide +kernel⟩

end Query

end AssemblyAtlas
