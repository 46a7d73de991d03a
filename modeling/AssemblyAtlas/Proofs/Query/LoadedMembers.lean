import AssemblyAtlas.Proofs.Query.MethodNames

/-!
# Members of types that several assemblies declare

A query for `Type.Member` that is not confined to an assembly settles on one type before it looks
for the member: the type of that full name in the first assembly that declares one. Whether the
query succeeds is decided by this type, and not by the types of the same name in later assemblies
(`Query.loaded_member_found`). The only other way to succeed is that the name is divided at an
earlier dot, with the rest of the type name as the start of a member name.
-/

namespace AssemblyAtlas

/-! ### Dividing a name -/

theorem memberFullName_ne_empty (type member : String) : memberFullName type member ≠ "" := by
  intro h
  have hlist := congrArg String.toList h
  rw [toList_memberFullName] at hlist
  simp at hlist

/-- A name that ends with a member name without dots is divided at the last dot, or at one in the
type name. -/
theorem memberFullName_eq_iff {T n type member : String} (hdot : '.' ∉ n.toList) :
    memberFullName T n = memberFullName type member ↔
      (type = T ∧ member = n) ∨ ∃ rest, T = memberFullName type rest ∧
        member = memberFullName rest n := by
  simp only [← String.toList_inj, toList_memberFullName]
  constructor
  · intro h
    rcases List.append_eq_append_iff.1 h with ⟨more, htype, hrest⟩ | ⟨more, hT, hrest⟩
    · -- The dot lies behind the last one, or it is the same.
      cases more with
      | nil =>
        obtain ⟨-, hmember⟩ := List.cons.inj hrest
        exact .inl ⟨by simpa using htype, hmember.symm⟩
      | cons d more =>
        obtain ⟨-, hn⟩ := List.cons.inj hrest
        exact absurd (by rw [hn]; simp) hdot
    · cases more with
      | nil =>
        obtain ⟨-, hmember⟩ := List.cons.inj hrest
        exact .inl ⟨by simpa using hT.symm, hmember⟩
      | cons d more =>
        obtain ⟨rfl, hmember⟩ := List.cons.inj hrest
        exact .inr ⟨.ofList more, by simpa using hT, by simpa using hmember⟩
  · rintro (⟨htype, hmember⟩ | ⟨rest, hT, hmember⟩)
    · rw [htype, hmember]
    · rw [hT, hmember]
      simp

namespace Query

variable {c : Catalog} {α : Type} {pick : TypeSymbol → String → Option α}

/-- A type that an earlier part of the name `T` leads to has a member whose name is the rest of `T`
followed by `n`. -/
def FoundEarlier (c : Catalog) (pick : TypeSymbol → String → Option α) (T n : String) : Prop :=
  ∃ type rest s, T = memberFullName type rest ∧ type ≠ "" ∧ lookupType? c none type = some s ∧
    (pick s (memberFullName rest n)).isSome

section Dots

variable {T n : String} {first : TypeSymbol} (hT : T ≠ "") (hn : n ≠ "") (hdot : '.' ∉ n.toList)
  (hfirst : lookupType? c none T = some first)
include hT hn hdot hfirst

theorem pickMember?_isSome_iff_first : (pickMember? c none (memberFullName T n) pick).isSome ↔
    (pick first n).isSome ∨ FoundEarlier c pick T n := by
  rw [pickMember?_isSome_iff]
  constructor
  · rintro ⟨type, member, s, hname, htype, -, hs, hsome⟩
    rcases (memberFullName_eq_iff hdot).1 hname with ⟨rfl, rfl⟩ | ⟨rest, hrest, rfl⟩
    · obtain rfl : s = first := Option.some.inj (hs.symm.trans hfirst)
      exact .inl hsome
    · exact .inr ⟨type, rest, s, hrest, htype, hs, hsome⟩
  · rintro (hsome | ⟨type, rest, s, rfl, htype, hs, hsome⟩)
    · exact ⟨T, n, first, rfl, hT, hn, hfirst, hsome⟩
    · refine ⟨type, memberFullName rest n, s, ?_, htype, ?_, hs, hsome⟩
      · exact (memberFullName_eq_iff hdot).2 (.inr ⟨rest, rfl, rfl⟩)
      · exact memberFullName_ne_empty rest n

/-- The member of the first type is preferred, since the last dot is tried first. -/
theorem pickMember?_of_first {x : α} (hx : pick first n = some x) :
    pickMember? c none (memberFullName T n) pick = some x := by
  obtain ⟨y, hy⟩ := Option.isSome_iff_exists.1 ((pickMember?_isSome_iff_first hT hn hdot hfirst).2
    (.inl (Option.isSome_iff_exists.2 ⟨x, hx⟩)))
  obtain ⟨type, member, s, hname, -, hs, hpick, hlast⟩ := exists_cut hy
  have hlength := hlast T n rfl hT hn first x hfirst hx
  rcases (memberFullName_eq_iff hdot).1 hname with ⟨rfl, rfl⟩ | ⟨rest, hrest, -⟩
  · obtain rfl : s = first := Option.some.inj (hs.symm.trans hfirst)
    rw [hy, ← hpick, hx]
  · rw [hrest, toList_memberFullName, List.length_append, List.length_cons] at hlength
    omega

end Dots

/-! ### Methods and fields -/

theorem splitSignature_of_not_mem {name : String} (h : '(' ∉ name.toList) :
    splitSignature name = (name, none) := by
  have hdrop : name.toList.dropWhile (· != '(') = [] := by
    rw [List.dropWhile_eq_nil_iff]
    exact fun c hc => bne_iff_ne.2 fun heq => h (heq ▸ hc)
  rw [splitSignature, hdrop]

/-- Without a list of parameter types a method is picked by its name alone. -/
theorem method_eq {name : String} (hname : Limits.Within name) (hne : name ≠ "")
    (hopen : '(' ∉ name.toList) : method c { name } =
      (pickMember? c none name (methodOf? none)).elim (.error (.notFound .method name)) .ok := by
  rw [method, normalizeName_eq_ok hname hne, Except.ok_bind, splitSignature_of_not_mem hopen]
  dsimp only
  rw [member_eq hname hne rfl]
  cases pickMember? c none name (methodOf? none) <;> rfl

theorem methodOf?_none_isSome_iff {s : TypeSymbol} {n : String} :
    (methodOf? none s n).isSome ↔ ∃ f ∈ s.type.methods, f.name = n := by
  simp [methodOf?, TypeSymbol.methods, List.find?_isSome]

theorem fieldOf?_isSome_iff {s : TypeSymbol} {n : String} :
    (fieldOf? s n).isSome ↔ ∃ f ∈ s.type.fields, f.name = n := by
  simp [fieldOf?, List.find?_isSome]

/-- What a query for the member `n` gives if its type name leads to the type `first`. -/
structure DecidedBy (c : Catalog) (sought : Sought) (pick : TypeSymbol → String → Option α)
    (first : TypeSymbol) (n : String) (result : Except Error α) : Prop where
  /-- A member of the type is found. -/
  found : ∀ x, pick first n = some x → result = .ok x
  /-- Nothing else is found, but for names that are divided earlier. -/
  isOk_iff : (∃ x, result = .ok x) ↔ (pick first n).isSome ∨ FoundEarlier c pick first.fullName n
  /-- The only error is that the member is unknown. -/
  error : ∀ e, result = .error e → e = .notFound sought (memberFullName first.fullName n)

theorem decidedBy_elim {first : TypeSymbol} {n : String} (hT : first.fullName ≠ "") (hn : n ≠ "")
    (hdot : '.' ∉ n.toList) (hfirst : lookupType? c none first.fullName = some first)
    (sought : Sought) (pick : TypeSymbol → String → Option α) :
    let name := memberFullName first.fullName n
    DecidedBy c sought pick first n
      ((pickMember? c none name pick).elim (.error (.notFound sought name)) .ok) where
  found x hx := by rw [pickMember?_of_first hT hn hdot hfirst hx, Option.elim_some]
  isOk_iff := by
    rw [← pickMember?_isSome_iff_first hT hn hdot hfirst]
    cases pickMember? c none (memberFullName first.fullName n) pick <;> simp
  error e he := by
    cases hpick : pickMember? c none (memberFullName first.fullName n) pick with
    | none =>
      rw [hpick] at he
      exact (Except.error.inj he).symm
    | some x =>
      rw [hpick] at he
      cases he

/-- **A query for a member is decided by the first assembly that declares its type.** Let a loaded
type be called `T`, and let `n` be a name without dots. The unconfined query for the method or the
field `T.n` settles on the type `T` of the first assembly that declares one: if it has the member,
this is the answer, and otherwise the member is unknown, unless it is found with an earlier part of
`T` as the type. In particular a member that every loaded type `T` has is found. -/
theorem loaded_member_found {s : TypeSymbol} (hs : s ∈ c.types) (hT : s.fullName ≠ "") {n : String}
    (hn : n ≠ "") (hdot : '.' ∉ n.toList) (hopen : '(' ∉ (memberFullName s.fullName n).toList)
    (hname : Limits.Within (memberFullName s.fullName n)) :
    let q : SymbolQuery := { name := memberFullName s.fullName n }
    (∃ first ∈ c.types, first.fullName = s.fullName ∧
      c.assemblies.find? (fun a => (a.findExact? s.fullName).isSome) = some first.assembly ∧
      DecidedBy c .method (methodOf? none) first n (method c q) ∧
      DecidedBy c .field fieldOf? first n (field c q)) ∧
    ((∀ r ∈ c.types, r.fullName = s.fullName → ∃ f ∈ r.type.methods, f.name = n) →
      ∃ m, method c q = .ok m) ∧
    ((∀ r ∈ c.types, r.fullName = s.fullName → ∃ f ∈ r.type.fields, f.name = n) →
      ∃ f, field c q = .ok f) := by
  intro q
  obtain ⟨first, hfirst⟩ := Catalog.exists_resolveType? hs none
  obtain ⟨hmem, hfull⟩ := Catalog.resolveType?_sound hfirst
  have hlookup : lookupType? c none s.fullName = some first := by
    rw [lookupType?, hfirst]
    rfl
  have hne := memberFullName_ne_empty s.fullName n
  have hmethod : DecidedBy c .method (methodOf? none) first n (method c q) := by
    rw [method_eq hname hne hopen, ← hfull]
    exact decidedBy_elim (hfull ▸ hT) hn hdot (hfull ▸ hlookup) _ _
  have hfield : DecidedBy c .field fieldOf? first n (field c q) := by
    rw [field, member_eq hname hne rfl, ← hfull]
    exact decidedBy_elim (hfull ▸ hT) hn hdot (hfull ▸ hlookup) _ _
  refine ⟨⟨first, hmem, hfull, Catalog.resolveType?_first hfirst, hmethod, hfield⟩, ?_, ?_⟩
  · exact fun hall => hmethod.isOk_iff.2 (.inl (methodOf?_none_isSome_iff.2 (hall first hmem hfull)))
  · exact fun hall => hfield.isOk_iff.2 (.inl (fieldOf?_isSome_iff.2 (hall first hmem hfull)))

/-- A type that two assemblies declare, with the same method. -/
theorem loaded_member_found_twice :
    let model : TypeDef := { TypeDef.named "Shared.Model" with methods := [.named "Save"] }
    let right : Assembly := .ofTypes "Right" [model]
    let c : Catalog := .ofAssemblies [.ofTypes "Left" [model], right]
    (⟨right, model⟩ : TypeSymbol) ∈ c.types ∧
      Limits.Within (memberFullName "Shared.Model" "Save") ∧
      ∃ m, method c { name := memberFullName "Shared.Model" "Save" } = .ok m := by
  intro model right c
  have htypes : c.types = [⟨.ofTypes "Left" [model], model⟩, ⟨right, model⟩] := rfl
  have hmem : (⟨right, model⟩ : TypeSymbol) ∈ c.types := by simp [htypes]
  have hname : Limits.Within (memberFullName "Shared.Model" "Save") := by decide +kernel
  obtain ⟨-, hfound, -⟩ := loaded_member_found hmem (by decide) (n := "Save") (by decide)
    (by decide +kernel) (by decide +kernel) hname
  refine ⟨hmem, hname, hfound fun r hr _ => ?_⟩
  have hmodel : r.type = model := by
    rw [htypes] at hr
    rcases List.mem_pair.1 hr with rfl | rfl <;> rfl
  rw [hmodel]
  exact ⟨_, List.mem_cons_self, rfl⟩

/-- Two assemblies declare a type, the first without members. Neither the method nor the field of
the second is found. -/
theorem loaded_member_missed :
    let id : Field := { name := "id", type := { fullName := "System.Int32" } }
    let model : TypeDef :=
      { TypeDef.named "Shared.Model" with methods := [.named "Save"], fields := [id] }
    let right : Assembly := .ofTypes "Right" [model]
    let c : Catalog := .ofAssemblies [.ofTypes "Left" [.named "Shared.Model"], right]
    (⟨right, model⟩ : TypeSymbol) ∈ c.types ∧
      method c { name := "Shared.Model.Save" } =
        .error (.notFound .method "Shared.Model.Save") ∧
      field c { name := "Shared.Model.id" } = .error (.notFound .field "Shared.Model.id") := by
  intro id model right c
  have htypes : c.types = [⟨.ofTypes "Left" [.named "Shared.Model"], .named "Shared.Model"⟩,
    ⟨right, model⟩] := rfl
  refine ⟨by simp [htypes], ?_, ?_⟩
  · have hname : Limits.Within "Shared.Model.Save" := by decide +kernel
    have hpick : pickMember? c none "Shared.Model.Save" (methodOf? none) = none := by
      decide +kernel
    rw [method_eq hname (by decide) (by decide +kernel), hpick]
    rfl
  · have hname : Limits.Within "Shared.Model.id" := by decide +kernel
    have hpick : pickMember? c none "Shared.Model.id" fieldOf? = none := by
      decide +kernel
    rw [field, member_eq hname (by decide) rfl, hpick]
    rfl

end Query

end AssemblyAtlas
