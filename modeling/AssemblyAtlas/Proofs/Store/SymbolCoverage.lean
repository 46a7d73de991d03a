import AssemblyAtlas.Proofs.Snapshot.Declared
import AssemblyAtlas.Proofs.Store.SymbolLookup

/-!
# Which declared symbols a lookup shows

Of the symbols of an assembly that have the same kind and full name, the store keeps the first. A
lookup by the simple name of a symbol therefore shows it if and only if that first one has the same
simple name (`Tables.lookup_declared_iff`), while a lookup by its full name always does.

Full names do not say where the name of the type ends, so two members of different names can have
the same full name, and then one of them is not shown under its own name
(`Tables.lookup_misses_field`). It does not happen to types, nor when no name has a dot or
parenthesis where the full name would be cut (`TypeDef.HasPlainNames`).
-/

namespace AssemblyAtlas

/-! ### Full names that can be cut in one way -/

section Cut

variable {type name type' name' : List Char}

/-- What comes before the first occurrence of a character is determined. -/
theorem eq_of_append_cons_eq {c : Char} {rest rest' : List Char} (h : c ∉ name) (h' : c ∉ name')
    (heq : name ++ c :: rest = name' ++ c :: rest') : name = name' := by
  have hbefore : ∀ cs rest : List Char, c ∉ cs → (cs ++ c :: rest).takeWhile (· != c) = cs := by
    intro cs rest hcs
    have hpass : ∀ x ∈ cs, (x != c) = true :=
      fun x hx => bne_iff_ne.2 fun hxc => hcs (hxc ▸ hx)
    rw [List.takeWhile_append_of_pos hpass]
    simp
  rw [← hbefore name rest h, heq, hbefore name' rest' h']

/-- A name without a dot, but for one at its start, does not reach beyond a shorter one that follows
a type whose name does not end with a dot. -/
theorem eq_nil_of_cut {more : List Char} (hname : '.' ∉ name.tail)
    (htype : (type ++ more).getLast? ≠ some '.') (heq : '.' :: name = more ++ '.' :: name') :
    more = [] := by
  match more with
  | [] => rfl
  | [c] =>
    obtain ⟨rfl, -⟩ := List.cons.inj heq
    exact absurd (by simp) htype
  | c :: x :: more =>
    obtain ⟨-, rfl⟩ := List.cons.inj heq
    exact absurd (by simp) hname

/-- A full name is cut in one way: at its last dot, or at the dot before that if the name of the
member starts with one. -/
theorem cut_unique (hname : '.' ∉ name.tail) (hname' : '.' ∉ name'.tail)
    (htype : type.getLast? ≠ some '.') (htype' : type'.getLast? ≠ some '.')
    (heq : type ++ '.' :: name = type' ++ '.' :: name') : name = name' := by
  rcases List.append_eq_append_iff.1 heq with ⟨more, rfl, hmore⟩ | ⟨more, rfl, hmore⟩
  · obtain rfl := eq_nil_of_cut hname htype' hmore
    exact (List.cons.inj hmore).2
  · obtain rfl := eq_nil_of_cut hname' htype hmore
    exact (List.cons.inj hmore).2.symm

end Cut

/-- No name has a dot or parenthesis where a full name would be cut: the name of the type has no
parenthesis and does not end with a dot, and the names of members have no dot after the first
character, and those of methods no parenthesis. -/
structure TypeDef.HasPlainNames (t : TypeDef) : Prop where
  type_dot : t.fullName.toList.getLast? ≠ some '.'
  type_paren : '(' ∉ t.fullName.toList
  method_dot : ∀ m ∈ t.methods, '.' ∉ m.name.toList.tail
  method_paren : ∀ m ∈ t.methods, '(' ∉ m.name.toList
  field_dot : ∀ f ∈ t.fields, '.' ∉ f.name.toList.tail
  property_dot : ∀ p ∈ t.properties, '.' ∉ p.name.toList.tail

/-! ### Declarations -/

namespace TypeDef

variable {t t' : TypeDef} {d d' : Declaration}

/-- What a type declares of each kind. -/
theorem declared_of_mem (h : d ∈ t.declarations) :
    match d.kind with
    | .type => d = ⟨.type, t.name, t.fullName⟩
    | .method => ∃ m ∈ t.methods, d = ⟨.method, m.name, m.fullNameIn t.fullName⟩
    | .field => ∃ f ∈ t.fields, d = ⟨.field, f.name, memberFullName t.fullName f.name⟩
    | .property =>
      ∃ p ∈ t.properties, d = ⟨.property, p.name, memberFullName t.fullName p.name⟩ := by
  simp only [declarations, List.mem_append, List.mem_cons, List.mem_map] at h
  rcases h with ((rfl | ⟨m, hm, rfl⟩) | ⟨f, hf, rfl⟩) | ⟨p, hp, rfl⟩
  · rfl
  · exact ⟨m, hm, rfl⟩
  · exact ⟨f, hf, rfl⟩
  · exact ⟨p, hp, rfl⟩

/-- A symbol that has its simple name for its full name is a type: the full name of a member is
longer. -/
theorem kind_eq_of_fullName_eq_name (h : d ∈ t.declarations) (hname : d.fullName = d.name) :
    d.kind = .type := by
  have hmember : ∀ name : String, (memberFullName t.fullName name).toList.length ≠
      name.toList.length := by
    intro name
    rw [toList_memberFullName, List.length_append, List.length_cons]
    omega
  have hlength := congrArg (·.toList.length) hname
  have hown := declared_of_mem h
  cases hkind : d.kind with
  | type => rfl
  | method =>
    simp only [hkind] at hown
    obtain ⟨m, -, rfl⟩ := hown
    simp only [Method.fullNameIn, toList_methodFullName, toList_memberFullName,
      List.length_append, List.length_cons] at hlength
    omega
  | field =>
    simp only [hkind] at hown
    obtain ⟨f, -, rfl⟩ := hown
    exact absurd hlength (hmember f.name)
  | property =>
    simp only [hkind] at hown
    obtain ⟨p, -, rfl⟩ := hown
    exact absurd hlength (hmember p.name)

/-- Types of the same full name have the same simple name. -/
theorem name_eq_of_type (h : d ∈ t.declarations) (h' : d' ∈ t'.declarations)
    (hkind : d.kind = .type) (hkind' : d'.kind = .type) (hname : d.fullName = d'.fullName) :
    d.name = d'.name := by
  have hown := declared_of_mem h
  have hown' := declared_of_mem h'
  simp only [hkind, hkind'] at hown hown'
  subst hown hown'
  exact congrArg (Text.afterLast _) hname

/-- With plain names, symbols of the same kind and full name have the same simple name. -/
theorem HasPlainNames.name_eq (ht : t.HasPlainNames) (ht' : t'.HasPlainNames)
    (h : d ∈ t.declarations) (h' : d' ∈ t'.declarations) (hkind : d.kind = d'.kind)
    (hname : d.fullName = d'.fullName) : d.name = d'.name := by
  have hcut : ∀ {name name' : String}, '.' ∉ name.toList.tail → '.' ∉ name'.toList.tail →
      (memberFullName t.fullName name).toList = (memberFullName t'.fullName name').toList →
      name = name' := by
    intro name name' hdot hdot' heq
    rw [toList_memberFullName, toList_memberFullName] at heq
    exact String.toList_inj.1 (cut_unique hdot hdot' ht.type_dot ht'.type_dot heq)
  have hown := declared_of_mem h
  have hown' := declared_of_mem h'
  rw [← hkind] at hown'
  cases hk : d.kind with
  | type => exact name_eq_of_type h h' hk (hkind ▸ hk) hname
  | method =>
    simp only [hk] at hown hown'
    obtain ⟨m, hm, rfl⟩ := hown
    obtain ⟨m', hm', rfl⟩ := hown'
    -- Neither name has a parenthesis, so the lists of parameter types start at the same place.
    have hopen : ∀ {t : TypeDef}, t.HasPlainNames → ∀ m ∈ t.methods,
        '(' ∉ (memberFullName t.fullName m.name).toList := by
      intro t ht m hm
      simpa [toList_memberFullName] using ⟨ht.type_paren, ht.method_paren m hm⟩
    have hlists := congrArg String.toList hname
    rw [Method.fullNameIn, Method.fullNameIn, toList_methodFullName, toList_methodFullName]
      at hlists
    exact hcut (ht.method_dot m hm) (ht'.method_dot m' hm')
      (eq_of_append_cons_eq (hopen ht m hm) (hopen ht' m' hm') hlists)
  | field =>
    simp only [hk] at hown hown'
    obtain ⟨f, hf, rfl⟩ := hown
    obtain ⟨f', hf', rfl⟩ := hown'
    exact hcut (ht.field_dot f hf) (ht'.field_dot f' hf') (congrArg String.toList hname)
  | property =>
    simp only [hk] at hown hown'
    obtain ⟨p, hp, rfl⟩ := hown
    obtain ⟨p', hp', rfl⟩ := hown'
    exact hcut (ht.property_dot p hp) (ht'.property_dot p' hp') (congrArg String.toList hname)

end TypeDef

/-- The first symbol of a kind and full name that an assembly declares. -/
def Assembly.firstDeclared? (a : Assembly) (kind : SymbolKind) (fullName : String) :
    Option Declaration :=
  a.declarations.find? fun d => d.kind == kind && d.fullName == fullName

namespace Store

/-! ### The rows of an assembly -/

section FirstByKey

variable {α κ : Type} [BEq κ] [LawfulBEq κ]

/-- A row is kept if and only if it is the first with its key. -/
theorem mem_firstByKey_iff {key : α → κ} {xs : List α} {x : α} :
    x ∈ firstByKey key xs ↔ xs.find? (fun y => key y == key x) = some x := by
  induction xs with
  | nil => simp [firstByKey]
  | cons y xs ih =>
    rw [firstByKey, List.mem_cons, List.mem_filter, ih, List.find?_cons]
    by_cases hkey : key y = key x
    · simp [hkey, eq_comm]
    · have hne : x ≠ y := fun heq => hkey (heq ▸ rfl)
      rw [beq_false_of_ne hkey]
      simp [hne, Ne.symm hkey]

end FirstByKey

namespace SymbolEntry

theorem all_singleton (a : Assembly) :
    all [a] = a.declarations.map fun d => ⟨d, a.name⟩ := by
  simp [all, Assembly.declarations, List.map_flatMap]

theorem row_injective : Function.Injective row := by
  rintro ⟨⟨kind, name, fullName⟩, assembly⟩ ⟨⟨kind', name', fullName'⟩, assembly'⟩ h
  simp only [row, SymbolRow.mk.injEq, label_injective.eq_iff] at h
  obtain ⟨rfl, rfl, rfl, -, rfl⟩ := h
  rfl

end SymbolEntry

/-- The rows of an assembly are those of the first symbols of their kind and full name. -/
theorem row_mem_allOf_iff {a : Assembly} {d : Declaration} :
    SymbolEntry.row ⟨d, a.name⟩ ∈ SymbolRow.allOf a ↔
      a.firstDeclared? d.kind d.fullName = some d := by
  have hkey : ∀ e : Declaration,
      ((SymbolEntry.row ⟨e, a.name⟩).key == (SymbolEntry.row ⟨d, a.name⟩).key) =
        (e.kind == d.kind && e.fullName == d.fullName) := by
    intro e
    rw [← SymbolEntry.repeats_eq, SymbolEntry.repeats, beq_self_eq_true, Bool.and_true]
  have hrows : SymbolRow.allOf a =
      (firstByKey (fun e => (SymbolEntry.row ⟨e, a.name⟩).key) a.declarations).map
        fun e => SymbolEntry.row ⟨e, a.name⟩ := by
    rw [allOf_eq, SymbolEntry.all_singleton, List.map_map, firstByKey_map]
    rfl
  have hinj : Function.Injective fun e : Declaration => SymbolEntry.row ⟨e, a.name⟩ :=
    fun e e' heq => congrArg (·.toDeclaration) (SymbolEntry.row_injective heq)
  rw [hrows, Assembly.firstDeclared?]
  refine (List.mem_map_of_injective hinj).trans (mem_firstByKey_iff.trans ?_)
  simp only [hkey]

theorem allOf_eq_of_declarations_eq {a b : Assembly} (hname : a.name = b.name)
    (h : a.declarations = b.declarations) : SymbolRow.allOf a = SymbolRow.allOf b := by
  rw [allOf_eq, allOf_eq, SymbolEntry.all_singleton, SymbolEntry.all_singleton, hname, h]

/-- The hash tells the text of an assembly from the texts that others have under its name. -/
def HashTells (a : Assembly) (others : List Assembly) : Prop :=
  ∀ b ∈ others, b.name = a.name →
    (AssemblyRow.of b).contentHash = (AssemblyRow.of a).contentHash →
      b.canonicalText = a.canonicalText

namespace Tables

variable {t : Tables} {as : List Assembly} {a : Assembly}

/-- After saving an assembly, the rows under its name are the rows of its symbols. -/
theorem Catalogued.mem_symbols_save (h : t.Catalogued as) (hhash : HashTells a as)
    {s : SymbolRow} (hs : s.assembly = a.name) :
    s ∈ (t.save a).1.symbols ↔ s ∈ SymbolRow.allOf a := by
  unfold Tables.save
  by_cases hsame : (t.assemblies.find? (·.name == a.name)).map (·.contentHash) =
      some (AssemblyRow.of a).contentHash
  · -- The rows are those of the assembly that was saved under the name before.
    rw [if_pos hsame, h.symbols.mem_iff, List.mem_flatMap]
    rw [h.rows, find?_map_contentHash h.nodup] at hsame
    obtain ⟨b, hb, hname, hash⟩ := hsame
    have hrows : SymbolRow.allOf b = SymbolRow.allOf a := allOf_eq_of_declarations_eq hname
      (Assembly.declarations_eq_of_canonicalText_eq (hhash b hb hname hash))
    constructor
    · rintro ⟨c, hc, hmem⟩
      have hcb : c = b := List.inj_on_of_nodup_map h.nodup hc hb
        ((assembly_of_mem_allOf hmem).symm.trans (hs.trans hname.symm))
      rwa [← hrows, ← hcb]
    · exact fun hmem => ⟨b, hb, hrows ▸ hmem⟩
  · rw [if_neg hsame]
    simp [hs]

/-- With a limit that allows all symbols, a lookup shows the symbols with rows that match. -/
theorem Catalogued.mem_lookup (h : t.Catalogued as) (name : String) (kind : Option SymbolKind)
    {limit : Nat} (hlimit : t.symbols.length ≤ limit) :
    ∃ found, t.lookup name kind limit = .ok found ∧ ∀ m, m ∈ found ↔
      ∃ e : SymbolEntry, e.row ∈ t.symbols ∧ kind.all (· == e.kind) = true ∧
        (e.fullName = name ∨ sameName e.name name = true) ∧ e.toMatch = m := by
  have hperm := h.symbols
  rw [flatMap_allOf_eq_map_row h.nodup] at hperm
  have hall : limitRows limit (SymbolEntry.matching sameName as name kind) =
      SymbolEntry.matching sameName as name kind := by
    have hlength : (SymbolEntry.matching sameName as name kind).length ≤ t.symbols.length := by
      rw [SymbolEntry.matching, (sortedBy_perm _ _).length_eq, List.length_map, hperm.length_eq,
        List.length_map]
      exact List.length_filter_le _ _
    rw [limitRows]
    split
    · exact List.take_of_length_le (hlength.trans hlimit)
    · rfl
  refine ⟨_, h.lookup_eq name kind limit, fun m => ?_⟩
  rw [hall, SymbolEntry.matching, mem_sortedBy, List.mem_map]
  simp only [List.mem_filter, Bool.and_eq_true, Bool.or_eq_true, beq_iff_eq, hperm.mem_iff,
    List.mem_map_of_injective SymbolEntry.row_injective, and_assoc]

/-- A lookup for a kind shows a full name of a saved assembly if and only if the first symbol of
this kind and full name matches. -/
theorem Catalogued.mem_lookup_save (h : t.Catalogued as) (hhash : HashTells a as)
    (name : String) (kind : SymbolKind) (fullName : String) {limit : Nat}
    (hlimit : (t.save a).1.symbols.length ≤ limit) :
    ∃ found, (t.save a).1.lookup name (some kind) limit = .ok found ∧
      (⟨kind, fullName, a.name⟩ ∈ found ↔
        ∃ e, a.firstDeclared? kind fullName = some e ∧
          (fullName = name ∨ sameName e.name name = true)) := by
  obtain ⟨as', h', -⟩ := h.save a
  obtain ⟨found, hfound, hmem⟩ := h'.mem_lookup name (some kind) hlimit
  refine ⟨found, hfound, (hmem _).trans ?_⟩
  constructor
  · rintro ⟨⟨e, assembly⟩, hrow, -, hname, heq⟩
    obtain ⟨rfl, rfl, rfl⟩ : e.kind = kind ∧ e.fullName = fullName ∧ assembly = a.name := by
      simpa [SymbolEntry.toMatch] using heq
    rw [h.mem_symbols_save hhash rfl, row_mem_allOf_iff] at hrow
    exact ⟨e, hrow, hname⟩
  · rintro ⟨e, hfirst, hname⟩
    obtain ⟨rfl, rfl⟩ : e.kind = kind ∧ e.fullName = fullName := by
      simpa using List.find?_some hfirst
    refine ⟨⟨e, a.name⟩, ?_, by simp, hname, rfl⟩
    rw [h.mem_symbols_save hhash rfl, row_mem_allOf_iff]
    exact hfirst

/-- **A lookup by the simple name of a declared symbol shows it if and only if the first symbol of
its kind and full name has the same simple name.** The assembly is saved after any requests to an
empty store, the limit allows all symbols, and the hash tells the text of the assembly from other
texts that were saved under its name. A lookup by the full name shows the symbol in any case. A
lookup by the simple name shows it if it is a type, or if all names are plain. -/
theorem lookup_declared_iff (t : Tables) (hassemblies : t.assemblies = [])
    (hsymbols : t.symbols = []) (requests : List Request) (a : Assembly)
    (hhash : HashTells a (requests.flatMap Request.assemblies))
    (limit : Nat) (hlimit : ((t.serveAll requests).1.save a).1.symbols.length ≤ limit)
    (type : TypeDef) (htype : type ∈ a.types) (d : Declaration) (hd : d ∈ type.declarations) :
    ∃ first found foundFull,
      a.firstDeclared? d.kind d.fullName = some first ∧
      ((t.serveAll requests).1.save a).1.lookup d.name (some d.kind) limit = .ok found ∧
      ((t.serveAll requests).1.save a).1.lookup d.fullName (some d.kind) limit = .ok foundFull ∧
      (⟨d.kind, d.fullName, a.name⟩ ∈ found ↔ sameName first.name d.name = true) ∧
      ⟨d.kind, d.fullName, a.name⟩ ∈ foundFull ∧
      (d.kind = .type → ⟨d.kind, d.fullName, a.name⟩ ∈ found) ∧
      ((∀ u ∈ a.types, u.HasPlainNames) → ⟨d.kind, d.fullName, a.name⟩ ∈ found) := by
  have hstart : t.Catalogued [] := ⟨hassemblies, List.nodup_nil, by rw [hsymbols]; rfl⟩
  obtain ⟨stored, h, hsub⟩ := hstart.serveAll requests
  have htexts : HashTells a stored :=
    fun b hb => hhash b ((hsub b hb).resolve_right List.not_mem_nil)
  obtain ⟨first, hfirst⟩ : ∃ first, a.firstDeclared? d.kind d.fullName = some first := by
    refine Option.isSome_iff_exists.1 (List.find?_isSome.2 ⟨d, ?_, by simp⟩)
    exact List.mem_flatMap.2 ⟨type, htype, hd⟩
  obtain ⟨hkind, hfull⟩ : first.kind = d.kind ∧ first.fullName = d.fullName := by
    simpa using List.find?_some hfirst
  obtain ⟨u, hu, hdeclared⟩ := List.mem_flatMap.1 (List.mem_of_find?_eq_some hfirst)
  have htypes : d.kind = .type → first.name = d.name := fun htype =>
    TypeDef.name_eq_of_type hdeclared hd (hkind.trans htype) htype hfull
  obtain ⟨found, hfound, hiff⟩ := h.mem_lookup_save htexts d.name d.kind d.fullName hlimit
  obtain ⟨foundFull, hfoundFull, hiffFull⟩ :=
    h.mem_lookup_save htexts d.fullName d.kind d.fullName hlimit
  have hshown : ⟨d.kind, d.fullName, a.name⟩ ∈ found ↔ sameName first.name d.name = true := by
    rw [hiff]
    constructor
    · rintro ⟨e, he, hname⟩
      obtain rfl : first = e := Option.some.inj (hfirst.symm.trans he)
      -- Only a type can have the simple name for its full name, and then all of them have it.
      refine hname.elim (fun hname => ?_) id
      rw [htypes (TypeDef.kind_eq_of_fullName_eq_name hd hname), sameName_self]
    · exact fun hname => ⟨first, hfirst, .inr hname⟩
  refine ⟨first, found, foundFull, hfirst, hfound, hfoundFull, hshown,
    hiffFull.2 ⟨first, hfirst, .inl rfl⟩, fun htype => ?_, fun hplain => ?_⟩
  · rw [hshown, htypes htype, sameName_self]
  · rw [hshown, (hplain u hu).name_eq (hplain type htype) hdeclared hd hkind hfull, sameName_self]

/-- The fields `B.C` of `A` and `C` of `A.B` have the same full name. The first of them is shown
under its simple name, also after another assembly was saved that declares it. -/
theorem lookup_declared_iff_first :
    let field (name : String) : Field := { name, type := { fullName := "Int" } }
    let outer : TypeDef := { TypeDef.named "A" with fields := [field "B.C"] }
    let inner : TypeDef := { TypeDef.named "A.B" with fields := [field "C"] }
    let app : Assembly := .ofTypes "App" [outer, inner]
    let requests : List Request := [.save (.ofTypes "Lib" [inner])]
    let t := ((({} : Tables).serveAll requests).1.save app).1
    let d : Declaration := ⟨.field, "B.C", "A.B.C"⟩
    HashTells app (requests.flatMap Request.assemblies) ∧ t.symbols.length ≤ 10 ∧
      outer ∈ app.types ∧ d ∈ outer.declarations ∧
      ∃ found, t.lookup "B.C" (some .field) 10 = .ok found ∧ ⟨.field, "A.B.C", "App"⟩ ∈ found := by
  intro field outer inner app requests t d
  have hhash : HashTells app (requests.flatMap Request.assemblies) := by
    intro b hb hname
    rw [List.mem_singleton.1 hb] at hname
    exact absurd hname (by decide)
  have hlimit : t.symbols.length ≤ 10 := by decide +kernel
  have htype : outer ∈ app.types := by
    simp [app, outer, inner, Assembly.types, Assembly.ofTypes, TypeDef.allWithNested,
      TypeDef.withNested, TypeDef.named]
  have hd : d ∈ outer.declarations := by decide +kernel
  obtain ⟨first, found, -, hfirst, hfound, -, hshown, -⟩ :=
    lookup_declared_iff {} rfl rfl requests app hhash 10 hlimit outer htype d hd
  have hself : app.firstDeclared? .field "A.B.C" = some d := by decide +kernel
  obtain rfl : first = d := Option.some.inj (hfirst.symm.trans hself)
  exact ⟨hhash, hlimit, htype, hd, found, hfound, hshown.2 (sameName_self _)⟩

/-- An assembly that passes the checks on snapshots is saved in an empty store. A lookup by the
simple name of one of its fields shows nothing: the row with the full name of the field is that of
another. -/
theorem lookup_misses_field :
    let field (name : String) : Field := { name, type := { fullName := "Int" } }
    let outer : TypeDef := { TypeDef.named "A" with fields := [field "B.C"] }
    let inner : TypeDef := { TypeDef.named "A.B" with fields := [field "C"] }
    let app : Assembly := .ofTypes "App" [outer, inner]
    let t := (({} : Tables).save app).1
    app.fault? = none ∧ inner ∈ app.types ∧ ⟨.field, "C", "A.B.C"⟩ ∈ inner.declarations ∧
      t.symbols.length ≤ 10 ∧ t.lookup "C" (some .field) 10 = .ok [] := by
  intro field outer inner app t
  refine ⟨by decide +kernel, ?_, by decide +kernel, by decide +kernel, by decide +kernel⟩
  simp [app, outer, inner, Assembly.types, Assembly.ofTypes, TypeDef.allWithNested,
    TypeDef.withNested, TypeDef.named]

end Tables

end Store

end AssemblyAtlas
