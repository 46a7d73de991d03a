import AssemblyAtlas.Catalog.Symbol
import AssemblyAtlas.Proofs.Snapshot.RoundTrip

/-!
# What a snapshot says is declared

The canonical text of an assembly says what the assembly declares, whether it can be loaded or not:
assemblies with the same text have the same name and declare the same symbols in the same order
(`Assembly.declarations_eq_of_canonicalText_eq`). Each part is read off the fields of its JSON, and
types by induction over the types nested in them.
-/

namespace AssemblyAtlas

open Json

/-- The symbols that an assembly declares, type by type in order of declaration. -/
def Assembly.declarations (a : Assembly) : List Declaration :=
  a.types.flatMap (·.declarations)

/-! ### Reading fields -/

namespace Json

theorem text_injective : Function.Injective text := by
  intro s t h
  simpa [text] using h

/-- Records that are equal have the same value in every field. -/
theorem lookup_eq_of_record_eq {fields fields' : List (String × Json)}
    (h : record fields = record fields') (name : String) :
    fields.lookup name = fields'.lookup name := by
  have hinj : Function.Injective fun field : String × Json => (some field.1, field.2) := by
    rintro ⟨n, j⟩ ⟨n', j'⟩ heq
    simpa using heq
  rw [List.map_injective_iff.2 hinj (Json.object.inj h)]

end Json

section Lists

variable {α β γ : Type} {f : α → γ} {g : α → β} {xs ys : List α}

/-- What each element of a list tells about itself, the list tells about all. -/
theorem map_eq_of_map_eq (helem : ∀ x ∈ xs, ∀ y, f x = f y → g x = g y)
    (h : xs.map f = ys.map f) : xs.map g = ys.map g := by
  induction xs generalizing ys with
  | nil =>
    rw [List.map_nil, eq_comm, List.map_eq_nil_iff] at h
    rw [h]
  | cons x xs ih =>
    cases ys with
    | nil => cases h
    | cons y ys =>
      obtain ⟨hhead, htail⟩ := List.cons.inj h
      rw [List.map_cons, List.map_cons, helem x List.mem_cons_self y hhead,
        ih (fun z hz => helem z (List.mem_cons_of_mem x hz)) htail]

theorem flatMap_eq_of_map_eq {g : α → List β} (helem : ∀ x ∈ xs, ∀ y, f x = f y → g x = g y)
    (h : xs.map f = ys.map f) : xs.flatMap g = ys.flatMap g := by
  rw [List.flatMap_def, List.flatMap_def, map_eq_of_map_eq helem h]

end Lists

/-! ### Members -/

theorem TypeSig.fullName_eq_of_toJson_eq {s s' : TypeSig} (h : s.toJson = s'.toJson) :
    s.fullName = s'.fullName := by
  have hname := lookup_eq_of_record_eq h "full_name"
  exact text_injective (by simpa [toFields] using hname)

theorem Parameter.fullName_eq_of_toJson_eq {p p' : Parameter} (h : p.toJson = p'.toJson) :
    p.type.fullName = p'.type.fullName := by
  have htype := lookup_eq_of_record_eq h "type"
  exact TypeSig.fullName_eq_of_toJson_eq (by simpa [List.lookup_cons] using htype)

theorem Method.named_eq_of_toJson_eq {m m' : Method} (h : m.toJson = m'.toJson) (type : String) :
    m.name = m'.name ∧ m.fullNameIn type = m'.fullNameIn type := by
  have hname : m.name = m'.name := by
    have hfield := lookup_eq_of_record_eq h "name"
    exact text_injective (by simpa using hfield)
  have hparameters : m.parameters.map Parameter.toJson = m'.parameters.map Parameter.toJson := by
    have hfield := lookup_eq_of_record_eq h "parameters"
    simpa [List.lookup_cons, List.lookup_append, lookup_field?, list] using hfield
  have htypes : m.parameters.map (·.type.fullName) = m'.parameters.map (·.type.fullName) :=
    map_eq_of_map_eq (fun p _ p' => Parameter.fullName_eq_of_toJson_eq) hparameters
  refine ⟨hname, ?_⟩
  simp only [fullNameIn, methodFullName, parameterTypes, hname, List.map_map, Function.comp_def,
    htypes]

theorem Field.name_eq_of_toJson_eq {f f' : Field} (h : f.toJson = f'.toJson) :
    f.name = f'.name := by
  have hname := lookup_eq_of_record_eq h "name"
  exact text_injective (by simpa using hname)

theorem Property.name_eq_of_toJson_eq {p p' : Property} (h : p.toJson = p'.toJson) :
    p.name = p'.name := by
  have hname := lookup_eq_of_record_eq h "name"
  exact text_injective (by simpa using hname)

/-! ### Types -/

namespace TypeDef

variable {t t' : TypeDef}

/-- The JSON of a type says what the type declares itself, and has the JSON of its nested types. -/
theorem declarations_eq_of_toJson_eq (h : t.toJson = t'.toJson) :
    t.declarations = t'.declarations ∧ t.nested.map toJson = t'.nested.map toJson := by
  rw [toJson_eq, toJson_eq] at h
  have hfield := lookup_eq_of_record_eq h
  simp only [toFields, TypeInfo.toFields, List.lookup_append, List.lookup_cons, list] at hfield
  have hname : t.fullName = t'.fullName :=
    text_injective (by simpa using hfield "full_name")
  have hmethods : t.methods.map Method.toJson = t'.methods.map Method.toJson := by
    simpa [lookup_field?] using hfield "methods"
  have hfields : t.fields.map Field.toJson = t'.fields.map Field.toJson := by
    simpa [lookup_field?] using hfield "fields"
  have hproperties : t.properties.map Property.toJson = t'.properties.map Property.toJson := by
    simpa [lookup_field?] using hfield "properties"
  have hnested : t.nested.map toJson = t'.nested.map toJson := by
    simpa [lookup_field?] using hfield "nested_types"
  refine ⟨?_, hnested⟩
  have hmethods' := map_eq_of_map_eq
    (g := fun m => (⟨.method, m.name, m.fullNameIn t'.fullName⟩ : Declaration))
    (fun m _ m' hm => by
      obtain ⟨hm, hfull⟩ := Method.named_eq_of_toJson_eq hm t'.fullName
      rw [hm, hfull])
    hmethods
  have hfields' := map_eq_of_map_eq
    (g := fun f => (⟨.field, f.name, memberFullName t'.fullName f.name⟩ : Declaration))
    (fun f _ f' hf => by rw [Field.name_eq_of_toJson_eq hf]) hfields
  have hproperties' := map_eq_of_map_eq
    (g := fun p => (⟨.property, p.name, memberFullName t'.fullName p.name⟩ : Declaration))
    (fun p _ p' hp => by rw [Property.name_eq_of_toJson_eq hp]) hproperties
  rw [declarations, declarations, name, name, hname, hmethods', hfields', hproperties']

theorem flatMap_declarations_eq_of_toJson_eq (h : t.toJson = t'.toJson) :
    t.withNested.flatMap declarations = t'.withNested.flatMap declarations := by
  induction t using nestedInduction generalizing t' with
  | node info nested ih =>
    obtain ⟨info', nested'⟩ := t'
    obtain ⟨hown, hnested⟩ := declarations_eq_of_toJson_eq h
    rw [withNested_mk, withNested_mk, List.flatMap_cons, List.flatMap_cons, hown,
      List.flatMap_assoc, List.flatMap_assoc]
    exact congrArg _ (flatMap_eq_of_map_eq (fun u hu u' => ih u hu) hnested)

end TypeDef

/-! ### Assemblies -/

theorem Module.flatMap_declarations_eq_of_toJson_eq {m m' : Module} (h : m.toJson = m'.toJson) :
    (TypeDef.allWithNested m.types).flatMap TypeDef.declarations =
      (TypeDef.allWithNested m'.types).flatMap TypeDef.declarations := by
  have htypes := lookup_eq_of_record_eq h "types"
  rw [TypeDef.allWithNested_eq_flatMap, TypeDef.allWithNested_eq_flatMap, List.flatMap_assoc,
    List.flatMap_assoc]
  exact flatMap_eq_of_map_eq (fun t _ t' => TypeDef.flatMap_declarations_eq_of_toJson_eq)
    (by simpa [List.lookup_cons, list] using htypes)

/-- **Assemblies with the same text declare the same symbols in the same order.** -/
theorem Assembly.declarations_eq_of_canonicalText_eq {a b : Assembly}
    (h : a.canonicalText = b.canonicalText) : a.declarations = b.declarations := by
  have hjson : a.toJson = b.toJson := by
    have hparse := parse?_render a.toJson
    rw [← canonicalText, h, canonicalText, parse?_render, Option.some.injEq] at hparse
    exact hparse.symm
  have hmodules := lookup_eq_of_record_eq hjson "modules"
  rw [declarations, declarations, types, types, List.flatMap_assoc, List.flatMap_assoc]
  exact flatMap_eq_of_map_eq (fun m _ m' => Module.flatMap_declarations_eq_of_toJson_eq)
    (by simpa [List.lookup_cons, List.lookup_append, lookup_field?, list] using hmodules)

end AssemblyAtlas
