import AssemblyAtlas.Proofs.Json.Decoding
import AssemblyAtlas.Proofs.Json.RoundTrip
import AssemblyAtlas.Proofs.Metadata.Nesting
import AssemblyAtlas.Snapshot.Encode
import AssemblyAtlas.Snapshot.Load

/-!
# Snapshots read back what they write

Every part of an assembly is decoded from its encoding, exactly when the encoding is not nested too
deeply. Operations are normalised when they are read, so methods have to hold normal ones
(`Method.IsNormal`). The laws of the parts give `Assembly.decode_recovers`, and with the round trip
of JSON text `Snapshot.load_canonicalText`: the canonical text of an assembly is loaded as that
assembly. So no two assemblies share a canonical text (`Assembly.eq_of_canonicalText_eq`).
-/

namespace AssemblyAtlas

open Json Members

/-! ### Signatures and references -/

theorem TypeSig.decode_recovers (s : TypeSig) : Decoder.Recovers decode toJson s := by
  refine Decoder.record_recovers (fun _ _ => rfl) ?_ (by decide) fun n => ?_
  · rcases s with ⟨_, _ | _⟩ <;> simp [toFields, field?]
  · refine ((required_yields (by simp [toFields]) (Decoder.text_recovers s.fullName n)).bind <|
      (optional_yields (x := s.assembly) (by simp [toFields, List.lookup_cons]) (by simp [text])
        fun a _ => Decoder.text_recovers a n).bind (.pure s)).congr ?_
    simp [toFields]

theorem MemberRef.decode_recovers (r : MemberRef) : Decoder.Recovers decode toJson r := by
  refine Decoder.record_recovers (fun _ _ => rfl) ?_ (by decide) fun n => ?_
  · rcases r with ⟨_, _, _ | _, _ | _⟩ <;> simp [toFields, field?]
  · refine ((required_yields (by simp [toFields]) (Decoder.text_recovers r.declaringType n)).bind <|
      (required_yields (by simp [toFields, List.lookup_cons])
        (Decoder.text_recovers r.name n)).bind <|
      (optional_yields (x := r.assembly) (by simp [toFields, List.lookup_cons, List.lookup_append])
        (by simp [text]) fun a _ => Decoder.text_recovers a n).bind <|
      (optional_yields (x := r.parameters)
        (by simp [toFields, List.lookup_cons, List.lookup_append]) (by simp [list])
        fun _ _ => Decoder.list_recovers _ (fun s _ => s.decode_recovers) n).bind
        (.pure r)).congr ?_
    simp [toFields]

theorem TypeSig.keeps_toJson (s : TypeSig) : Keeps s.toJson := by
  apply keeps_record
  rcases s with ⟨_, _ | _⟩ <;> simp [toFields, field?, keeps_text]

theorem MemberRef.keeps_toFields (r : MemberRef) : ∀ f ∈ r.toFields, Keeps f.2 := by
  have hlist : ∀ ps : List TypeSig, Keeps (list TypeSig.toJson ps) := fun ps =>
    keeps_list fun s _ => s.keeps_toJson
  rcases r with ⟨_, _, _ | _, _ | _⟩ <;> simp [toFields, field?, keeps_text, hlist]

/-! ### Instructions -/

theorem Operand.decode_recovers (o : Operand) : Decoder.Recovers decode toJson o := by
  intro levels
  have hmember : ∀ r : MemberRef, ∀ f ∈ r.toFields, f.1 ≠ "kind" := by
    rintro ⟨_, _, _ | _, _ | _⟩ <;> simp [MemberRef.toFields, field?]
  have hsig : ∀ s : TypeSig, ∀ f ∈ s.toFields, f.1 ≠ "kind" := by
    rintro ⟨_, _ | _⟩ <;> simp [TypeSig.toFields, field?]
  have hkeepSig : ∀ s : TypeSig, ∀ f ∈ s.toFields, Keeps f.2 := by
    rintro ⟨_, _ | _⟩ <;> simp [TypeSig.toFields, field?, keeps_text]
  cases o with
  | method r =>
    exact Decoder.tagged_yields rfl (hmember r) r.keeps_toFields
      (fun n => (r.decode_recovers n).map Operand.method) levels
  | field r =>
    exact Decoder.tagged_yields rfl (hmember r) r.keeps_toFields
      (fun n => (r.decode_recovers n).map Operand.field) levels
  | type s =>
    exact Decoder.tagged_yields rfl (hsig s) (hkeepSig s)
      (fun n => (s.decode_recovers n).map Operand.type) levels

theorem Operand.toJson_ne_null (o : Operand) : o.toJson ≠ .null := by
  cases o <;> simp [toJson, record]

theorem OpCode.decode_recovers {op : OpCode} (h : op.IsNormal) :
    Decoder.Recovers decode (fun op => text op.mnemonic) op :=
  fun _ => yields_of_eq (congrArg some h) (Nat.zero_le _)

theorem Instruction.decode_recovers {i : Instruction} (h : i.opcode.IsNormal) :
    Decoder.Recovers decode toJson i := by
  refine Decoder.record_recovers (fun _ _ => rfl) ?_ (by decide) fun n => ?_
  · rcases i with ⟨_ | _, _, _ | _⟩ <;> simp [field?]
  · refine ((optional_yields (x := i.offset) (by simp [List.lookup_append, List.lookup_cons])
        (by simp [nat, int]) fun k _ => Decoder.uint32_recovers k n).bind <|
      (required_yields (f := fun op : OpCode => text op.mnemonic) (by simp [List.lookup_append])
        (OpCode.decode_recovers h n)).bind <|
      (optional_yields (x := i.operand) (by simp [List.lookup_append, List.lookup_cons])
        Operand.toJson_ne_null fun o _ => o.decode_recovers n).bind (.pure i)).congr ?_
    simp

/-! ### Members -/

theorem Visibility.decode_recovers (v : Visibility) : Decoder.Recovers decode toJson v :=
  Decoder.name_recovers (by cases v <;> rfl)

theorem Parameter.decode_recovers (p : Parameter) : Decoder.Recovers decode toJson p := by
  refine Decoder.record_recovers (fun _ _ => rfl) (by simp) (by decide) fun n => ?_
  refine ((required_yields (by simp) (Decoder.text_recovers p.name n)).bind <|
    (required_yields (by simp [List.lookup_cons]) (p.type.decode_recovers n)).bind
      (.pure p)).congr ?_
  simp

/-- Every operation in the body of the method is normal. -/
def Method.IsNormal (m : Method) : Prop :=
  ∀ i ∈ m.body, i.opcode.IsNormal

theorem Method.decode_recovers {m : Method} (h : m.IsNormal) :
    Decoder.Recovers decode toJson m := by
  have hbody : ∀ is ∈ m.instructions,
      Decoder.Recovers (Decoder.list Instruction.decode) (list Instruction.toJson) is := by
    intro is his
    refine Decoder.list_recovers _ fun i hi => Instruction.decode_recovers (h i ?_)
    rw [body, his, Option.getD_some]
    exact hi
  refine Decoder.record_recovers (fun _ _ => rfl) ?_ (by decide) fun n => ?_
  · rcases m with ⟨_, _, _, _, _, _ | _, _, _ | _⟩ <;> simp [field?]
  · refine ((required_yields (by simp) (Decoder.text_recovers m.name n)).bind <|
      (orElse_yields (by simp [List.lookup_cons]) (m.visibility.decode_recovers n)).bind <|
      (orElse_yields (by simp [List.lookup_cons]) (Decoder.bool_recovers m.isStatic n)).bind <|
      (orElse_yields (by simp [List.lookup_cons]) (Decoder.bool_recovers m.isVirtual n)).bind <|
      (orElse_yields (by simp [List.lookup_cons]) (Decoder.bool_recovers m.isAbstract n)).bind <|
      (optional_yields (x := m.returnType) (by simp [List.lookup_cons, List.lookup_append])
        (by simp [TypeSig.toJson, record]) fun s _ => s.decode_recovers n).bind <|
      (orElse_yields (by simp [List.lookup_cons, List.lookup_append])
        (Decoder.list_recovers m.parameters (fun p _ => p.decode_recovers) n)).bind <|
      (optional_yields (x := m.instructions) (by simp [List.lookup_cons, List.lookup_append])
        (by simp [list]) fun is his => hbody is his n).bind (.pure m)).congr ?_
    simp [Visibility.toJson]

theorem Field.decode_recovers (f : Field) : Decoder.Recovers decode toJson f := by
  refine Decoder.record_recovers (fun _ _ => rfl) (by simp) (by decide) fun n => ?_
  refine ((required_yields (by simp) (Decoder.text_recovers f.name n)).bind <|
    (required_yields (by simp [List.lookup_cons]) (f.type.decode_recovers n)).bind <|
    (orElse_yields (by simp [List.lookup_cons]) (f.visibility.decode_recovers n)).bind <|
    (orElse_yields (by simp [List.lookup_cons]) (Decoder.bool_recovers f.isStatic n)).bind <|
    (orElse_yields (by simp [List.lookup_cons]) (Decoder.bool_recovers f.isLiteral n)).bind
      (.pure f)).congr ?_
  simp [Visibility.toJson]

theorem Property.decode_recovers (p : Property) : Decoder.Recovers decode toJson p := by
  refine Decoder.record_recovers (fun _ _ => rfl) ?_ (by decide) fun n => ?_
  · rcases p with ⟨_, _, _ | _, _ | _⟩ <;> simp [field?]
  · refine ((required_yields (by simp) (Decoder.text_recovers p.name n)).bind <|
      (required_yields (by simp [List.lookup_cons]) (p.type.decode_recovers n)).bind <|
      (optional_yields (x := p.getter) (by simp [List.lookup_cons, List.lookup_append])
        (by simp [text]) fun a _ => Decoder.text_recovers a n).bind <|
      (optional_yields (x := p.setter) (by simp [List.lookup_cons, List.lookup_append])
        (by simp [text]) fun a _ => Decoder.text_recovers a n).bind (.pure p)).congr ?_
    simp

/-! ### Types -/

namespace TypeDef

/-- Every operation in the type and in the types nested in it is normal. -/
def IsNormal (t : TypeDef) : Prop :=
  ∀ u ∈ t.withNested, ∀ m ∈ u.methods, m.IsNormal

theorem IsNormal.methods {t : TypeDef} (h : t.IsNormal) : ∀ m ∈ t.methods, m.IsNormal :=
  h t t.self_mem_withNested

theorem IsNormal.nested {info : TypeInfo} {nested : List TypeDef}
    (h : IsNormal ⟨info, nested⟩) : ∀ t ∈ nested, t.IsNormal := by
  intro t ht u hu
  apply h u
  rw [withNested_mk]
  exact List.mem_cons_of_mem _ (List.mem_flatMap.2 ⟨t, ht, hu⟩)

theorem allToJson_eq_map (ts : List TypeDef) : allToJson ts = ts.map toJson := by
  induction ts with
  | nil => simp [allToJson]
  | cons t ts ih => simp [allToJson, ih]

/-- The fields of a type. -/
def toFields (t : TypeDef) : List (String × Json) :=
  t.toTypeInfo.toFields ++ [("nested_types", list toJson t.nested)]

theorem toJson_eq (t : TypeDef) : t.toJson = record t.toFields := by
  obtain ⟨info, nested⟩ := t
  rw [toJson, allToJson_eq_map]
  rfl

/-- A type is read back by a decoder for its nested types that reads them back at every lower
level. -/
theorem decodeWith_yields {d : Decoder TypeDef} {t : TypeDef} {levels : Nat}
    (hmethods : ∀ m ∈ t.methods, m.IsNormal)
    (hnested : ∀ u ∈ t.nested, ∀ n < levels - 1, Yields (d n u.toJson) (u.toJson.nesting ≤ n) u) :
    Yields (decodeWith d levels t.toJson) (t.toJson.nesting ≤ levels) t := by
  obtain ⟨info, nested⟩ := t
  rw [toJson_eq]
  refine members_yields ?_ (by decide) fun n hn => ?_
  · rcases info with ⟨_, _, _, _, _, _, _, _ | _, _, _, _, _⟩ <;>
      simp [toFields, TypeInfo.toFields, field?, fieldNames]
  · refine ((required_yields (by simp [toFields, TypeInfo.toFields])
        (Decoder.text_recovers info.fullName n)).bind <|
      (orElse_yields (by simp [toFields, TypeInfo.toFields, List.lookup_cons])
        (info.visibility.decode_recovers n)).bind <|
      (orElse_yields (by simp [toFields, TypeInfo.toFields, List.lookup_cons])
        (Decoder.bool_recovers info.isValueType n)).bind <|
      (orElse_yields (by simp [toFields, TypeInfo.toFields, List.lookup_cons])
        (Decoder.bool_recovers info.isAbstract n)).bind <|
      (orElse_yields (by simp [toFields, TypeInfo.toFields, List.lookup_cons])
        (Decoder.bool_recovers info.isSealed n)).bind <|
      (orElse_yields (by simp [toFields, TypeInfo.toFields, List.lookup_cons])
        (Decoder.bool_recovers info.isInterface n)).bind <|
      (orElse_yields (by simp [toFields, TypeInfo.toFields, List.lookup_cons])
        (Decoder.bool_recovers info.isEnum n)).bind <|
      (optional_yields (x := info.baseType)
        (by simp [toFields, TypeInfo.toFields, List.lookup_cons, List.lookup_append])
        (by simp [TypeSig.toJson, record]) fun s _ => s.decode_recovers n).bind <|
      (orElse_yields (by simp [toFields, TypeInfo.toFields, List.lookup_cons, List.lookup_append])
        (Decoder.list_recovers info.interfaces (fun s _ => s.decode_recovers) n)).bind <|
      (orElse_yields (by simp [toFields, TypeInfo.toFields, List.lookup_cons, List.lookup_append])
        (Decoder.list_recovers info.fields (fun f _ => f.decode_recovers) n)).bind <|
      (orElse_yields (by simp [toFields, TypeInfo.toFields, List.lookup_cons, List.lookup_append])
        (Decoder.list_recovers info.methods
          (fun m hm => Method.decode_recovers (hmethods m hm)) n)).bind <|
      (orElse_yields (by simp [toFields, TypeInfo.toFields, List.lookup_cons, List.lookup_append])
        (Decoder.list_recovers info.properties (fun p _ => p.decode_recovers) n)).bind <|
      (orElse_yields (by simp [toFields, TypeInfo.toFields, List.lookup_cons, List.lookup_append])
        (Decoder.list_yields nested fun u hu k hk =>
          hnested u hu k (by omega))).bind (.pure (TypeDef.mk info nested))).congr ?_
    simp [toFields, TypeInfo.toFields, Visibility.toJson]

/-- **Types are read back**: the number of levels that may be entered bounds the depth of types
within types, since each type enters at least one level. -/
theorem decodeNested_yields {t : TypeDef} (h : t.IsNormal) {depth levels : Nat}
    (hdepth : levels ≤ depth) :
    Yields (decodeNested depth levels t.toJson) (t.toJson.nesting ≤ levels) t := by
  induction t using nestedInduction generalizing depth levels with
  | node info nested ih =>
    cases depth with
    | zero =>
      have hpos := nesting_record_pos (toFields ⟨info, nested⟩)
      intro y
      simp only [decodeNested, reduceCtorEq, false_iff, not_and, toJson_eq]
      omega
    | succ depth =>
      refine decodeWith_yields h.methods fun u hu n hn => ?_
      exact ih u hu (h.nested u hu) (by omega)

theorem decode_recovers {t : TypeDef} (h : t.IsNormal) : Decoder.Recovers decode toJson t :=
  fun levels => decodeNested_yields h (Nat.le_refl levels)

end TypeDef

/-! ### Assemblies -/

theorem Module.decode_recovers {m : Module} (h : ∀ t ∈ m.types, t.IsNormal) :
    Decoder.Recovers decode toJson m := by
  refine Decoder.record_recovers (fun _ _ => rfl) (by simp) (by decide) fun n => ?_
  refine ((required_yields (by simp) (Decoder.text_recovers m.name n)).bind <|
    (orElse_yields (by simp [List.lookup_cons]) (Decoder.list_recovers m.types
      (fun t ht => TypeDef.decode_recovers (h t ht)) n)).bind (.pure m)).congr ?_
  simp

namespace Assembly

/-- The operations of all instructions in an assembly. -/
def opcodes (a : Assembly) : List OpCode :=
  a.types.flatMap fun t => t.methods.flatMap fun m => m.body.map (·.opcode)

theorem isNormal_of_opcodes {a : Assembly} (h : ∀ op ∈ a.opcodes, op.IsNormal) :
    ∀ m ∈ a.modules, ∀ t ∈ m.types, t.IsNormal := by
  intro m hm t ht u hu f hf i hi
  have hu' : u ∈ a.types := by
    rw [types, List.mem_flatMap]
    exact ⟨m, hm, by rw [TypeDef.allWithNested_eq_flatMap]; exact List.mem_flatMap.2 ⟨t, ht, hu⟩⟩
  apply h
  simp only [opcodes, List.mem_flatMap]
  exact ⟨u, hu', f, hf, List.mem_map.2 ⟨i, hi, rfl⟩⟩

/-- **An assembly is read back from its JSON**, exactly when that is not nested too deeply. -/
theorem decode_recovers {a : Assembly} (h : ∀ op ∈ a.opcodes, op.IsNormal) :
    Decoder.Recovers decode toJson a := by
  refine Decoder.record_recovers (fun _ _ => rfl) ?_ (by decide) fun n => ?_
  · rcases a with ⟨_, _, _ | _, _ | _, _⟩ <;> simp [field?]
  · refine ((required_yields (by simp) (Decoder.text_recovers a.name n)).bind <|
      (orElse_yields (by simp [List.lookup_cons]) (Decoder.text_recovers a.version n)).bind <|
      (optional_yields (x := a.culture) (by simp [List.lookup_cons, List.lookup_append])
        (by simp [text]) fun s _ => Decoder.text_recovers s n).bind <|
      (optional_yields (x := a.publicKeyToken) (by simp [List.lookup_cons, List.lookup_append])
        (by simp [text]) fun s _ => Decoder.text_recovers s n).bind <|
      (orElse_yields (by simp [List.lookup_cons, List.lookup_append])
        (Decoder.list_recovers a.modules
          (fun m hm => Module.decode_recovers (isNormal_of_opcodes h m hm)) n)).bind
        (.pure a)).congr ?_
    simp

/-- The assembly can be kept as its canonical text: it passes the checks on snapshots, its
operations are normal, and its text is not nested too deeply. -/
structure IsStorable (a : Assembly) : Prop where
  /-- It passes the checks on snapshots. -/
  valid : a.fault? = none
  /-- Its operations are ones that mnemonics give. -/
  normal : ∀ op ∈ a.opcodes, op.IsNormal
  /-- Its text is nested no deeper than is read. -/
  shallow : a.toJson.nesting ≤ Snapshot.maxNesting

end Assembly

/-- **The canonical text of an assembly is loaded as the assembly.** -/
theorem Snapshot.load_canonicalText {a : Assembly} (h : a.IsStorable) :
    load a.canonicalText = .ok a := by
  have hdecode : Assembly.decode maxNesting a.toJson = some a :=
    (Assembly.decode_recovers h.normal maxNesting a).2 ⟨h.shallow, rfl⟩
  simp [load, Assembly.canonicalText, parse?_render, hdecode, h.valid]

theorem Assembly.eq_of_canonicalText_eq {a b : Assembly} (ha : a.IsStorable) (hb : b.IsStorable)
    (h : a.canonicalText = b.canonicalText) : a = b := by
  have hload := Snapshot.load_canonicalText ha
  rw [h, Snapshot.load_canonicalText hb] at hload
  exact (Except.ok.inj hload).symm

end AssemblyAtlas
