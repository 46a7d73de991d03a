import AssemblyAtlas.Proofs.Snapshot.RoundTrip
import AssemblyAtlas.Proofs.Text.Blank

/-!
# What is accepted as a snapshot

All operations are read from their mnemonics, so an assembly that is read from any value at all has
normal operations only (`Assembly.decode_ensures`). With the law for reading back, this says exactly
which assemblies are loaded from their own canonical text (`Snapshot.load_canonicalText_iff`). For an
assembly that was loaded before nothing but its depth matters (`Snapshot.of_load`).
-/

namespace AssemblyAtlas

open Json

/-! ### Normal operations -/

namespace OpCode

theorem mnemonic_ofPlainMnemonic (m : String) : (ofPlainMnemonic m).mnemonic = m := by
  unfold ofPlainMnemonic
  split <;> rfl

/-- Reading a mnemonic trims it and turns it into lower case, which changes nothing the second
time. -/
theorem isNormal_ofMnemonic (s : String) : (ofMnemonic s).IsNormal := by
  have hplain : Text.lower (Text.trim (Text.lower (Text.trim s))) = Text.lower (Text.trim s) := by
    rw [Text.trim_lower, Text.trim_trim, Text.lower_lower]
  rw [IsNormal, ofMnemonic, ofMnemonic, mnemonic_ofPlainMnemonic, hplain]

theorem isNormal_iff {op : OpCode} : op.IsNormal ↔ ∃ s, ofMnemonic s = op := by
  constructor
  · intro h
    exact ⟨op.mnemonic, h⟩
  · rintro ⟨s, rfl⟩
    exact isNormal_ofMnemonic s

end OpCode

/-! ### Operations are read in their normal form -/

open Members

theorem OpCode.decode_ensures : Decoder.Ensures decode IsNormal := by
  intro levels j op hop
  obtain ⟨s, -, rfl⟩ := Option.map_eq_some_iff.1 hop
  exact isNormal_ofMnemonic s

theorem Instruction.decode_ensures : Decoder.Ensures decode fun i => i.opcode.IsNormal := by
  intro levels j
  refine .bind fun m _ => .bind fun offset _ => .bind fun opcode hopcode =>
    .bind fun operand _ => .pure ?_
  exact required_ensures OpCode.decode_ensures hopcode

theorem Method.decode_ensures : Decoder.Ensures decode IsNormal := by
  intro levels j
  refine .bind fun m _ => .bind fun name _ => .bind fun visibility _ => .bind fun isStatic _ =>
    .bind fun isVirtual _ => .bind fun isAbstract _ => .bind fun returnType _ =>
    .bind fun parameters _ => .bind fun instructions hinstructions => .pure ?_
  intro i hi
  cases instructions with
  | none => simp [body] at hi
  | some is => exact optional_ensures Instruction.decode_ensures.list hinstructions is rfl i hi

namespace TypeDef

theorem isNormal_mk {info : TypeInfo} {nested : List TypeDef}
    (hmethods : ∀ m ∈ info.methods, m.IsNormal) (hnested : ∀ t ∈ nested, t.IsNormal) :
    IsNormal ⟨info, nested⟩ := by
  intro u hu
  rw [withNested_mk] at hu
  rcases List.mem_cons.1 hu with rfl | hu
  · exact hmethods
  · obtain ⟨t, ht, hut⟩ := List.mem_flatMap.1 hu
    exact hnested t ht u hut

theorem decodeWith_ensures {d : Decoder TypeDef} (h : d.Ensures IsNormal) :
    (decodeWith d).Ensures IsNormal := by
  intro levels j
  refine .bind fun m _ => .bind fun fullName _ => .bind fun visibility _ =>
    .bind fun isValueType _ => .bind fun isAbstract _ => .bind fun isSealed _ =>
    .bind fun isInterface _ => .bind fun isEnum _ => .bind fun baseType _ =>
    .bind fun interfaces _ => .bind fun fields _ => .bind fun methods hmethods =>
    .bind fun properties _ => .bind fun nested hnested => .pure ?_
  exact isNormal_mk (orElse_ensures Method.decode_ensures.list (by simp) hmethods)
    (orElse_ensures h.list (by simp) hnested)

theorem decodeNested_ensures (depth : Nat) : (decodeNested depth).Ensures IsNormal := by
  induction depth with
  | zero =>
    intro levels j t ht
    cases ht
  | succ depth ih => exact decodeWith_ensures ih

theorem decode_ensures : Decoder.Ensures decode IsNormal :=
  fun levels => decodeNested_ensures levels levels

end TypeDef

theorem Module.decode_ensures : Decoder.Ensures decode fun m => ∀ t ∈ m.types, t.IsNormal := by
  intro levels j
  refine .bind fun m _ => .bind fun name _ => .bind fun types htypes => .pure ?_
  exact orElse_ensures TypeDef.decode_ensures.list (by simp) htypes

namespace Assembly

theorem opcodes_isNormal {a : Assembly} (h : ∀ m ∈ a.modules, ∀ t ∈ m.types, t.IsNormal) :
    ∀ op ∈ a.opcodes, op.IsNormal := by
  intro op hop
  simp only [opcodes, types, TypeDef.allWithNested_eq_flatMap, List.mem_flatMap] at hop
  obtain ⟨u, ⟨m, hm, t, ht, hu⟩, f, hf, hop⟩ := hop
  obtain ⟨i, hi, rfl⟩ := List.mem_map.1 hop
  exact h m hm t ht u hu f hf i hi

/-- **Whatever is read as an assembly has normal operations only.** -/
theorem decode_ensures : Decoder.Ensures decode fun a => ∀ op ∈ a.opcodes, op.IsNormal := by
  intro levels j
  refine .bind fun m _ => .bind fun name _ => .bind fun version _ => .bind fun culture _ =>
    .bind fun publicKeyToken _ => .bind fun modules hmodules => .pure ?_
  exact opcodes_isNormal (orElse_ensures Module.decode_ensures.list (by simp) hmodules)

end Assembly

/-! ### Loading the canonical text -/

namespace Snapshot

theorem load_eq_ok_iff {s : String} {a : Assembly} :
    load s = .ok a ↔ (parse? s).bind (Assembly.decode maxNesting) = some a ∧ a.fault? = none := by
  unfold load
  cases (parse? s).bind (Assembly.decode maxNesting) with
  | none => simp
  | some b => cases hb : b.fault? <;> grind

/-- An assembly that is loaded from some text passes the checks and has normal operations. -/
theorem of_load {s : String} {a : Assembly} (h : load s = .ok a) :
    a.fault? = none ∧ ∀ op ∈ a.opcodes, op.IsNormal := by
  obtain ⟨hread, hvalid⟩ := load_eq_ok_iff.1 h
  obtain ⟨j, -, hdecode⟩ := Option.bind_eq_some_iff.1 hread
  exact ⟨hvalid, Assembly.decode_ensures maxNesting j a hdecode⟩

/-- The canonical text of an assembly with normal operations is refused as malformed when it is
nested too deeply. -/
theorem load_canonicalText_deep {a : Assembly} (hnormal : ∀ op ∈ a.opcodes, op.IsNormal)
    (hdeep : maxNesting < a.toJson.nesting) : load a.canonicalText = .error .malformed := by
  have hdecode : Assembly.decode maxNesting a.toJson = none := by
    rw [Option.eq_none_iff_forall_ne_some]
    intro b hb
    have := ((Assembly.decode_recovers hnormal maxNesting b).1 hb).1
    omega
  simp [load, Assembly.canonicalText, parse?_render, hdecode]

/-- **Exactly these assemblies are loaded from their canonical text**: those that pass the checks on
snapshots, have only operations that mnemonics give, and are not nested too deeply. -/
theorem load_canonicalText_iff (a : Assembly) :
    load a.canonicalText = .ok a ↔
      a.fault? = none ∧ (∀ op ∈ a.opcodes, ∃ s, OpCode.ofMnemonic s = op) ∧
        a.toJson.nesting ≤ 127 := by
  simp only [← OpCode.isNormal_iff]
  constructor
  · intro h
    obtain ⟨hvalid, hnormal⟩ := of_load h
    refine ⟨hvalid, hnormal, ?_⟩
    -- A deeper text would have been refused.
    by_contra hdeep
    rw [load_canonicalText_deep hnormal (Nat.lt_of_not_le hdeep)] at h
    cases h
  · rintro ⟨hvalid, hnormal, hshallow⟩
    exact load_canonicalText ⟨hvalid, hnormal, hshallow⟩

end Snapshot

end AssemblyAtlas
