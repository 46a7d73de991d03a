import AssemblyAtlas.Text.AsciiCase

/-!
# Comparing without letter case

Equality ignoring the case of ASCII letters is an equivalence, and texts that it makes equal have
equally many bytes. Turning letters into lower case a second time changes nothing.
-/

namespace AssemblyAtlas.Text

theorem eqIgnoreCase_iff {s t : String} : eqIgnoreCase s t = true ↔ lower s = lower t :=
  beq_iff_eq

theorem eqIgnoreCase_comm (s t : String) : eqIgnoreCase s t = eqIgnoreCase t s := by
  rw [Bool.eq_iff_iff, eqIgnoreCase_iff, eqIgnoreCase_iff, eq_comm]

theorem eqIgnoreCase_congr_left {s t : String} (h : eqIgnoreCase s t = true) (u : String) :
    eqIgnoreCase s u = eqIgnoreCase t u := by
  rw [Bool.eq_iff_iff, eqIgnoreCase_iff, eqIgnoreCase_iff, eqIgnoreCase_iff.1 h]

/-! ### Letters -/

/-- A character has itself for its lower case, unless it is one of the letters `A` to `Z`. -/
theorem toLower_eq_self_or_letter (c : Char) :
    c.toLower = c ∨ 65 ≤ c.toNat ∧ c.toNat ≤ 90 ∧ c.toLower.toNat = c.toNat + 32 := by
  unfold Char.toLower
  split
  · next h =>
    have hA : 65 ≤ c.toNat := h.1
    have hZ : c.toNat ≤ 90 := h.2
    have hgap : ('a'.val - 'A'.val).toNat = 32 := by decide
    refine .inr ⟨hA, hZ, ?_⟩
    change (c.val + ('a'.val - 'A'.val)).toNat = _
    rw [UInt32.toNat_add, hgap]
    change (c.toNat + 32) % 2 ^ 32 = _
    omega
  · exact .inl rfl

theorem toLower_toLower (c : Char) : c.toLower.toLower = c.toLower := by
  rcases toLower_eq_self_or_letter c with h | ⟨hA, hZ, hlower⟩
  · rw [h, h]
  · rcases toLower_eq_self_or_letter c.toLower with h | ⟨-, hZ', -⟩
    · exact h
    · omega

@[simp]
theorem toList_lower (s : String) : (lower s).toList = s.toList.map Char.toLower := by
  simp [lower]

theorem lower_lower (s : String) : lower (lower s) = lower s := by
  apply String.toList_injective
  rw [toList_lower, toList_lower, List.map_map]
  exact List.map_congr_left fun c _ => toLower_toLower c

theorem lower_append (s t : String) : lower (s ++ t) = lower s ++ lower t := by
  apply String.toList_injective
  simp

/-- Texts that differ only in the case of letters have their dots alike. -/
theorem dot_mem_of_eqIgnoreCase {s t : String} (h : eqIgnoreCase s t = true) (hs : '.' ∈ s.toList) :
    '.' ∈ t.toList := by
  have hlower : s.toList.map Char.toLower = t.toList.map Char.toLower := by
    rw [← toList_lower, ← toList_lower, eqIgnoreCase_iff.1 h]
  have hmem : '.' ∈ t.toList.map Char.toLower := hlower ▸ List.mem_map_of_mem (f := Char.toLower) hs
  obtain ⟨d, hd, hdot⟩ := List.mem_map.1 hmem
  rcases toLower_eq_self_or_letter d with heq | ⟨hA, -, hletter⟩
  · rwa [← hdot, heq]
  · rw [hdot] at hletter
    exact absurd hletter (by change ¬ 46 = _; omega)

/-! ### Bytes -/

theorem utf8Size_toLower (c : Char) : c.toLower.utf8Size = c.utf8Size := by
  rcases toLower_eq_self_or_letter c with h | ⟨-, hZ, hlower⟩
  · rw [h]
  · -- Both the letter and the one it is turned into are below 128.
    have hupper : c.val ≤ 127 := UInt32.le_iff_toNat_le.2 (by change c.toNat ≤ 127; omega)
    have hlow : c.toLower.val ≤ 127 :=
      UInt32.le_iff_toNat_le.2 (by change c.toLower.toNat ≤ 127; omega)
    rw [Char.utf8Size_eq_one_iff.2 hupper, Char.utf8Size_eq_one_iff.2 hlow]

theorem utf8ByteSize_ofList_cons (c : Char) (cs : List Char) :
    (String.ofList (c :: cs)).utf8ByteSize = c.utf8Size + (String.ofList cs).utf8ByteSize := by
  rw [← List.singleton_append, String.ofList_append, String.utf8ByteSize_append]
  exact congrArg (· + _) (String.utf8ByteSize_singleton (c := c))

theorem utf8ByteSize_ofList_replicate (n : Nat) (c : Char) :
    (String.ofList (List.replicate n c)).utf8ByteSize = n * c.utf8Size := by
  induction n with
  | zero => simp
  | succ n ih => rw [List.replicate_succ, utf8ByteSize_ofList_cons, ih, Nat.succ_mul, Nat.add_comm]

theorem utf8ByteSize_lower (s : String) : (lower s).utf8ByteSize = s.utf8ByteSize := by
  have hmap : ∀ cs : List Char,
      (String.ofList (cs.map Char.toLower)).utf8ByteSize = (String.ofList cs).utf8ByteSize := by
    intro cs
    induction cs with
    | nil => rfl
    | cons c cs ih =>
      rw [List.map_cons, utf8ByteSize_ofList_cons, utf8ByteSize_ofList_cons, utf8Size_toLower, ih]
  rw [← String.ofList_toList (s := lower s), toList_lower, hmap, String.ofList_toList]

theorem utf8ByteSize_eq_of_eqIgnoreCase {s t : String} (h : eqIgnoreCase s t = true) :
    s.utf8ByteSize = t.utf8ByteSize := by
  rw [← utf8ByteSize_lower s, eqIgnoreCase_iff.1 h, utf8ByteSize_lower]

end AssemblyAtlas.Text
