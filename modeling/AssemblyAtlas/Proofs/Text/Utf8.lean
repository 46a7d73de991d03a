import AssemblyAtlas.Proofs.Text.ByteOrder

/-!
# Texts are read back from their bytes

Reading the bytes of a text gives its characters and nothing else: `Text.Utf8.decode_encode`. One
character at a time, the first byte announces how many follow, the range of the second byte and the
leading bits (`lead?_two`, `lead?_three`, `lead?_four`), and each byte after it adds six bits.
-/

namespace AssemblyAtlas.Text.Utf8

open String (utf8EncodeChar)

/-! ### Single bytes -/

theorem run_cons (p : Pending) {b : Nat} (hb : b < 256) (bs : List UInt8) :
    run p (UInt8.ofNat b :: bs) = (step p b).2 ++ run (step p b).1 bs := by
  have hval : (UInt8.ofNat b).toNat = b := UInt8.toNat_ofNat_of_lt' hb
  cases p <;> simp only [run, hval]

/-- A byte below 0x80 is a character by itself. -/
theorem run_ascii {b : Nat} (hb : b < 0x80) (bs : List UInt8) :
    run .idle (UInt8.ofNat b :: bs) = some (Char.ofNat b) :: run .idle bs := by
  rw [run_cons _ (by omega)]
  simp [step, start, hb]

/-- The first byte of a character of several bytes. -/
theorem run_lead {b tail low high bits : Nat} (hb : 0x80 ≤ b) (hb' : b < 256)
    (h : lead? b = some ⟨tail, low, high, bits⟩) (bs : List UInt8) :
    run .idle (UInt8.ofNat b :: bs) = run (.partway tail low high bits) bs := by
  have hascii : ¬ b < 0x80 := by omega
  rw [run_cons _ hb']
  simp [step, start, hascii, h]

/-- A byte that continues an unfinished character. -/
theorem run_more {tail low high bits b : Nat} (hb : b < 256) (hlow : low ≤ b) (hhigh : b ≤ high)
    (bs : List UInt8) :
    run (.partway (tail + 2) low high bits) (UInt8.ofNat b :: bs) =
      run (.partway (tail + 1) 0x80 0xBF (bits * 0x40 + b % 0x40)) bs := by
  rw [run_cons _ hb]
  simp [step, hlow, hhigh]

/-- A byte that completes an unfinished character. -/
theorem run_last {low high bits b : Nat} (hb : b < 256) (hlow : low ≤ b) (hhigh : b ≤ high)
    (bs : List UInt8) :
    run (.partway 1 low high bits) (UInt8.ofNat b :: bs) =
      some (Char.ofNat (bits * 0x40 + b % 0x40)) :: run .idle bs := by
  rw [run_cons _ hb]
  simp [step, hlow, hhigh]

/-! ### First bytes -/

theorem lead?_two {v : Nat} (hlow : 0x80 ≤ v) (hhigh : v < 0x800) :
    lead? (v / 64 + 0xC0) = some ⟨1, 0x80, 0xBF, v / 64⟩ := by
  have h1 : 0xC2 ≤ v / 64 + 0xC0 := by omega
  have h2 : v / 64 + 0xC0 ≤ 0xDF := by omega
  have hbits : (v / 64 + 0xC0) % 0x20 = v / 64 := by omega
  simp [lead?, h1, h2, hbits]

/-- A character of three bytes that is no surrogate has a second byte in the announced range. -/
theorem lead?_three {v : Nat} (hlow : 0x800 ≤ v) (hhigh : v < 0x10000)
    (hgap : v < 0xD800 ∨ 0xE000 ≤ v) :
    ∃ low high, lead? (v / 4096 + 0xE0) = some ⟨2, low, high, v / 4096⟩ ∧
      low ≤ v / 64 % 64 + 0x80 ∧ v / 64 % 64 + 0x80 ≤ high := by
  have hsplit : v / 64 / 64 = v / 4096 := Nat.div_div_eq_div_mul v 64 64
  by_cases hE0 : v / 4096 = 0
  · exact ⟨0xA0, 0xBF, by simp [hE0, lead?], by omega, by omega⟩
  by_cases hED : v / 4096 = 0xD
  · exact ⟨0x80, 0x9F, by simp [hED, lead?], by omega, by omega⟩
  · refine ⟨0x80, 0xBF, ?_, by omega, by omega⟩
    have h1 : ¬ v / 4096 + 0xE0 ≤ 0xDF := by omega
    have h2 : 0xE1 ≤ v / 4096 + 0xE0 := by omega
    have h3 : v / 4096 + 0xE0 ≤ 0xEF := by omega
    have hbits : (v / 4096 + 0xE0) % 0x10 = v / 4096 := by omega
    simp [lead?, h1, hE0, hED, h2, h3, hbits]

theorem lead?_four {v : Nat} (hlow : 0x10000 ≤ v) (hhigh : v < 0x110000) :
    ∃ low high, lead? (v / 262144 + 0xF0) = some ⟨3, low, high, v / 262144⟩ ∧
      low ≤ v / 4096 % 64 + 0x80 ∧ v / 4096 % 64 + 0x80 ≤ high := by
  have hsplit : v / 4096 / 64 = v / 262144 := Nat.div_div_eq_div_mul v 4096 64
  by_cases hF0 : v / 262144 = 0
  · exact ⟨0x90, 0xBF, by simp [hF0, lead?], by omega, by omega⟩
  by_cases hF4 : v / 262144 = 4
  · exact ⟨0x80, 0x8F, by simp [hF4, lead?], by omega, by omega⟩
  · refine ⟨0x80, 0xBF, ?_, by omega, by omega⟩
    have h1 : ¬ v / 262144 + 0xF0 ≤ 0xDF := by omega
    have h2 : ¬ v / 262144 + 0xF0 ≤ 0xEF := by omega
    have h3 : 0xF1 ≤ v / 262144 + 0xF0 := by omega
    have h4 : v / 262144 + 0xF0 ≤ 0xF3 := by omega
    have hbits : (v / 262144 + 0xF0) % 8 = v / 262144 := by omega
    simp [lead?, h1, h2, hF0, h3, h4, hbits]

/-! ### Characters -/

/-- A character is read back from its bytes, whatever bytes follow. -/
theorem run_utf8EncodeChar (c : Char) (bs : List UInt8) :
    run .idle (utf8EncodeChar c ++ bs) = some c :: run .idle bs := by
  have hvalid : c.val.toNat < 0xD800 ∨ 0xDFFF < c.val.toNat ∧ c.val.toNat < 0x110000 := c.valid
  have hc : Char.ofNat c.val.toNat = c := Char.ofNat_toNat c
  simp only [utf8EncodeChar]
  generalize c.val.toNat = v at hvalid hc
  have h1 : v / 64 / 64 = v / 4096 := Nat.div_div_eq_div_mul v 64 64
  have h2 : v / 4096 / 64 = v / 262144 := Nat.div_div_eq_div_mul v 4096 64
  split
  · rw [List.singleton_append, run_ascii (by omega), hc]
  split
  · have hlead : v / 64 % 32 = v / 64 := by omega
    have hbits : v / 64 * 0x40 + (v % 64 + 0x80) % 0x40 = v := by omega
    rw [hlead]
    simp only [List.cons_append, List.nil_append]
    rw [run_lead (by omega) (by omega) (lead?_two (by omega) (by omega)),
      run_last (by omega) (by omega) (by omega), hbits, hc]
  split
  · obtain ⟨low, high, hl, hlow, hhigh⟩ := lead?_three (v := v) (by omega) (by omega) (by omega)
    have hlead : v / 4096 % 16 = v / 4096 := by omega
    have hbits : (v / 4096 * 0x40 + (v / 64 % 64 + 0x80) % 0x40) * 0x40 + (v % 64 + 0x80) % 0x40 =
        v := by omega
    rw [hlead]
    simp only [List.cons_append, List.nil_append]
    rw [run_lead (by omega) (by omega) hl, run_more (by omega) hlow hhigh,
      run_last (by omega) (by omega) (by omega), hbits, hc]
  · obtain ⟨low, high, hl, hlow, hhigh⟩ := lead?_four (v := v) (by omega) (by omega)
    have hlead : v / 262144 % 8 = v / 262144 := by omega
    have hbits : ((v / 262144 * 0x40 + (v / 4096 % 64 + 0x80) % 0x40) * 0x40 +
        (v / 64 % 64 + 0x80) % 0x40) * 0x40 + (v % 64 + 0x80) % 0x40 = v := by omega
    rw [hlead]
    simp only [List.cons_append, List.nil_append]
    rw [run_lead (by omega) (by omega) hl, run_more (by omega) hlow hhigh,
      run_more (by omega) (by omega) (by omega), run_last (by omega) (by omega) (by omega), hbits,
      hc]

theorem encode_ne_nil {s : String} (h : s.toList ≠ []) : encode s ≠ [] := by
  obtain ⟨c, cs, hs⟩ := List.exists_cons_of_ne_nil h
  rw [encode_eq_flatMap, hs, List.flatMap_cons]
  exact List.append_ne_nil_of_left_ne_nil String.utf8EncodeChar_ne_nil _

/-- **A text is read back from its bytes.** -/
theorem decode_encode (s : String) : decode (encode s) = s.toList.map some := by
  have hchars : ∀ cs : List Char, run .idle (cs.flatMap utf8EncodeChar) = cs.map some := by
    intro cs
    induction cs with
    | nil => rfl
    | cons c cs ih => rw [List.flatMap_cons, run_utf8EncodeChar, ih, List.map_cons]
  rw [decode, encode_eq_flatMap, hchars]

end AssemblyAtlas.Text.Utf8
