import AssemblyAtlas.Text.Utf8
import Mathlib.Data.String.Basic
import Mathlib.Data.List.Lex
import Mathlib.Data.UInt

/-!
# The order of texts is the order of their bytes

Texts are compared character by character. UTF-8 is made so that this is the order of the bytes:
`Text.Utf8.encode_lt_encode_iff`.
-/

namespace AssemblyAtlas.Text.Utf8

open String (utf8EncodeChar)

/-- Listing bytes from a position on appends the rest of the array. -/
theorem toList_loop (bytes : ByteArray) (i : Nat) (seen : List UInt8) :
    ByteArray.toList.loop bytes i seen = seen.reverse ++ bytes.data.toList.drop i := by
  fun_induction ByteArray.toList.loop bytes i seen with
  | case1 i seen hi ih =>
    have hlen : i < bytes.data.toList.length := by simpa using hi
    have hget : bytes.get! i = bytes.data.toList[i] := by simp [ByteArray.get!, hi]
    rw [ih, hget, List.reverse_cons, List.append_assoc, List.drop_eq_getElem_cons hlen]
    rfl
  | case2 i seen hi =>
    have hlen : bytes.data.toList.length ≤ i := by simpa using hi
    rw [List.drop_of_length_le hlen, List.append_nil]

theorem encode_eq_flatMap (s : String) : encode s = s.toList.flatMap utf8EncodeChar := by
  have h : s.toByteArray = (s.toList.flatMap utf8EncodeChar).toByteArray := by
    rw [← String.utf8Encode_toList]
    rfl
  change s.toByteArray.toList = _
  rw [h, ByteArray.toList, toList_loop]
  simp

theorem ofNat_lt_ofNat {m n : Nat} (hm : m < 256) (hn : n < 256) :
    UInt8.ofNat m < UInt8.ofNat n ↔ m < n := by
  rw [UInt8.lt_iff_toNat_lt, UInt8.toNat_ofNat_of_lt' hm, UInt8.toNat_ofNat_of_lt' hn]

theorem ofNat_eq_ofNat {m n : Nat} (hm : m < 256) (hn : n < 256) :
    UInt8.ofNat m = UInt8.ofNat n ↔ m = n := by
  rw [← UInt8.toNat_inj, UInt8.toNat_ofNat_of_lt' hm, UInt8.toNat_ofNat_of_lt' hn]

/-- The groups of six bits of a smaller number come before those of a greater one. -/
theorem sextets_lt {m n : Nat} (h : m < n) (hn : n < 0x110000) :
    m / 262144 % 8 + 240 < n / 262144 % 8 + 240 ∨ m / 262144 % 8 + 240 = n / 262144 % 8 + 240 ∧
      (m / 4096 % 64 + 128 < n / 4096 % 64 + 128 ∨ m / 4096 % 64 + 128 = n / 4096 % 64 + 128 ∧
        (m / 64 % 64 + 128 < n / 64 % 64 + 128 ∨ m / 64 % 64 + 128 = n / 64 % 64 + 128 ∧
          m % 64 + 128 < n % 64 + 128)) := by
  have hm1 : m / 64 / 64 = m / 4096 := Nat.div_div_eq_div_mul m 64 64
  have hm2 : m / 4096 / 64 = m / 262144 := Nat.div_div_eq_div_mul m 4096 64
  have hn1 : n / 64 / 64 = n / 4096 := Nat.div_div_eq_div_mul n 64 64
  have hn2 : n / 4096 / 64 = n / 262144 := Nat.div_div_eq_div_mul n 4096 64
  by_cases h1 : m / 262144 < n / 262144
  · exact .inl (by omega)
  by_cases h2 : m / 4096 < n / 4096
  · exact .inr ⟨by omega, .inl (by omega)⟩
  by_cases h3 : m / 64 < n / 64
  · exact .inr ⟨by omega, .inr ⟨by omega, .inl (by omega)⟩⟩
  · exact .inr ⟨by omega, .inr ⟨by omega, .inr ⟨by omega, by omega⟩⟩⟩

/-- The bytes of a smaller character come before those of a greater one, whatever follows. -/
theorem utf8EncodeChar_append_lt {c d : Char} (h : c < d) (xs ys : List UInt8) :
    utf8EncodeChar c ++ xs < utf8EncodeChar d ++ ys := by
  have hcd : c.val.toNat < d.val.toNat := h
  have hd : d.val.toNat < 0x110000 := by
    have := d.valid
    simp only [UInt32.isValidChar, Nat.isValidChar] at this
    omega
  simp only [utf8EncodeChar]
  generalize c.val.toNat = m at *
  generalize d.val.toNat = n at *
  have hsextets := sextets_lt hcd hd
  split_ifs <;>
    simp (disch := omega) only [List.cons_append, List.nil_append, List.cons_lt_cons_iff,
      ofNat_lt_ofNat, ofNat_eq_ofNat] <;>
    omega

theorem flatMap_utf8EncodeChar_lt {cs ds : List Char} (h : cs < ds) :
    cs.flatMap utf8EncodeChar < ds.flatMap utf8EncodeChar := by
  induction h with
  | nil =>
    rename_i d ds
    obtain ⟨b, bs, hb⟩ := List.exists_cons_of_ne_nil (String.utf8EncodeChar_ne_nil (c := d))
    simp [hb]
  | cons _ ih =>
    rw [List.flatMap_cons, List.flatMap_cons]
    exact List.append_left_lt ih
  | rel h =>
    rw [List.flatMap_cons, List.flatMap_cons]
    exact utf8EncodeChar_append_lt h _ _

/-- **Texts are in the order of their UTF-8 bytes.** -/
theorem encode_lt_encode_iff {s t : String} : encode s < encode t ↔ s < t := by
  have hmono : ∀ {s t : String}, s < t → encode s < encode t := by
    intro s t h
    rw [encode_eq_flatMap, encode_eq_flatMap]
    exact flatMap_utf8EncodeChar_lt (String.lt_iff_toList_lt.1 h)
  refine ⟨fun h => ?_, hmono⟩
  rcases lt_trichotomy s t with hlt | rfl | hgt
  · exact hlt
  · exact absurd h (List.lt_irrefl _)
  · exact absurd h (List.lt_asymm (hmono hgt))

end AssemblyAtlas.Text.Utf8
