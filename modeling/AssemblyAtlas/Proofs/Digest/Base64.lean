import AssemblyAtlas.Digest.Base64

/-!
# Base64 reads back what it writes

Six bits are read back from their character (`value?_symbol`), a group of four characters as the
bytes it was written for, and so every sequence of bytes: `Base64.decode_encode`.
-/

namespace AssemblyAtlas.Base64

theorem value?_symbol {n : Nat} (h : n < 64) : value? (symbol n) = some n := by
  have hall : ∀ n < 64, value? (symbol n) = some n := by decide
  exact hall n h

/-- No six bits are written as padding. -/
theorem symbol_ne_pad {n : Nat} (h : n < 64) : symbol n ≠ '=' := by
  have hall : ∀ n < 64, symbol n ≠ '=' := by decide
  exact hall n h

theorem ofNat_eq {n : Nat} {b : UInt8} (h : n = b.toNat) : UInt8.ofNat n = b := by
  rw [h, UInt8.ofNat_toNat]

/-! ### Groups of four characters -/

/-- A group with two characters of padding is one byte, if its last four bits are zero. -/
theorem decode_single {x y : Nat} (hx : x < 64) (hy : y < 64) (hbits : y % 16 = 0) :
    decode [symbol x, symbol y, '=', '='] = some [UInt8.ofNat (x * 4 + y / 16)] := by
  simp only [decode, value?_symbol hx, value?_symbol hy]
  exact if_pos hbits

/-- A group with one character of padding is two bytes, if its last two bits are zero. -/
theorem decode_double {x y z : Nat} (hx : x < 64) (hy : y < 64) (hz : z < 64)
    (hbits : z % 4 = 0) :
    decode [symbol x, symbol y, symbol z, '='] =
      some [UInt8.ofNat (x * 4 + y / 16), UInt8.ofNat (y % 16 * 16 + z / 4)] := by
  rw [decode]
  · simp only [value?_symbol hx, value?_symbol hy, value?_symbol hz]
    exact if_pos hbits
  · exact symbol_ne_pad hz

/-- A group without padding is three bytes, and more groups may follow it. -/
theorem decode_triple {x y z w : Nat} (hx : x < 64) (hy : y < 64) (hz : z < 64) (hw : w < 64)
    (rest : List Char) :
    decode (symbol x :: symbol y :: symbol z :: symbol w :: rest) =
      (decode rest).map fun bytes => UInt8.ofNat (x * 4 + y / 16) ::
        UInt8.ofNat (y % 16 * 16 + z / 4) :: UInt8.ofNat (z % 4 * 64 + w) :: bytes := by
  have hpad := symbol_ne_pad hw
  rw [decode]
  · simp only [value?_symbol hx, value?_symbol hy, value?_symbol hz, value?_symbol hw]
    cases decode rest <;> rfl
  · intro _ h
    exact absurd h hpad
  · intro h
    exact absurd h hpad

/-! ### Texts -/

/-- **Bytes are read back from their text.** -/
theorem decode_encode (bytes : List UInt8) : decode (encode bytes) = some bytes := by
  fun_induction encode bytes with
  | case1 => rfl
  | case2 a =>
    have ha := a.toNat_lt
    rw [decode_single (by omega) (by omega) (by omega), ofNat_eq (b := a) (by omega)]
  | case3 a b =>
    have ha := a.toNat_lt
    have hb := b.toNat_lt
    rw [decode_double (by omega) (by omega) (by omega) (by omega), ofNat_eq (b := a) (by omega),
      ofNat_eq (b := b) (by omega)]
  | case4 a b c rest ih =>
    have ha := a.toNat_lt
    have hb := b.toNat_lt
    have hc := c.toNat_lt
    rw [decode_triple (by omega) (by omega) (by omega) (by omega), ih, Option.map_some,
      ofNat_eq (b := a) (by omega), ofNat_eq (b := b) (by omega), ofNat_eq (b := c) (by omega)]

theorem encode_ne_nil {bytes : List UInt8} (h : bytes ≠ []) : encode bytes ≠ [] := by
  fun_cases encode bytes with
  | case1 => exact absurd rfl h
  | case2 => simp
  | case3 => simp
  | case4 => simp

end AssemblyAtlas.Base64
