import AssemblyAtlas.Json.Numeral
import AssemblyAtlas.Json.Token
import Mathlib.Data.List.Basic
import Mathlib.Data.List.TakeWhile

/-!
# Numbers read back

Digits, integers and numbers are read back as they were written: `Text.nat?_toDigits` for natural
numbers, `Text.int?_renderInt` for exponents and `Json.Numeral.ofChars?_render` for whole numerals.
The characters of a numeral are all number characters, and its first one starts a number, which is
what the scanner looks at.
-/

namespace AssemblyAtlas

namespace Text

/-! ### Decimal digits -/

theorem digit?_of_isDigit {c : Char} (h : c.isDigit = true) :
    ∃ d, digit? c = some d ∧ d.val = c.toNat - 48 := by
  have hc : 48 ≤ c.toNat ∧ c.toNat < 58 := by
    simp only [Char.isDigit, Bool.and_eq_true, decide_eq_true_eq, ge_iff_le, UInt32.le_iff_toNat_le]
      at h
    exact ⟨h.1, Nat.lt_succ_of_le h.2⟩
  exact ⟨⟨c.toNat - 48, by omega⟩, dif_pos hc, rfl⟩

theorem digit?_digitChar (d : Fin 10) : digit? (digitChar d) = some d := by
  revert d; decide

theorem isDigit_digitChar (d : Fin 10) : (digitChar d).isDigit = true := by
  revert d; decide

/-- Digits are read one by one, and their value accumulates as in the library's reader. -/
theorem mapM_digit?_of_isDigit {cs : List Char} (h : ∀ c ∈ cs, c.isDigit = true) :
    ∃ ds, cs.mapM digit? = some ds ∧
      ∀ n, ds.foldl (fun acc d => acc * 10 + d.val) n = Nat.ofDigitChars 10 cs n := by
  induction cs with
  | nil => exact ⟨[], rfl, fun _ => rfl⟩
  | cons c cs ih =>
    obtain ⟨d, hd, hv⟩ := digit?_of_isDigit (h c List.mem_cons_self)
    obtain ⟨ds, hds, hn⟩ := ih fun x hx => h x (List.mem_cons_of_mem _ hx)
    refine ⟨d :: ds, by simp [hd, hds], fun n => ?_⟩
    rw [List.foldl_cons, hn, hv, Nat.mul_comm]
    rfl

theorem isDigit_of_mem_toDigits {n : Nat} {c : Char} (h : c ∈ Nat.toDigits 10 n) :
    c.isDigit = true :=
  Nat.isDigit_of_mem_toDigits (by omega) (by omega) h

theorem nat?_toDigits (n : Nat) : nat? (Nat.toDigits 10 n) = some n := by
  obtain ⟨ds, hds, hv⟩ := mapM_digit?_of_isDigit fun c => isDigit_of_mem_toDigits (n := n) (c := c)
  have hne : (Nat.toDigits 10 n).isEmpty = false := by simp [Nat.toDigits_ne_nil]
  simp [nat?, digits?, hne, hds, ofDigits, hv, Nat.ofDigitChars_ten_toDigits]

theorem digits?_map_digitChar {ds : List (Fin 10)} (h : ds ≠ []) :
    digits? (ds.map digitChar) = some ds := by
  have hall : ∀ ds : List (Fin 10), (ds.map digitChar).mapM digit? = some ds := by
    intro ds
    induction ds with
    | nil => rfl
    | cons d ds ih => simp [digit?_digitChar, ih]
  simp [digits?, h, hall]

/-- A digit is no sign. -/
theorem ne_sign_of_isDigit {c : Char} (h : c.isDigit = true) : c ≠ '-' ∧ c ≠ '+' := by
  constructor <;> rintro rfl <;> exact absurd h (by decide)

/-- The characters of an integer: a minus sign where it is negative, and its digits. -/
theorem int?_renderInt (e : Int) :
    int? (if e < 0 then '-' :: Nat.toDigits 10 e.natAbs else Nat.toDigits 10 e.natAbs) =
      some e := by
  split
  · rename_i he
    have : -(e.natAbs : Int) = e := by omega
    simpa [int?, nat?_toDigits] using this
  · rename_i he
    have : (e.natAbs : Int) = e := by omega
    unfold int?
    -- the first digit is no sign, so the last equation of the reader applies
    split
    · rename_i hcs
      exact absurd rfl (ne_sign_of_isDigit
        (isDigit_of_mem_toDigits (hcs ▸ List.mem_cons_self))).1
    · rename_i hcs
      exact absurd rfl (ne_sign_of_isDigit
        (isDigit_of_mem_toDigits (hcs ▸ List.mem_cons_self))).2
    · simpa [nat?_toDigits] using this

end Text

namespace Json

namespace Numeral

/-! ### Whole parts -/

/-- The digits of a positive number do not start with a zero. -/
theorem head?_toDigits_ne_zero {n : Nat} (h : 0 < n) :
    (Nat.toDigits 10 n).head? ≠ some '0' := by
  induction n using Nat.strong_induction_on with
  | _ n ih =>
    rw [Nat.toDigits_eq_if (by omega)]
    split
    · rename_i hn
      have hall : ∀ m < 10, 0 < m → Nat.digitChar m ≠ '0' := by decide
      simpa using hall n hn h
    · rename_i hn
      rw [List.head?_append_of_ne_nil _ Nat.toDigits_ne_nil]
      exact ih (n / 10) (by omega) (by omega)

theorem whole?_toDigits (n : Nat) : whole? (Nat.toDigits 10 n) = some n := by
  unfold whole?
  split
  · rename_i c cs hcs
    rcases Nat.eq_zero_or_pos n with rfl | hn
    · simp [Nat.toDigits_zero] at hcs
    · exact absurd (by rw [hcs]; rfl) (head?_toDigits_ne_zero hn)
  · exact Text.nat?_toDigits n

/-! ### Whole numerals -/

/-- The point and the digits after it, as they are written. -/
def fractionChars (fraction : List (Fin 10)) : List Char :=
  if fraction.isEmpty then [] else '.' :: fraction.map Text.digitChar

/-- The exponent with its mark, as it is written. -/
def exponentChars : Option Int → List Char
  | none => []
  | some e =>
    'e' :: (if e < 0 then '-' :: Nat.toDigits 10 e.natAbs else Nat.toDigits 10 e.natAbs)

theorem render_eq (n : Numeral) :
    n.render = (if n.negative then ['-'] else []) ++
      (Nat.toDigits 10 n.whole ++ fractionChars n.fraction ++ exponentChars n.exponent) := by
  rcases n with ⟨_, _, _, _ | e⟩ <;> simp [render, fractionChars, exponentChars]

/-- A digit marks neither a point nor an exponent. -/
theorem digit_marks {c : Char} (h : c.isDigit = true) : isExponentMark c = false ∧ c ≠ '.' := by
  have hE : c ≠ 'e' ∧ c ≠ 'E' ∧ c ≠ '.' := by
    refine ⟨?_, ?_, ?_⟩ <;> rintro rfl <;> exact absurd h (by decide)
  exact ⟨by simp [isExponentMark, hE.1, hE.2.1], hE.2.2⟩

theorem mem_fractionChars {ds : List (Fin 10)} {c : Char} (h : c ∈ fractionChars ds) :
    c = '.' ∨ c.isDigit = true := by
  unfold fractionChars at h
  split at h
  · simp at h
  · rcases List.mem_cons.1 h with rfl | h
    · exact .inl rfl
    · obtain ⟨d, -, rfl⟩ := List.mem_map.1 h
      exact .inr (Text.isDigit_digitChar d)

/-- The part before the exponent is what stands before the first exponent mark. -/
theorem span_mantissa (n : Nat) (ds : List (Fin 10)) (e : Option Int) :
    let cs := Nat.toDigits 10 n ++ fractionChars ds ++ exponentChars e
    cs.takeWhile (!isExponentMark ·) = Nat.toDigits 10 n ++ fractionChars ds ∧
      cs.dropWhile (!isExponentMark ·) = exponentChars e := by
  intro cs
  have hmantissa : ∀ c ∈ Nat.toDigits 10 n ++ fractionChars ds, (!isExponentMark c) = true := by
    intro c hc
    rcases List.mem_append.1 hc with hc | hc
    · simp [(digit_marks (Text.isDigit_of_mem_toDigits hc)).1]
    · rcases mem_fractionChars hc with rfl | hc
      · decide
      · simp [(digit_marks hc).1]
  have hexp : (exponentChars e).takeWhile (!isExponentMark ·) = [] ∧
      (exponentChars e).dropWhile (!isExponentMark ·) = exponentChars e := by
    cases e with
    | none => exact ⟨rfl, rfl⟩
    | some e => constructor <;> simp [exponentChars, isExponentMark]
  constructor
  · rw [List.takeWhile_append_of_pos hmantissa, hexp.1, List.append_nil]
  · rw [List.dropWhile_append_of_pos hmantissa, hexp.2]

/-- The whole part is what stands before the point. -/
theorem span_whole (n : Nat) (ds : List (Fin 10)) :
    let cs := Nat.toDigits 10 n ++ fractionChars ds
    cs.takeWhile (· != '.') = Nat.toDigits 10 n ∧
      cs.dropWhile (· != '.') = fractionChars ds := by
  intro cs
  have hwhole : ∀ c ∈ Nat.toDigits 10 n, (c != '.') = true := by
    intro c hc
    simp [(digit_marks (Text.isDigit_of_mem_toDigits hc)).2]
  have hfrac : (fractionChars ds).takeWhile (· != '.') = [] ∧
      (fractionChars ds).dropWhile (· != '.') = fractionChars ds := by
    unfold fractionChars
    split <;> exact ⟨by simp, by simp⟩
  constructor
  · rw [List.takeWhile_append_of_pos hwhole, hfrac.1, List.append_nil]
  · rw [List.dropWhile_append_of_pos hwhole, hfrac.2]

theorem ofUnsigned?_chars (b : Bool) (n : Nat) (ds : List (Fin 10)) (e : Option Int) :
    ofUnsigned? b (Nat.toDigits 10 n ++ fractionChars ds ++ exponentChars e) =
      some ⟨b, n, ds, e⟩ := by
  obtain ⟨hm, he⟩ := span_mantissa n ds e
  obtain ⟨hw, hf⟩ := span_whole n ds
  simp only [ofUnsigned?, hm, he, hw, hf, whole?_toDigits]
  unfold fractionChars
  cases e with
  | none =>
    by_cases hds : ds = []
    · simp [hds, exponentChars]
    · simp [hds, exponentChars, Text.digits?_map_digitChar hds]
  | some e =>
    by_cases hds : ds = []
    · simp [hds, exponentChars, Text.int?_renderInt]
    · simp [hds, exponentChars, Text.digits?_map_digitChar hds, Text.int?_renderInt]

/-- **Numerals are read back as they were written.** -/
theorem ofChars?_render (n : Numeral) : ofChars? n.render = some n := by
  obtain ⟨b, w, ds, e⟩ := n
  rw [render_eq]
  cases b with
  | true => exact ofUnsigned?_chars true w ds e
  | false =>
    simp only [Bool.false_eq_true, if_false, List.nil_append]
    unfold ofChars?
    split
    · rename_i cs hcs
      -- a numeral without sign starts with a digit
      obtain ⟨c, rest, hd⟩ := List.exists_cons_of_ne_nil (Nat.toDigits_ne_nil (n := w) (b := 10))
      rw [hd] at hcs
      have hc : c = '-' := by simpa using (List.cons.inj hcs).1
      exact absurd hc (Text.ne_sign_of_isDigit
        (Text.isDigit_of_mem_toDigits (hd ▸ List.mem_cons_self))).1
    · exact ofUnsigned?_chars false w ds e

/-! ### What the scanner sees of a numeral -/

theorem isNumberChar_of_isDigit {c : Char} (h : c.isDigit = true) : isNumberChar c = true := by
  have : ('0' ≤ c && c ≤ '9') = true := by
    simpa [Char.isDigit, Char.le_def] using h
  simp [isNumberChar, this]

theorem isNumberChar_of_mem_render {n : Numeral} {c : Char} (h : c ∈ n.render) :
    isNumberChar c = true := by
  rw [render_eq] at h
  simp only [List.mem_append] at h
  rcases h with h | (h | h) | h
  · split at h
    · rw [List.mem_singleton.1 h]; decide
    · simp at h
  · exact isNumberChar_of_isDigit (Text.isDigit_of_mem_toDigits h)
  · rcases mem_fractionChars h with rfl | h
    · decide
    · exact isNumberChar_of_isDigit h
  · unfold exponentChars at h
    split at h
    · simp at h
    · rcases List.mem_cons.1 h with rfl | h
      · decide
      · split at h
        · rcases List.mem_cons.1 h with rfl | h
          · decide
          · exact isNumberChar_of_isDigit (Text.isDigit_of_mem_toDigits h)
        · exact isNumberChar_of_isDigit (Text.isDigit_of_mem_toDigits h)

/-- A numeral starts with a minus sign or a digit. -/
theorem exists_render_eq_cons (n : Numeral) :
    ∃ c cs, n.render = c :: cs ∧ (c = '-' ∨ c.isDigit = true) := by
  rw [render_eq]
  obtain ⟨c, rest, hd⟩ := List.exists_cons_of_ne_nil (Nat.toDigits_ne_nil (n := n.whole) (b := 10))
  cases n.negative with
  | true => exact ⟨'-', _, rfl, .inl rfl⟩
  | false =>
    refine ⟨c, rest ++ fractionChars n.fraction ++ exponentChars n.exponent, by simp [hd], .inr ?_⟩
    exact Text.isDigit_of_mem_toDigits (hd ▸ List.mem_cons_self)

end Numeral

end Json

end AssemblyAtlas
