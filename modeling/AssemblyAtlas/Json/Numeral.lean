import AssemblyAtlas.Text.Decimal
import AssemblyAtlas.Word

/-!
# JSON numbers

A number is kept as it is written, because readers tell `1`, `1.0` and `1e0` apart: only the
first denotes an integer. `-0` denotes no integer either.
-/

namespace AssemblyAtlas.Json

/-- A number of JSON text: sign, whole part, digits after the point and exponent. -/
structure Numeral where
  /-- A minus sign is written. -/
  negative : Bool
  /-- The part before the point. -/
  whole : Nat
  /-- The digits after the point; none when no point is written. -/
  fraction : List (Fin 10)
  /-- The exponent, if one is written. -/
  exponent : Option Int
deriving DecidableEq, Repr

namespace Numeral

/-- The numeral of an integer. -/
def ofInt (n : Int) : Numeral :=
  ⟨n < 0, n.natAbs, [], none⟩

/-- The integer that a numeral without point and exponent denotes; `-0` denotes none. -/
def toInt? (n : Numeral) : Option Int :=
  if n.fraction.isEmpty && n.exponent.isNone && !(n.negative && n.whole == 0) then
    some (if n.negative then -n.whole else n.whole)
  else none

/-! ### Numbers in double precision

A number is not read exactly. Of its digits as many are taken as fit 64 bits, and the number of
these is scaled by a power of ten; the digits, the power and their product are each rounded to
double precision. A number is refused where the product is infinite, although the number itself
may have a nearest double: `1.7976931348623158e308` has, and is refused.
-/

/-- A number without its last digits, as few as leave one of 64 bits, and how many they are. -/
def leading (n : Nat) : Nat × Nat :=
  if n ≤ Word.uint64Max then (n, 0)
  else
    let (first, dropped) := leading (n / 10)
    (first, dropped + 1)
termination_by n
decreasing_by
  unfold Word.uint64Max at *
  omega

/-- A number with digits appended up to the first that does not fit 64 bits, and how many were. -/
def append (n : Nat) : List (Fin 10) → Nat × Nat
  | [] => (n, 0)
  | d :: ds =>
    if n * 10 + d.val ≤ Word.uint64Max then
      let (more, appended) := append (n * 10 + d.val) ds
      (more, appended + 1)
    else (n, 0)

/-- The digits that are taken, as one number, and the power of ten that scales it. -/
def scaled (n : Numeral) : Nat × Int :=
  let (whole, dropped) := leading n.whole
  let (digits, appended) := append whole n.fraction
  (digits, n.exponent.getD 0 + dropped - appended)

/-- The nearest number of 53 binary digits followed by zeros. Of two that are equally near, the one
whose 53 digits are even is taken. -/
def toDouble (n : Nat) : Nat :=
  let zeros := n.log2 - 52
  let digits := n >>> zeros
  let twice := 2 * (n - digits <<< zeros)
  let up := 1 <<< zeros < twice || twice == 1 <<< zeros && digits % 2 == 1
  (if up then digits + 1 else digits) <<< zeros

/-- The number is read as a finite double. A power above `10 ^ 308` is infinite itself, and is
multiplied by nothing but zero. -/
def fitsDouble (n : Numeral) : Bool :=
  let (digits, scale) := n.scaled
  digits == 0 || scale ≤ 0 ||
    scale ≤ 308 && toDouble (toDouble digits * toDouble (Nat.pow 10 scale.toNat)) < 1 <<< 1024

/-! ### Reading and printing -/

/-- The whole part: digits without a leading zero, but for `0` itself. -/
def whole? (cs : List Char) : Option Nat :=
  match cs with
  | '0' :: _ :: _ => none
  | cs => Text.nat? cs

/-- The character starts an exponent. -/
def isExponentMark (c : Char) : Bool :=
  c == 'e' || c == 'E'

/-- Reads an unsigned number whose sign has been read. -/
def ofUnsigned? (negative : Bool) (cs : List Char) : Option Numeral := do
  let mantissa := cs.takeWhile (!isExponentMark ·)
  let whole ← whole? (mantissa.takeWhile (· != '.'))
  let fraction ← match mantissa.dropWhile (· != '.') with
    | [] => some []
    | _ :: digits => Text.digits? digits
  let exponent ← match cs.dropWhile (!isExponentMark ·) with
    | [] => some none
    | _ :: rest => (Text.int? rest).map some
  return ⟨negative, whole, fraction, exponent⟩

/-- Reads a number as JSON writes it. -/
def ofChars? : List Char → Option Numeral
  | '-' :: cs => ofUnsigned? true cs
  | cs => ofUnsigned? false cs

/-- The text of a number. -/
def render (n : Numeral) : List Char :=
  (if n.negative then ['-'] else []) ++ Nat.toDigits 10 n.whole ++
    (if n.fraction.isEmpty then [] else '.' :: n.fraction.map Text.digitChar) ++
    match n.exponent with
    | none => []
    | some e => 'e' :: (if e < 0 then '-' :: Nat.toDigits 10 e.natAbs else Nat.toDigits 10 e.natAbs)

end Numeral

end AssemblyAtlas.Json
