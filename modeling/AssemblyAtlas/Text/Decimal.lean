/-!
# Decimal digits

Digits as numbers below ten, and integers written with an optional sign and at least one digit.
-/

namespace AssemblyAtlas.Text

/-- The value of a decimal digit. -/
def digit? (c : Char) : Option (Fin 10) :=
  if h : 48 ≤ c.toNat ∧ c.toNat < 58 then some ⟨c.toNat - 48, by omega⟩ else none

/-- The character of a decimal digit. -/
def digitChar (d : Fin 10) : Char :=
  Char.ofNat (48 + d.val)

/-- The digits that all characters stand for, if there is at least one. -/
def digits? (cs : List Char) : Option (List (Fin 10)) :=
  if cs.isEmpty then none else cs.mapM digit?

/-- The number that a list of decimal digits writes. -/
def ofDigits (ds : List (Fin 10)) : Nat :=
  ds.foldl (fun acc d => acc * 10 + d.val) 0

/-- The number that the characters write in decimal digits. -/
def nat? (cs : List Char) : Option Nat :=
  (digits? cs).map ofDigits

/-- The integer that the characters write: an optional sign and decimal digits. -/
def int? : List Char → Option Int
  | '-' :: cs => (nat? cs).map fun n => -(n : Int)
  | '+' :: cs => (nat? cs).map fun n => (n : Int)
  | cs => (nat? cs).map fun n => (n : Int)

/-- The integer that the text writes, if it lies between the bounds. -/
def intBetween? (low high : Int) (s : String) : Option Int :=
  (int? s.toList).filter fun i => low ≤ i && i ≤ high

end AssemblyAtlas.Text
