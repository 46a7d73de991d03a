import AssemblyAtlas.Json.Numeral

/-!
# JSON values

A value keeps the order of its fields and repeated fields. A string literal need not stand for a
text: it can hold half of a surrogate pair, or bytes that are not UTF-8. Such a literal is a value
all the same, because a reader may skip it without looking inside.
-/

namespace AssemblyAtlas

/-- A JSON value. The text of a string or key is absent if its literal stands for none. -/
inductive Json where
  | null
  | bool (value : Bool)
  | number (value : Json.Numeral)
  | string (text : Option String)
  | array (items : List Json)
  | object (fields : List (Option String × Json))
deriving Inhabited

namespace Json

/-- The string literal of a text. -/
def text (s : String) : Json :=
  .string (some s)

/-- The integer as a number. -/
def int (n : Int) : Json :=
  .number (.ofInt n)

/-- The natural number as a number. -/
def nat (n : Nat) : Json :=
  int n

/-- The encoded value, or `null` if there is none. -/
def nullable {α : Type} (f : α → Json) : Option α → Json
  | none => .null
  | some a => f a

/-- An array of encoded elements. -/
def list {α : Type} (f : α → Json) (xs : List α) : Json :=
  .array (xs.map f)

/-- An object with the given fields. -/
def record (fields : List (String × Json)) : Json :=
  .object (fields.map fun (name, value) => (some name, value))

/-- A field that is written only if there is a value. -/
def field? {α : Type} (name : String) (f : α → Json) : Option α → List (String × Json)
  | none => []
  | some a => [(name, f a)]

/-! ### Nesting

The number of arrays and objects around the deepest point of a value. -/

mutual
/-- The nesting of a value. -/
def nesting : Json → Nat
  | .array items => nestingOfItems items + 1
  | .object fields => nestingOfFields fields + 1
  | _ => 0
/-- The greatest nesting among items. -/
def nestingOfItems : List Json → Nat
  | [] => 0
  | j :: js => max (nesting j) (nestingOfItems js)
/-- The greatest nesting among the values of fields. -/
def nestingOfFields : List (Option String × Json) → Nat
  | [] => 0
  | (_, j) :: fs => max (nesting j) (nestingOfFields fs)
end

end Json

end AssemblyAtlas
