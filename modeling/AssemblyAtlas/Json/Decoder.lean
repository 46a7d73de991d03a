import AssemblyAtlas.Json.Basic
import AssemblyAtlas.Word

/-!
# Decoding JSON values

A decoder turns a value into data, and fails on every value of another shape. It is given the
number of arrays and objects that it may still enter, so that data nested too deeply is refused.

A record is written as an object, in which unknown fields are skipped without looking inside and
a known field may stand once, or as an array of its fields in order, from which fields may be
missing at the end.
-/

namespace AssemblyAtlas.Json

/-- Turns a value into data, entering at most the given number of arrays and objects. -/
abbrev Decoder (α : Type) := Nat → Json → Option α

namespace Decoder

/-- Strings that stand for a text. -/
def text : Decoder String
  | _, .string (some s) => some s
  | _, _ => none

/-- Truth values. -/
def bool : Decoder Bool
  | _, .bool b => some b
  | _, _ => none

/-- Integers from `low` to `high`. -/
def intBetween (low high : Int) : Decoder Int
  | _, .number n => n.toInt?.filter fun i => low ≤ i && i ≤ high
  | _, _ => none

/-- Integers of 32 bits without sign. -/
def uint32 : Decoder UInt32 := fun levels j =>
  (intBetween 0 Word.uint32Max levels j).map fun i => UInt32.ofNat i.toNat

/-- Integers of 64 bits with sign. -/
def int64 : Decoder Int :=
  intBetween Word.int64Min Word.int64Max

/-- `null`, or a value of the given shape. -/
def nullable {α : Type} (decode : Decoder α) : Decoder (Option α)
  | _, .null => some none
  | levels, j => (decode levels j).map some

/-- Arrays of values of the given shape. -/
def list {α : Type} (decode : Decoder α) : Decoder (List α)
  | levels + 1, .array items => items.mapM (decode levels)
  | _, _ => none

/-- A name from a fixed set: its text, or an object with that single key and value `null`. -/
def name {α : Type} (ofName? : String → Option α) : Decoder α
  | _, .string (some s) => ofName? s
  | _ + 1, .object [(some s, .null)] => ofName? s
  | _, _ => none

end Decoder

/-! ### Records -/

/-- The fields of a record that are present. -/
structure Members where
  /-- The record is written as an array. -/
  positional : Bool
  /-- The fields present, by name. -/
  values : List (String × Json)
  /-- The number of arrays and objects that may be entered inside the fields. -/
  levels : Nat

/-- The known fields of an object in their order; fails on a known field that stands twice and on
a key that stands for no text. -/
def known? (names : List String) (fields : List (Option String × Json)) :
    Option (List (String × Json)) :=
  go [] fields
where
  /-- `seen` holds the known fields passed, latest first. -/
  go (seen : List (String × Json)) : List (Option String × Json) → Option (List (String × Json))
    | [] => some seen.reverse
    | (none, _) :: _ => none
    | (some key, value) :: rest =>
      if names.contains key then
        if seen.any (·.1 == key) then none else go ((key, value) :: seen) rest
      else go seen rest

/-- The fields of a record with the given field names. -/
def members (names : List String) : Decoder Members
  | levels + 1, .object fields => (known? names fields).map fun values => ⟨false, values, levels⟩
  | levels + 1, .array items =>
    if items.length ≤ names.length then some ⟨true, names.zip items, levels⟩ else none
  | _, _ => none

namespace Members

variable {α : Type} (m : Members) (name : String) (decode : Decoder α)

/-- The value of a field, if it is present. -/
def get? : Option Json :=
  m.values.lookup name

/-- A field that has to be present. -/
def required : Option α :=
  (m.get? name).bind (decode m.levels)

/-- A field that has the value `default` when it is missing. -/
def orElse (default : α) : Option α :=
  match m.get? name with
  | none => some default
  | some j => decode m.levels j

/-- A field that may be missing or `null`. -/
def optional : Option (Option α) :=
  m.orElse name (Decoder.nullable decode) none

/-- A field that may be `null`, and missing only from an object. -/
def optionalByName : Option (Option α) :=
  if m.positional then m.required name (Decoder.nullable decode) else m.optional name decode

end Members

/-! ### Values that are kept whole -/

mutual
/-- The value can be kept whole before its shape is known: within the number of levels, every
string and key stands for a text and every number fits a double. -/
def isKeepable (levels : Nat) : Json → Bool
  | .number n => n.fitsDouble
  | .string s => s.isSome
  | .array items => match levels with
    | 0 => false
    | levels + 1 => areKeepable levels items
  | .object fields => match levels with
    | 0 => false
    | levels + 1 => areFieldsKeepable levels fields
  | _ => true
/-- All items can be kept whole. -/
def areKeepable (levels : Nat) : List Json → Bool
  | [] => true
  | j :: js => isKeepable levels j && areKeepable levels js
/-- All fields can be kept whole. -/
def areFieldsKeepable (levels : Nat) : List (Option String × Json) → Bool
  | [] => true
  | (key, j) :: fs => key.isSome && isKeepable levels j && areFieldsKeepable levels fs
end

/-- The value of the only field with the given key, and the other fields. -/
def takeField? (key : String) (fields : List (Option String × Json)) :
    Option (Json × List (Option String × Json)) :=
  match fields.partition (·.1 == some key) with
  | ([(_, value)], rest) => some (value, rest)
  | _ => none

/-- A record with a tag: an object with the tag under `key` at any position, or an array whose
first item is the tag. `ofTag?` gives the decoder for what remains. -/
def Decoder.tagged {α : Type} (key : String) (ofTag? : String → Option (Decoder α)) : Decoder α
  | levels + 1, .object fields => do
    let (tag, rest) ← takeField? key fields
    let decode ← (Decoder.text levels tag).bind ofTag?
    if areFieldsKeepable levels rest then decode (levels + 1) (.object rest) else none
  | levels + 1, .array (tag :: rest) => do
    let decode ← (Decoder.text levels tag).bind ofTag?
    if areKeepable levels rest then decode (levels + 1) (.array rest) else none
  | _, _ => none

end AssemblyAtlas.Json
