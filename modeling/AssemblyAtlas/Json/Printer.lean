import AssemblyAtlas.Json.Basic

/-!
# Printing JSON

The compact text of a value: no blanks, fields in their order, characters beyond ASCII as they
are. Inside a string the quote, the backslash and the characters below U+0020 are escaped, the
latter by a letter where there is one and else as four hexadecimal digits in lower case.
-/

namespace AssemblyAtlas.Json

/-- The character of a hexadecimal digit. -/
def hexDigit (n : Nat) : Char :=
  Nat.digitChar (n % 16)

/-- A character inside a string literal. -/
def escape (c : Char) : List Char :=
  if c == '"' then ['\\', '"']
  else if c == '\\' then ['\\', '\\']
  else if c.toNat < 0x20 then
    match c.toNat with
    | 0x8 => ['\\', 'b']
    | 0x9 => ['\\', 't']
    | 0xA => ['\\', 'n']
    | 0xC => ['\\', 'f']
    | 0xD => ['\\', 'r']
    | n => ['\\', 'u', '0', '0', hexDigit (n / 16), hexDigit n]
  else [c]

/-- The literal of a text. A literal that stands for no text is written as half of a surrogate
pair, which stands for none either. -/
def renderString : Option String → List Char
  | some s => '"' :: s.toList.flatMap escape ++ ['"']
  | none => ['"', '\\', 'u', 'd', '8', '0', '0', '"']

mutual
/-- The characters of a value. -/
def renderChars : Json → List Char
  | .null => ['n', 'u', 'l', 'l']
  | .bool true => ['t', 'r', 'u', 'e']
  | .bool false => ['f', 'a', 'l', 's', 'e']
  | .number n => n.render
  | .string s => renderString s
  | .array [] => ['[', ']']
  | .array (j :: js) => '[' :: renderChars j ++ renderItems js
  | .object [] => ['{', '}']
  | .object ((k, j) :: fs) => '{' :: renderString k ++ ':' :: renderChars j ++ renderFields fs
/-- The items after the first one, and the closing bracket. -/
def renderItems : List Json → List Char
  | [] => [']']
  | j :: js => ',' :: renderChars j ++ renderItems js
/-- The fields after the first one, and the closing brace. -/
def renderFields : List (Option String × Json) → List Char
  | [] => ['}']
  | (k, j) :: fs => ',' :: renderString k ++ ':' :: renderChars j ++ renderFields fs
end

/-- The compact text of a value. -/
def render (j : Json) : String :=
  String.ofList (renderChars j)

end AssemblyAtlas.Json
