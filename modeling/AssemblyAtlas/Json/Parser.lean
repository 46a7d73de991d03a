import AssemblyAtlas.Json.Token
import AssemblyAtlas.Text.Utf8

/-!
# Reading JSON

A text is read token by token with a stack of unfinished arrays and objects, so values may be
nested to any depth. The whole text has to be one value.
-/

namespace AssemblyAtlas.Json

/-- An unfinished array or object; what it holds so far is kept latest first. -/
inductive Frame where
  | array (items : List Json)
  | object (fields : List (Option String × Json)) (key : Option String)

/-- What may come next. The fields of the object that waits for a key are kept latest first. -/
inductive Want where
  | value
  | firstItem
  | firstKey
  | key (fields : List (Option String × Json))
  | colon (fields : List (Option String × Json)) (key : Option String)
  | after (value : Json)

/-- The state of the reader: the unfinished containers, innermost first, and what may come. -/
structure Reading where
  /-- The unfinished containers, innermost first. -/
  stack : List Frame
  /-- What may come next. -/
  want : Want

namespace Reading

/-- The value of a token that is a value by itself. -/
def scalar? : Token → Option Json
  | .null => some .null
  | .bool b => some (.bool b)
  | .number n => some (.number n)
  | .string s => some (.string s)
  | _ => none

/-- Reads the token that starts a value. -/
def begin? (stack : List Frame) : Token → Option Reading
  | .openBracket => some ⟨stack, .firstItem⟩
  | .openBrace => some ⟨stack, .firstKey⟩
  | t => (scalar? t).map fun j => ⟨stack, .after j⟩

/-- Reads one token; `none` if it may not stand here. -/
def step (r : Reading) (t : Token) : Option Reading :=
  match r.want, t with
  | .value, t => begin? r.stack t
  | .firstItem, .closeBracket => some ⟨r.stack, .after (.array [])⟩
  | .firstItem, t => begin? (.array [] :: r.stack) t
  | .firstKey, .closeBrace => some ⟨r.stack, .after (.object [])⟩
  | .firstKey, .string k => some ⟨r.stack, .colon [] k⟩
  | .key fs, .string k => some ⟨r.stack, .colon fs k⟩
  | .colon fs k, .colon => some ⟨.object fs k :: r.stack, .value⟩
  | .after j, .comma =>
    match r.stack with
    | .array js :: stack => some ⟨.array (j :: js) :: stack, .value⟩
    | .object fs k :: stack => some ⟨stack, .key ((k, j) :: fs)⟩
    | [] => none
  | .after j, .closeBracket =>
    match r.stack with
    | .array js :: stack => some ⟨stack, .after (.array (j :: js).reverse)⟩
    | _ => none
  | .after j, .closeBrace =>
    match r.stack with
    | .object fs k :: stack => some ⟨stack, .after (.object ((k, j) :: fs).reverse)⟩
    | _ => none
  | _, _ => none

/-- The value read, once the text has ended. -/
def finish : Reading → Option Json
  | ⟨[], .after j⟩ => some j
  | _ => none

end Reading

/-- The value that the tokens write. -/
def ofTokens? (ts : List Token) : Option Json :=
  (ts.foldlM Reading.step ⟨[], .value⟩).bind Reading.finish

/-- The value that a text writes. -/
def parse? (s : String) : Option Json :=
  (Token.scan (s.toList.map some)).bind ofTokens?

/-- The value that bytes write; bytes that are not UTF-8 may occur inside string literals. -/
def parseBytes? (bytes : List UInt8) : Option Json :=
  (Token.scan (Text.Utf8.decode bytes)).bind ofTokens?

end AssemblyAtlas.Json
