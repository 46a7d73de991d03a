import AssemblyAtlas.Digest.Base64
import AssemblyAtlas.Error
import AssemblyAtlas.Json.Decoder
import AssemblyAtlas.Json.Parser
import AssemblyAtlas.Json.Printer
import AssemblyAtlas.Limits
import AssemblyAtlas.Word

/-!
# Page tokens

A token names a page of a list: the offset of its first item and the number of items. It is the
Base64 text of a small JSON record. Tokens come back from callers, so every part is checked.

The numbers of a token are integers of 64 bits with sign, so a request for 2 ^ 63 items or more
gives a token that is refused.
-/

namespace AssemblyAtlas

/-- Which part of a list is asked for. -/
structure PageRequest where
  /-- The number of items to pass over. -/
  offset : Nat
  /-- The number of items to return. -/
  size : Nat
deriving DecidableEq, Repr

namespace PageRequest

/-- The first page, of at least one item. -/
def first (size : Nat) : PageRequest :=
  ⟨0, max size 1⟩

/-- The number as 64 bits with sign. -/
def signed (n : Nat) : Int :=
  Int.bmod n Word.count64

/-- The record inside the token. -/
def payload (r : PageRequest) : Json :=
  .record [("offset", .int (signed r.offset)), ("pageSize", .int (signed r.size))]

/-- The token of a request. -/
def token (r : PageRequest) : String :=
  String.ofList (Base64.encode (Text.Utf8.encode r.payload.render))

/-- The two numbers of a record. -/
def decodePayload : Json.Decoder (Int × Int) := fun levels j => do
  let m ← Json.members ["offset", "pageSize"] levels j
  return (← m.required "offset" Json.Decoder.int64, ← m.required "pageSize" Json.Decoder.int64)

/-- The number of arrays and objects that may be nested in the record. -/
def maxNesting : Nat := 127

/-- The request of a token; without a token the first page of the default size. -/
def ofToken (token : Option String) (defaultSize : Nat) : Except Error PageRequest :=
  match token with
  | none | some "" => .ok (first defaultSize)
  | some t => do
    let some bytes := Base64.decode t.toList | throw (.cursor .notBase64)
    let some (offset, size) := (Json.parseBytes? bytes).bind (decodePayload maxNesting)
      | throw (.cursor .badPayload)
    if offset < 0 then throw (.cursor (.negativeOffset offset))
    else if size ≤ 0 then throw (.cursor (.emptyPage size))
    else return ⟨offset.toNat, size.toNat⟩

end PageRequest

end AssemblyAtlas
