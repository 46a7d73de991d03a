import AssemblyAtlas.Analysis.Reference
import AssemblyAtlas.Analysis.Usage
import AssemblyAtlas.Json.Decoder

/-!
# Reading results back

Decoders for the records that analyses produce.
-/

namespace AssemblyAtlas

open Json

/-- Decodes a usage. -/
def Usage.decode : Decoder Usage := fun levels j => do
  let m ← members ["member", "member_name", "declaring_type", "assembly", "kind", "offset"] levels j
  return {
    member := ← m.required "member" Decoder.text
    memberName := ← m.required "member_name" Decoder.text
    declaringType := ← m.required "declaring_type" Decoder.text
    assembly := ← m.required "assembly" Decoder.text
    kind := ← m.required "kind" (Decoder.name UsageKind.ofLabel?)
    offset := ← m.optionalByName "offset" Decoder.uint32 }

/-- Decodes a reference. -/
def Reference.decode : Decoder Reference := fun levels j => do
  let m ← members ["context", "from_member", "in_assembly", "parameter"] levels j
  return {
    context := ← m.required "context" (Decoder.name ReferenceContext.ofLabel?)
    fromMember := ← m.required "from_member" Decoder.text
    inAssembly := ← m.required "in_assembly" Decoder.text
    parameter := ← m.optionalByName "parameter" Decoder.text }

end AssemblyAtlas
