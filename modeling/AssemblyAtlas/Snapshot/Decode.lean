import AssemblyAtlas.Json.Decoder
import AssemblyAtlas.Metadata.Assembly

/-!
# Reading snapshots

Decoders for the parts of an assembly. Types nest, so the decoder of a type is built up from a
decoder of the types nested in it; each level of nesting enters at least one object or array, so
the number of levels that may be entered bounds the recursion.
-/

namespace AssemblyAtlas

open Json

/-- Decodes a type signature. -/
def TypeSig.decode : Decoder TypeSig := fun levels j => do
  let m ← members ["full_name", "assembly"] levels j
  return {
    fullName := ← m.required "full_name" Decoder.text
    assembly := ← m.optional "assembly" Decoder.text }

/-- Decodes a member reference. -/
def MemberRef.decode : Decoder MemberRef := fun levels j => do
  let m ← members ["declaring_type", "name", "assembly", "parameters"] levels j
  return {
    declaringType := ← m.required "declaring_type" Decoder.text
    name := ← m.required "name" Decoder.text
    assembly := ← m.optional "assembly" Decoder.text
    parameters := ← m.optional "parameters" (Decoder.list TypeSig.decode) }

/-- The decoder of an operand of the given kind. -/
def Operand.decoderOf? : String → Option (Decoder Operand)
  | "method" => some fun levels j => (MemberRef.decode levels j).map .method
  | "field" => some fun levels j => (MemberRef.decode levels j).map .field
  | "type" => some fun levels j => (TypeSig.decode levels j).map .type
  | _ => none

/-- Decodes an operand. -/
def Operand.decode : Decoder Operand :=
  Decoder.tagged "kind" Operand.decoderOf?

/-- Decodes an operation from its mnemonic. -/
def OpCode.decode : Decoder OpCode := fun levels j =>
  (Decoder.text levels j).map OpCode.ofMnemonic

/-- Decodes an instruction. -/
def Instruction.decode : Decoder Instruction := fun levels j => do
  let m ← members ["offset", "opcode", "operand"] levels j
  return {
    offset := ← m.optional "offset" Decoder.uint32
    opcode := ← m.required "opcode" OpCode.decode
    operand := ← m.optional "operand" Operand.decode }

/-- Decodes a visibility. -/
def Visibility.decode : Decoder Visibility :=
  Decoder.name Visibility.ofLabel?

/-- Decodes a parameter. -/
def Parameter.decode : Decoder Parameter := fun levels j => do
  let m ← members ["name", "type"] levels j
  return {
    name := ← m.required "name" Decoder.text
    type := ← m.required "type" TypeSig.decode }

/-- Decodes a method. -/
def Method.decode : Decoder Method := fun levels j => do
  let m ← members ["name", "visibility", "is_static", "is_virtual", "is_abstract", "return_type",
    "parameters", "instructions"] levels j
  return {
    name := ← m.required "name" Decoder.text
    visibility := ← m.orElse "visibility" Visibility.decode default
    isStatic := ← m.orElse "is_static" Decoder.bool false
    isVirtual := ← m.orElse "is_virtual" Decoder.bool false
    isAbstract := ← m.orElse "is_abstract" Decoder.bool false
    returnType := ← m.optional "return_type" TypeSig.decode
    parameters := ← m.orElse "parameters" (Decoder.list Parameter.decode) []
    instructions := ← m.optional "instructions" (Decoder.list Instruction.decode) }

/-- Decodes a field. -/
def Field.decode : Decoder Field := fun levels j => do
  let m ← members ["name", "field_type", "visibility", "is_static", "is_literal"] levels j
  return {
    name := ← m.required "name" Decoder.text
    type := ← m.required "field_type" TypeSig.decode
    visibility := ← m.orElse "visibility" Visibility.decode default
    isStatic := ← m.orElse "is_static" Decoder.bool false
    isLiteral := ← m.orElse "is_literal" Decoder.bool false }

/-- Decodes a property. -/
def Property.decode : Decoder Property := fun levels j => do
  let m ← members ["name", "property_type", "getter", "setter"] levels j
  return {
    name := ← m.required "name" Decoder.text
    type := ← m.required "property_type" TypeSig.decode
    getter := ← m.optional "getter" Decoder.text
    setter := ← m.optional "setter" Decoder.text }

namespace TypeDef

/-- The names of a type's fields in order. -/
def fieldNames : List String :=
  ["full_name", "visibility", "is_value_type", "is_abstract", "is_sealed", "is_interface",
    "is_enum", "base_type", "interfaces", "fields", "methods", "properties", "nested_types"]

/-- Decodes a type, given a decoder for the types nested in it. -/
def decodeWith (decodeNested : Decoder TypeDef) : Decoder TypeDef := fun levels j => do
  let m ← members fieldNames levels j
  return {
    fullName := ← m.required "full_name" Decoder.text
    visibility := ← m.orElse "visibility" Visibility.decode default
    isValueType := ← m.orElse "is_value_type" Decoder.bool false
    isAbstract := ← m.orElse "is_abstract" Decoder.bool false
    isSealed := ← m.orElse "is_sealed" Decoder.bool false
    isInterface := ← m.orElse "is_interface" Decoder.bool false
    isEnum := ← m.orElse "is_enum" Decoder.bool false
    baseType := ← m.optional "base_type" TypeSig.decode
    interfaces := ← m.orElse "interfaces" (Decoder.list TypeSig.decode) []
    fields := ← m.orElse "fields" (Decoder.list Field.decode) []
    methods := ← m.orElse "methods" (Decoder.list Method.decode) []
    properties := ← m.orElse "properties" (Decoder.list Property.decode) []
    nested := ← m.orElse "nested_types" (Decoder.list decodeNested) [] }

/-- Decodes a type with at most the given number of types around its innermost nested type. -/
def decodeNested : Nat → Decoder TypeDef
  | 0 => fun _ _ => none
  | depth + 1 => decodeWith (decodeNested depth)

/-- Decodes a type. A type within a type is at least one level deeper, so there are no more types
around the innermost one than levels that may be entered. -/
def decode : Decoder TypeDef := fun levels j =>
  decodeNested levels levels j

end TypeDef

/-- Decodes a module. -/
def Module.decode : Decoder Module := fun levels j => do
  let m ← members ["name", "types"] levels j
  return {
    name := ← m.required "name" Decoder.text
    types := ← m.orElse "types" (Decoder.list TypeDef.decode) [] }

/-- Decodes an assembly. -/
def Assembly.decode : Decoder Assembly := fun levels j => do
  let m ← members ["name", "version", "culture", "public_key_token", "modules"] levels j
  return {
    name := ← m.required "name" Decoder.text
    version := ← m.orElse "version" Decoder.text "0.0.0.0"
    culture := ← m.optional "culture" Decoder.text
    publicKeyToken := ← m.optional "public_key_token" Decoder.text
    modules := ← m.orElse "modules" (Decoder.list Module.decode) [] }

/-- The number of arrays and objects that may be nested in a snapshot. -/
def Snapshot.maxNesting : Nat := 127

end AssemblyAtlas
