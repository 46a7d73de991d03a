import AssemblyAtlas.Json.Printer
import AssemblyAtlas.Metadata.Assembly

/-!
# Writing snapshots

A snapshot is an assembly as JSON. The canonical text `Assembly.canonicalText` writes the fields
in a fixed order, leaves out what is absent, and is what the store keeps and hashes.
-/

namespace AssemblyAtlas

open Json

namespace TypeSig

/-- The fields of a type signature. -/
def toFields (s : TypeSig) : List (String × Json) :=
  ("full_name", text s.fullName) :: field? "assembly" text s.assembly

/-- A type signature as JSON. -/
def toJson (s : TypeSig) : Json :=
  record s.toFields

end TypeSig

namespace MemberRef

/-- The fields of a member reference. -/
def toFields (r : MemberRef) : List (String × Json) :=
  [("declaring_type", text r.declaringType), ("name", text r.name)] ++
    field? "assembly" text r.assembly ++ field? "parameters" (list TypeSig.toJson) r.parameters

/-- A member reference as JSON. -/
def toJson (r : MemberRef) : Json :=
  record r.toFields

end MemberRef

/-- An operand as JSON; its kind comes first. -/
def Operand.toJson : Operand → Json
  | .method r => record (("kind", text "method") :: r.toFields)
  | .field r => record (("kind", text "field") :: r.toFields)
  | .type s => record (("kind", text "type") :: s.toFields)

/-- An instruction as JSON. -/
def Instruction.toJson (i : Instruction) : Json :=
  record (field? "offset" (fun n : UInt32 => nat n.toNat) i.offset ++
    [("opcode", text i.opcode.mnemonic)] ++ field? "operand" Operand.toJson i.operand)

/-- A visibility as JSON. -/
def Visibility.toJson (v : Visibility) : Json :=
  text v.label

/-- A parameter as JSON. -/
def Parameter.toJson (p : Parameter) : Json :=
  record [("name", text p.name), ("type", p.type.toJson)]

/-- A method as JSON. -/
def Method.toJson (m : Method) : Json :=
  record ([("name", text m.name), ("visibility", m.visibility.toJson),
    ("is_static", .bool m.isStatic), ("is_virtual", .bool m.isVirtual),
    ("is_abstract", .bool m.isAbstract)] ++ field? "return_type" TypeSig.toJson m.returnType ++
    [("parameters", list Parameter.toJson m.parameters)] ++
    field? "instructions" (list Instruction.toJson) m.instructions)

/-- A field as JSON. -/
def Field.toJson (f : Field) : Json :=
  record [("name", text f.name), ("field_type", f.type.toJson),
    ("visibility", f.visibility.toJson), ("is_static", .bool f.isStatic),
    ("is_literal", .bool f.isLiteral)]

/-- A property as JSON. -/
def Property.toJson (p : Property) : Json :=
  record ([("name", text p.name), ("property_type", p.type.toJson)] ++
    field? "getter" text p.getter ++ field? "setter" text p.setter)

/-- The fields of a type, but for the types nested in it. -/
def TypeInfo.toFields (t : TypeInfo) : List (String × Json) :=
  [("full_name", text t.fullName), ("visibility", t.visibility.toJson),
    ("is_value_type", .bool t.isValueType), ("is_abstract", .bool t.isAbstract),
    ("is_sealed", .bool t.isSealed), ("is_interface", .bool t.isInterface),
    ("is_enum", .bool t.isEnum)] ++ field? "base_type" TypeSig.toJson t.baseType ++
    [("interfaces", list TypeSig.toJson t.interfaces), ("fields", list Field.toJson t.fields),
      ("methods", list Method.toJson t.methods),
      ("properties", list Property.toJson t.properties)]

mutual
/-- A type as JSON. -/
def TypeDef.toJson : TypeDef → Json
  | ⟨info, nested⟩ =>
    record (info.toFields ++ [("nested_types", .array (TypeDef.allToJson nested))])
/-- The types of a list as JSON. -/
def TypeDef.allToJson : List TypeDef → List Json
  | [] => []
  | t :: ts => TypeDef.toJson t :: TypeDef.allToJson ts
end

/-- A module as JSON. -/
def Module.toJson (m : Module) : Json :=
  record [("name", text m.name), ("types", list TypeDef.toJson m.types)]

namespace Assembly

/-- An assembly as JSON. -/
def toJson (a : Assembly) : Json :=
  record ([("name", text a.name), ("version", text a.version)] ++
    field? "culture" text a.culture ++ field? "public_key_token" text a.publicKeyToken ++
    [("modules", list Module.toJson a.modules)])

/-- The text of an assembly that the store keeps. -/
def canonicalText (a : Assembly) : String :=
  a.toJson.render

end Assembly

end AssemblyAtlas
