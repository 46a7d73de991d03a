import AssemblyAtlas.Json.Basic
import AssemblyAtlas.Metadata.Assembly
import AssemblyAtlas.Sorted
import AssemblyAtlas.Text.Blank

/-!
# Symbols

A type, method or field together with where it is declared, and the flat entries by which symbols
are searched and stored.
-/

namespace AssemblyAtlas

/-- A type together with the assembly that declares it. -/
structure TypeSymbol where
  /-- The assembly that declares the type. -/
  assembly : Assembly
  /-- The type. -/
  type : TypeDef

namespace TypeSymbol

/-- The full name of the type. -/
def fullName (s : TypeSymbol) : String :=
  s.type.fullName

end TypeSymbol

/-- A method together with the type and assembly that declare it. -/
structure MethodSymbol extends TypeSymbol where
  /-- The method. -/
  method : Method

namespace MethodSymbol

/-- The full name of the method, with its parameter types. -/
def fullName (s : MethodSymbol) : String :=
  s.method.fullNameIn s.type.fullName

end MethodSymbol

/-- A field together with the type and assembly that declare it. -/
structure FieldSymbol extends TypeSymbol where
  /-- The field. -/
  field : Field

namespace FieldSymbol

/-- The full name of the field. -/
def fullName (s : FieldSymbol) : String :=
  memberFullName s.type.fullName s.field.name

end FieldSymbol

namespace TypeSymbol

/-- The methods of the type. -/
def methods (s : TypeSymbol) : List MethodSymbol :=
  s.type.methods.map fun m => { s with method := m }

end TypeSymbol

/-! ### Entries -/

/-- The kinds of symbols, in the order in which they are presented. -/
inductive SymbolKind where
  | type
  | method
  | field
  | property
deriving DecidableEq, Repr, Ord

namespace SymbolKind

/-- The word for a kind. -/
def label : SymbolKind → String
  | .type => "type"
  | .method => "method"
  | .field => "field"
  | .property => "property"

/-- The kind with the given name, in any case and with white space around it. -/
def ofText? (s : String) : Option SymbolKind :=
  match Text.lower (Text.trim s) with
  | "type" => some .type
  | "method" => some .method
  | "field" => some .field
  | "property" => some .property
  | _ => none

end SymbolKind

/-- A symbol as it is presented. -/
structure SymbolMatch where
  /-- The kind of symbol. -/
  kind : SymbolKind
  /-- Its full name. -/
  fullName : String
  /-- The name of the assembly that declares it. -/
  assembly : String
deriving DecidableEq, Repr

namespace SymbolMatch

/-- The order of presentation: by assembly, then kind, then full name. -/
def compare : SymbolMatch → SymbolMatch → Ordering :=
  compareLex (compareOn (·.assembly)) (compareLex (compareOn (·.kind)) (compareOn (·.fullName)))

/-- A symbol as JSON. -/
def toJson (s : SymbolMatch) : Json :=
  .record [("kind", .text s.kind.label), ("full_name", .text s.fullName),
    ("assembly", .text s.assembly)]

end SymbolMatch

/-- A declared symbol: its kind, simple name and full name. -/
structure Declaration where
  /-- The kind of symbol. -/
  kind : SymbolKind
  /-- Its simple name. -/
  name : String
  /-- Its full name. -/
  fullName : String
deriving DecidableEq, Repr

/-- What a type declares: itself, its methods, its fields and its properties. -/
def TypeDef.declarations (t : TypeDef) : List Declaration :=
  ⟨.type, t.name, t.fullName⟩ ::
    t.methods.map (fun m => ⟨.method, m.name, m.fullNameIn t.fullName⟩) ++
    t.fields.map (fun f => ⟨.field, f.name, memberFullName t.fullName f.name⟩) ++
    t.properties.map (fun p => ⟨.property, p.name, memberFullName t.fullName p.name⟩)

end AssemblyAtlas
