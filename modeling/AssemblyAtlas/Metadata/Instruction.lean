import AssemblyAtlas.Metadata.Signature
import AssemblyAtlas.Text.AsciiCase
import AssemblyAtlas.Text.Blank

/-!
# Instructions

The instructions of a method body, as far as calls and field accesses are concerned. All other
operations keep their mnemonic, trimmed and in lower case.
-/

namespace AssemblyAtlas

/-- The operation of an instruction. -/
inductive OpCode where
  | call
  | callVirtual
  | loadField
  | loadStaticField
  | storeField
  | storeStaticField
  | other (mnemonic : String)
deriving DecidableEq, Repr

namespace OpCode

/-- The mnemonic of the operation. -/
def mnemonic : OpCode → String
  | .call => "call"
  | .callVirtual => "callvirt"
  | .loadField => "ldfld"
  | .loadStaticField => "ldsfld"
  | .storeField => "stfld"
  | .storeStaticField => "stsfld"
  | .other m => m

/-- The operation with a mnemonic that is already trimmed and in lower case. -/
def ofPlainMnemonic : String → OpCode
  | "call" => .call
  | "callvirt" => .callVirtual
  | "ldfld" => .loadField
  | "ldsfld" => .loadStaticField
  | "stfld" => .storeField
  | "stsfld" => .storeStaticField
  | m => .other m

/-- The operation with the given mnemonic, in any case and with any white space around it. -/
def ofMnemonic (s : String) : OpCode :=
  ofPlainMnemonic (Text.lower (Text.trim s))

/-- The operation is one that a mnemonic gives. -/
def IsNormal (op : OpCode) : Prop :=
  ofMnemonic op.mnemonic = op

instance (op : OpCode) : Decidable op.IsNormal :=
  inferInstanceAs (Decidable (_ = _))

end OpCode

/-- What an instruction is applied to. -/
inductive Operand where
  | method (target : MemberRef)
  | field (target : MemberRef)
  | type (target : TypeSig)
deriving DecidableEq, Repr

/-- An instruction of a method body. The operand is absent when it was not resolved. -/
structure Instruction where
  /-- The position in the body, where it was recorded. -/
  offset : Option UInt32 := none
  /-- The operation. -/
  opcode : OpCode
  /-- What it is applied to. -/
  operand : Option Operand := none
deriving DecidableEq, Repr

/-- What an instruction does to the members of types. -/
inductive Action where
  | invoke (target : MemberRef)
  | readField (target : MemberRef)
  | writeField (target : MemberRef)
  | other
deriving DecidableEq, Repr

namespace Instruction

/-- What an instruction does. -/
def action (i : Instruction) : Action :=
  match i.opcode, i.operand with
  | .call, some (.method m) | .callVirtual, some (.method m) => .invoke m
  | .loadField, some (.field f) | .loadStaticField, some (.field f) => .readField f
  | .storeField, some (.field f) | .storeStaticField, some (.field f) => .writeField f
  | _, _ => .other

/-- The method that the instruction calls. -/
def invoked? (i : Instruction) : Option MemberRef :=
  match i.action with
  | .invoke m => some m
  | _ => none

/-- The instruction placed at an offset. -/
def placedAt (offset : UInt32) (i : Instruction) : Instruction :=
  { i with offset := some offset }

end Instruction

end AssemblyAtlas
