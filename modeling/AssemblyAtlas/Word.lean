/-!
# Bounds of machine words

The least and greatest integers of 32 and 64 bits.
-/

namespace AssemblyAtlas.Word

/-- The number of values of 32 bits. -/
def count32 : Nat := 0x100000000

/-- The number of values of 64 bits. -/
def count64 : Nat := 0x10000000000000000

/-- The least integer of 32 bits with sign. -/
def int32Min : Int := -0x80000000

/-- The greatest integer of 32 bits with sign. -/
def int32Max : Int := 0x7FFFFFFF

/-- The least integer of 64 bits with sign. -/
def int64Min : Int := -0x8000000000000000

/-- The greatest integer of 64 bits with sign. -/
def int64Max : Int := 0x7FFFFFFFFFFFFFFF

/-- The greatest integer of 32 bits without sign. -/
def uint32Max : Nat := 0xFFFFFFFF

/-- The greatest integer of 64 bits without sign. -/
def uint64Max : Nat := 0xFFFFFFFFFFFFFFFF

end AssemblyAtlas.Word
