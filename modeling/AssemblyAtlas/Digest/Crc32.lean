/-!
# CRC-32

The cyclic redundancy check with the reflected polynomial 0xEDB88320, all bits inverted before and
after.
-/

namespace AssemblyAtlas.Crc32

/-- Shifts out one bit. -/
def shift (crc : UInt32) : UInt32 :=
  if crc &&& 1 = 1 then (crc >>> 1) ^^^ 0xEDB88320 else crc >>> 1

/-- Takes in one byte. -/
def update (crc : UInt32) (byte : UInt8) : UInt32 :=
  (List.range 8).foldl (fun c _ => shift c) (crc ^^^ byte.toUInt32)

/-- The check value of bytes. -/
def checksum (bytes : List UInt8) : UInt32 :=
  bytes.foldl update 0xFFFFFFFF ^^^ 0xFFFFFFFF

end AssemblyAtlas.Crc32
