import AssemblyAtlas.Text.Blank
import AssemblyAtlas.Text.Utf8
import AssemblyAtlas.Word

/-!
# Limits

The bounds on what a caller may ask for. Numbers are pulled into their range and names and
patterns are cut, so that no request is refused for its size.
-/

namespace AssemblyAtlas.Limits

/-- The number of bytes of a name or pattern. -/
def queryBytes : Nat := 512

/-- The page size unless another is asked for. -/
def defaultPageSize : Nat := 10

/-- The greatest page size. -/
def maxPageSize : Int := 500

/-- The depth of call graphs unless another is asked for. -/
def defaultCallDepth : Nat := 5

/-- The greatest depth of call graphs. -/
def maxCallDepth : Int := 32

/-- The length of dependency paths unless another is asked for. -/
def defaultPathLength : Nat := 10

/-- The greatest length of dependency paths. -/
def maxPathLength : Int := 32

/-- The value pulled up to `low` and then down to `high`. -/
def clamp (value low high : Int) : Int :=
  min (max value low) high

/-- A depth, as 32 bits. Depth 0 is the root alone. -/
def clampDepth (value high : Int) : Nat :=
  (clamp value 0 high % Word.count32).toNat

/-- A path length, as 64 bits. -/
def clampPathLength (value high : Int) : Nat :=
  (clamp value 0 high % Word.count64).toNat

/-- A page size, as 64 bits. -/
def clampPageSize (value high : Int) : Nat :=
  (clamp value 1 high % Word.count64).toNat

/-- The boundary between characters that is found by going back from byte `n` of the text, one byte
at a time. The start of the text is a boundary. -/
def backOff (s : String) : Nat → s.Pos
  | 0 => s.startPos
  | n + 1 => if h : String.Pos.Raw.IsValid s ⟨n + 1⟩ then s.pos ⟨n + 1⟩ h else backOff s n

/-- The beginning of the text up to the boundary found from byte `n`. -/
def cut (s : String) (n : Nat) : String :=
  (s.sliceTo (backOff s n)).copy

/-- A name or pattern without white space around it, cut to `queryBytes`. -/
def normalize (s : String) : String :=
  let text := Text.trim s
  if text.utf8ByteSize ≤ queryBytes then text else cut text queryBytes

end AssemblyAtlas.Limits
