/-!
# UTF-8

Characters as bytes and back. `decode` accepts any bytes: a well-formed sequence gives its
character, and each maximal ill-formed sequence gives one `none`, so that the strict reading
`decode?`, which refuses ill-formed bytes, and the lenient reading `decodeLossy`, which puts
U+FFFD in their place, are two views of one function.
-/

namespace AssemblyAtlas.Text.Utf8

/-- The number of bytes of a character. -/
def size (c : Char) : Nat :=
  c.utf8Size

/-- The bytes of a text. -/
def encode (s : String) : List UInt8 :=
  s.toUTF8.toList

/-- How a character of several bytes starts: how many bytes follow the first, the range of the
second byte, and the bits that the first contributes. -/
structure Lead where
  /-- The number of bytes to come. -/
  tail : Nat
  /-- The least second byte. -/
  low : Nat
  /-- The greatest second byte. -/
  high : Nat
  /-- The leading bits of the character. -/
  bits : Nat

/-- What a first byte of 0x80 or more announces, if it can start a character. -/
def lead? (b : Nat) : Option Lead :=
  if 0xC2 ≤ b && b ≤ 0xDF then some ⟨1, 0x80, 0xBF, b % 0x20⟩
  else if b == 0xE0 then some ⟨2, 0xA0, 0xBF, 0⟩
  else if b == 0xED then some ⟨2, 0x80, 0x9F, 0xD⟩
  else if 0xE1 ≤ b && b ≤ 0xEF then some ⟨2, 0x80, 0xBF, b % 0x10⟩
  else if b == 0xF0 then some ⟨3, 0x90, 0xBF, 0⟩
  else if 0xF1 ≤ b && b ≤ 0xF3 then some ⟨3, 0x80, 0xBF, b % 8⟩
  else if b == 0xF4 then some ⟨3, 0x80, 0x8F, 4⟩
  else none

/-- An unfinished character: the number of bytes missing, the range of the next one, and the
bits read so far. `idle` stands between characters. -/
inductive Pending where
  | idle
  | partway (tail low high bits : Nat)

/-- Reads one byte between characters. -/
def start (b : Nat) : Pending × List (Option Char) :=
  if b < 0x80 then (.idle, [some (Char.ofNat b)])
  else match lead? b with
    | some l => (.partway l.tail l.low l.high l.bits, [])
    | none => (.idle, [none])

/-- Reads one byte: the state after it and what it completed. A byte that cannot continue an
unfinished character ends it as ill-formed and is read afresh. -/
def step : Pending → Nat → Pending × List (Option Char)
  | .idle, b => start b
  | .partway tail low high bits, b =>
    if low ≤ b && b ≤ high then
      let bits := bits * 0x40 + b % 0x40
      if tail ≤ 1 then (.idle, [some (Char.ofNat bits)])
      else (.partway (tail - 1) 0x80 0xBF bits, [])
    else
      let (next, out) := start b
      (next, none :: out)

/-- Reads all bytes from a state on; a character cut off by the end is ill-formed. -/
def run : Pending → List UInt8 → List (Option Char)
  | .idle, [] => []
  | .partway .., [] => [none]
  | p, b :: bs =>
    let (next, out) := step p b.toNat
    out ++ run next bs

/-- The characters that the bytes stand for, with `none` for each maximal ill-formed sequence. -/
def decode (bytes : List UInt8) : List (Option Char) :=
  run .idle bytes

/-- The text that the bytes stand for, if they are well-formed. -/
def decode? (bytes : List UInt8) : Option String :=
  ((decode bytes).mapM id).map String.ofList

/-- The text that the bytes stand for, with U+FFFD for each maximal ill-formed sequence. -/
def decodeLossy (bytes : List UInt8) : String :=
  String.ofList ((decode bytes).map (·.getD (Char.ofNat 0xFFFD)))

end AssemblyAtlas.Text.Utf8
