import AssemblyAtlas.Pattern.Meaning
import AssemblyAtlas.Text.Utf8

/-!
# The memory of compiled patterns

A pattern is compiled to two automata over bytes, one that reads forwards and keeps groups and one
that reads backwards and keeps none. Each state takes 32 bytes, a transition on a range of bytes 8
and a free transition 4. A pattern is refused if one of its automata takes too much memory, so what
matters here is only what the automata take.
-/

namespace AssemblyAtlas.Pattern

open Unicode (CharSet)

/-- The bytes of a state. -/
def stateBytes : Nat := 32

/-- The bytes of a transition on a range of bytes. -/
def rangeBytes : Nat := 8

/-- The bytes of a free transition. -/
def edgeBytes : Nat := 4

/-! ### Characters as sequences of byte ranges -/

/-- A range of bytes. -/
abbrev ByteRange := Nat × Nat

/-- The numbers from `low` to `high` as sequences of ranges: `k` digits in base 64 after a first
one. -/
def digitRanges : Nat → Nat → Nat → List (List ByteRange)
  | 0, low, high => [[(low, high)]]
  | k + 1, low, high =>
    let unit := Nat.pow 64 (k + 1)
    let (first, last) := (low / unit, high / unit)
    let under (digit low high : Nat) := (digitRanges k low high).map ((digit, digit) :: ·)
    if first = last then under first (low % unit) (high % unit)
    else
      let startsFull := low % unit = 0
      let endsFull := high % unit = unit - 1
      let start := if startsFull then first else first + 1
      let stop := if endsFull then last + 1 else last
      (if startsFull then [] else under first (low % unit) (unit - 1)) ++
        (if start < stop then [(start, stop - 1) :: List.replicate (k + 1) (0, 63)] else []) ++
        (if endsFull then [] else under last 0 (high % unit))

/-- The characters of a set that take `k` bytes after the first, as sequences of byte ranges. -/
def encodedRanges (s : CharSet) (k low high lead : Nat) : List (List ByteRange) :=
  let continued := fun (r : ByteRange) => (r.1 + 0x80, r.2 + 0x80)
  (s ∩ .range low high).ranges.flatMap fun (a, b) =>
    (digitRanges k a b).map fun
      | [] => []
      | (x, y) :: rest => (x + lead, y + lead) :: rest.map continued

/-- The encodings of the characters of a set, as sequences of byte ranges in order. -/
def byteSequences (s : CharSet) : List (List ByteRange) :=
  let s := s ∩ CharSet.all
  encodedRanges s 0 0 0x7F 0 ++ encodedRanges s 1 0x80 0x7FF 0xC0 ++
    encodedRanges s 2 0x800 0xFFFF 0xE0 ++ encodedRanges s 3 0x10000 0x10FFFF 0xF0

/-- What may follow each first range of some sequences. -/
def followers : List (List ByteRange) → List (ByteRange × List (List ByteRange))
  | [] => []
  | [] :: more => followers more
  | (r :: rest) :: more =>
    match followers more with
    | (r', rests) :: groups =>
      if r = r' then (r, rest :: rests) :: groups else (r, [rest]) :: (r', rests) :: groups
    | [] => [(r, [rest])]

/-- The states that read some sequences: every state is what is left to read. -/
def readers : Nat → List (List ByteRange) → List (List (List ByteRange))
  | 0, _ => []
  | n + 1, sequences =>
    if sequences = [[]] then []
    else sequences :: (followers sequences).flatMap fun (_, rests) => readers n rests

/-- The number of different beginnings of some sequences. -/
def beginnings : Nat → List (List ByteRange) → Nat
  | 0, _ => 0
  | n + 1, sequences =>
    (followers sequences).foldr (fun (_, rests) count => 1 + beginnings n rests + count) 0

/-- The bytes of an encoded character at most. -/
def maxEncoded : Nat := 4

/-! ### Sets of characters -/

/-- The memory for reading a set of characters, when the memory for other than ASCII is given. A
single character takes a state for each byte. -/
def charMemory (encoded : List (List ByteRange) → Nat) (s : CharSet) : Nat :=
  match s.single? with
  | some c => stateBytes * Text.Utf8.size (Char.ofNat c)
  | none =>
    if s.isAscii then 2 * stateBytes + rangeBytes * s.ranges.length else encoded (byteSequences s)

/-- Reading forwards, states that read the same are one. -/
def forwardMemory (sequences : List (List ByteRange)) : Nat :=
  let states := (readers (maxEncoded + 1) sequences).eraseDups
  states.foldr (fun s bytes => stateBytes + rangeBytes * (followers s).length + bytes) stateBytes

/-- Reading backwards, sequences share the states of what they begin with. -/
def backwardMemory (sequences : List (List ByteRange)) : Nat :=
  2 * stateBytes + stateBytes * beginnings maxEncoded sequences + edgeBytes * sequences.length

/-! ### Expressions -/

/-- The expression takes at least one character. -/
def takesSome : CharRegex → Bool
  | .empty | .place _ => false
  | .one s => !s.ranges.isEmpty
  | .capture r => takesSome r
  | .sequence r s => takesSome r || takesSome s
  | .alternative r s => takesSome r && takesSome s
  | .iterate r low _ => low != 0 && takesSome r

/-- The number of branches of a choice. -/
def branchCount : CharRegex → Nat
  | .alternative r s => branchCount r + branchCount s
  | _ => 1

/-- The characters of a choice between single characters. -/
def charsOnly? : CharRegex → Option CharSet
  | .one s => some s
  | .alternative r s => do return (← charsOnly? r) ∪ (← charsOnly? s)
  | _ => none

/-- The memory of an expression, when the memory for characters and for a group is given. Inside a
choice the branches of a choice are branches of the outer one. -/
def exprMemory (chars : CharSet → Nat) (group : Nat) (inChoice : Bool) : CharRegex → Nat
  | .empty | .place _ => stateBytes
  | .one s => chars s
  | .capture r => group + exprMemory chars group false r
  | .sequence r s => exprMemory chars group false r + exprMemory chars group false s
  | .alternative r s =>
    match if inChoice then none else charsOnly? (.alternative r s) with
    | some s => chars s
    | none =>
      let edges := branchCount (.alternative r s)
      (if inChoice then 0 else 2 * stateBytes + edgeBytes * edges) +
        exprMemory chars group true r + exprMemory chars group true s
  | .iterate r low high =>
    let item := exprMemory chars group false r
    let fork := stateBytes + 2 * edgeBytes
    match high with
    | none =>
      if low != 0 then low * item + fork
      else if takesSome r then fork + item
      else 2 * fork + stateBytes + item
    | some high =>
      if low = high then low * item
      else if low = 0 ∧ high = 1 then fork + stateBytes + item
      else (if low = 0 then stateBytes else low * item) + stateBytes +
        (high - low) * (fork + item)

/-- The memory of skipping to where a match begins, and of the final state. -/
def frameMemory : Nat :=
  (stateBytes + 2 * edgeBytes) + (2 * stateBytes + rangeBytes) + stateBytes

/-- The memory of the larger automaton of an expression. The whole match is a group too. -/
def memory (r : CharRegex) : Nat :=
  let groupBytes := 2 * stateBytes
  let forward := exprMemory (charMemory forwardMemory) groupBytes false (.capture r)
  let backward := exprMemory (charMemory backwardMemory) 0 false r
  frameMemory + max forward backward

end AssemblyAtlas.Pattern
