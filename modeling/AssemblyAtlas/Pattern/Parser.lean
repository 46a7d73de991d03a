import AssemblyAtlas.Pattern.Expr
import AssemblyAtlas.Text.Blank
import AssemblyAtlas.Text.Decimal
import AssemblyAtlas.Text.Hex
import AssemblyAtlas.Unicode.Category
import AssemblyAtlas.Word

/-!
# Reading patterns

A reader takes the characters that are left, and gives what it read and what is left after it. In
extended patterns blanks are ignored, and so is all from `#` to the end of a line.
-/

namespace AssemblyAtlas.Pattern

open Text (isBlank hexDigit?)

/-! ### Blanks and comments -/

/-- The leading characters that satisfy `p`, and the rest. In an extended pattern blanks and
comments before, between and after them are left out. -/
def takeSpaced (extended : Bool) (p : Char → Bool) (cs : List Char) : List Char × List Char :=
  go false cs
where
  /-- Goes on inside a comment or outside. -/
  go : Bool → List Char → List Char × List Char
    | _, [] => ([], [])
    | true, c :: cs => go (c != '\n') cs
    | false, c :: cs =>
      if extended && isBlank c then go false cs
      else if extended && c == '#' then go true cs
      else if p c then
        let (taken, rest) := go false cs
        (c :: taken, rest)
      else ([], c :: cs)

/-- The rest after blanks and comments, where these are ignored. -/
def skip (extended : Bool) (cs : List Char) : List Char :=
  (takeSpaced extended (fun _ => false) cs).2

/-- What stands up to the closing brace, and the rest after it. -/
def braced (extended : Bool) (cs : List Char) : Option (List Char × List Char) :=
  match takeSpaced extended (· != '}') cs with
  | (inner, '}' :: rest) => some (inner, rest)
  | _ => none

/-- The next character after blanks. A comment hides its first character only. -/
def peek (extended : Bool) (cs : List Char) : Option Char :=
  let next? (cs : List Char) := if extended then (cs.dropWhile isBlank).head? else cs.head?
  match next? cs with
  | some '#' =>
    if extended then (next? ((cs.dropWhile isBlank).drop 1)).or cs.head? else some '#'
  | some c => some c
  | none => cs.head?

/-! ### Escapes -/

/-- The code point of hexadecimal digits. -/
def codePoint? (digits : List Nat) : Option Nat :=
  let code := digits.foldl (fun n d => n * 16 + d) 0
  if digits.isEmpty || !Unicode.CharSet.all.contains code then none else some code

/-- Reads a fixed number of hexadecimal digits. -/
def hexDigits (extended : Bool) : Nat → List Char → Option (List Nat × List Char)
  | 0, cs => some ([], cs)
  | _ + 1, [] => none
  | n + 1, c :: cs => do
    let d ← hexDigit? c
    let (ds, rest) ← hexDigits extended n (skip extended cs)
    return (d :: ds, rest)

/-- Reads the code point of an escape that takes `size` digits or any number in braces. -/
def hexEscape (extended : Bool) (size : Nat) (cs : List Char) : Option (Expr × List Char) :=
  match skip extended cs with
  | '{' :: more => do
    let (inner, rest) ← braced extended more
    let code ← codePoint? (← inner.mapM hexDigit?)
    return (.literal { code }, rest)
  | cs => do
    let (digits, rest) ← hexDigits extended size cs
    let code ← codePoint? digits
    return (.literal { code, isByte := size == 2 }, rest)

/-- The property that the text between braces asks for. -/
def propertyOf (negated : Bool) (text : List Char) : ClassExpr :=
  match splitAtPair text with
  | some (name, value) => .property (String.ofList name) (String.ofList value) (!negated)
  | none =>
    let divider := if text.contains ':' then ':' else '='
    let name := text.takeWhile (· != divider)
    let value := if text.contains divider then some (String.ofList (text.drop (name.length + 1)))
      else none
    .property (String.ofList name) value negated
where
  /-- The text before and after the first `!=`. -/
  splitAtPair : List Char → Option (List Char × List Char)
    | '!' :: '=' :: rest => some ([], rest)
    | c :: rest => (splitAtPair rest).map fun (before, after) => (c :: before, after)
    | [] => none

/-- Reads a property: a letter or a name in braces. -/
def propertyEscape (extended negated : Bool) (cs : List Char) : Option (Expr × List Char) :=
  match skip extended cs with
  | '{' :: more => do
    let (inner, rest) ← braced extended more
    return (.charClass (propertyOf negated inner), rest)
  | c :: rest =>
    if c == '\\' then none
    else some (.charClass (.property (String.singleton c) none negated), rest)
  | [] => none

/-- Reads the rest of a word boundary, which may be of a kind given in braces. -/
def boundaryEscape (extended : Bool) (cs : List Char) : Option (Expr × List Char) :=
  match cs with
  | '{' :: more =>
    match skip extended more with
    | [] => none
    | c :: _ =>
      if c.isAlpha || c == '-' then do
        let (inner, rest) ← braced extended more
        match String.ofList inner with
        | "start" => some (.anchor .wordStart, rest)
        | "end" => some (.anchor .wordEnd, rest)
        | "start-half" => some (.anchor .wordStartHalf, rest)
        | "end-half" => some (.anchor .wordEndHalf, rest)
        | _ => none
      else some (.anchor .wordBoundary, cs)
  | _ => some (.anchor .wordBoundary, cs)

/-- Reads what follows a backslash. Every ASCII character but letters and digits can be escaped. -/
def escape (extended : Bool) : List Char → Option (Expr × List Char)
  | [] => none
  | c :: rest =>
    let literal (code : Nat) := some (Expr.literal { code }, rest)
    let anchor (a : Anchor) := some (Expr.anchor a, rest)
    let shorthand (kind : Shorthand) (negated : Bool) :=
      some (Expr.charClass (.shorthand kind negated), rest)
    match c with
    | 'x' => hexEscape extended 2 rest
    | 'u' => hexEscape extended 4 rest
    | 'U' => hexEscape extended 8 rest
    | 'p' => propertyEscape extended false rest
    | 'P' => propertyEscape extended true rest
    | 'd' => shorthand .digit false
    | 'D' => shorthand .digit true
    | 's' => shorthand .space false
    | 'S' => shorthand .space true
    | 'w' => shorthand .word false
    | 'W' => shorthand .word true
    | 'a' => literal 0x07
    | 'f' => literal 0x0C
    | 't' => literal 0x09
    | 'n' => literal 0x0A
    | 'r' => literal 0x0D
    | 'v' => literal 0x0B
    | 'A' => anchor .textStart
    | 'z' => anchor .textEnd
    | 'b' => boundaryEscape extended rest
    | 'B' => anchor .notWordBoundary
    | '<' => anchor .wordStart
    | '>' => anchor .wordEnd
    | c => if c.val < 128 && !c.isAlphanum then literal c.toNat else none

/-! ### Classes -/

/-- The ranges of a class of ASCII characters. -/
def asciiClass? : String → Option (List (Nat × Nat))
  | "alnum" => some [(0x30, 0x39), (0x41, 0x5A), (0x61, 0x7A)]
  | "alpha" => some [(0x41, 0x5A), (0x61, 0x7A)]
  | "ascii" => some [(0x00, 0x7F)]
  | "blank" => some [(0x09, 0x09), (0x20, 0x20)]
  | "cntrl" => some [(0x00, 0x1F), (0x7F, 0x7F)]
  | "digit" => some [(0x30, 0x39)]
  | "graph" => some [(0x21, 0x7E)]
  | "lower" => some [(0x61, 0x7A)]
  | "print" => some [(0x20, 0x7E)]
  | "punct" => some [(0x21, 0x2F), (0x3A, 0x40), (0x5B, 0x60), (0x7B, 0x7E)]
  | "space" => some [(0x09, 0x0D), (0x20, 0x20)]
  | "upper" => some [(0x41, 0x5A)]
  | "word" => some [(0x30, 0x39), (0x41, 0x5A), (0x5F, 0x5F), (0x61, 0x7A)]
  | "xdigit" => some [(0x30, 0x39), (0x41, 0x46), (0x61, 0x66)]
  | _ => none

/-- Reads the name of an ASCII class after its opening bracket, such as `:alpha:]`. -/
def asciiName (cs : List Char) : Option (ClassExpr × List Char) :=
  match cs with
  | ':' :: '^' :: rest => named true rest
  | ':' :: rest => named false rest
  | _ => none
where
  /-- Reads the name and the end. -/
  named (negated : Bool) (cs : List Char) : Option (ClassExpr × List Char) := do
    let name := cs.takeWhile (· != ':')
    match cs.drop name.length with
    | ':' :: ']' :: rest => return (.ascii (← asciiClass? (String.ofList name)) negated, rest)
    | _ => none

/-- What may stand in a class. -/
def classItem? : Expr → Option ClassExpr
  | .literal l => some (.range l l)
  | .charClass c => some c
  | _ => none

/-- Reads one character or escape of a class. -/
def classAtom (extended : Bool) : List Char → Option (Expr × List Char)
  | '\\' :: rest => escape extended rest
  | c :: rest => some (.literal { code := c.toNat }, rest)
  | [] => none

/-- Reads an item of a class: a character, a range or an escape. A hyphen before the end of the
class or before another hyphen makes no range. -/
def classRange (extended : Bool) (cs : List Char) : Option (ClassExpr × List Char) := do
  let (first, rest) ← classAtom extended cs
  match skip extended rest with
  | [] => none
  | '-' :: more =>
    let next := peek extended more
    if next == some ']' || next == some '-' then
      return (← classItem? first, '-' :: more)
    else
      match first, ← classAtom extended (skip extended more) with
      | .literal low, (.literal high, rest) =>
        if low.code ≤ high.code then some (.range low high, rest) else none
      | _, _ => none
  | rest => return (← classItem? first, rest)

/-- Reads the beginning of a class after its bracket: whether it is negated, and the hyphens or
the bracket that stand for themselves because they come first. -/
def classStart (extended : Bool) (cs : List Char) : Bool × List ClassExpr × List Char :=
  let cs := skip extended cs
  let (negated, cs) := match cs with
    | '^' :: rest => (true, rest)
    | _ => (false, cs)
  let literal (c : Char) : ClassExpr := .range { code := c.toNat } { code := c.toNat }
  match takeSpaced extended (· == '-') cs with
  | ([], ']' :: rest) => (negated, [literal ']'], rest)
  | (hyphens, rest) => (negated, hyphens.map literal, rest)

/-- The operation of two equal characters. -/
def setOperation? : Char → Option SetOperation
  | '&' => some .intersection
  | '-' => some .difference
  | '~' => some .symmetricDifference
  | _ => none

/-- The class that a pending operation makes of the items that follow it. -/
def closeOperand (left : Option (SetOperation × ClassExpr)) (items : List ClassExpr) : ClassExpr :=
  let right := ClassExpr.ofItems items.reverse
  match left with
  | some (operation, left) => .combine operation left right
  | none => right

/-- Reads a class up to its closing bracket, after the items that are already read, last first,
and the operation that waits for its right side. Every step takes a character, so the number of
characters is enough `fuel`. -/
def classBody (extended : Bool) (fuel : Nat) (left : Option (SetOperation × ClassExpr))
    (items : List ClassExpr) (cs : List Char) : Option (ClassExpr × List Char) :=
  match fuel with
  | 0 => none
  | fuel + 1 =>
    match skip extended cs with
    | [] => none
    | ']' :: rest => some (closeOperand left items, rest)
    | '[' :: rest =>
      match asciiName rest with
      | some (c, rest) => classBody extended fuel left (c :: items) rest
      | none => do
        let (negated, start, rest) := classStart extended rest
        let (inner, rest) ← classBody extended fuel none start.reverse rest
        classBody extended fuel left (.bracket inner negated :: items) rest
    | c :: rest =>
      match if rest.head? = some c then setOperation? c else none with
      | some operation =>
        classBody extended fuel (some (operation, closeOperand left items)) [] (rest.drop 1)
      | none => do
        let (item, rest) ← classRange extended (c :: rest)
        classBody extended fuel left (item :: items) rest

/-- Reads a class after its opening bracket. -/
def bracketClass (extended : Bool) (cs : List Char) : Option (ClassExpr × List Char) := do
  let (negated, start, rest) := classStart extended cs
  let (inner, rest) ← classBody extended (cs.length + 1) none start.reverse rest
  return (.bracket inner negated, rest)

/-! ### Repetitions -/

/-- Reads a number, with blanks around it. -/
def decimal (extended : Bool) (cs : List Char) : Option (Nat × List Char) := do
  let (digits, rest) := takeSpaced extended Char.isDigit ((skip extended cs).dropWhile isBlank)
  let n ← Text.nat? digits
  if n ≤ Word.uint32Max then some (n, rest.dropWhile isBlank) else none

/-- Reads how often something is repeated, after the opening brace. -/
def counts (extended : Bool) (cs : List Char) : Option ((Nat × Option Nat) × List Char) := do
  let (low, rest) ← decimal extended cs
  match rest with
  | '}' :: rest => some ((low, some low), rest)
  | ',' :: rest =>
    match skip extended rest with
    | '}' :: rest => some ((low, none), rest)
    | rest =>
      match ← decimal extended rest with
      | (high, '}' :: rest) => if low ≤ high then some ((low, some high), rest) else none
      | _ => none
  | _ => none

/-- The rest after the mark of a short repetition. -/
def dropLazy : List Char → List Char
  | '?' :: rest => rest
  | rest => rest

/-- Reads how often something is repeated. A match is found or not whether repetitions are long
or short, so the mark that makes one short is dropped. -/
def repetition? (extended : Bool) : List Char → Option (Option ((Nat × Option Nat) × List Char))
  | '?' :: rest => some (some ((0, some 1), dropLazy rest))
  | '*' :: rest => some (some ((0, none), dropLazy rest))
  | '+' :: rest => some (some ((1, none), dropLazy rest))
  | '{' :: rest =>
    some ((counts extended rest).map fun (n, rest) => (n, dropLazy (skip extended rest)))
  | _ => none

/-! ### Groups -/

/-- Reads the name of a group up to its closing bracket. -/
def groupName (cs : List Char) : Option (String × List Char) :=
  let name := cs.takeWhile (· != '>')
  match name, cs.drop name.length with
  | c :: more, '>' :: rest =>
    if isFirst c && more.all isNext then some (String.ofList name, rest) else none
  | _, _ => none
where
  /-- The character may begin a name. -/
  isFirst (c : Char) : Bool := c == '_' || Unicode.alphabetic.contains c.toNat
  /-- The character may stand in a name. -/
  isNext (c : Char) : Bool :=
    c == '_' || c == '.' || c == '[' || c == ']' || Unicode.alphanumeric.contains c.toNat

/-- The change that flags make: after a hyphen they are cleared. No flag and no hyphen is given
twice, and a flag follows the hyphen. -/
def flagChange? (cs : List Char) : Option FlagChange := do
  let on := cs.takeWhile (· != '-')
  let off := cs.drop (on.length + 1)
  if cs.contains '-' && off.isEmpty then none
  let on ← on.mapM Flag.ofChar?
  let off ← off.mapM Flag.ofChar?
  if (on ++ off).Nodup then some { on, off } else none

/-- The beginning of a group, or a change of flags in parentheses. -/
inductive GroupStart
  | group (kind : GroupKind)
  | flags (change : FlagChange)

/-- Reads the beginning of a group after its parenthesis. -/
def groupStart (cs : List Char) : Option (GroupStart × List Char) :=
  match cs with
  | '?' :: '=' :: _ | '?' :: '!' :: _ | '?' :: '<' :: '=' :: _ | '?' :: '<' :: '!' :: _ => none
  | '?' :: 'P' :: '<' :: rest | '?' :: '<' :: rest => do
    let (name, rest) ← groupName rest
    return (.group (.capture name), rest)
  | '?' :: rest => do
    let letters := rest.takeWhile fun c => c != ':' && c != ')'
    let change ← flagChange? letters
    match rest.drop letters.length with
    | ':' :: rest => some (.group (.plain change), rest)
    | ')' :: rest => if letters.isEmpty then none else some (.flags change, rest)
    | _ => none
  | _ => some (.group (.capture none), cs)

/-! ### Patterns -/

/-- Reads a single place of a pattern. -/
def atom (extended : Bool) : List Char → Option (Expr × List Char)
  | [] => none
  | '\\' :: rest => escape extended rest
  | '.' :: rest => some (.dot, rest)
  | '^' :: rest => some (.anchor .lineStart, rest)
  | '$' :: rest => some (.anchor .lineEnd, rest)
  | '[' :: rest => do
    let (c, rest) ← bracketClass extended rest
    return (.charClass c, rest)
  | c :: rest => some (.literal { code := c.toNat }, rest)

/-- Reads branches up to the end or to a closing parenthesis, after the items of the branch and
the branches that are already read, last first. Every step takes a character, so the number of
characters is enough `fuel`. -/
def branches (fuel : Nat) (extended : Bool) (items before : List Expr) (cs : List Char) :
    Option (Expr × List Char) :=
  match fuel with
  | 0 => none
  | fuel + 1 =>
    let branch := Expr.ofItems items.reverse
    match skip extended cs with
    | [] => some (.ofBranches (branch :: before).reverse, [])
    | ')' :: rest => some (.ofBranches (branch :: before).reverse, ')' :: rest)
    | '|' :: rest => branches fuel extended [] (branch :: before) rest
    | '(' :: rest => do
      match ← groupStart (skip extended rest) with
      | (.flags change, rest) =>
        branches fuel (change.apply .extended extended) (.flags change :: items) before rest
      | (.group kind, rest) =>
        match ← branches fuel (kind.change.apply .extended extended) [] [] rest with
        | (inner, ')' :: rest) => branches fuel extended (.group kind inner :: items) before rest
        | _ => none
    | cs =>
      match repetition? extended cs with
      | some none => none
      | some (some ((low, high), rest)) =>
        match items with
        | [] => none
        | item :: items =>
          if item.isRepeatable then
            branches fuel extended (.iterate item low high :: items) before rest
          else none
      | none => do
        let (item, rest) ← atom extended cs
        branches fuel extended (item :: items) before rest

/-- The depth to which a pattern may be nested. -/
def maxDepth : Nat := 250

/-- The pattern that a text is, if it is one. Groups have different names. -/
def Expr.parse? (s : String) : Option Expr :=
  match branches (s.length + 1) false [] [] s.toList with
  | some (e, []) => if e.depth ≤ maxDepth ∧ e.groupNames.Nodup then some e else none
  | _ => none

end AssemblyAtlas.Pattern
