import AssemblyAtlas.Json.Basic
import AssemblyAtlas.Text.Hex

/-!
# Tokens of JSON text

Text arrives as a list of characters in which `none` stands for bytes that are not UTF-8. They may
only occur inside a string literal, which then stands for no text.

The scanner reads one character at a time. Its mode says what it is inside of; a character that
cannot continue a word or a number ends it and is then read between tokens.
-/

namespace AssemblyAtlas.Json

/-- A token of JSON text. -/
inductive Token where
  | openBrace
  | closeBrace
  | openBracket
  | closeBracket
  | colon
  | comma
  | null
  | bool (value : Bool)
  | number (value : Numeral)
  | string (text : Option String)

/-! ### String literals -/

/-- A unit of a string literal: a character, a `\u` escape, or bytes that are not UTF-8. -/
inductive Piece where
  | char (c : Char)
  | unit (code : Nat)
  | stray

/-- The characters that the pieces of a literal stand for. A pair of surrogate escapes is one
character; a surrogate on its own stands for none. -/
def Piece.chars? : List Piece → Option (List Char)
  | [] => some []
  | .stray :: _ => none
  | .char c :: ps => (chars? ps).map (c :: ·)
  | .unit h :: ps =>
    if 0xD800 ≤ h && h < 0xDC00 then
      match ps with
      | .unit l :: ps =>
        if 0xDC00 ≤ l && l < 0xE000 then
          (chars? ps).map (Char.ofNat (0x10000 + (h - 0xD800) * 0x400 + (l - 0xDC00)) :: ·)
        else none
      | _ => none
    else if 0xDC00 ≤ h && h < 0xE000 then none
    else (chars? ps).map (Char.ofNat h :: ·)

/-- The text of a literal whose pieces are given latest first. -/
def Piece.text? (pieces : List Piece) : Option String :=
  (chars? pieces.reverse).map String.ofList

/-- The character that a letter after a backslash stands for. -/
def unescape? : Char → Option Char
  | '"' => some '"'
  | '\\' => some '\\'
  | '/' => some '/'
  | 'b' => some (Char.ofNat 0x8)
  | 'f' => some (Char.ofNat 0xC)
  | 'n' => some '\n'
  | 'r' => some '\r'
  | 't' => some '\t'
  | _ => none

/-! ### Scanning -/

/-- What the scanner is inside of; what was read is kept latest first. -/
inductive Mode where
  | between
  | word (letters : List Char)
  | number (chars : List Char)
  | string (pieces : List Piece)
  | escape (pieces : List Piece)
  | hex (pieces : List Piece) (count : Nat) (value : Nat)

/-- The state of the scanner: its mode and the tokens found, latest first. -/
structure Scan where
  /-- What the scanner is inside of. -/
  mode : Mode
  /-- The tokens found so far, latest first. -/
  tokens : List Token

/-- White space between tokens. -/
def isSpace (c : Char) : Bool :=
  c == ' ' || c == '\t' || c == '\n' || c == '\r'

/-- The character can occur in a number. -/
def isNumberChar (c : Char) : Bool :=
  ('0' ≤ c && c ≤ '9') || c == '-' || c == '+' || c == '.' || c == 'e' || c == 'E'

/-- The character can occur in a word. -/
def isWordChar (c : Char) : Bool :=
  'a' ≤ c && c ≤ 'z'

/-- The token of a word. -/
def wordToken? : List Char → Option Token
  | ['n', 'u', 'l', 'l'] => some .null
  | ['t', 'r', 'u', 'e'] => some (.bool true)
  | ['f', 'a', 'l', 's', 'e'] => some (.bool false)
  | _ => none

/-- The token of a single character. -/
def punctuation? : Char → Option Token
  | '{' => some .openBrace
  | '}' => some .closeBrace
  | '[' => some .openBracket
  | ']' => some .closeBracket
  | ':' => some .colon
  | ',' => some .comma
  | _ => none

namespace Scan

/-- Reads a character between tokens. -/
def start (tokens : List Token) (c : Char) : Option Scan :=
  if isSpace c then some ⟨.between, tokens⟩
  else if c == '"' then some ⟨.string [], tokens⟩
  else if c == '-' || ('0' ≤ c && c ≤ '9') then some ⟨.number [c], tokens⟩
  else if isWordChar c then some ⟨.word [c], tokens⟩
  else (punctuation? c).map fun t => ⟨.between, t :: tokens⟩

/-- Reads one character; `none` if the text is not JSON. -/
def step (s : Scan) (c? : Option Char) : Option Scan :=
  match s.mode, c? with
  | .between, some c => start s.tokens c
  | .word cs, some c =>
    if isWordChar c then some { s with mode := .word (c :: cs) }
    else (wordToken? cs.reverse).bind fun t => start (t :: s.tokens) c
  | .number cs, some c =>
    if isNumberChar c then some { s with mode := .number (c :: cs) }
    else (Numeral.ofChars? cs.reverse).bind fun n => start (.number n :: s.tokens) c
  | .string ps, some c =>
    if c == '"' then some ⟨.between, .string (Piece.text? ps) :: s.tokens⟩
    else if c == '\\' then some { s with mode := .escape ps }
    else if c.toNat < 0x20 then none
    else some { s with mode := .string (.char c :: ps) }
  | .string ps, none => some { s with mode := .string (.stray :: ps) }
  | .escape ps, some c =>
    if c == 'u' then some { s with mode := .hex ps 0 0 }
    else (unescape? c).map fun d => { s with mode := .string (.char d :: ps) }
  | .hex ps count value, some c =>
    (Text.hexDigit? c).map fun d =>
      if count < 3 then { s with mode := .hex ps (count + 1) (value * 16 + d) }
      else { s with mode := .string (.unit (value * 16 + d) :: ps) }
  | _, none => none

/-- The tokens found, once the text has ended. -/
def finish (s : Scan) : Option (List Token) :=
  match s.mode with
  | .between => some s.tokens.reverse
  | .word cs => (wordToken? cs.reverse).map fun t => (t :: s.tokens).reverse
  | .number cs => (Numeral.ofChars? cs.reverse).map fun n => (.number n :: s.tokens).reverse
  | _ => none

end Scan

/-- The tokens of a text, if it is made of tokens. -/
def Token.scan (cs : List (Option Char)) : Option (List Token) :=
  (cs.foldlM Scan.step ⟨.between, []⟩).bind Scan.finish

end AssemblyAtlas.Json
