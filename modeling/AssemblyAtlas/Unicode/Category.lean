import AssemblyAtlas.Unicode.CharSet
import AssemblyAtlas.Unicode.Control
import AssemblyAtlas.Unicode.Letter
import AssemblyAtlas.Unicode.Mark
import AssemblyAtlas.Unicode.Number
import AssemblyAtlas.Unicode.Punctuation
import AssemblyAtlas.Unicode.Symbol

/-!
# Properties of characters

General categories and the properties made of them, and the names that patterns use for them.
Names are compared without regard to case, spaces, underscores, hyphens and a leading `is`. Of
scripts, ages and the other properties of the standard there are no tables.
-/

namespace AssemblyAtlas.Unicode

/-! ### Categories -/

/-- Letters that have case. -/
def casedLetter : List Run :=
  Runs.uppercaseLetter ++ Runs.lowercaseLetter ++ Runs.titlecaseLetter

/-- All letters. -/
def letter : List Run :=
  casedLetter ++ Runs.modifierLetter ++ Runs.otherLetter

/-- All marks. -/
def mark : List Run :=
  Runs.nonspacingMark ++ Runs.spacingMark ++ Runs.enclosingMark

/-- All numbers. -/
def number : List Run :=
  Runs.decimalNumber ++ Runs.letterNumber ++ Runs.otherNumber

/-- All punctuation. -/
def punctuation : List Run :=
  Runs.connectorPunctuation ++ Runs.dashPunctuation ++ Runs.openPunctuation ++
    Runs.closePunctuation ++ Runs.initialPunctuation ++ Runs.finalPunctuation ++
    Runs.otherPunctuation

/-- All symbols. -/
def symbol : List Run :=
  Runs.mathSymbol ++ Runs.currencySymbol ++ Runs.modifierSymbol ++ Runs.otherSymbol

/-- All separators. -/
def separator : List Run :=
  Runs.spaceSeparator ++ Runs.lineSeparator ++ Runs.paragraphSeparator

/-- All characters that stand for something. -/
def assigned : CharSet :=
  .ofRuns (letter ++ mark ++ number ++ punctuation ++ symbol ++ separator ++ Runs.control ++
    Runs.format ++ Runs.privateUse)

/-- The code points that stand for nothing. -/
def unassigned : CharSet :=
  CharSet.all \ assigned

/-- Controls, formats, private use and what stands for nothing. -/
def other : CharSet :=
  .ofRuns (Runs.control ++ Runs.format ++ Runs.privateUse) ∪ unassigned

/-! ### Properties made of categories -/

/-- Alphabetic characters. -/
def alphabetic : CharSet :=
  .ofRuns (letter ++ Runs.letterNumber ++ Runs.alphabeticMark ++ Runs.alphabeticSymbol)

/-- Alphabetic and numeric characters. -/
def alphanumeric : CharSet :=
  alphabetic ∪ .ofRuns number

/-- Upper-case characters. -/
def uppercase : CharSet :=
  .ofRuns (Runs.uppercaseLetter ++ Runs.otherUppercase)

/-- Lower-case characters. -/
def lowercase : CharSet :=
  .ofRuns (Runs.lowercaseLetter ++ Runs.otherLowercase)

/-- Decimal digits. -/
def digit : CharSet :=
  .ofRuns Runs.decimalNumber

/-- White space. -/
def whiteSpace : CharSet :=
  .ofRanges [(0x9, 0xD), (0x20, 0x20), (0x85, 0x85), (0xA0, 0xA0), (0x1680, 0x1680),
    (0x2000, 0x200A), (0x2028, 0x2029), (0x202F, 0x202F), (0x205F, 0x205F), (0x3000, 0x3000)]

/-- The characters of words: letters, marks, digits, connecting punctuation and the joiners. -/
def word : CharSet :=
  .ofRuns (letter ++ Runs.letterNumber ++ Runs.alphabeticSymbol ++ mark ++ Runs.decimalNumber ++
    Runs.connectorPunctuation ++ [⟨0x200C, 0x200D, 1⟩])

/-! ### Names -/

/-- The form of a property's name that is compared. A name that is `isc` but for spaces is kept
whole, because `c` names a category. -/
def looseName (s : String) : String :=
  let cs := s.toList
  let short (cs : List Char) :=
    (cs.filter fun c => c.val < 128 && c != ' ' && c != '_' && c != '-').map Char.toLower
  String.ofList <| match cs with
    | a :: b :: rest =>
      if a.toLower == 'i' && b.toLower == 's' then
        if short rest == ['c'] then ['i', 's', 'c'] else short rest
      else short cs
    | _ => short cs

/-- The general category of a loose name. -/
def category? : String → Option CharSet
  | "any" => CharSet.all
  | "ascii" => CharSet.range 0 0x7F
  | "assigned" => assigned
  | "c" | "other" => other
  | "cc" | "control" | "cntrl" => runs Runs.control
  | "cf" | "format" => runs Runs.format
  | "cn" | "unassigned" => unassigned
  | "co" | "privateuse" => runs Runs.privateUse
  | "l" | "letter" => runs letter
  | "lc" | "casedletter" => runs casedLetter
  | "ll" | "lowercaseletter" => runs Runs.lowercaseLetter
  | "lm" | "modifierletter" => runs Runs.modifierLetter
  | "lo" | "otherletter" => runs Runs.otherLetter
  | "lt" | "titlecaseletter" => runs Runs.titlecaseLetter
  | "lu" | "uppercaseletter" => runs Runs.uppercaseLetter
  | "m" | "mark" | "combiningmark" => runs mark
  | "mc" | "spacingmark" => runs Runs.spacingMark
  | "me" | "enclosingmark" => runs Runs.enclosingMark
  | "mn" | "nonspacingmark" => runs Runs.nonspacingMark
  | "n" | "number" => runs number
  | "nd" | "decimalnumber" | "digit" => digit
  | "nl" | "letternumber" => runs Runs.letterNumber
  | "no" | "othernumber" => runs Runs.otherNumber
  | "p" | "punctuation" | "punct" => runs punctuation
  | "pc" | "connectorpunctuation" => runs Runs.connectorPunctuation
  | "pd" | "dashpunctuation" => runs Runs.dashPunctuation
  | "pe" | "closepunctuation" => runs Runs.closePunctuation
  | "pf" | "finalpunctuation" => runs Runs.finalPunctuation
  | "pi" | "initialpunctuation" => runs Runs.initialPunctuation
  | "po" | "otherpunctuation" => runs Runs.otherPunctuation
  | "ps" | "openpunctuation" => runs Runs.openPunctuation
  | "s" | "symbol" => runs symbol
  | "sc" | "currencysymbol" => runs Runs.currencySymbol
  | "sk" | "modifiersymbol" => runs Runs.modifierSymbol
  | "sm" | "mathsymbol" => runs Runs.mathSymbol
  | "so" | "othersymbol" => runs Runs.otherSymbol
  | "z" | "separator" => runs separator
  | "zl" | "lineseparator" => runs Runs.lineSeparator
  | "zp" | "paragraphseparator" => runs Runs.paragraphSeparator
  | "zs" | "spaceseparator" => runs Runs.spaceSeparator
  | _ => none
where
  /-- The set of a category. -/
  runs (rs : List Run) : Option CharSet := some (.ofRuns rs)

/-- The property of a loose name: one of four properties that hold or do not, or a general category.
No other property is known. -/
def property? (name : String) : Option CharSet :=
  match name with
  | "alphabetic" | "alpha" => alphabetic
  | "lowercase" | "lower" => lowercase
  | "uppercase" | "upper" => uppercase
  | "whitespace" | "wspace" | "space" => whiteSpace
  | name => category? name

/-- The property that has the given value, both loose names. The only property with values that is
known is the general category. -/
def propertyValue? (name value : String) : Option CharSet :=
  if name == "generalcategory" || name == "gc" then category? value else none

end AssemblyAtlas.Unicode
