import MachineConsole.Number.Binary64
import MachineConsole.Number.Numeral
import MachineConsole.Config.Toml.Node

/-!
Contract: the parts of a TOML document that hold no other parts.

Owns: reading of blanks, comments, texts in their four forms, keys, numbers, dates and times. Each
reader takes a form from the beginning of a text and returns what is left; `none` means that the
text does not begin with the form.
-/

namespace MachineConsole.Toml

open Number (isHexDigit ofHexDigits ofDecimalDigits tenTo twoTo Binary64)

/-- Reads something from the beginning of a text. -/
abbrev Reader (α : Type) := List Char → Option (α × List Char)

/-! ### Blanks, line ends and comments -/

/-- The text behind spaces and tabs. -/
def skipBlanks (text : List Char) : List Char :=
  text.dropWhile fun character => character = ' ' || character = '\t'

/-- The text behind a line break. -/
def afterBreak? : List Char → Option (List Char)
  | '\n' :: rest => some rest
  | '\r' :: '\n' :: rest => some rest
  | _ => none

/-- A character that may stand in a comment or a text as it is: no control but the tab. -/
def isPlain (character : Char) : Bool :=
  character = '\t' || (' ' ≤ character && character.toNat != 0x7F)

/-- The text behind a comment, if there is one. -/
def skipComment : List Char → List Char
  | '#' :: rest => rest.dropWhile isPlain
  | text => text

/-- The text behind the end of a line: blanks, a comment and a line break or the end. -/
def afterLine? (text : List Char) : Option (List Char) :=
  match skipComment (skipBlanks text) with
  | [] => some []
  | rest => afterBreak? rest

/-- The text behind blanks, comments and line breaks, when a comment was begun or not. -/
def skipSpaceFrom (commented : Bool) : List Char → List Char
  | '\n' :: rest => skipSpaceFrom false rest
  | '\r' :: '\n' :: rest => skipSpaceFrom false rest
  | character :: rest =>
    if commented then
      if isPlain character then skipSpaceFrom true rest else character :: rest
    else if character = ' ' || character = '\t' then skipSpaceFrom false rest
    else if character = '#' then skipSpaceFrom true rest
    else character :: rest
  | [] => []

/-- The text behind blanks, comments and line breaks. A comment that no line break ends leaves
nothing that could be read on. -/
def skipSpace (text : List Char) : List Char :=
  skipSpaceFrom false text

/-! ### Texts -/

/-- The character of a code point in hexadecimal digits. -/
def codePoint? (digits : List Char) : Option Char :=
  let code := ofHexDigits digits
  if digits.all isHexDigit && code.isValidChar then some (Char.ofNat code) else none

/-- The character that an escape of so many digits stands for. -/
def readCodePoint (count : Nat) : Reader Char := fun text =>
  if (text.take count).length = count then
    (codePoint? (text.take count)).map fun character => (character, text.drop count)
  else none

/-- The character that an escape stands for, behind the backslash. -/
def readEscape : Reader Char
  | 'b' :: rest => some ('\x08', rest)
  | 't' :: rest => some ('\t', rest)
  | 'n' :: rest => some ('\n', rest)
  | 'f' :: rest => some ('\x0c', rest)
  | 'r' :: rest => some ('\r', rest)
  | '\x22' :: rest => some ('\x22', rest)
  | '\\' :: rest => some ('\\', rest)
  | 'u' :: rest => readCodePoint 4 rest
  | 'U' :: rest => readCodePoint 8 rest
  | _ => none

/-- A text with one more character in front. -/
def prepend (character : Char) (result : List Char × List Char) : List Char × List Char :=
  (character :: result.1, result.2)

/-- The rest of a text between quotation marks on one line, given a bound on its length. -/
def readQuoted : Nat → Reader (List Char)
  | 0, _ => none
  | bound + 1, text =>
    match text with
    | [] => none
    | '\x22' :: rest => some ([], rest)
    | '\\' :: rest => do
      let (character, after) ← readEscape rest
      return prepend character (← readQuoted bound after)
    | character :: rest =>
      if isPlain character then (readQuoted bound rest).map (prepend character) else none

/-- The rest of a text between apostrophes on one line. -/
def readLiteral : Reader (List Char)
  | [] => none
  | '\x27' :: rest => some ([], rest)
  | character :: rest =>
    if isPlain character then (readLiteral rest).map (prepend character) else none

/-- The marks at the beginning of a text that are part of a block about to close: of the marks there
the last three close it, and at most two may stand in front of these. -/
def closingMarks? (mark : Char) (text : List Char) : Option (List Char × List Char) :=
  let count := (text.takeWhile (· = mark)).length
  if count < 3 then none
  else
    let kept := min (count - 3) 2
    some (text.take kept, text.drop (kept + 3))

/-- The text behind blanks and line breaks. -/
def skipBlanksAndBreaks : List Char → List Char
  | '\r' :: '\n' :: rest => skipBlanksAndBreaks rest
  | ' ' :: rest => skipBlanksAndBreaks rest
  | '\t' :: rest => skipBlanksAndBreaks rest
  | '\n' :: rest => skipBlanksAndBreaks rest
  | text => text

/-- The text behind an escaped line break, which takes the blanks and breaks after it along. -/
def afterEscapedBreak? (text : List Char) : Option (List Char) :=
  (afterBreak? (skipBlanks text)).map skipBlanksAndBreaks

/-- The rest of a block between triple quotation marks, given a bound on its length. -/
def readQuotedBlock : Nat → Reader (List Char)
  | 0, _ => none
  | bound + 1, text =>
    match closingMarks? '\x22' text with
    | some result => some result
    | none =>
      match text with
      | [] => none
      | '\\' :: rest =>
        match afterEscapedBreak? rest with
        | some after => readQuotedBlock bound after
        | none => do
          let (character, after) ← readEscape rest
          return prepend character (← readQuotedBlock bound after)
      | '\n' :: rest => (readQuotedBlock bound rest).map (prepend '\n')
      | '\r' :: '\n' :: rest => (readQuotedBlock bound rest).map (prepend '\n')
      | character :: rest =>
        if isPlain character then (readQuotedBlock bound rest).map (prepend character) else none

/-- The rest of a block between triple apostrophes, given a bound on its length. -/
def readLiteralBlock : Nat → Reader (List Char)
  | 0, _ => none
  | bound + 1, text =>
    match closingMarks? '\x27' text with
    | some result => some result
    | none =>
      match text with
      | [] => none
      | '\n' :: rest => (readLiteralBlock bound rest).map (prepend '\n')
      | '\r' :: '\n' :: rest => (readLiteralBlock bound rest).map (prepend '\n')
      | character :: rest =>
        if isPlain character then (readLiteralBlock bound rest).map (prepend character) else none

/-- A block without a line break at its beginning. -/
def afterOpeningBreak (text : List Char) : List Char :=
  (afterBreak? text).getD text

/-- A text in any of its forms. -/
def readText (text : List Char) : Option (List Char × List Char) :=
  match text with
  | '\x22' :: '\x22' :: '\x22' :: rest =>
    readQuotedBlock (text.length + 1) (afterOpeningBreak rest)
  | '\x27' :: '\x27' :: '\x27' :: rest =>
    readLiteralBlock (text.length + 1) (afterOpeningBreak rest)
  | '\x22' :: rest => readQuoted (text.length + 1) rest
  | '\x27' :: rest => readLiteral rest
  | _ => none

/-! ### Keys -/

/-- A character of a key without quotation marks. -/
def isKeyCharacter (character : Char) : Bool :=
  character.isAlphanum || character = '-' || character = '_'

/-- One segment of a key. -/
def readSegment (text : List Char) : Option (List Char × List Char) :=
  match text with
  | '\x22' :: rest => readQuoted (text.length + 1) rest
  | '\x27' :: rest => readLiteral rest
  | _ =>
    let segment := text.takeWhile isKeyCharacter
    if segment = [] then none else some (segment, text.drop segment.length)

/-- The segments of a key with dots between them and blanks around them, given a bound on their
number. -/
def readKey : Nat → Reader (List String)
  | 0, _ => none
  | bound + 1, text => do
    let (segment, after) ← readSegment (skipBlanks text)
    match skipBlanks after with
    | '.' :: rest =>
      let (segments, after) ← readKey bound rest
      return (String.ofList segment :: segments, after)
    | rest => return ([String.ofList segment], rest)

/-! ### Numbers -/

/-- Digits with single underscores between them. -/
def readDigits (isDigit : Char → Bool) : Reader (List Char)
  | [] => none
  | [only] => if isDigit only then some ([only], []) else none
  | first :: '_' :: rest =>
    if isDigit first then (readDigits isDigit rest).map (prepend first) else none
  | first :: second :: rest =>
    if !isDigit first then none
    else if isDigit second then (readDigits isDigit (second :: rest)).map (prepend first)
    else some ([first], second :: rest)

/-- An integer in another radix, below the bound of positive integers. -/
def readRadix (isDigit : Char → Bool) (radix : Nat) (text : List Char) : Option (List Char) := do
  let (digits, rest) ← readDigits isDigit text
  let value := digits.foldl (fun value digit => radix * value + Number.hexDigitValue digit) 0
  if value < twoTo 63 then some rest else none

/-- A sign, if there is one, and the text behind it. -/
def splitNumberSign : List Char → Bool × List Char
  | '+' :: rest => (false, rest)
  | '-' :: rest => (true, rest)
  | text => (false, text)

/-- The digits of a decimal integer; only zero itself begins with a zero. -/
def readWhole : Reader (List Char)
  | '0' :: rest => some (['0'], rest)
  | text => readDigits Char.isDigit text

/-- The digits of an exponent with its sign. -/
def readExponent : Reader Int
  | 'e' :: rest | 'E' :: rest =>
    let (negative, unsigned) := splitNumberSign rest
    (readDigits Char.isDigit unsigned).map fun result =>
      let exponent : Int := ofDecimalDigits result.1
      (if negative then -exponent else exponent, result.2)
  | _ => none

/-- Whether `digits` with the decimal point moved by `exponent` is too large for a number. -/
def isTooLarge (digits : List Char) (exponent : Int) : Bool :=
  let significant := digits.dropWhile (· = '0')
  let magnitude := (significant.length : Int) + exponent
  if significant = [] || magnitude < 309 then false
  else if 310 < magnitude then true
  else if exponent < 0 then
    !(Binary64.ofRatio false (ofDecimalDigits significant) (tenTo exponent.natAbs)).isFinite
  else !(Binary64.ofRatio false (ofDecimalDigits significant * tenTo exponent.toNat) 1).isFinite

/-- A fraction, or nothing. -/
def readFraction : Reader (List Char)
  | '.' :: rest => readDigits Char.isDigit rest
  | _ => none

/-- A decimal integer or number. A positive number has to be finite, an integer within 64 bits. -/
def readDecimal (negative : Bool) (text : List Char) : Option (List Char) := do
  let (whole, rest) ← readWhole text
  match readFraction rest, readExponent rest with
  | none, none =>
    let value := ofDecimalDigits whole
    if value < twoTo 63 || (negative && value = twoTo 63) then some rest else none
  | none, some (exponent, after) =>
    if !negative && isTooLarge whole exponent then none else some after
  | some (fraction, after), _ =>
    let (exponent, after) := (readExponent after).getD (0, after)
    if !negative && isTooLarge (whole ++ fraction) (exponent - fraction.length) then none
    else some after

/-- The text behind a number. -/
def afterNumber? (text : List Char) : Option (List Char) :=
  let (negative, unsigned) := splitNumberSign text
  match text with
  | '0' :: 'x' :: rest => readRadix isHexDigit 16 rest
  | '0' :: 'o' :: rest =>
    readRadix (fun character => '0' ≤ character && character ≤ '7') 8 rest
  | '0' :: 'b' :: rest => readRadix (fun character => character = '0' || character = '1') 2 rest
  | _ =>
    match unsigned with
    | 'i' :: 'n' :: 'f' :: rest => some rest
    | 'n' :: 'a' :: 'n' :: rest => some rest
    | _ => readDecimal negative unsigned

/-! ### Dates and times -/

/-- A number of exactly so many digits within bounds. -/
def readField (count least greatest : Nat) : Reader Nat := fun text =>
  let digits := text.take count
  let value := ofDecimalDigits digits
  if digits.length = count && digits.all Char.isDigit && least ≤ value && value ≤ greatest then
    some (value, text.drop count)
  else none

/-- The text behind a given character. -/
def afterMark? (mark : Char) : List Char → Option (List Char)
  | [] => none
  | character :: rest => if character = mark then some rest else none

/-- The days of a month. -/
def daysOfMonth (year month : Nat) : Nat :=
  if month = 2 then
    if (year % 4 = 0 && year % 100 != 0) || year % 400 = 0 then 29 else 28
  else if month = 4 || month = 6 || month = 9 || month = 11 then 30
  else 31

/-- The text behind a date. -/
def afterDate? (text : List Char) : Option (List Char) := do
  let (year, rest) ← readField 4 0 9999 text
  let (month, rest) ← readField 2 1 12 (← afterMark? '-' rest)
  let (_, rest) ← readField 2 1 (daysOfMonth year month) (← afterMark? '-' rest)
  return rest

/-- The text behind a time of day. -/
def afterTime? (text : List Char) : Option (List Char) := do
  let (_, rest) ← readField 2 0 23 text
  let (_, rest) ← readField 2 0 59 (← afterMark? ':' rest)
  let (_, rest) ← readField 2 0 60 (← afterMark? ':' rest)
  match rest with
  | '.' :: digit :: more =>
    if digit.isDigit then some (more.dropWhile Char.isDigit) else some rest
  | _ => some rest

/-- The text behind a distance from universal time, if there is one. -/
def afterOffset (text : List Char) : List Char :=
  match text with
  | 'Z' :: rest | 'z' :: rest => rest
  | '+' :: rest | '-' :: rest =>
    let numeric := do
      let (_, rest) ← readField 2 0 23 rest
      let (_, rest) ← readField 2 0 59 (← afterMark? ':' rest)
      return rest
    numeric.getD text
  | _ => text

/-- The text behind a date, a time of day, or both. -/
def afterDateTime? (text : List Char) : Option (List Char) :=
  match afterDate? text with
  | none => afterTime? text
  | some rest =>
    match rest with
    | 'T' :: more | 't' :: more | ' ' :: more =>
      match afterTime? more with
      | some after => some (afterOffset after)
      | none => some rest
    | _ => some rest

end MachineConsole.Toml
