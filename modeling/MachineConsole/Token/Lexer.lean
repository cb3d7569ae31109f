import MachineConsole.Fault
import MachineConsole.Text.Letter
import MachineConsole.Token.Basic

/-!
Contract: reading tokens from text.

Owns:
- one rule for each form of token, and the order in which the rules are tried;
- `Tokenization.ofText`: the tokens of a text, the text left where no rule applies, and the fault of
  a form that was begun but cannot be decoded.

White space separates tokens and belongs to none. At each position the first rule that applies
decides, so the order of the rules is part of the language.
-/

namespace MachineConsole

open Number (Binary64 ofDecimalDigits ofHexDigits isHexDigit twoTo)
open Text (isBlank trimStart)

/-- What a rule makes of the text in front of it. -/
inductive Reading where
  /-- A token made of so many leading characters. -/
  | token (kind : TokenKind) (length : Nat)
  | malformed (cause : Refusal)
deriving DecidableEq, Repr

/-- A form of token; `none` when the text does not begin with this form. -/
abbrev LexicalRule := List Char → Option Reading

namespace LexicalRule

/-- A token that is always written the same way. -/
def mark (written : List Char) (kind : TokenKind) : LexicalRule := fun text =>
  if written.isPrefixOf text then some (.token kind written.length) else none

/-- `:=` -/
def conditionalColon : LexicalRule :=
  mark [':', '='] .conditionalEquality

/-- A number sign or colon and everything after it. -/
def comment : LexicalRule
  | '#' :: rest | ':' :: rest =>
    some (.token (.comment (String.ofList (Text.trim rest))) (rest.length + 1))
  | _ => none

/-- Command text between two backticks on one line. -/
def substitution : LexicalRule
  | '\x60' :: rest =>
    let command := rest.takeWhile fun character => character != '\x60' && character != '\n'
    match rest.drop command.length with
    | '\x60' :: _ => some (.token (.substitution (String.ofList command)) (command.length + 2))
    | _ => none
  | _ => none

def isNameCharacter (character : Char) : Bool :=
  character.isAlphanum || character == '_' || character == '.'

/-- A dollar sign and a name. -/
def variableName : LexicalRule
  | '$' :: rest =>
    let name := rest.takeWhile isNameCharacter
    if name = [] then none else some (.token (.variable (String.ofList name)) (name.length + 1))
  | _ => none

def bracket : LexicalRule := fun text =>
  mark ['['] .leftBracket text <|> mark [']'] .rightBracket text

/-- The text in front of the next three quotation marks. -/
def untilTerminator? : List Char → Option (List Char)
  | [] => none
  | '\x22' :: '\x22' :: '\x22' :: _ => some []
  | character :: rest => (untilTerminator? rest).map (character :: ·)

/-- A text without one line break at its beginning. -/
def dropLeadingBreak : List Char → List Char
  | '\r' :: '\n' :: rest => rest
  | '\n' :: rest => rest
  | text => text

/-- A text without one line break at its end. -/
def dropTrailingBreak (text : List Char) : List Char :=
  match text.reverse with
  | '\n' :: '\r' :: before => before.reverse
  | '\n' :: before => before.reverse
  | _ => text

/-- A text between triple quotation marks, without the breaks next to them. -/
def block : LexicalRule
  | '\x22' :: '\x22' :: '\x22' :: rest =>
    (untilTerminator? rest).map fun body =>
      let text := dropTrailingBreak (dropLeadingBreak body)
      .token (.string (String.ofList text)) (body.length + 6)
  | _ => none

/-- Three quotation marks alone. -/
def terminator : LexicalRule :=
  mark ['\x22', '\x22', '\x22'] .terminator

/-- The text up to a closing mark and how many characters it takes with that mark. A backslash
makes a following mark or backslash part of the text, and stays in front of anything else. -/
def untilMark? (mark : Char) : List Char → Option (List Char × Nat)
  | [] => none
  | ['\\'] => none
  | '\\' :: escaped :: rest =>
    (untilMark? mark rest).map fun body =>
      if escaped = mark || escaped = '\\' then (escaped :: body.1, body.2 + 2)
      else ('\\' :: escaped :: body.1, body.2 + 2)
  | character :: rest =>
    if character = mark then some ([], 1)
    else (untilMark? mark rest).map fun body => (character :: body.1, body.2 + 1)

/-- A text between two quotation marks or two apostrophes. -/
def quoted : LexicalRule
  | mark :: rest =>
    if mark = '\x22' || mark = '\x27' then
      (untilMark? mark rest).map fun body =>
        .token (.string (String.ofList body.1)) (body.2 + 1)
    else none
  | [] => none

/-- A sign, if there is one, and the text behind it. -/
def splitSign : List Char → List Char × List Char
  | '+' :: rest => (['+'], rest)
  | '-' :: rest => (['-'], rest)
  | text => ([], text)

/-- The integer written by a sign and digits. -/
def signedValue (sign digits : List Char) : Int :=
  if sign = ['-'] then -(ofDecimalDigits digits) else ofDecimalDigits digits

/-- An integer within the bounds of a signed word of `width` bits. -/
def withinSigned (width : Nat) (integer : Int) : Except Overflow Int :=
  if twoTo (width - 1) ≤ integer then .error .tooLarge
  else if integer < -(twoTo (width - 1)) then .error .tooSmall
  else .ok integer

/-- A bound of a range and the text behind it. Bounds have 128 bits. -/
def rangeNumber? : List Char → Option (Except Overflow Int × List Char)
  | '0' :: 'x' :: rest =>
    let digits := rest.takeWhile isHexDigit
    if digits = [] then none
    else some (withinSigned 128 (ofHexDigits digits), rest.drop digits.length)
  | text =>
    let (sign, unsigned) := splitSign text
    let digits := unsigned.takeWhile Char.isDigit
    if digits = [] then none
    else some (withinSigned 128 (signedValue sign digits), unsigned.drop digits.length)

/-- A range from its first and last address. -/
def rangeBetween (raw : String) (first last : Int) (length : Nat) : Reading :=
  if first < 0 || last < first || twoTo 64 ≤ last then .malformed (.rangeBoundsInvalid raw)
  else .token (.range (UInt64.ofNat first.toNat) (UInt64.ofNat last.toNat)) length

/-- A range from its two numbers: both addresses, or the first address and a size. -/
def rangeOf (absolute : Bool) (raw : String) (first second : Except Overflow Int)
    (length : Nat) : Reading :=
  match first, second with
  | .error overflow, _ => .malformed (.rangeBound overflow)
  | .ok _, .error overflow => .malformed (.rangeBound overflow)
  | .ok first, .ok second =>
    if absolute then rangeBetween raw first second length
    else if second ≤ 0 then .malformed (.rangeSizeNotPositive raw)
    else
      match withinSigned 128 (first + (second - 1)) with
      | .error _ => .malformed (.rangeSizeOverflow raw)
      | .ok last => rangeBetween raw first last length

/-- What stands between the numbers of a range: a comma, or white space alone. -/
def rangeLink? (text : List Char) : Option (Bool × List Char) :=
  match trimStart text with
  | ',' :: rest => some (true, trimStart rest)
  | spaced => if spaced.length = text.length then none else some (false, spaced)

/-- Two numbers between angle brackets. -/
def range : LexicalRule
  | '<' :: rest => do
    let (first, afterFirst) ← rangeNumber? (trimStart rest)
    let (absolute, beforeSecond) ← rangeLink? afterFirst
    let (second, afterSecond) ← rangeNumber? beforeSecond
    match trimStart afterSecond with
    | '>' :: after =>
      let length := rest.length + 1 - after.length
      let raw := String.ofList (('<' :: rest).take length)
      some (rangeOf absolute raw first second length)
    | _ => none
  | _ => none

/-- The characters of a path as written; an escaped space does not end it. -/
def pathCharacters : List Char → List Char
  | [] => []
  | '\\' :: ' ' :: rest => '\\' :: ' ' :: pathCharacters rest
  | character :: rest =>
    if isBlank character || character = ';' then [] else character :: pathCharacters rest

/-- An at sign and a path. -/
def path : LexicalRule
  | '@' :: rest =>
    let written := pathCharacters rest
    if written = [] then none
    else
      some (.token (.path (String.ofList (Text.unescapeSpaces written))) (written.length + 1))
  | _ => none

/-- `0x` and hexadecimal digits; the value is a 64-bit pattern. -/
def hexadecimal : LexicalRule
  | '0' :: 'x' :: rest =>
    let digits := rest.takeWhile isHexDigit
    if digits = [] then none
    else if twoTo 64 ≤ ofHexDigits digits then
      some (.malformed (.hexadecimalOverflow (String.ofList ('0' :: 'x' :: digits))))
    else
      some (.token (.integer (UInt64.ofNat (ofHexDigits digits)).toInt64) (digits.length + 2))
  | _ => none

/-- A sign, digits, a point and digits; the sign and either run of digits may be missing. -/
def decimal : LexicalRule := fun text =>
  let (sign, unsigned) := splitSign text
  let whole := unsigned.takeWhile Char.isDigit
  match unsigned.drop whole.length with
  | '.' :: rest =>
    let fraction := rest.takeWhile Char.isDigit
    if whole = [] && fraction = [] then none
    else
      let value := Binary64.ofDecimal (sign == ['-']) (whole ++ fraction) fraction.length
      some (.token (.float value) (sign.length + whole.length + 1 + fraction.length))
  | _ => none

/-- A sign and digits; the sign may be missing. -/
def integer : LexicalRule := fun text =>
  let (sign, unsigned) := splitSign text
  let digits := unsigned.takeWhile Char.isDigit
  if digits = [] then none
  else
    match withinSigned 64 (signedValue sign digits) with
    | .error overflow =>
      some (.malformed (.integerOverflow (String.ofList (sign ++ digits)) overflow))
    | .ok value => some (.token (.integer (Int64.ofInt value)) (sign.length + digits.length))

/-- `true` or `false` in any letter case. -/
def boolean : LexicalRule := fun text =>
  let lowered := text.map Char.toLower
  mark ['t', 'r', 'u', 'e'] (.boolean true) lowered <|>
    mark ['f', 'a', 'l', 's', 'e'] (.boolean false) lowered

/-- `=` -/
def equality : LexicalRule :=
  mark ['='] .equality

/-- `?=` -/
def conditionalQuestion : LexicalRule :=
  mark ['?', '='] .conditionalEquality

/-- `;` -/
def separator : LexicalRule :=
  mark [';'] .separator

def isWordCharacter (character : Char) : Bool :=
  Text.isLetterOrNumber character || character == '_' || character == '.' || character == '-' ||
    character == '?'

/-- A bare word. -/
def literal : LexicalRule := fun text =>
  let word := text.takeWhile isWordCharacter
  if word = [] then none else some (.token (.literal (String.ofList word)) word.length)

/-- The rules in the order in which they are tried. -/
def all : List LexicalRule :=
  [conditionalColon, comment, substitution, variableName, bracket, block, terminator, quoted,
    range, path, hexadecimal, decimal, integer, boolean, equality, conditionalQuestion, separator,
    literal]

/-- What the first rule that applies makes of a text. -/
def first? (text : List Char) : Option Reading :=
  all.findSome? fun rule => rule text

end LexicalRule

/-- The outcome of reading a text. -/
structure Tokenization where
  tokens : List Token
  /-- The text that was not consumed. -/
  rest : List Char
  /-- Why the token at the beginning of `rest` could not be decoded, if it was begun. -/
  fault : Option Fault
deriving Repr

namespace Tokenization

/-- How many characters were not consumed. -/
def unmatched (result : Tokenization) : Nat :=
  result.rest.length

/-- Whether the whole text was consumed. -/
def succeeded (result : Tokenization) : Bool :=
  result.rest.isEmpty

/-- The outcome with one more token in front. -/
def cons (token : Token) (result : Tokenization) : Tokenization :=
  { result with tokens := token :: result.tokens }

/-- Reads tokens from at most `bound` positions of a text. -/
def scan : Nat → List Char → Tokenization
  | 0, text => ⟨[], trimStart text, none⟩
  | bound + 1, text =>
    match trimStart text with
    | [] => ⟨[], [], none⟩
    | first :: more =>
      match LexicalRule.first? (first :: more) with
      | none => ⟨[], first :: more, none⟩
      | some (.malformed cause) => ⟨[], first :: more, some (.refused cause)⟩
      | some (.token kind length) =>
        let raw := String.ofList ((first :: more).take length)
        (scan bound ((first :: more).drop length)).cons ⟨kind, raw⟩

/-- The tokens of a list of characters. A token has at least one character, so a text of `n`
characters has at most `n` tokens and the bound is never what ends the reading. -/
def ofCharacters (text : List Char) : Tokenization :=
  scan text.length text

/-- The tokens of a text. -/
def ofText (text : String) : Tokenization :=
  ofCharacters text.toList

end Tokenization

end MachineConsole
