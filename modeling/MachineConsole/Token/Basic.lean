import MachineConsole.Value.Basic

/-!
Contract: the tokens of the command language.

Owns:
- `TokenKind` and `Token`, a decoded kind together with the exact text it was read from;
- tokens made from values, with raw texts that read back to them;
- the raw text of a token list.

Does not own: reading tokens, which is `MachineConsole.Token.Lexer`.
-/

namespace MachineConsole

open Number (Binary64)

/-- What a token stands for. -/
inductive TokenKind where
  /-- A bare word. -/
  | literal (text : String)
  /-- A quoted text. -/
  | string (text : String)
  /-- A path behind an at sign, without its escapes. -/
  | path (text : String)
  | integer (value : Int64)
  | float (value : Binary64)
  | boolean (value : Bool)
  /-- A range of addresses, both ends included. -/
  | range (first last : UInt64)
  /-- A name behind a dollar sign. -/
  | variable (name : String)
  | comment (text : String)
  /-- The command text between two backticks. -/
  | substitution (command : String)
  | equality
  | conditionalEquality
  | separator
  | leftBracket
  | rightBracket
  /-- Three quotation marks that are not part of a text. -/
  | terminator
deriving DecidableEq, Repr

/-- The name of a kind in messages. -/
def TokenKind.name : TokenKind → String
  | .literal _ => "literal"
  | .string _ => "string"
  | .path _ => "path"
  | .integer _ => "integer"
  | .float _ => "float"
  | .boolean _ => "boolean"
  | .range _ _ => "range"
  | .variable _ => "variable"
  | .comment _ => "comment"
  | .substitution _ => "execution"
  | .equality => "equality"
  | .conditionalEquality => "conditional equality"
  | .separator => "separator"
  | .leftBracket => "left brace"
  | .rightBracket => "right brace"
  | .terminator => "multiline terminator"

/-- A token: what it stands for and the text it was read from. -/
structure Token where
  kind : TokenKind
  raw : String
deriving DecidableEq, Repr

namespace Token

def literal (text : String) : Token :=
  ⟨.literal text, text⟩

/-- The characters of a text inside quotation marks. -/
def escapeQuoted (text : List Char) : List Char :=
  text.flatMap fun character =>
    if character = '\x22' || character = '\\' then ['\\', character] else [character]

/-- A quoted text. -/
def string (text : String) : Token :=
  ⟨.string text, String.ofList ('\x22' :: escapeQuoted text.toList ++ ['\x22'])⟩

/-- A path, with its spaces escaped. -/
def path (text : String) : Token :=
  ⟨.path text, String.ofList ('@' :: Text.escapeSpaces text.toList)⟩

def integer (value : Int64) : Token :=
  ⟨.integer value, toString value.toInt⟩

def boolean (value : Bool) : Token :=
  ⟨.boolean value, toString value⟩

def isLiteral (token : Token) : Bool :=
  match token.kind with
  | .literal _ => true
  | _ => false

def isVariable (token : Token) : Bool :=
  match token.kind with
  | .variable _ => true
  | _ => false

/-- The text of a word-like token. -/
def text? (token : Token) : Option String :=
  match token.kind with
  | .literal text | .string text | .path text | .variable text => some text
  | _ => none

/-- The text of a word-like token, or the raw text of any other. -/
def word (token : Token) : String :=
  token.text?.getD token.raw

/-- The token as command text: what a quoted text holds, anything else as written. -/
def sourceText (token : Token) : String :=
  match token.kind with
  | .string text => text
  | _ => token.raw

/-- The value a token stands for. -/
def value (token : Token) : Value :=
  match token.kind with
  | .literal text | .string text | .path text | .variable text | .substitution text
  | .comment text => .string text
  | .integer value => .int value
  | .float value => .float value
  | .boolean value => .bool value
  | .range first last => .range first last
  | .equality | .conditionalEquality | .separator | .leftBracket | .rightBracket
  | .terminator => .string token.raw

/-- Raw texts with single spaces between them. -/
def joinRaw (tokens : List Token) : String :=
  Text.join " " (tokens.map Token.raw)

end Token

end MachineConsole
