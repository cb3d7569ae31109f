import MachineConsole.Text.Visible
import MachineConsole.Text.Pieces

/-!
Contract: a text in quotation marks with everything doubtful escaped.

Owns: `quoted`. A quotation mark and a backslash get a backslash, the four usual controls their
letter, and any other hidden character its code point in braces; all else stands for itself.
-/

namespace MachineConsole.Text

/-- The written form of one character. -/
def escapeCharacter (character : Char) : List Char :=
  if character = '\x00' then ['\\', '0']
  else if character = '\t' then ['\\', 't']
  else if character = '\r' then ['\\', 'r']
  else if character = '\n' then ['\\', 'n']
  else if character = '\\' || character = '\x22' then ['\\', character]
  else if isVisible character then [character]
  else ['\\', 'u', '\x7b'] ++ Nat.toDigits 16 character.toNat ++ ['\x7d']

/-- A text between quotation marks, escaped. -/
def quoted (text : String) : String :=
  String.ofList ('\x22' :: text.toList.flatMap escapeCharacter ++ ['\x22'])

end MachineConsole.Text
