/-!
Contract: white space as the console understands it.

Owns:
- `isBlank`, the Unicode property White_Space;
- trimming of character lists and of strings at either end.

Does not own: line structure, which is `MachineConsole.Text.Pieces`.
-/

namespace MachineConsole.Text

/-- Whether a character is white space. -/
def isBlank (character : Char) : Bool :=
  let code := character.toNat
  (0x09 ≤ code && code ≤ 0x0D) || code == 0x20 || code == 0x85 || code == 0xA0 ||
    code == 0x1680 || (0x2000 ≤ code && code ≤ 0x200A) || code == 0x2028 || code == 0x2029 ||
    code == 0x202F || code == 0x205F || code == 0x3000

/-- Every character that core counts as white space is blank. -/
theorem isBlank_of_isWhitespace {character : Char} (white : character.isWhitespace = true) :
    isBlank character = true := by
  simp only [Char.isWhitespace, Bool.or_eq_true, decide_eq_true_eq] at white
  rcases white with ((rfl | rfl) | rfl) | rfl <;> decide

/-- The text without its leading blanks. -/
def trimStart (text : List Char) : List Char :=
  text.dropWhile isBlank

/-- The text without its trailing blanks. -/
def trimEnd (text : List Char) : List Char :=
  (text.reverse.dropWhile isBlank).reverse

/-- The text without blanks at either end. -/
def trim (text : List Char) : List Char :=
  trimEnd (trimStart text)

/-- A string without blanks at either end. -/
def trimmed (text : String) : String :=
  String.ofList (trim text.toList)

/-- Whether a string holds nothing but blanks. -/
def isAllBlank (text : String) : Bool :=
  text.toList.all isBlank

end MachineConsole.Text
