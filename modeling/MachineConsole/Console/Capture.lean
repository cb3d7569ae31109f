import MachineConsole.Session.Basic

/-!
Contract: giving a value over several lines.

Owns: `Session.feed`, which takes the next line while a capture is active.

The block opens at the first triple quotation mark and closes at the next. Text beside the marks is
part of the value unless it is blank. A line that was to open the block and does not ends the
capture, and what the name stood for is forgotten.
-/

namespace MachineConsole

/-- The mark at which a block opens and closes. -/
def blockMark : List Char := ['\x22', '\x22', '\x22']

/-- A line cut at the first triple quotation mark. -/
def cutAtBlockMark? (line : String) : Option (String × String) :=
  (Text.cutAt? blockMark line.toList).map fun parts =>
    (String.ofList parts.1, String.ofList parts.2)

namespace Session

/-- The session after one more line of an open block. -/
def feedBlock (session : Session) (name : String) (store : StoreKind) (lines : List String)
    (line : String) : Session :=
  match cutAtBlockMark? line with
  | none => { session with capture := .body name store (lines ++ [line]) }
  | some (before, _) =>
    let value := if Text.isAllBlank before then lines else lines ++ [before]
    ({ session with capture := .off }).updateStore store fun entries =>
      entries.insert name (Token.string (Text.join "\n" value))

/-- The session after a line, and the line itself when it is none of the capture's. -/
def feed (session : Session) (line : String) : Option String × Session :=
  match session.capture with
  | .off => (some line, session)
  | .awaiting name store =>
    match cutAtBlockMark? line with
    | none =>
      (some line, ({ session with capture := .off }).updateStore store fun entries =>
        entries.erase name)
    | some (_, after) =>
      if Text.isAllBlank after then (none, { session with capture := .body name store [] })
      else (none, session.feedBlock name store [] after)
  | .body name store lines => (none, session.feedBlock name store lines line)

end Session

end MachineConsole
