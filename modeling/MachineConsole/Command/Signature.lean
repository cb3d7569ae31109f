import MachineConsole.Fault
import MachineConsole.Token.Basic

/-!
Contract: the forms in which a command can be invoked.

Owns:
- `TokenPattern`, `FormParameter` and `Signature`, and which arguments they accept;
- the usage text of a form;
- `Signature.choose?`, which picks the form that arguments are given in.
-/

namespace MachineConsole

/-- Which kind of token a parameter takes. -/
inductive TokenPattern where
  | any
  | literal
  /-- A bare word or a variable, taken as a name. -/
  | name
  | string
  | path
  | integer
  | float
  | boolean
  | variable
  | range
  | terminator
deriving DecidableEq, Repr

namespace TokenPattern

def accepts (pattern : TokenPattern) (token : Token) : Bool :=
  match pattern, token.kind with
  | .any, _ => true
  | .literal, .literal _ => true
  | .name, .literal _ => true
  | .name, .variable _ => true
  | .string, .string _ => true
  | .path, .path _ => true
  | .integer, .integer _ => true
  | .float, .float _ => true
  | .boolean, .boolean _ => true
  | .variable, .variable _ => true
  | .range, .range _ _ => true
  | .terminator, .terminator => true
  | _, _ => false

/-- How a usage text shows a parameter. -/
def placeholder (pattern : TokenPattern) (name : String) : String :=
  match pattern with
  | .path => "@" ++ name
  | .variable => "$" ++ name
  | .string => "\x22" ++ name ++ "\x22"
  | .terminator => "\x22\x22\x22"
  | _ => "<" ++ name ++ ">"

end TokenPattern

/-- A parameter of a form. -/
structure FormParameter where
  name : String
  pattern : TokenPattern
  /-- The accepted words in any letter case; without any, everything is accepted. -/
  allowed : List String
deriving DecidableEq, Repr

namespace FormParameter

def accepts (parameter : FormParameter) (token : Token) : Bool :=
  parameter.pattern.accepts token &&
    (parameter.allowed.isEmpty ||
      token.text?.any fun text =>
        parameter.allowed.any fun word => Text.sameIgnoringCase word text)

def usage (parameter : FormParameter) : String :=
  if parameter.allowed.isEmpty then parameter.pattern.placeholder parameter.name
  else Text.join "|" parameter.allowed

end FormParameter

/-- One form of a command: its parameters in order and, if it takes more arguments than these, the
pattern of the others. -/
structure Signature (Form : Type) where
  form : Form
  parameters : List FormParameter
  rest? : Option TokenPattern
deriving DecidableEq, Repr

namespace Signature

variable {Form : Type}

/-- A form without parameters. -/
def create (form : Form) : Signature Form :=
  ⟨form, [], none⟩

/-- One more parameter. -/
def argument (signature : Signature Form) (name : String) (pattern : TokenPattern) :
    Signature Form :=
  { signature with parameters := signature.parameters ++ [⟨name, pattern, []⟩] }

/-- One more parameter, a bare word among those given. -/
def oneOf (signature : Signature Form) (name : String) (allowed : List String) :
    Signature Form :=
  { signature with parameters := signature.parameters ++ [⟨name, .literal, allowed⟩] }

/-- Any further arguments. -/
def rest (signature : Signature Form) (pattern : TokenPattern) : Signature Form :=
  { signature with rest? := some pattern }

/-- Whether every parameter accepts its argument and the arguments beyond them are accepted. -/
def acceptsFrom (rest? : Option TokenPattern) : List FormParameter → List Token → Bool
  | [], arguments =>
    match rest? with
    | none => arguments.isEmpty
    | some pattern => arguments.all pattern.accepts
  | _ :: _, [] => false
  | parameter :: parameters, argument :: arguments =>
    parameter.accepts argument && acceptsFrom rest? parameters arguments

def accepts (signature : Signature Form) (arguments : List Token) : Bool :=
  acceptsFrom signature.rest? signature.parameters arguments

/-- Whether every parameter asks for a particular kind of token. -/
def isAccurate (signature : Signature Form) : Bool :=
  signature.parameters.all (fun parameter => parameter.pattern != .any) &&
    signature.rest? != some .any

/-- The usage text of the form for a command. -/
def usage (signature : Signature Form) (command : String) : String :=
  let rest := signature.rest?.map fun pattern => "[" ++ pattern.placeholder "arg" ++ " ...]"
  Text.join " " ([command] ++ signature.parameters.map FormParameter.usage ++ rest.toList)

/-- The accurate ones among some forms, or all if none is accurate. -/
def mostAccurate (signatures : List (Signature Form)) : List (Signature Form) :=
  match signatures.filter isAccurate with
  | [] => signatures
  | accurate => accurate

/-- The form of a command that accepts the arguments. Of several, accurate ones are preferred; if
more than one is left, the choice is ambiguous. -/
def choose? (command : String) (signatures : List (Signature Form)) (arguments : List Token) :
    Except Fault (Option Form) :=
  match mostAccurate (signatures.filter fun signature => signature.accepts arguments) with
  | [] => .ok none
  | [only] => .ok (some only.form)
  | first :: second :: _ =>
    .error (.ambiguous command (first.usage command) (second.usage command))

end Signature

end MachineConsole
