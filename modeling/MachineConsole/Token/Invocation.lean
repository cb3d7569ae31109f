import MachineConsole.Token.Basic

/-!
Contract: the invocations of a line.

Owns: `Token.invocations`. Separators stand between invocations, comments belong to none, and an
invocation has at least one token.
-/

namespace MachineConsole.Token

/-- An invocation, unless it has no token. -/
def nonEmpty (invocation : List Token) : List (List Token) :=
  if invocation = [] then [] else [invocation]

/-- The invocations of some tokens, the first of which continues the tokens already gathered. -/
def invocationsFrom (gathered : List Token) : List Token → List (List Token)
  | [] => nonEmpty gathered
  | token :: rest =>
    match token.kind with
    | .comment _ => invocationsFrom gathered rest
    | .separator => nonEmpty gathered ++ invocationsFrom [] rest
    | _ => invocationsFrom (gathered ++ [token]) rest

/-- The invocations that the tokens of a line make up. -/
def invocations (tokens : List Token) : List (List Token) :=
  invocationsFrom [] tokens

end MachineConsole.Token
