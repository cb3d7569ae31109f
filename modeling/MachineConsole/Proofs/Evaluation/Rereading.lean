import MachineConsole.Proofs.Evaluation.CurrentMachine
import MachineConsole.Proofs.Lexing.Accounting
import MachineConsole.Proofs.Lexing.Rejoining

/-!
Contract: lines that are read again with their variables expanded.

Owns:
- `Adjoin` and `SetApart`, how two parts stand at the end of a text;
- `rereading_adjoins`: in the text that is read again, what was left over directly follows the value
  of the last variable, also where blanks were between them in the line;
- a session in which two arguments become one path.

Blanks belong to no token, and what is left over begins behind them, so neither part of the text that
is read again has them.
-/

namespace MachineConsole

open Text (isBlank)
open Tokenization (Interspersed ofText ofText_readsFront)

/-! ### The end of a text -/

/-- A text ends with a part and, directly behind it, another. -/
def Adjoin (text before after : String) : Prop :=
  before.toList ++ after.toList <:+ text.toList

instance (text before after : String) : Decidable (Adjoin text before after) :=
  inferInstanceAs (Decidable (_ <:+ _))

/-- A text ends with two parts that do not adjoin, and only blanks are between them. -/
def SetApart (text before after : String) : Prop :=
  ¬ Adjoin text before after ∧ ∃ gap : List Char,
    (∀ character ∈ gap, isBlank character = true) ∧
      before.toList ++ (gap ++ after.toList) <:+ text.toList

/-- Behind the last token of a text there are only blanks. -/
theorem Tokenization.Interspersed.ends {tokens : List Token} {last : Token} {text : List Char}
    (interspersed : Interspersed (tokens ++ [last]) text) :
    ∃ gap : List Char, (∀ character ∈ gap, isBlank character = true) ∧
      last.raw.toList ++ gap <:+ text := by
  induction tokens generalizing text with
  | nil =>
      cases interspersed with
      | token _ behind =>
          cases behind with
          | blanks blank => exact ⟨_, blank, List.suffix_append _ _⟩
  | cons token tokens inductionHypothesis =>
      cases interspersed with
      | @token front _ _ rest _ behind =>
          obtain ⟨gap, blank, ends⟩ := inductionHypothesis behind
          refine ⟨gap, blank, ends.trans ?_⟩
          rw [← List.append_assoc]
          exact List.suffix_append _ _

/-- The last token of a text and what is left over stand at its end, with nothing but blanks between
them. -/
theorem adjoin_or_setApart {line : String} {tokens : List Token} {last : Token}
    (reads : (ofText line).tokens = tokens ++ [last]) :
    Adjoin line last.raw (String.ofList (ofText line).rest) ∨
      SetApart line last.raw (String.ofList (ofText line).rest) := by
  obtain ⟨consumed, split, interspersed, -⟩ := (ofText_readsFront line).consumed
  rw [reads] at interspersed
  obtain ⟨gap, blank, before, ends⟩ := interspersed.ends
  rcases Decidable.em (Adjoin line last.raw (String.ofList (ofText line).rest)) with adjoin | apart
  · exact .inl adjoin
  · refine .inr ⟨apart, gap, blank, before, ?_⟩
    rw [split, ← ends, String.toList_ofList]
    simp only [List.append_assoc]

/-- Joined raw texts end with the last of them. -/
theorem Token.raw_suffix_joinRaw (tokens : List Token) (last : Token) :
    last.raw.toList <:+ (Token.joinRaw (tokens ++ [last])).toList := by
  induction tokens with
  | nil =>
      rw [List.nil_append, toList_joinRaw_cons]
      exact (List.append_nil _).symm ▸ List.suffix_rfl
  | cons token tokens inductionHypothesis =>
      rw [List.cons_append, toList_joinRaw_cons, continuation, if_neg (by simp)]
      exact (inductionHypothesis.trans (List.suffix_cons _ _)).trans (List.suffix_append _ _)

/-! ### Reading again -/

namespace Console

/-- A line that cannot be read to its end, with a variable as its last token, is read again as its
expanded text. There the remainder directly follows the value of the variable, which is as in the
line exactly when the remainder directly follows the variable: blanks between them are lost. -/
theorem rereading_adjoins (console : Console) {line : String} {tokens : List Token} {last : Token}
    (reads : (ofText line).tokens = tokens ++ [last]) (isVariable : last.isVariable = true)
    (stops : (ofText line).succeeded = false) :
    let text := console.expandedText (ofText line)
    let remainder := String.ofList (ofText line).rest
    let value := (console.expand last).toOption.getD last
    (console.tokensOf line =
      if (ofText text).succeeded then .ok (ofText text).tokens else .error (ofText line)) ∧
    Adjoin text value.raw remainder ∧
    (Adjoin line last.raw remainder ∨ SetApart line last.raw remainder) ∧
    ((SetApart text value.raw remainder ↔ SetApart line last.raw remainder) ↔
      Adjoin line last.raw remainder) := by
  intro text remainder value
  have readAgain : console.tokensOf line =
      if (ofText text).succeeded then .ok (ofText text).tokens else .error (ofText line) := by
    have behindVariable : (ofText line).tokens.getLast?.any Token.isVariable = true := by
      rw [reads, List.getLast?_concat, Option.any_some, isVariable]
    unfold tokensOf
    simp only [stops, behindVariable, Bool.false_eq_true, if_false, if_true]
    rfl
  have adjoins : Adjoin text value.raw remainder := by
    have expanded : text = Token.joinRaw (console.session.variableStore.expandKnown console.scopes
        tokens ++ [value]) ++ remainder := by
      change Token.joinRaw (console.session.variableStore.expandKnown console.scopes _) ++ _ = _
      rw [reads, VariableStore.expandKnown, List.map_append]
      rfl
    unfold Adjoin
    rw [expanded, String.toList_append]
    obtain ⟨front, ends⟩ := Token.raw_suffix_joinRaw
      (console.session.variableStore.expandKnown console.scopes tokens) value
    exact ⟨front, by rw [← ends, List.append_assoc]⟩
  have either := adjoin_or_setApart reads
  refine ⟨readAgain, adjoins, either, ?_⟩
  have together : ¬ SetApart text value.raw remainder := fun apart => apart.1 adjoins
  constructor
  · intro kept
    exact either.resolve_right fun apart => together (kept.mpr apart)
  · intro inLine
    exact iff_of_false together fun apart => apart.1 inLine

/-- A path below one that a variable stands for. -/
theorem rereading_adjoins_path :
    let console := (Eval.afterLines ["set p @a"]).console
    let line := "set q $p/b"
    let path := Token.mk (.variable "p") "$p"
    (ofText line).tokens = [Token.literal "set", Token.literal "q"] ++ [path] ∧
      String.ofList (ofText line).rest = "/b" ∧ Adjoin line "$p" "/b" ∧
      (console.expand path).toOption.getD path = Token.path "a" ∧
      (SetApart (console.expandedText (ofText line)) (Token.path "a").raw "/b" ↔
        SetApart line "$p" "/b") := by
  intro console line path
  have reads : (ofText line).tokens = [Token.literal "set", Token.literal "q"] ++ [path] := by
    decide +kernel
  have rest : String.ofList (ofText line).rest = "/b" := by decide +kernel
  have adjoin : Adjoin line "$p" "/b" := by decide +kernel
  have value : (console.expand path).toOption.getD path = Token.path "a" := by
    decide +kernel
  obtain ⟨-, -, -, kept⟩ := rereading_adjoins console reads rfl (by decide +kernel)
  rw [value, rest] at kept
  exact ⟨reads, rest, adjoin, value, kept.mpr adjoin⟩

/-- Blanks are lost: a path and a remainder behind it, which cannot be read on its own, become one
argument. -/
theorem rereading_glues :
    ∃ before, Eval.Reached (Shell.freshRun Eval.emptyWorld Settings.default) before ∧
      let line := "set q $p /b"
      let result := ofText line
      let text := before.console.expandedText result
      result.succeeded = false ∧ result.tokens.getLast? = some ⟨.variable "p", "$p"⟩ ∧
        (before.console.expand ⟨.variable "p", "$p"⟩).toOption = some (Token.path "a") ∧
        String.ofList result.rest = "/b" ∧
        ¬ (SetApart text (Token.path "a").raw "/b" ↔ SetApart line "$p" "/b") ∧
        (before.console.tokensOf line).toOption =
          some [Token.literal "set", Token.literal "q", Token.path "a/b"] := by
  refine ⟨Eval.afterLines ["set p @a"], Eval.afterLines_reached .start (by decide +kernel), ?_⟩
  refine ⟨by decide +kernel, by decide +kernel, by decide +kernel, by decide +kernel, ?_,
    by decide +kernel⟩
  have apart : SetApart "set q $p /b" "$p" "/b" :=
    ⟨by decide +kernel, [' '], List.forall_mem_singleton.mpr rfl, by decide +kernel⟩
  intro kept
  exact (kept.mpr apart).1 (by decide +kernel)

end Console

end MachineConsole
