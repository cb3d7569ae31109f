import Mathlib.Data.List.Basic
import MachineConsole.Console.Capture
import MachineConsole.Proofs.Lexing.Lines

/-!
Contract: what a session remembers, seen through look-up.

Owns:
- what is found in a store after something was stored in it or erased, and in the other one;
- what a capture makes of a line that opens the block, of one inside it and of one that closes it.
-/

namespace MachineConsole

open LexicalRule
open Script (blockLine)

/-! ### Stores -/

namespace VariableStore

theorem get?_empty (name : String) : empty.get? name = none :=
  Std.TreeMap.getElem?_emptyc

theorem get?_insert (store : VariableStore) (inserted name : String) (value : Token) :
    (store.insert inserted value).get? name =
      if inserted = name then some value else store.get? name := by
  unfold get? insert
  rw [Std.TreeMap.getElem?_insert]
  simp only [Std.compare_eq_iff_eq]

theorem get?_erase (store : VariableStore) (erased name : String) :
    (store.erase erased).get? name = if erased = name then none else store.get? name := by
  unfold get? erase
  rw [Std.TreeMap.getElem?_erase]
  simp only [Std.compare_eq_iff_eq]

end VariableStore

/-! ### Cutting -/

namespace Text

theorem cutAt?_of_free {pattern text : List Char} (free : ¬ pattern <:+: text) :
    cutAt? pattern text = none := by
  induction text with
  | nil =>
      have nonempty : pattern ≠ [] := fun empty => free (empty ▸ List.infix_rfl)
      exact if_neg nonempty
  | cons character rest inductionHypothesis =>
      have notHere : pattern.isPrefixOf? (character :: rest) = none := by
        cases begins : pattern.isPrefixOf? (character :: rest) with
        | none => rfl
        | some after =>
            have isPrefix : pattern <+: character :: rest :=
              ⟨after, List.isPrefixOf?_eq_some_iff_append_eq.mp begins⟩
            exact absurd isPrefix.isInfix free
      unfold cutAt?
      rw [notHere]
      dsimp only
      rw [inductionHypothesis fun within => free (List.infix_cons within)]
      rfl

end Text

namespace Session

variable (session : Session) (kind : StoreKind)

theorem store_updateStore (change : VariableStore → VariableStore) :
    (session.updateStore kind change).store kind = change (session.store kind) := by
  match kind with
  | .variables => rfl
  | .macros => rfl

theorem store_updateStore_of_ne {other : StoreKind} (different : other ≠ kind)
    (change : VariableStore → VariableStore) :
    (session.updateStore kind change).store other = session.store other := by
  match kind, other with
  | .variables, .variables => exact absurd rfl different
  | .variables, .macros => rfl
  | .macros, .variables => rfl
  | .macros, .macros => exact absurd rfl different

theorem capture_updateStore (change : VariableStore → VariableStore) :
    (session.updateStore kind change).capture = session.capture :=
  match kind with
  | .variables => rfl
  | .macros => rfl

/-- The session with another progress of a capture. -/
def withCapture (capture : Capture) : Session :=
  { session with capture := capture }

theorem store_withCapture (capture : Capture) :
    (session.withCapture capture).store = session.store := by
  funext kind
  match kind with
  | .variables => rfl
  | .macros => rfl

/-- After this a name stands for a text in a store, and in both stores nothing else is different. -/
structure Binds (before : Session) (kind : StoreKind) (fullName text : String)
    (after : Session) : Prop where
  bound : ∃ raw, (after.store kind).get? fullName = some ⟨.string text, raw⟩
  others : ∀ other, other ≠ fullName →
    (after.store kind).get? other = (before.store kind).get? other
  otherStore : ∀ otherKind, otherKind ≠ kind → after.store otherKind = before.store otherKind

theorem binds_insert {before between : Session} (same : between.store = before.store)
    (fullName text raw : String) :
    before.Binds kind fullName text (between.updateStore kind fun entries =>
      entries.insert fullName ⟨.string text, raw⟩) where
  bound := by
    refine ⟨raw, ?_⟩
    rw [store_updateStore, VariableStore.get?_insert, if_pos rfl]
  others := by
    intro other different
    rw [store_updateStore, VariableStore.get?_insert, if_neg different.symm, same]
  otherStore := by
    intro otherKind different
    rw [store_updateStore_of_ne between kind different, same]

/-! ### Captures -/

variable (name : String) (lines : List String)

theorem feed_off (off : session.capture = .off) (line : String) :
    session.feed line = (some line, session) := by
  unfold feed
  rw [off]

/-- A line without the mark is one more line of the block. -/
theorem feed_body {line : String} (free : ¬ terminatorMarks <:+: line.toList) :
    (session.withCapture (.body name kind lines)).feed line =
      (none, session.withCapture (.body name kind (lines ++ [line]))) := by
  have uncut : cutAtBlockMark? line = none := by
    unfold cutAtBlockMark?
    rw [show Text.cutAt? blockMark line.toList = none from Text.cutAt?_of_free free]
    rfl
  unfold feed
  dsimp only [withCapture]
  unfold feedBlock
  rw [uncut]

/-- The mark alone opens the block that is waited for. -/
theorem feed_opening :
    (session.withCapture (.awaiting name kind)).feed blockLine =
      (none, session.withCapture (.body name kind [])) :=
  rfl

/-- The mark alone closes the block; what it holds is stored. -/
theorem feed_closing :
    (session.withCapture (.body name kind lines)).feed blockLine =
      (none, (session.withCapture .off).updateStore kind fun entries =>
        entries.insert name (Token.string (Text.join "\n" lines))) :=
  rfl

end Session

end MachineConsole
