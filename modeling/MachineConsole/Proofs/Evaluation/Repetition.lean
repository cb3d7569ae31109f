import MachineConsole.Proofs.Evaluation.CurrentMachine
import Mathlib.Data.List.Chain
import Mathlib.Data.Prod.Basic

/-!
Contract: what is done again when an invocation is read again.

Owns:
- `Console.uses`, whether a token makes a command run or a file be fetched, and what can take the
  place of the token;
- `evaluated`, the invocations that are evaluated of several, the last of which decides how all of
  them end;
- `ReadsAgain`, with what it amounts to to evaluate an invocation that is read again;
- `Place`, a token of an invocation that is evaluated, and `Place.Follows`, which leads from a place
  to one of the next reading;
- `used_again_after_failure`: along such places a token is used again only after a download that
  failed, with what is behind it done nevertheless;
- a line for which one file is asked for twice.

Does not own: how a joined invocation is read, which is `MachineConsole.Proofs.Lexing.Substitution`.

A reading turns each substitution into a text and each file into the path of its copy, so nothing of
these is left for the next. The path of a file that could not be fetched stays what it was.
-/

namespace MachineConsole

/-- The remote file that was asked for. -/
def Event.requestedUri? : Event → Option String
  | .fetched uri => some uri
  | _ => none

/-- Whether a token stands for something else: a command to run, or a file to fetch. -/
def Console.uses (console : Console) (token : Token) : Bool :=
  match token.kind with
  | .substitution _ => true
  | .path path => !console.world.files.contains path && Uri.isRemote path
  | _ => false

namespace Eval

variable {nested : Nested} {bound : Nat}

/-! ### One token -/

theorem replaceToken_of_unused {token : Token} {run : Run}
    (unused : run.console.uses token = false) :
    replaceToken nested token run = (.ok (some ⟨token, false⟩), run) := by
  unfold Console.uses at unused
  unfold replaceToken
  cases isKind : token.kind with
  | substitution command =>
      rw [isKind] at unused
      cases unused
  | path path =>
      rw [isKind] at unused
      dsimp only at unused ⊢
      rw [console_bind_run, unused]
      rfl
  | _ => rfl

/-- A token that is used makes its command run or its file be fetched. -/
theorem replaceToken_of_used {token : Token} {run : Run}
    (used : run.console.uses token = true) :
    (∃ command, token.kind = .substitution command ∧
      replaceToken nested token run = substitute nested command run) ∨
    ∃ path, token.kind = .path path ∧
      replaceToken nested token run = fetchFile token path run := by
  unfold Console.uses at used
  unfold replaceToken
  cases isKind : token.kind with
  | substitution command => exact .inl ⟨command, rfl, rfl⟩
  | path path =>
      rw [isKind] at used
      dsimp only at used ⊢
      rw [console_bind_run, if_pos used]
      exact .inr ⟨path, rfl, rfl⟩
  | _ =>
      rw [isKind] at used
      cases used

/-- What takes the place of a token that is used. -/
inductive Yields (token : Token) (run : Run) : Replacement → Prop where
  | output (text : String) (isCommand : ∃ command, token.kind = .substitution command) :
      Yields token run ⟨Token.string text, true⟩
  | copy {path copy : String} (isPath : token.kind = .path path)
      (fetched : (World.fetch path run.console.world).1 = .ok copy) :
      Yields token run ⟨Token.path copy, true⟩
  | unfetched {path : String} {fault : Fault} (isPath : token.kind = .path path)
      (failed : (World.fetch path run.console.world).1 = .error fault)
      (unbroken : run.console.session.breakOnException = false) :
      Yields token run ⟨token, false⟩

theorem substitute_yields {token : Token} {command : String} {run after : Run}
    {replacement : Replacement} (isCommand : token.kind = .substitution command)
    (substituted : substitute nested command run = (.ok (some replacement), after)) :
    Yields token run replacement := by
  obtain ⟨_, recorded, _, ended⟩ := of_bind_run substituted
  obtain ⟨⟨succeeded, sink⟩, written, _, ended⟩ := of_bind_run ended
  dsimp only at ended
  split at ended
  · cases ended
    exact .output _ ⟨command, isCommand⟩
  · obtain ⟨_, _, _, ended⟩ := of_bind_run ended
    cases ended

theorem fetchFile_yields {token : Token} {uri : String} {run after : Run}
    {replacement : Replacement} (isPath : token.kind = .path uri)
    (fetched : fetchFile token uri run = (.ok (some replacement), after)) :
    Yields token run replacement := by
  obtain ⟨result, tried, attempted, ended⟩ := of_bind_run fetched
  have acted := of_attempt_run attempted
  unfold act at acted
  cases outcome : World.fetch uri run.console.world with
  | mk answer world =>
      rw [outcome] at acted
      cases answer with
      | ok copy =>
          cases result with
          | error fault => cases acted
          | ok path =>
              cases acted
              cases ended
              exact .copy isPath (congrArg Prod.fst outcome)
      | error cause =>
          cases result with
          | ok path => cases acted
          | error fault =>
              cases acted
              obtain ⟨_, written, wrote, ended⟩ := of_bind_run ended
              cases wrote
              rw [session_bind_run] at ended
              split at ended
              · cases ended
              · next unbroken =>
                  cases ended
                  exact .unfetched isPath (congrArg Prod.fst outcome)
                    (Bool.eq_false_iff.mpr unbroken)

theorem replaceToken_yields {token : Token} {run after : Run} {replacement : Replacement}
    (used : run.console.uses token = true)
    (replaced : replaceToken nested token run = (.ok (some replacement), after)) :
    Yields token run replacement := by
  rcases replaceToken_of_used used with ⟨command, isCommand, runs⟩ | ⟨path, isPath, fetches⟩
  · exact substitute_yields isCommand (runs.symm.trans replaced)
  · exact fetchFile_yields isPath (fetches.symm.trans replaced)

/-- The replacement of a token among others is found once those in front of it are replaced. -/
theorem of_replaceTokens_append {front back : List Token} {token : Token} {run after : Run}
    {replacements : List Replacement}
    (replaced : replaceTokens nested (front ++ token :: back) run =
      (.ok (some replacements), after)) :
    ∃ before between replacement next,
      replaceTokens nested front run = (.ok (some before), between) ∧
      replaceToken nested token between = (.ok (some replacement), next) ∧
      replacements[front.length]? = some replacement := by
  induction front generalizing run replacements with
  | nil =>
      obtain ⟨replacement?, next, tokenReplaced, ended⟩ := of_bind_run replaced
      cases replacement? with
      | none => cases ended
      | some replacement =>
          obtain ⟨others?, _, _, ended⟩ := of_bind_run ended
          cases others? with
          | none => cases ended
          | some others =>
              cases ended
              exact ⟨[], run, replacement, next, rfl, tokenReplaced, rfl⟩
  | cons first front inductionHypothesis =>
      obtain ⟨first?, afterFirst, firstReplaced, ended⟩ := of_bind_run replaced
      cases first? with
      | none => cases ended
      | some firstReplacement =>
          obtain ⟨others?, _, othersReplaced, ended⟩ := of_bind_run ended
          cases others? with
          | none => cases ended
          | some others =>
              cases ended
              obtain ⟨before, between, replacement, next, frontReplaced, tokenReplaced, found⟩ :=
                inductionHypothesis othersReplaced
              refine ⟨firstReplacement :: before, between, replacement, next, ?_, tokenReplaced,
                found⟩
              unfold replaceTokens
              rw [bind_run_of_ok firstReplaced]
              dsimp only
              rw [bind_run_of_ok frontReplaced]
              rfl

/-! ### Reading again -/

/-- Whether nothing more of a line is evaluated after an invocation. -/
def stops (succeeded : Bool) (session : Session) : Bool :=
  (!succeeded && session.breakOnException) || session.quitRequested

/-- Those of several invocations that are evaluated, each with the run in which it is. -/
def evaluated (nested : Nested) : List (List Token) → Run → List (List Token × Run)
  | [], _ => []
  | invocation :: rest, run =>
    (invocation, run) ::
      match evaluateInvocation nested invocation run with
      | (.ok succeeded, after) =>
        if stops succeeded after.console.session then [] else evaluated nested rest after
      | (.error _, _) => []

/-- Invocations that do not break off answer that they succeeded. -/
theorem answer_of_unbroken {succeeded breaks : Bool} (unbroken : (!succeeded && breaks) = false) :
    (succeeded || !breaks) = true := by
  rw [← Bool.not_inj_iff, Bool.not_or, Bool.not_not]
  exact unbroken

theorem evaluateInvocations_of_stops {invocation : List Token} {run after : Run}
    {succeeded : Bool} (outcome : evaluateInvocation nested invocation run = (.ok succeeded, after))
    (stop : stops succeeded after.console.session = true) (rest : List (List Token)) :
    evaluateInvocations nested (invocation :: rest) run =
      (.ok (succeeded || !after.console.session.breakOnException), after) := by
  unfold evaluateInvocations
  unfold stops at stop
  rw [bind_run_of_ok outcome, session_bind_run]
  cases breaks : !succeeded && after.console.session.breakOnException with
  | true =>
      obtain ⟨failed, breaking⟩ := Bool.and_eq_true_iff.mp breaks
      rw [Bool.not_eq_true'] at failed
      rw [if_pos rfl, breaking, failed]
      rfl
  | false =>
      rw [breaks, Bool.false_or] at stop
      rw [if_neg Bool.false_ne_true, if_pos stop, answer_of_unbroken breaks]
      rfl

theorem evaluateInvocations_of_goesOn {invocation : List Token} {run after : Run}
    {succeeded : Bool} (outcome : evaluateInvocation nested invocation run = (.ok succeeded, after))
    (goesOn : stops succeeded after.console.session = false) (rest : List (List Token)) :
    evaluateInvocations nested (invocation :: rest) run = evaluateInvocations nested rest after ∧
      (succeeded || !after.console.session.breakOnException) = true := by
  obtain ⟨unbroken, unasked⟩ := Bool.or_eq_false_iff.mp goesOn
  refine ⟨?_, answer_of_unbroken unbroken⟩
  conv_lhs => unfold evaluateInvocations
  rw [bind_run_of_ok outcome, session_bind_run, unbroken, unasked, if_neg Bool.false_ne_true,
    if_neg Bool.false_ne_true]

/-- The last invocation that is evaluated of several decides how all of them end. -/
theorem evaluateInvocations_run (invocations : List (List Token)) (run : Run) :
    evaluateInvocations nested invocations run =
      match (evaluated nested invocations run).getLast? with
      | none => (.ok true, run)
      | some (last, start) =>
        let (result, after) := evaluateInvocation nested last start
        (result.map fun succeeded => succeeded || !after.console.session.breakOnException,
          after) := by
  induction invocations generalizing run with
  | nil => rfl
  | cons invocation rest inductionHypothesis =>
      unfold evaluated
      cases outcome : evaluateInvocation nested invocation run with
      | mk result after =>
          cases result with
          | error stop =>
              unfold evaluateInvocations
              rw [bind_run_of_error outcome, List.getLast?_singleton]
              simp only [outcome, Except.map]
          | ok succeeded =>
              dsimp only
              cases stop : stops succeeded after.console.session with
              | true =>
                  rw [evaluateInvocations_of_stops outcome stop, if_pos rfl,
                    List.getLast?_singleton]
                  simp only [outcome, Except.map]
              | false =>
                  obtain ⟨goesOn, answer⟩ := evaluateInvocations_of_goesOn outcome stop rest
                  rw [goesOn, inductionHypothesis, if_neg Bool.false_ne_true]
                  cases evaluated nested rest after with
                  | nil =>
                      rw [List.getLast?_nil, List.getLast?_singleton]
                      simp only [outcome, Except.map, answer]
                  | cons next others => rw [List.getLast?_cons_cons, List.getLast?_cons]

/-- An invocation is read again: with replacements in the places of its tokens it is tokens, after
which the run is as given. -/
structure ReadsAgain (nested : Nested) (invocation : List Token) (run : Run)
    (replacements : List Replacement) (tokens : List Token) (after : Run) : Prop where
  shallow : run.console.depth < Console.nestingBound
  replaced : replaceTokens nested invocation run = (.ok (some replacements), after)
  renewed : replacements.any Replacement.isNew = true
  reads : after.console.descend.tokensOf
    (Token.joinRaw (replacements.map Replacement.token)) = .ok tokens

/-- The run in which tokens that were read again are evaluated. -/
def rereading (tokens : List Token) (run : Run) : Run :=
  begun (Token.invocations tokens) { run with console := run.console.descend }

theorem ReadsAgain.evaluateInvocation_run {invocation tokens : List Token} {run after : Run}
    {replacements : List Replacement}
    (again : ReadsAgain (Eval.run (bound + 1)) invocation run replacements tokens after) :
    let ended := evaluateInvocations (Eval.run bound) (Token.invocations tokens)
      (rereading tokens after)
    evaluateInvocation (Eval.run (bound + 1)) invocation run =
      (ended.1, { ended.2 with console := ended.2.console.ascend }) := by
  have wasRead : readTokens (Token.joinRaw (replacements.map Replacement.token))
      { after with console := after.console.descend } =
        (.ok (some tokens), { after with console := after.console.descend }) := by
    unfold readTokens
    rw [console_bind_run, again.reads]
    rfl
  unfold evaluateInvocation
  rw [console_bind_run, if_neg (Nat.not_le_of_lt again.shallow), bind_run_of_ok again.replaced]
  dsimp only
  rw [if_pos again.renewed]
  unfold replay deeper
  rw [bind_run_of_ok (rfl : updateConsole Console.descend after =
    (.ok (), { after with console := after.console.descend }))]
  unfold thenRestore
  rw [bind_run_of_ok wasRead]
  rfl

/-! ### Places -/

/-- A token of an invocation, which is evaluated in a run over an evaluator with a bound. -/
structure Place where
  bound : Nat
  front : List Token
  token : Token
  back : List Token
  run : Run

namespace Place

variable (place earlier later : Place)

def invocation : List Token :=
  place.front ++ place.token :: place.back

/-- The run in which it is the turn of the token, when those in front of it are replaced. -/
def turn : Run :=
  (replaceTokens (Eval.run place.bound) place.front place.run).2

/-- The token has its turn: the invocation is not refused, and no token in front of it ends it. -/
def HasTurn : Prop :=
  place.run.console.depth < Console.nestingBound ∧
    ∃ before, (replaceTokens (Eval.run place.bound) place.front place.run).1 = .ok (some before)

/-- The command of the token is run, or its file is fetched. -/
def IsUsed : Prop :=
  place.HasTurn ∧ place.turn.console.uses place.token = true

/-- The answer to a request for the file that is fetched in this place. -/
def Answers (answer : Except Fault String) : Prop :=
  place.IsUsed ∧ ∃ path, place.token.kind = .path path ∧
    (World.fetch path place.turn.console.world).1 = answer

/-- The file cannot be fetched, and what is behind the token is done nevertheless. -/
def FailsUnbroken : Prop :=
  (∃ fault, place.Answers (.error fault)) ∧
    place.turn.console.session.breakOnException = false

/-- The copy of a file that is fetched in the earlier place is there in the turn of the later
one. -/
def KeepsCopy : Prop :=
  ∀ copy, earlier.Answers (.ok copy) → later.HasTurn →
    later.turn.console.world.files.contains copy = true

/-- To evaluate the invocation of the earlier place is to evaluate several others, that of the later
place among them, the last of which decides. -/
def Encloses : Prop :=
  ∃ invocations start last,
    let others := evaluated (Eval.run later.bound) invocations start
    let ended := evaluateInvocation (Eval.run later.bound) last.1 last.2
    (later.invocation, later.run) ∈ others ∧ others.getLast? = some last ∧
      evaluateInvocation (Eval.run earlier.bound) earlier.invocation earlier.run =
        (ended.1.map fun succeeded => succeeded || !ended.2.console.session.breakOnException,
          { ended.2 with console := ended.2.console.ascend })

/-- The invocation of the earlier place is read again, and in the later place of what is evaluated
then stands what took the place of the token. -/
inductive Follows : Place → Place → Prop where
  | intro {earlier later : Place} {replacements : List Replacement} {tokens : List Token}
      {after : Run} (isNext : earlier.bound = later.bound + 1)
      (again : ReadsAgain (Eval.run earlier.bound) earlier.invocation earlier.run replacements
        tokens after)
      (isEvaluated : (later.invocation, later.run) ∈
        evaluated (Eval.run later.bound) (Token.invocations tokens) (rereading tokens after))
      (stands : replacements[earlier.front.length]?.map Replacement.token = some later.token) :
      Follows earlier later

variable {place earlier later}

theorem Follows.encloses (follows : earlier.Follows later) : earlier.Encloses later := by
  cases follows with
  | @intro replacements tokens after isNext again isEvaluated stands =>
      cases last? : (evaluated (Eval.run later.bound) (Token.invocations tokens)
          (rereading tokens after)).getLast? with
      | none =>
          rw [List.getLast?_eq_none_iff.mp last?] at isEvaluated
          cases isEvaluated
      | some last =>
          refine ⟨_, _, last, isEvaluated, last?, ?_⟩
          rw [isNext] at again ⊢
          rw [again.evaluateInvocation_run, evaluateInvocations_run, last?]
          rfl

theorem Follows.replacement (follows : earlier.Follows later) :
    earlier.HasTurn ∧ ∃ replacement next,
      replaceToken (Eval.run earlier.bound) earlier.token earlier.turn =
        (.ok (some replacement), next) ∧ replacement.token = later.token := by
  cases follows with
  | intro isNext again isEvaluated stands =>
      obtain ⟨before, between, replacement, next, frontReplaced, tokenReplaced, found⟩ :=
        of_replaceTokens_append again.replaced
      have turn : earlier.turn = between := congrArg Prod.snd frontReplaced
      rw [found] at stands
      exact ⟨⟨again.shallow, before, congrArg Prod.fst frontReplaced⟩, replacement, next,
        turn ▸ tokenReplaced, Option.some.inj stands⟩

/-- A token that is not used is the same in the next place. -/
theorem Follows.token_eq_of_unused (follows : earlier.Follows later) (unused : ¬ earlier.IsUsed) :
    later.token = earlier.token := by
  obtain ⟨hasTurn, replacement, next, replaced, stands⟩ := follows.replacement
  have notUsed : earlier.turn.console.uses earlier.token = false :=
    Bool.eq_false_iff.mpr fun used => unused ⟨hasTurn, used⟩
  rw [replaceToken_of_unused notUsed] at replaced
  cases replaced
  exact stands.symm

/-- The token is the result of using another place. -/
inductive Settles (origin : Place) : Token → Prop where
  | output (text : String) : Settles origin (Token.string text)
  | copy {copy : String} (fetched : origin.Answers (.ok copy)) : Settles origin (Token.path copy)

theorem Follows.settles_or_fails (follows : earlier.Follows later) (used : earlier.IsUsed) :
    earlier.Settles later.token ∨ earlier.FailsUnbroken := by
  obtain ⟨-, replacement, next, replaced, stands⟩ := follows.replacement
  rw [← stands]
  cases replaceToken_yields used.2 replaced with
  | output text _ => exact .inl (.output text)
  | copy isPath fetched => exact .inl (.copy ⟨used, _, isPath, fetched⟩)
  | unfetched isPath failed unbroken =>
      exact .inr ⟨⟨_, used, _, isPath, failed⟩, unbroken⟩

theorem Settles.unused {origin : Place} (settles : origin.Settles place.token)
    (keeps : origin.KeepsCopy place) : ¬ place.IsUsed := by
  rintro ⟨hasTurn, used⟩
  unfold Console.uses at used
  generalize place.token = token at settles used
  cases settles with
  | output text => cases used
  | @copy copy fetched =>
      have present := keeps copy fetched hasTurn
      change (!place.turn.console.world.files.contains copy && _) = true at used
      rw [present] at used
      cases used

/-- What is settled is not used along all the places that follow. -/
theorem Settles.unused_along {origin : Place} {rest : List Place}
    (settles : origin.Settles place.token) (follows : (place :: rest).IsChain Follows)
    (keeps : ∀ later ∈ place :: rest, origin.KeepsCopy later) :
    ∀ later ∈ place :: rest, ¬ later.IsUsed := by
  induction rest generalizing place with
  | nil =>
      intro later member
      rw [List.mem_singleton.mp member]
      exact settles.unused (keeps place List.mem_cons_self)
  | cons next rest inductionHypothesis =>
      obtain ⟨nextFollows, restFollows⟩ := List.isChain_cons_cons.mp follows
      have unused := settles.unused (keeps place List.mem_cons_self)
      have nextSettles : origin.Settles next.token :=
        (nextFollows.token_eq_of_unused unused).symm ▸ settles
      intro later member
      cases List.mem_cons.mp member with
      | inl isPlace => exact isPlace ▸ unused
      | inr inRest =>
          exact inductionHypothesis nextSettles restFollows
            (fun other isOther => keeps other (List.mem_cons_of_mem place isOther)) later inRest

/-- A file whose download failed, with what is behind it done nevertheless, is asked for again as
soon as the next place has its turn, unless it exists by then. -/
theorem Follows.used_again_iff (follows : earlier.Follows later) (fails : earlier.FailsUnbroken) :
    later.token = earlier.token ∧
      (later.IsUsed ↔ later.HasTurn ∧ ∀ path, later.token.kind = .path path →
        later.turn.console.world.files.contains path = false) := by
  obtain ⟨⟨fault, ⟨hasTurn, used⟩, path, isPath, failed⟩, -⟩ := fails
  obtain ⟨-, replacement, next, replaced, stands⟩ := follows.replacement
  have same : later.token = earlier.token := by
    rw [← stands]
    cases replaceToken_yields used replaced with
    | output text isCommand =>
        obtain ⟨command, isCommand⟩ := isCommand
        cases isPath.symm.trans isCommand
    | copy isOther fetched =>
        cases isPath.symm.trans isOther
        cases failed.symm.trans fetched
    | unfetched _ _ _ => rfl
  have remote : Uri.isRemote path = true := by
    unfold Console.uses at used
    rw [isPath] at used
    exact (Bool.and_eq_true_iff.mp used).2
  refine ⟨same, ?_⟩
  unfold IsUsed Console.uses
  rw [same, isPath]
  simp [remote]

end Place

/-- A token is followed, with what took its place, as its invocation is read again and again. It is
used at most once, unless it names a file that could not be fetched, with what is behind it done
nevertheless: then it stays, and it is used in the next place too, if the file does not exist by
then. Where it is not used nothing is done for it. To evaluate an invocation that is read again is
to evaluate what was read, the next place with it. -/
theorem used_again_after_failure (course : List Place) (follows : course.IsChain Place.Follows)
    (keeps : course.Pairwise Place.KeepsCopy) :
    (course.Pairwise fun earlier later =>
      earlier.IsUsed → later.IsUsed → earlier.FailsUnbroken) ∧
    (course.IsChain fun earlier later =>
      earlier.FailsUnbroken → later.token = earlier.token ∧
        (later.IsUsed ↔ later.HasTurn ∧ ∀ path, later.token.kind = .path path →
          later.turn.console.world.files.contains path = false)) ∧
    (∀ place ∈ course, place.HasTurn → ¬ place.IsUsed →
      replaceToken (Eval.run place.bound) place.token place.turn =
        (.ok (some ⟨place.token, false⟩), place.turn)) ∧
    course.IsChain Place.Encloses := by
  refine ⟨?_, follows.imp fun _ _ next => next.used_again_iff, ?_,
    follows.imp fun _ _ next => next.encloses⟩
  · induction course with
    | nil => exact .nil
    | cons earlier rest inductionHypothesis =>
        obtain ⟨keepsEarlier, keepsRest⟩ := List.pairwise_cons.mp keeps
        refine .cons ?_ (inductionHypothesis follows.tail keepsRest)
        intro later member used usedAgain
        cases rest with
        | nil => cases member
        | cons next rest =>
            obtain ⟨nextFollows, restFollows⟩ := List.isChain_cons_cons.mp follows
            cases nextFollows.settles_or_fails used with
            | inr fails => exact fails
            | inl settles =>
                exact absurd usedAgain
                  (settles.unused_along restFollows keepsEarlier later member)
  · intro place _ hasTurn unused
    exact replaceToken_of_unused (Bool.eq_false_iff.mpr fun used => unused ⟨hasTurn, used⟩)

/-! ### Two lines -/

/-- A console that does what is behind a failure. -/
def continuingRun (world : World) : Run :=
  Shell.freshRun world { Settings.default with breakOnException := false }

/-- A world in which every remote file has the same copy. -/
def copyingWorld : World :=
  World.create ((FileTree.empty "/work").write "/work/a" (.file (some ""))) fun _ => .ok "/work/a"

/-- A remote file in front of a substitution. -/
def remotePlace : Place where
  bound := 3
  front := [Token.literal "x"]
  token := Token.path "http://h/a"
  back := [⟨.substitution "numbersMode", "`numbersMode`"⟩]
  run := continuingRun copyingWorld

/-- What takes the places of the tokens around the remote file, and its own. -/
def copyReplacements : List Replacement :=
  [⟨Token.literal "x", false⟩, ⟨Token.path "/work/a", true⟩,
    ⟨Token.string "Numbers mode: Hexadecimal", true⟩]

/-- The copy of the file in front of what the command wrote. -/
def copyPlace : Place where
  bound := 2
  front := [Token.literal "x"]
  token := Token.path "/work/a"
  back := [Token.string "Numbers mode: Hexadecimal"]
  run := rereading (copyReplacements.map Replacement.token)
    (replaceTokens (Eval.run 3) remotePlace.invocation remotePlace.run).2

theorem eq_ok_of_toOption {ε α : Type} {result : Except ε α} {value : α}
    (isSome : result.toOption = some value) : result = .ok value := by
  cases result with
  | ok other => exact congrArg Except.ok (Option.some.inj isSome)
  | error cause => cases isSome

theorem remotePlace_follows : remotePlace.Follows copyPlace := by
  have replaced :
      (replaceTokens (Eval.run 3) remotePlace.invocation remotePlace.run).1.toOption =
        some (some copyReplacements) := by
    decide +kernel
  have again : ReadsAgain (Eval.run 3) remotePlace.invocation remotePlace.run copyReplacements
      (copyReplacements.map Replacement.token)
      (replaceTokens (Eval.run 3) remotePlace.invocation remotePlace.run).2 :=
    { shallow := by decide +kernel
      replaced := Prod.fst_eq_iff.mp (eq_ok_of_toOption replaced)
      renewed := by decide +kernel
      reads := eq_ok_of_toOption (by decide +kernel) }
  have isOne : Token.invocations (copyReplacements.map Replacement.token) =
      [copyPlace.invocation] := by
    decide +kernel
  refine .intro rfl again ?_ rfl
  rw [isOne]
  exact List.mem_cons_self

theorem used_again_after_failure_copied :
    remotePlace.Follows copyPlace ∧ remotePlace.IsUsed ∧ ¬ copyPlace.IsUsed := by
  have copy : (World.fetch "http://h/a" remotePlace.turn.console.world).1.toOption =
      some "/work/a" := by
    decide +kernel
  have answers {answer : Except Fault String} (given : remotePlace.Answers answer) :
      answer.toOption = some "/work/a" := by
    obtain ⟨-, path, isPath, rfl⟩ := given
    have samePath : "http://h/a" = path := TokenKind.path.inj isPath
    rw [← samePath]
    exact copy
  have present : copyPlace.turn.console.world.files.contains "/work/a" = true := by
    decide +kernel
  have keeps : remotePlace.KeepsCopy copyPlace := by
    intro path given _
    have samePath : path = "/work/a" := Option.some.inj (answers given)
    rw [samePath]
    exact present
  have front : (replaceTokens (Eval.run remotePlace.bound) remotePlace.front
      remotePlace.run).1.toOption = some (some [⟨Token.literal "x", false⟩]) := by
    decide +kernel
  have used : remotePlace.IsUsed :=
    ⟨⟨by decide +kernel, _, eq_ok_of_toOption front⟩, by decide +kernel⟩
  refine ⟨remotePlace_follows, used, ?_⟩
  obtain ⟨once, -⟩ := used_again_after_failure [remotePlace, copyPlace]
    (.cons_cons remotePlace_follows (.singleton _)) (List.pairwise_pair.mpr keeps)
  intro usedAgain
  obtain ⟨⟨fault, failed⟩, -⟩ := List.pairwise_pair.mp once used usedAgain
  cases answers failed

/-- One remote file is in a line and cannot be fetched. It is asked for twice, as the substitution
behind it makes the line be read again. -/
theorem fetches_failing_file_twice :
    let line := "x @http://h/a `numbersMode`"
    let ended := Eval.run 4 (.line line) (continuingRun emptyWorld)
    (Tokenization.ofText line).tokens = [Token.literal "x", Token.path "http://h/a",
        ⟨.substitution "numbersMode", "`numbersMode`"⟩] ∧
      ended.1.toOption = some true ∧
      ended.2.console.world.journal.filterMap Event.requestedUri? =
        ["http://h/a", "http://h/a"] := by
  refine ⟨?_, ?_, ?_⟩ <;> decide +kernel

/-- A world in which the first request for a remote file fails and the later ones do not. -/
def recoveringWorld : World :=
  { copyingWorld with
    fetcher := fun journal uri => if journal.isEmpty then .error (.fetch uri) else .ok "/work/a" }

/-- The copy that the second request leads to is not asked for any more. -/
example :
    (Eval.run 4 (.line "x @http://h/a `numbersMode`")
        (continuingRun recoveringWorld)).2.console.world.journal.filterMap Event.requestedUri? =
      ["http://h/a", "http://h/a"] := by
  decide +kernel

end Eval

end MachineConsole
