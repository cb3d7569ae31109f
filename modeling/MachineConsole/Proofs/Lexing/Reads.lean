import MachineConsole.Proofs.Lexing.Extent

/-!
Contract: the successful readings of a text.

Owns:
- `Reads`, the relation between a text and the tokens it consists of, with one step for each token;
- `ofCharacters_eq_iff`: reading succeeds with some tokens exactly when the text consists of them;
- what every token of a text has in common: its raw text is a part of that text which is not empty
  and does not begin with a blank;
- texts that begin with a token, are one token, or begin with a form that cannot be decoded.

The bound that reading counts down does not appear in `Reads`.
-/

namespace MachineConsole.Tokenization

open LexicalRule (first? first?_bounded)
open Text (isBlank trimStart)

/-- The tokens that a text consists of, with blanks around them. -/
inductive Reads : List Char → List Token → Prop where
  | done {text : List Char} (blank : trimStart text = []) : Reads text []
  | token {text : List Char} {kind : TokenKind} {length : Nat} {tokens : List Token}
      (applies : first? (trimStart text) = some (.token kind length))
      (behind : Reads ((trimStart text).drop length) tokens) :
      Reads text (⟨kind, String.ofList ((trimStart text).take length)⟩ :: tokens)

/-- The outcome of a reading that consumed everything. -/
def complete (tokens : List Token) : Tokenization :=
  ⟨tokens, [], none⟩

theorem cons_eq_complete_iff {token : Token} {result : Tokenization} {tokens : List Token} :
    result.cons token = complete tokens ↔
      ∃ more, tokens = token :: more ∧ result = complete more := by
  obtain ⟨found, rest, fault⟩ := result
  constructor
  · intro same
    obtain ⟨rfl, rfl, rfl⟩ := Tokenization.mk.inj same
    exact ⟨found, rfl, rfl⟩
  · rintro ⟨more, rfl, same⟩
    rw [same]
    rfl

theorem reads_nil_iff {tokens : List Token} : Reads [] tokens ↔ tokens = [] := by
  constructor
  · intro reads
    cases reads with
    | done => rfl
    | token applies behind =>
        have bounded := first?_bounded _ _ _ applies
        simp [trimStart] at bounded
        omega
  · rintro rfl
    exact .done rfl

theorem length_drop_lt {text : List Char} {kind : TokenKind} {length bound : Nat}
    (applies : first? (trimStart text) = some (.token kind length))
    (within : text.length ≤ bound + 1) : ((trimStart text).drop length).length ≤ bound := by
  have bounded := first?_bounded _ _ _ applies
  have shorter : (trimStart text).length ≤ text.length :=
    List.IsSuffix.length_le <| List.dropWhile_suffix isBlank
  rw [List.length_drop]
  omega

/-- A bound that suffices does not show in the outcome. -/
theorem scan_eq_complete_iff {bound : Nat} {text : List Char} {tokens : List Token}
    (within : text.length ≤ bound) : scan bound text = complete tokens ↔ Reads text tokens := by
  induction bound generalizing text tokens with
  | zero =>
      obtain rfl : text = [] := List.length_eq_zero_iff.mp (Nat.le_zero.mp within)
      rw [reads_nil_iff]
      simp [scan, complete, trimStart, eq_comm]
  | succ bound inductionHypothesis =>
      constructor
      · intro scanned
        unfold scan at scanned
        split at scanned
        · rename_i blank
          obtain ⟨rfl, -, -⟩ := Tokenization.mk.inj scanned
          exact .done blank
        · rename_i first more begins
          rw [← begins] at scanned
          split at scanned
          · exact absurd (Tokenization.mk.inj scanned).2.1 (by simp [begins])
          · exact absurd (Tokenization.mk.inj scanned).2.1 (by simp [begins])
          · rename_i kind length applies
            obtain ⟨tokens, rfl, scannedBehind⟩ := cons_eq_complete_iff.mp scanned
            exact .token applies ((inductionHypothesis (length_drop_lt applies within)).mp
              scannedBehind)
      · intro reads
        unfold scan
        cases reads with
        | done blank => simp [blank, complete]
        | token applies behind =>
            have scannedBehind :=
              (inductionHypothesis (length_drop_lt applies within)).mpr behind
            cases begins : trimStart text with
            | nil =>
                have bounded := first?_bounded _ _ _ applies
                simp [begins] at bounded
                omega
            | cons first more =>
                rw [begins] at applies scannedBehind
                simp only [applies, scannedBehind]
                rfl

theorem ofCharacters_eq_iff {text : List Char} {tokens : List Token} :
    ofCharacters text = complete tokens ↔ Reads text tokens :=
  scan_eq_complete_iff (Nat.le_refl _)

/-- A reading that leaves nothing over has no fault. -/
theorem scan_eq_complete_of_succeeded {bound : Nat} {text : List Char}
    (success : (scan bound text).succeeded = true) :
    scan bound text = complete (scan bound text).tokens := by
  induction bound generalizing text with
  | zero =>
      have blank : trimStart text = [] := by simpa [scan, succeeded] using success
      simp [scan, complete, blank]
  | succ bound inductionHypothesis =>
      unfold scan at success ⊢
      split at success
      · rfl
      · split at success
        · contradiction
        · contradiction
        · rename_i first more _ kind length applies
          exact cons_eq_complete_iff.mpr ⟨_, rfl, inductionHypothesis success⟩

theorem succeeded_iff_reads {text : List Char} {tokens : List Token} :
    (ofCharacters text).succeeded = true ∧ (ofCharacters text).tokens = tokens ↔
      Reads text tokens := by
  rw [← ofCharacters_eq_iff]
  constructor
  · rintro ⟨success, rfl⟩
    exact scan_eq_complete_of_succeeded success
  · intro same
    rw [same]
    exact ⟨rfl, rfl⟩

/-- Blanks in front of a text do not count. -/
theorem Reads.of_trimStart_eq {text other : List Char} {tokens : List Token}
    (sameStart : trimStart other = trimStart text) (reads : Reads text tokens) :
    Reads other tokens := by
  cases reads with
  | done blank => exact .done (sameStart.trans blank)
  | token applies behind =>
      rw [← sameStart] at applies behind ⊢
      exact .token applies behind

theorem trimStart_begins {text more : List Char} {first : Char}
    (begins : trimStart text = first :: more) : isBlank first = false := by
  have notBlank := List.head?_dropWhile_not isBlank text
  rw [show text.dropWhile isBlank = first :: more from begins] at notBlank
  exact notBlank

theorem trimStart_of_not_blank {first : Char} (more : List Char)
    (notBlank : isBlank first = false) : trimStart (first :: more) = first :: more :=
  List.dropWhile_cons_of_neg (by simp [notBlank])

/-- The raw text of a token is a part of the text it was read from. -/
theorem Reads.raw_within {text : List Char} {tokens : List Token} (reads : Reads text tokens) :
    ∀ token ∈ tokens, token.raw.toList <:+: text := by
  induction reads with
  | done => simp
  | @token text kind length tokens applies behind inductionHypothesis =>
      have trimmed : trimStart text <:+: text := (List.dropWhile_suffix isBlank).isInfix
      rw [List.forall_mem_cons]
      constructor
      · rw [String.toList_ofList]
        have taken : (trimStart text).take length <:+: trimStart text :=
          List.IsPrefix.isInfix <| List.take_prefix _ _
        exact taken.trans trimmed
      · intro token member
        have dropped : (trimStart text).drop length <:+: trimStart text :=
          List.IsSuffix.isInfix <| List.drop_suffix _ _
        exact (inductionHypothesis token member).trans (dropped.trans trimmed)

/-- The raw text of a token begins with a character that is not blank. -/
theorem Reads.raw_begins {text : List Char} {tokens : List Token} (reads : Reads text tokens) :
    ∀ token ∈ tokens, ∃ first more, token.raw.toList = first :: more ∧ isBlank first = false := by
  induction reads with
  | done => simp
  | @token text kind length tokens applies behind inductionHypothesis =>
      rw [List.forall_mem_cons]
      refine ⟨?_, inductionHypothesis⟩
      have bounded := first?_bounded _ _ _ applies
      cases begins : trimStart text with
      | nil =>
          simp only [begins, List.length_nil] at bounded
          omega
      | cons first more =>
          obtain ⟨taken, rfl⟩ : ∃ taken, length = taken + 1 := ⟨length - 1, by omega⟩
          exact ⟨first, more.take taken, String.toList_ofList, trimStart_begins begins⟩

/-! ### Reading from the left -/

/-- The bound does not matter as long as it is not less than the length of the text. -/
theorem scan_eq_of_le {bound other : Nat} {text : List Char} (within : text.length ≤ bound)
    (withinOther : text.length ≤ other) : scan bound text = scan other text := by
  induction bound generalizing other text with
  | zero =>
      obtain rfl : text = [] := List.length_eq_zero_iff.mp (Nat.le_zero.mp within)
      cases other <;> rfl
  | succ bound inductionHypothesis =>
      cases other with
      | zero =>
          obtain rfl : text = [] := List.length_eq_zero_iff.mp (Nat.le_zero.mp withinOther)
          rfl
      | succ other =>
          unfold scan
          split
          · rfl
          · next first more begins =>
              split
              · rfl
              · rfl
              · next kind length applies =>
                  rw [← begins] at applies ⊢
                  rw [inductionHypothesis (length_drop_lt applies within)
                    (length_drop_lt applies withinOther)]

/-- The token at the beginning of a text, and then what is behind it. -/
theorem ofCharacters_token {first : Char} {more : List Char} {kind : TokenKind} {length : Nat}
    (notBlank : isBlank first = false)
    (applies : first? (first :: more) = some (.token kind length)) :
    ofCharacters (first :: more) = (ofCharacters ((first :: more).drop length)).cons
      ⟨kind, String.ofList ((first :: more).take length)⟩ := by
  have trimmed := trimStart_of_not_blank more notBlank
  have shorter : ((first :: more).drop length).length ≤ more.length := by
    rw [← trimmed] at applies ⊢
    exact length_drop_lt applies (Nat.le_refl _)
  have sameReading : scan more.length ((first :: more).drop length) =
      ofCharacters ((first :: more).drop length) :=
    scan_eq_of_le shorter (Nat.le_refl _)
  rw [← sameReading]
  conv => lhs; unfold ofCharacters; rw [List.length_cons]; unfold scan
  simp only [trimmed, applies]

/-! ### Texts that are read at once -/

/-- A text whose first token is all of it has no other token. -/
theorem ofCharacters_single {first : Char} {more : List Char} {kind : TokenKind}
    (notBlank : isBlank first = false)
    (applies : first? (first :: more) = some (.token kind (more.length + 1))) :
    ofCharacters (first :: more) = complete [⟨kind, String.ofList (first :: more)⟩] := by
  have whole : (first :: more).take (more.length + 1) = first :: more :=
    List.take_of_length_le (Nat.le_refl _)
  have nothing : (first :: more).drop (more.length + 1) = [] :=
    List.drop_of_length_le (Nat.le_refl _)
  rw [ofCharacters_token notBlank applies, whole, nothing]
  rfl

/-- A text whose first token cannot be decoded is left over. -/
theorem ofCharacters_malformed {first : Char} {more : List Char} {cause : Refusal}
    (notBlank : isBlank first = false)
    (fails : first? (first :: more) = some (.malformed cause)) :
    ofCharacters (first :: more) = ⟨[], first :: more, some (.refused cause)⟩ := by
  unfold ofCharacters
  rw [List.length_cons]
  unfold scan
  simp only [trimStart_of_not_blank more notBlank, fails]

end MachineConsole.Tokenization
