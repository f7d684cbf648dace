import TreePredicate.Proofs.Notation.Derivation
import TreePredicate.Proofs.Notation.Piece

/-!
# Failures that are no parse errors

Almost everything that is wrong with a text is reported as a parse error. Two kinds of literals are
not: integers with digits past the limit, and patterns that are refused though not for their syntax.

* `Failure.IsParseError`, `FailsOtherwise` : failures that say where the text is wrong, and others;
* `LongLiteral`, `CutsTo` : the integer literals with too many digits, and how tokens are cut off a
  text up to one;
* `tokensFrom_failsOtherwise_iff` : cutting off tokens fails otherwise exactly if it comes to one;
* `patternOf_failsOtherwise_iff` : the patterns that cannot be read though not for their syntax.
-/

set_option autoImplicit false

namespace TreePredicate.Notation

/-! ## Failures -/

/-- A failure that says what is wrong with the text and where: a token, the grammar, fields in
conflict, or the syntax of a pattern. -/
inductive Failure.IsParseError : Failure → Prop where
  | lexical {fault : LexicalFault} {offset : Nat} : IsParseError (.lexical fault offset)
  | grammar {expected found : String} {offset : Nat} : IsParseError (.grammar expected found offset)
  | ambiguous {conflict : Conflict} {offset : Nat} : IsParseError (.ambiguous conflict offset)
  | pattern {source message : String} {position : Option Nat} {offset : Nat} :
      IsParseError (.pattern source (.malformed message position) offset)

/-- Something fails, and not by a parse error. -/
def FailsOtherwise {α : Type} (r : Except Failure α) : Prop :=
  ∃ failure, r = .error failure ∧ ¬ failure.IsParseError

section
variable {α β : Type}

theorem not_failsOtherwise_ok (a : α) : ¬ FailsOtherwise (.ok a) := by
  rintro ⟨failure, h, -⟩
  cases h

theorem not_failsOtherwise_expected (what : String) (ts : List Token) :
    ¬ FailsOtherwise (expected what ts : Except Failure α) := by
  rintro ⟨failure, h, hnot⟩
  cases ts <;> cases h <;> exact hnot .grammar

theorem failsOtherwise_bind {x : Except Failure α} {f : α → Except Failure β} :
    FailsOtherwise (x >>= f) ↔ FailsOtherwise x ∨ ∃ a, x = .ok a ∧ FailsOtherwise (f a) := by
  cases x with
  | error failure => simp [FailsOtherwise, bind, Except.bind]
  | ok a => simp [FailsOtherwise, bind, Except.bind]

end

/-! ## Literals -/

/-- A text starts with an integer literal that has more digits than are read. -/
def LongLiteral (chars : List Char) : Prop :=
  ∃ n, Numeral.read? chars = some n ∧ n.isDecimal = false ∧
    Pattern.Fault.digitsAllowed < n.whole.length ∧
    (n.tail = [] ∨ ∃ width, Width.ofSuffix (String.ofList n.tail) = .ok width)

/-- Tokens and blanks can be cut off a text, so that another text is left at some place. -/
inductive CutsTo : Nat → List Char → Nat → List Char → Prop where
  | here {offset : Nat} {chars : List Char} : CutsTo offset chars offset chars
  | next {offset place more : Nat} {c : Char} {rest left : List Char} {content? : Option Content}
      (h : lexeme offset c rest = .ok (content?, more))
      (hrest : CutsTo (offset + 1 + more) (rest.drop more) place left) :
      CutsTo offset (c :: rest) place left

theorem value_failsOtherwise_iff {n : Numeral} {offset : Nat} :
    FailsOtherwise (n.value offset) ↔
      n.isDecimal = false ∧ Pattern.Fault.digitsAllowed < n.whole.length := by
  unfold Numeral.value
  split
  · next hdecimal =>
    rw [hdecimal]
    simp only [Bool.true_eq_false, false_and, iff_false]
    split
    · rintro ⟨failure, h, hnot⟩
      cases h
      exact hnot .lexical
    · exact not_failsOtherwise_ok _
  · next hdecimal =>
    split
    · next hlong =>
      refine ⟨fun _ => ⟨by simpa using hdecimal, hlong⟩, fun _ => ⟨_, rfl, ?_⟩⟩
      rintro ⟨⟩
    · next hshort =>
      exact ⟨fun h => absurd h (not_failsOtherwise_ok _), fun h => absurd h.2 hshort⟩

theorem content_failsOtherwise_iff {n : Numeral} {text : List Char} {offset : Nat} :
    FailsOtherwise (n.content text offset) ↔ n.isDecimal = false ∧
      Pattern.Fault.digitsAllowed < n.whole.length ∧
      (n.tail = [] ∨ ∃ width, Width.ofSuffix (String.ofList n.tail) = .ok width) := by
  have hvalue : ∀ f : Number → Content,
      FailsOtherwise (n.value offset >>= fun value => return f value) ↔
        n.isDecimal = false ∧ Pattern.Fault.digitsAllowed < n.whole.length := by
    intro f
    rw [failsOtherwise_bind, value_failsOtherwise_iff, or_iff_left]
    rintro ⟨value, -, h⟩
    exact not_failsOtherwise_ok _ h
  unfold Numeral.content
  split
  · next htail =>
    rw [hvalue]
    simp [htail]
  · next htail =>
    split
    · next width hwidth =>
      rw [hvalue]
      simp [hwidth]
    · next fault hfault =>
      have hnot : ¬ (n.tail = [] ∨ ∃ width, Width.ofSuffix (String.ofList n.tail) = .ok width) := by
        rintro (h | ⟨width, h⟩)
        · exact htail h
        · simp [hfault] at h
      refine iff_of_false ?_ fun h => hnot h.2.2
      split
      · exact not_failsOtherwise_ok _
      · rintro ⟨failure, h, hfailure⟩
        cases h
        exact hfailure .lexical

theorem LongLiteral.start {c : Char} {rest : List Char} (h : LongLiteral (c :: rest)) :
    Text.isBlank c = false ∧ c ≠ '"' := by
  obtain ⟨n, hread, -⟩ := h
  exact start_of_read? hread

theorem lexeme_failsOtherwise_iff {offset : Nat} {c : Char} {rest : List Char} :
    FailsOtherwise (lexeme offset c rest) ↔ LongLiteral (c :: rest) := by
  have hlexical : ∀ {α : Type} {fault : LexicalFault} {place : Nat},
      ¬ FailsOtherwise (.error (.lexical fault place) : Except Failure α) := by
    rintro α fault place ⟨failure, h, hnot⟩
    cases h
    exact hnot .lexical
  unfold lexeme
  split
  · next hblank =>
    exact iff_of_false (not_failsOtherwise_ok _) fun h => by simp [h.start] at hblank
  · split
    · next body hbody =>
      have hquote : c = '"' := by
        by_contra hne
        simp [hne] at hbody
      refine iff_of_false ?_ fun h => h.start.2 hquote
      split
      · exact not_failsOtherwise_ok _
      · exact hlexical
    · split
      · next numeral hread =>
        rw [failsOtherwise_bind, content_failsOtherwise_iff]
        constructor
        · rintro (h | ⟨content, -, h⟩)
          · exact ⟨numeral, hread, h⟩
          · exact absurd h (not_failsOtherwise_ok _)
        · rintro ⟨n, hn, h⟩
          cases hread.symm.trans hn
          exact .inl h
      · next hnone =>
        refine iff_of_false ?_ fun ⟨n, hn, _⟩ => by simp [hnone] at hn
        split
        · exact not_failsOtherwise_ok _
        · split
          · exact not_failsOtherwise_ok _
          · split
            · exact not_failsOtherwise_ok _
            · exact hlexical

theorem tokensFrom_failsOtherwise_iff {offset : Nat} {chars : List Char} :
    FailsOtherwise (tokensFrom offset chars) ↔
      ∃ place left, CutsTo offset chars place left ∧ LongLiteral left := by
  constructor
  · intro h
    fun_induction tokensFrom offset chars with
    | case1 offset => exact absurd h (not_failsOtherwise_ok _)
    | case2 offset c rest ih =>
      rcases failsOtherwise_bind.mp h with h | ⟨⟨content?, more⟩, hlexeme, h⟩
      · exact ⟨offset, c :: rest, .here, lexeme_failsOtherwise_iff.mp h⟩
      · rcases failsOtherwise_bind.mp h with h | ⟨later, -, h⟩
        · obtain ⟨place, left, hcuts, hlong⟩ := ih _ h
          exact ⟨place, left, .next hlexeme hcuts, hlong⟩
        · cases content? <;> exact absurd h (not_failsOtherwise_ok _)
  · rintro ⟨place, left, hcuts, hlong⟩
    induction hcuts with
    | @here offset chars =>
      cases chars with
      | nil =>
        obtain ⟨n, hn, -⟩ := hlong
        cases hn
      | cons c rest =>
        rw [tokensFrom]
        exact failsOtherwise_bind.mpr (.inl (lexeme_failsOtherwise_iff.mpr hlong))
    | next hlexeme _ ih =>
      rw [tokensFrom]
      exact failsOtherwise_bind.mpr (.inr ⟨_, hlexeme, failsOtherwise_bind.mpr (.inl (ih hlong))⟩)

/-! ## Patterns -/

theorem patternOf_failsOtherwise_iff [Room] {source : String} {offset : Nat} :
    FailsOtherwise (patternOf source offset) ↔ ∃ fault,
      Pattern.compileAt source offset = .error fault ∧
        ∀ message position, fault ≠ .malformed message position := by
  unfold patternOf
  split
  · next p hcompile => simp [hcompile, not_failsOtherwise_ok]
  · next fault hcompile =>
    rw [hcompile]
    constructor
    · rintro ⟨failure, h, hnot⟩
      cases h
      refine ⟨fault, rfl, ?_⟩
      rintro message position rfl
      exact hnot .pattern
    · rintro ⟨_, hfault, hnot⟩
      cases hfault
      refine ⟨_, rfl, ?_⟩
      rintro ⟨⟩
      exact hnot _ _ rfl

end TreePredicate.Notation
