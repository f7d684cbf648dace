import TreePredicate.Proofs.Notation.Failing
import TreePredicate.Proofs.Notation.ParseError
import TreePredicate.Proofs.Notation.Segmentation

/-!
# Places of parse errors

Every parse error has a place in the text, and what is wrong stands there.

* `LexicalAt`, `lexicalAt_of_tokensFrom` : a text that cannot be cut into tokens is wrong at one of its
  characters;
* `PointsAt` : what stands at the place of a parse error: a character, a token, the source of a pattern
  behind a tilde, or the path of a field that is in conflict with others;
* `parseError_points` : a parse error points at it, and its message names its place and the text.
-/

set_option autoImplicit false

namespace TreePredicate.Notation

/-! ## Characters -/

/-- The place of a wrong escape is inside the quoted text. -/
theorem units_eq_error {offset place : Nat} {chars : List Char} {fault : Text.Quoted.Fault}
    (h : Text.Quoted.units offset chars = .error (fault, place)) :
    offset ≤ place ∧ place < offset + chars.length := by
  have hmap : ∀ {f : List Nat → List Nat} {r : Except (Text.Quoted.Fault × Nat) (List Nat)},
      r.map f = .error (fault, place) → r = .error (fault, place) := by
    intro f r hr
    cases r with
    | ok units => cases hr
    | error e => exact hr
  fun_induction Text.Quoted.units offset chars with
  | case1 => cases h
  | case2 offset a b c d rest unit hunit ih =>
    have := ih (hmap h)
    simp only [List.length_cons]
    omega
  | case3 | case4 =>
    cases h
    simp only [List.length_cons]
    omega
  | case5 offset c rest hlong hletter meant hmeant ih =>
    have := ih (hmap h)
    simp only [List.length_cons]
    omega
  | case6 =>
    cases h
    simp only [List.length_cons]
    omega
  | case7 offset c rest hlong hescape ih =>
    have := ih (hmap h)
    simp only [List.length_cons]
    omega

theorem decode_eq_error {offset place : Nat} {chars : List Char} {fault : Text.Quoted.Fault}
    (h : Text.Quoted.decode offset chars = .error (fault, place)) :
    offset ≤ place ∧ place < offset + chars.length := by
  unfold Text.Quoted.decode at h
  cases hunits : Text.Quoted.units offset chars with
  | ok units =>
    rw [hunits] at h
    cases h
  | error e =>
    rw [hunits] at h
    cases h
    exact units_eq_error hunits

/-- What is wrong with a text between two places is a character between them, or an integer literal has
too many digits. -/
inductive LexicalAt (start stop : Nat) : Failure → Prop where
  | lexical {fault : LexicalFault} {place : Nat} (hstart : start ≤ place) (hstop : place < stop) :
      LexicalAt start stop (.lexical fault place)
  | tooManyDigits {digits : Nat} : LexicalAt start stop (.tooManyDigits digits)

section Lexical

variable {start start' stop stop' offset : Nat} {failure : Failure}

theorem LexicalAt.widen (h : LexicalAt start stop failure) (hstart : start' ≤ start)
    (hstop : stop ≤ stop') : LexicalAt start' stop' failure := by
  cases h with
  | lexical hle hlt => exact .lexical (Nat.le_trans hstart hle) (Nat.lt_of_lt_of_le hlt hstop)
  | tooManyDigits => exact .tooManyDigits

theorem lexicalAt_of_value {n : Numeral} (h : n.value offset = .error failure) :
    LexicalAt offset (offset + 1) failure := by
  unfold Numeral.value at h
  split at h
  · split at h
    · cases h
      exact .lexical (Nat.le_refl _) (Nat.lt_succ_self _)
    · cases h
  · split at h
    · cases h
      exact .tooManyDigits
    · cases h

theorem lexicalAt_of_content {n : Numeral} {text : List Char}
    (h : n.content text offset = .error failure) : LexicalAt offset (offset + 1) failure := by
  unfold Numeral.content at h
  split at h
  · exact lexicalAt_of_value (error_of_bind_pure h)
  · split at h
    · exact lexicalAt_of_value (error_of_bind_pure h)
    · split at h
      · cases h
      · cases h
        exact .lexical (Nat.le_refl _) (Nat.lt_succ_self _)

theorem lexicalAt_of_lexeme {c : Char} {rest : List Char} (h : lexeme offset c rest = .error failure) :
    LexicalAt offset (offset + (c :: rest).length) failure := by
  have hlength : offset + 1 ≤ offset + (c :: rest).length := by
    rw [List.length_cons]
    omega
  unfold lexeme at h
  split at h
  · cases h
  · split at h
    · next body hbody =>
      split at h
      · cases h
      · next fault place hdecode =>
        cases h
        split at hbody
        · obtain ⟨⟨left, rfl⟩, -⟩ := quotedBody?_eq_some hbody
          obtain ⟨hle, hlt⟩ := decode_eq_error hdecode
          refine .lexical (by omega) ?_
          simp only [List.length_cons, List.length_append]
          omega
        · cases hbody
    · split at h
      · exact (lexicalAt_of_content (error_of_bind_pure h)).widen (Nat.le_refl _) hlength
      · split at h
        · cases h
        · split at h
          · cases h
          · split at h
            · cases h
            · cases h
              exact .lexical (Nat.le_refl _) hlength

/-- A text that cannot be cut into tokens is wrong at one of its characters. -/
theorem lexicalAt_of_tokensFrom {chars : List Char} (h : tokensFrom offset chars = .error failure) :
    LexicalAt offset (offset + chars.length) failure := by
  fun_induction tokensFrom offset chars with
  | case1 => cases h
  | case2 offset c rest ih =>
    rcases error_of_bind h with h | ⟨⟨content?, more⟩, hlexeme, h⟩
    · exact lexicalAt_of_lexeme h
    · rcases error_of_bind h with h | ⟨later, -, h⟩
      · have hne : rest.drop more ≠ [] := by
          intro hnil
          rw [hnil, tokensFrom] at h
          cases h
        have hmore := List.length_pos_iff.mpr hne
        rw [List.length_drop] at hmore
        refine (ih _ h).widen (by omega) ?_
        rw [List.length_drop, List.length_cons]
        omega
      · cases content? <;> cases h

end Lexical

/-! ## Tokens -/

/-- What stands at the place of a parse error: a character, the token that was found, the source of a
pattern behind a tilde, or the path of a field that is not negated. -/
inductive PointsAt [Room] (text : String) : Failure → Prop where
  | lexical {fault : LexicalFault} {offset : Nat} (h : offset < text.length) :
      PointsAt text (.lexical fault offset)
  | token {what : String} {tokens : List Token} {token : Token}
      (htokens : tokenize text = .ok tokens) (hmem : token ∈ tokens) (hstop : token.content ≠ .stop) :
      PointsAt text (.grammar what (Text.shown token.text) token.start)
  | ending {what : String} {tokens : List Token} {token : Token}
      (htokens : tokenize text = .ok tokens) (hmem : token ∈ tokens) (hstop : token.content = .stop) :
      PointsAt text (.grammar what "end of input" token.start)
  | pattern {before rest : List Token} {tilde quoted : Token} {source : String}
      {fault : Pattern.Fault} (htokens : tokenize text = .ok (before ++ tilde :: quoted :: rest))
      (htilde : tilde.content = .sign .tilde) (hquoted : quoted.content = .quoted source) :
      PointsAt text (.pattern source fault quoted.start)
  | ambiguous {before inside : List Token} {opening : Token} {depth place : Nat} {conflict : Conflict}
      (htokens : tokenize text = .ok (before ++ opening :: inside))
      (hleads : Leads .predicate before depth) (hopening : opening.content = .sign .openBrace)
      (hconflict : Conflicts .empty inside conflict place) : PointsAt text (.ambiguous conflict place)

section Tokens

variable {text : String} {tokens : List Token} {failure : Failure}

/-- Tokens start in the text or at its end. -/
theorem start_le_length (h : tokenize text = .ok tokens) :
    ∀ token ∈ tokens, token.start ≤ text.length := by
  obtain ⟨body, rfl, hsegmented⟩ := segmented_of_tokensFrom h
  rw [String.length_toList, Nat.zero_add]
  refine List.forall_mem_append.mpr ⟨fun token htoken => ?_, List.forall_mem_singleton.mpr (Nat.le_refl _)⟩
  have hwithin := hsegmented.within token htoken
  rw [String.length_toList] at hwithin
  omega

/-- A conflict has the place of a token. -/
theorem exists_token_of_conflicts [Room] {draft : Draft} {ts : List Token} {conflict : Conflict} {place : Nat}
    (h : Conflicts draft ts conflict place) : ∃ token ∈ ts, token.start = place := by
  induction h with
  | here => exact ⟨_, by simp, rfl⟩
  | behind _ _ _ _ ih =>
    obtain ⟨token, hmem, hstart⟩ := ih
    exact ⟨token, by simp [hmem], hstart⟩

/-- A parse error has a place in the text. -/
theorem PointsAt.exists_offset [Room] (h : PointsAt text failure) (herror : failure.IsParseError) :
    ∃ offset ≤ text.length, failure.offset? = some offset := by
  cases h with
  | lexical h => exact ⟨_, Nat.le_of_lt h, rfl⟩
  | token htokens hmem _ => exact ⟨_, start_le_length htokens _ hmem, rfl⟩
  | ending htokens hmem _ => exact ⟨_, start_le_length htokens _ hmem, rfl⟩
  | @pattern _ _ _ quoted _ _ htokens _ _ =>
    cases herror
    exact ⟨_, start_le_length htokens quoted (by simp), rfl⟩
  | ambiguous htokens _ _ hconflict =>
    obtain ⟨token, hmem, rfl⟩ := exists_token_of_conflicts hconflict
    exact ⟨_, start_le_length htokens token (by simp [hmem]), rfl⟩

theorem pointsAt_of_misses [Room] (htokens : tokenize text = .ok tokens) (h : Misses tokens failure) :
    PointsAt text failure := by
  obtain ⟨before, after, what, rfl, hbefore, rfl⟩ := h
  obtain ⟨body, stop, hbody, hstop, -⟩ := tokensFrom_eq_ok htokens
  obtain ⟨token, rest, rfl⟩ := exists_token_of_noStop hstop hbody hbefore
  have hmem : token ∈ before ++ token :: rest := by simp
  show PointsAt text (.grammar what (foundText token) token.start)
  unfold foundText
  split
  · next hstop => exact .ending htokens hmem hstop
  · next hstop => exact .token htokens hmem hstop

theorem pointsAt_of_halts [Room] {levels : Nat} (htokens : tokenize text = .ok tokens)
    (h : Halts levels .predicate tokens failure) : PointsAt text failure := by
  cases h with
  | misses h => exact pointsAt_of_misses htokens h
  | within hleads _ h =>
    cases h with
    | pattern htilde hquoted _ => exact .pattern htokens htilde hquoted
    | group hopening h => exact .ambiguous htokens hleads hopening h

theorem pointsAt_of_parseTokens [Room] (htokens : tokenize text = .ok tokens)
    (h : parseTokens tokens = .error failure) : PointsAt text failure := by
  rcases parseTokens_eq_error h with h | ⟨opening, inside, inner, rfl, hopening, -, hhalts⟩
  · exact pointsAt_of_misses htokens h
  · exact pointsAt_of_halts htokens (halts_group hopening hhalts)

/-- A parse error points at what is wrong in the text, and its message says where this is. -/
theorem parseError_points [Room] (h : parse text = .error failure) (herror : failure.IsParseError) :
    PointsAt text failure ∧ ∃ offset ≤ text.length, failure.offset? = some offset ∧
      failure.message text =
        failure.reason ++ " at offset " ++ toString offset ++ ": " ++ Text.shown text := by
  have hpoints : PointsAt text failure := by
    rcases error_of_bind h with h | ⟨tokens, htokens, h⟩
    · cases lexicalAt_of_tokensFrom h with
      | lexical _ hlt =>
        rw [String.length_toList, Nat.zero_add] at hlt
        exact .lexical hlt
      | tooManyDigits => cases herror
    · exact pointsAt_of_parseTokens htokens h
  obtain ⟨offset, hle, hoffset⟩ := hpoints.exists_offset herror
  refine ⟨hpoints, offset, hle, hoffset, ?_⟩
  unfold Failure.message
  rw [hoffset]

end Tokens

/-- A field in conflict with another one, behind a negated one, in a group in a list. -/
def clashing : String := "\x7ba: ~[\x7b!x: 1, b: 1, b.c: 2\x7d]\x7d"

theorem parseError_points_clashing :
    ∃ failure, parse clashing = .error failure ∧ failure.IsParseError ∧ PointsAt clashing failure ∧
      ∃ offset ≤ clashing.length, failure.offset? = some offset ∧
        failure.message clashing =
          failure.reason ++ " at offset " ++ toString offset ++ ": " ++ Text.shown clashing := by
  have hparse : parse clashing = .error (.ambiguous ⟨[.key "b"], .memberOfFinished⟩ 20) := by
    unfold clashing
    cbv
  exact ⟨_, hparse, .ambiguous, parseError_points hparse .ambiguous⟩

end TreePredicate.Notation
