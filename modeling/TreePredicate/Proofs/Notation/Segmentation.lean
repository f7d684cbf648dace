import TreePredicate.Proofs.Notation.Acceptance
import TreePredicate.Proofs.Notation.Extent

/-!
# Tokens as parts of a text

The tokens of a text are parts of it, in order and apart from each other, and all that is between them
is blank. So a text can be put together again from its tokens, with single blanks between them, and it
has the same tokens.

* `Segmented` : characters from a place on are tokens and blanks; `segmented_of_tokensFrom` : and so is
  every text that has tokens;
* `Segmentation` : what that means for the places of tokens, and for what is written there;
* `tokensFrom_spaced` : tokens with blanks before them are read as they are meant;
* `tokenize_segments` : both, of the tokens of a text.
-/

set_option autoImplicit false

namespace TreePredicate.Notation

/-! ## Tokens and blanks -/

/-- The characters from a place on are those of some tokens, and blanks. -/
inductive Segmented : Nat → List Char → List Token → Prop
  | nil {offset : Nat} : Segmented offset [] []
  | blank {offset : Nat} {c : Char} {rest : List Char} {body : List Token} :
    Text.isBlank c = true → Segmented (offset + 1) rest body → Segmented offset (c :: rest) body
  | token {offset : Nat} {chars rest : List Char} {content : Content} {body : List Token} :
    Lexes chars content → Segmented (offset + chars.length) rest body →
    Segmented offset (chars ++ rest) (⟨content, String.ofList chars, offset⟩ :: body)

theorem Segmented.blanks {offset : Nat} {blanks rest : List Char} {body : List Token}
    (hblanks : ∀ c ∈ blanks, Text.isBlank c = true)
    (h : Segmented (offset + blanks.length) rest body) : Segmented offset (blanks ++ rest) body := by
  induction blanks generalizing offset with
  | nil => exact h
  | cons c blanks ih =>
    obtain ⟨hc, hblanks⟩ := List.forall_mem_cons.mp hblanks
    rw [List.length_cons, Nat.add_comm blanks.length, ← Nat.add_assoc] at h
    exact .blank hc (ih hblanks h)

/-- A text that has tokens consists of them and of blanks. -/
theorem segmented_of_tokensFrom {offset : Nat} {chars : List Char} {ts : List Token}
    (h : tokensFrom offset chars = .ok ts) :
    ∃ body, ts = body ++ [⟨.stop, "", offset + chars.length⟩] ∧ Segmented offset chars body := by
  fun_induction tokensFrom offset chars generalizing ts with
  | case1 offset =>
    cases h
    exact ⟨[], rfl, .nil⟩
  | case2 offset c rest ih =>
    obtain ⟨⟨content?, more⟩, hlexeme, h⟩ := ok_of_bind h
    obtain ⟨later, hlater, h⟩ := ok_of_bind h
    obtain ⟨body, rfl, hbody⟩ := ih _ hlater
    have hend : ∀ more ≤ rest.length, offset + 1 + more + (rest.drop more).length =
        offset + (c :: rest).length := fun more hmore => by
      rw [List.length_drop, List.length_cons]
      omega
    cases content? with
    | none =>
      cases h
      obtain ⟨hblank⟩ := recognized_of_lexeme hlexeme
      have hblanks : ∀ d ∈ rest.takeWhile Text.isBlank, Text.isBlank d = true :=
        fun d hd => List.mem_takeWhile_imp hd
      obtain ⟨left, hleft⟩ : ∃ left, rest = rest.takeWhile Text.isBlank ++ left :=
        ⟨_, List.takeWhile_append_dropWhile.symm⟩
      generalize rest.takeWhile Text.isBlank = blanks at *
      subst hleft
      refine ⟨body, by rw [hend _ (by simp)], .blank hblank (.blanks hblanks ?_)⟩
      rwa [List.drop_left] at hbody
    | some content =>
      cases h
      obtain ⟨hmore, hlexes⟩ := lexes_of_lexeme hlexeme
      refine ⟨_ :: body, by rw [hend _ hmore]; rfl, ?_⟩
      have hlength : offset + 1 + more = offset + (c :: rest.take more).length := by
        rw [List.length_cons, List.length_take, Nat.min_eq_left hmore]
        omega
      rw [hlength] at hbody
      have htoken := Segmented.token hlexes hbody
      rwa [List.cons_append, List.take_append_drop] at htoken

/-! ## Places of tokens -/

theorem stop_ofList (content : Content) (chars : List Char) (offset : Nat) :
    Token.stop ⟨content, String.ofList chars, offset⟩ = offset + chars.length := by
  rw [Token.stop, String.length_ofList]

section Places

variable {offset : Nat} {chars : List Char} {body : List Token}

/-- Tokens lie between the ends of their text, and none is empty. -/
theorem Segmented.within (h : Segmented offset chars body) :
    ∀ t ∈ body, offset ≤ t.start ∧ t.start < t.stop ∧ t.stop ≤ offset + chars.length := by
  induction h with
  | nil => exact List.forall_mem_nil _
  | blank _ _ ih =>
    intro t ht
    have := ih t ht
    rw [List.length_cons]
    omega
  | @token offset chars rest content body hlexes _ ih =>
    obtain ⟨c, tail, rfl, -⟩ := hlexes
    rw [List.length_append]
    refine List.forall_mem_cons.mpr ⟨?_, fun t ht => ?_⟩
    · rw [stop_ofList, List.length_cons]
      exact ⟨Nat.le_refl offset, show offset < _ by omega, by omega⟩
    · have := ih t ht
      omega

theorem Segmented.apart (h : Segmented offset chars body) :
    body.Pairwise fun a b => a.stop ≤ b.start := by
  induction h with
  | nil => exact .nil
  | blank _ _ ih => exact ih
  | token _ hrest ih =>
    refine .cons (fun t ht => ?_) ih
    rw [stop_ofList]
    exact (hrest.within t ht).1

/-- What is written at the place of a token is the text of the token. -/
theorem Segmented.slices (h : Segmented offset chars body) :
    ∀ t ∈ body, (chars.drop (t.start - offset)).take t.text.length = t.text.toList := by
  induction h with
  | nil => exact List.forall_mem_nil _
  | @blank offset c rest body _ hrest ih =>
    intro t ht
    have := (hrest.within t ht).1
    rw [show t.start - offset = t.start - (offset + 1) + 1 by omega, List.drop_succ_cons]
    exact ih t ht
  | @token offset chars rest content body _ hrest ih =>
    refine List.forall_mem_cons.mpr ⟨?_, fun t ht => ?_⟩
    · rw [Nat.sub_self, List.drop_zero, String.length_ofList, List.take_left, String.toList_ofList]
    · have := (hrest.within t ht).1
      rw [show t.start - offset = chars.length + (t.start - (offset + chars.length)) by omega,
        List.drop_length_add_append]
      exact ih t ht

/-- What is written outside of tokens is blank. -/
theorem Segmented.blank_outside (h : Segmented offset chars body) {i : Nat} {c : Char}
    (hc : chars[i]? = some c) (houtside : ∀ t ∈ body, offset + i < t.start ∨ t.stop ≤ offset + i) :
    Text.isBlank c = true := by
  induction h generalizing i with
  | nil => cases hc
  | blank hblank _ ih =>
    cases i with
    | zero =>
      cases hc
      exact hblank
    | succ i =>
      refine ih hc fun t ht => ?_
      have := houtside t ht
      omega
  | @token offset chars rest content body _ _ ih =>
    obtain ⟨hfirst, hothers⟩ := List.forall_mem_cons.mp houtside
    rw [stop_ofList] at hfirst
    have hi : chars.length ≤ i := hfirst.elim (fun h => absurd h (by simp)) (by omega)
    rw [List.getElem?_append_right hi] at hc
    refine ih hc fun t ht => ?_
    have := hothers t ht
    omega

theorem Segmented.lexes (h : Segmented offset chars body) :
    ∀ t ∈ body, Lexes t.text.toList t.content := by
  induction h with
  | nil => exact List.forall_mem_nil _
  | blank _ _ ih => exact ih
  | token hlexes _ ih =>
    refine List.forall_mem_cons.mpr ⟨?_, ih⟩
    rwa [String.toList_ofList]

end Places

/-- Tokens are the parts of a text, in order and apart from each other; all else in it is blank, and
the last token stands for its end. -/
structure Segmentation (text : String) (tokens : List Token) : Prop where
  ordered : tokens.Pairwise fun a b => a.start < b.start
  apart : tokens.Pairwise fun a b => a.stop ≤ b.start
  slices : ∀ t ∈ tokens, t.stop ≤ text.length ∧
    t.text = String.ofList ((text.toList.drop t.start).take (t.stop - t.start))
  blank_outside : ∀ i c, text.toList[i]? = some c →
    (∀ t ∈ tokens, i < t.start ∨ t.stop ≤ i) → Text.isBlank c = true
  last : ∃ body, tokens = body ++ [⟨.stop, "", text.length⟩] ∧ ∀ t ∈ body, t.content ≠ .stop

/-! ## Tokens with blanks between them -/

theorem Lexes.content_ne_stop {chars : List Char} {content : Content} (h : Lexes chars content) :
    content ≠ .stop := by
  obtain ⟨c, tail, rfl, hlexeme⟩ := h
  exact lexeme_ne_stop (hlexeme 0 [] (starts_nil _))

theorem Lexes.starts {chars : List Char} {content : Content} (h : Lexes chars content)
    (rest : List Char) : Starts (fun c => Text.isBlank c = false) (chars ++ rest) := by
  obtain ⟨c, tail, rfl, hlexeme⟩ := h
  refine starts_cons.mpr ?_
  by_contra hblank
  have := hlexeme 0 [] (starts_nil _)
  rw [lexeme, if_pos (by simpa using hblank)] at this
  cases this

/-- The characters of a token in front of a blank are read as that token. -/
theorem tokensFrom_lexes {chars after : List Char} {content : Content} (h : Lexes chars content)
    (hafter : StartsBlank after) (offset : Nat) {later : List Token}
    (hlater : tokensFrom (offset + chars.length) after = .ok later) :
    tokensFrom offset (chars ++ after) = .ok (⟨content, String.ofList chars, offset⟩ :: later) := by
  obtain ⟨c, tail, rfl, hlexeme⟩ := h
  rw [List.length_cons, Nat.add_comm tail.length, ← Nat.add_assoc] at hlater
  rw [List.cons_append, tokensFrom, hlexeme offset after hafter]
  show (tokensFrom (offset + 1 + tail.length) ((tail ++ after).drop tail.length)).bind _ = _
  rw [List.drop_left, hlater, List.take_left]
  rfl

/-- The characters of tokens, with a blank before each. -/
def spaced (body : List Token) : List Char := body.flatMap fun t => ' ' :: t.text.toList

theorem startsBlank_spaced (body : List Token) : StartsBlank (spaced body) := by
  cases body with
  | nil => exact starts_nil _
  | cons t body => exact starts_cons.mpr (by decide +kernel)

/-- What a token means, and how it is written. -/
def Token.meaning (t : Token) : Content × String := (t.content, t.text)

theorem tokensFrom_blank {offset : Nat} {rest : List Char} {later : List Token}
    (hrest : Starts (fun c => Text.isBlank c = false) rest)
    (hlater : tokensFrom (offset + 1) rest = .ok later) :
    tokensFrom offset (' ' :: rest) = .ok later := by
  rw [tokensFrom, lexeme_blank offset hrest]
  show (tokensFrom (offset + 1 + 0) (rest.drop 0)).bind _ = _
  rw [Nat.add_zero, List.drop_zero, hlater]
  rfl

/-- Tokens with blanks before them are read as they are meant. -/
theorem tokensFrom_spaced {body : List Token} (h : ∀ t ∈ body, Lexes t.text.toList t.content)
    (offset : Nat) : ∃ again, tokensFrom offset (spaced body) = .ok again ∧
      again.map Token.meaning = body.map Token.meaning ++ [(.stop, "")] := by
  induction body generalizing offset with
  | nil => exact ⟨_, tokensFrom_nil offset, rfl⟩
  | cons t body ih =>
    obtain ⟨hlexes, hbody⟩ := List.forall_mem_cons.mp h
    obtain ⟨later, hlater, hmeaning⟩ := ih hbody (offset + 1 + t.text.toList.length)
    have htoken := tokensFrom_lexes hlexes (startsBlank_spaced body) (offset + 1) hlater
    refine ⟨_, tokensFrom_blank (hlexes.starts _) htoken, ?_⟩
    rw [String.ofList_toList, List.map_cons, List.map_cons, hmeaning]
    rfl

theorem toList_intercalate_cons (t : Token) (body : List Token) :
    (" ".intercalate ((t :: body).map Token.text)).toList = t.text.toList ++ spaced body := by
  induction body generalizing t with
  | nil => simp [spaced]
  | cons u body ih =>
    rw [List.map_cons, List.map_cons, String.intercalate_cons_cons, ← List.map_cons,
      String.toList_append, ih, String.toList_append, List.append_assoc]
    rfl

/-- The texts of tokens with single blanks between them, without the token for the end. -/
def respaced (tokens : List Token) : String := " ".intercalate (tokens.dropLast.map Token.text)

theorem tokenize_intercalate {body : List Token} (h : ∀ t ∈ body, Lexes t.text.toList t.content) :
    ∃ again, tokenize (" ".intercalate (body.map Token.text)) = .ok again ∧
      again.map Token.meaning = body.map Token.meaning ++ [(.stop, "")] := by
  unfold tokenize
  cases body with
  | nil => exact ⟨_, tokensFrom_nil 0, rfl⟩
  | cons t body =>
    obtain ⟨hlexes, hbody⟩ := List.forall_mem_cons.mp h
    obtain ⟨later, hlater, hmeaning⟩ := tokensFrom_spaced hbody (0 + t.text.toList.length)
    have htoken := tokensFrom_lexes hlexes (startsBlank_spaced body) 0 hlater
    rw [toList_intercalate_cons]
    refine ⟨_, htoken, ?_⟩
    rw [String.ofList_toList, List.map_cons, List.map_cons, hmeaning]
    rfl

/-! ## Texts -/

theorem segmentation_of_segmented {text : String} {body : List Token}
    (h : Segmented 0 text.toList body) :
    Segmentation text (body ++ [⟨.stop, "", text.length⟩]) := by
  have hwithin : ∀ t ∈ body, t.start < t.stop ∧ t.stop ≤ text.length := fun t ht => by
    have := h.within t ht
    rw [String.length_toList] at this
    omega
  have hend : Token.stop ⟨.stop, "", text.length⟩ = text.length := rfl
  refine ⟨?ordered, ?apart, ?slices, ?blank_outside,
    ⟨body, rfl, fun t ht => (h.lexes t ht).content_ne_stop⟩⟩
  case ordered =>
    refine List.pairwise_append.mpr ⟨h.apart.imp_of_mem fun ht _ hle =>
      Nat.lt_of_lt_of_le (hwithin _ ht).1 hle, List.pairwise_singleton _ _, fun t ht u hu => ?_⟩
    rw [List.mem_singleton.mp hu]
    exact Nat.lt_of_lt_of_le (hwithin t ht).1 (hwithin t ht).2
  case apart =>
    refine List.pairwise_append.mpr ⟨h.apart, List.pairwise_singleton _ _, fun t ht u hu => ?_⟩
    rw [List.mem_singleton.mp hu]
    exact (hwithin t ht).2
  case slices =>
    refine List.forall_mem_append.mpr ⟨fun t ht => ⟨(hwithin t ht).2, ?_⟩,
      List.forall_mem_singleton.mpr ⟨hend.le, ?_⟩⟩
    · have hslice := h.slices t ht
      rw [Nat.sub_zero] at hslice
      rw [Token.stop, Nat.add_sub_cancel_left, hslice, String.ofList_toList]
    · rw [hend, Nat.sub_self, List.take_zero]
  case blank_outside =>
    intro i c hc houtside
    refine h.blank_outside hc fun t ht => ?_
    have := houtside t (List.mem_append_left _ ht)
    omega

/-- The tokens of a text are its parts, in order and apart from each other, and all else in it is
blank. A text of theirs with single blanks between them has the same tokens, but for their places. -/
theorem tokenize_segments {text : String} {tokens : List Token} (h : tokenize text = .ok tokens) :
    Segmentation text tokens ∧ ∃ again, tokenize (respaced tokens) = .ok again ∧
      again.map Token.meaning = tokens.map Token.meaning := by
  obtain ⟨body, rfl, hsegmented⟩ := segmented_of_tokensFrom h
  rw [Nat.zero_add, String.length_toList]
  refine ⟨segmentation_of_segmented hsegmented, ?_⟩
  obtain ⟨again, hagain, hmeaning⟩ := tokenize_intercalate hsegmented.lexes
  rw [respaced, List.dropLast_concat, List.map_append]
  exact ⟨again, hagain, hmeaning⟩

/-- A text without blanks: half an exponent before a point, a sign before a literal, and signs of two
characters. -/
def crowded : String := "\x7b1e.b:>=-2.5f,c<<~\"\\n\"\x7d"

/-- The same with single blanks. -/
def uncrowded : String := "\x7b 1e . b : >= -2.5f , c << ~ \"\\n\" \x7d"

theorem tokenize_segments_crowded :
    ∃ tokens again, tokenize crowded = .ok tokens ∧ Segmentation crowded tokens ∧
      tokenize uncrowded = .ok again ∧ again.map Token.meaning = tokens.map Token.meaning := by
  have hrespaced : (tokenize crowded).toOption.map respaced = some uncrowded := by decide +kernel
  cases htokens : tokenize crowded with
  | error failure =>
    rw [htokens] at hrespaced
    cases hrespaced
  | ok tokens =>
    rw [htokens] at hrespaced
    obtain ⟨hsegmentation, again, hagain, hmeaning⟩ := tokenize_segments htokens
    have huncrowded : respaced tokens = uncrowded := Option.some.inj hrespaced
    rw [huncrowded] at hagain
    exact ⟨tokens, again, rfl, hsegmentation, hagain, hmeaning⟩

end TreePredicate.Notation
