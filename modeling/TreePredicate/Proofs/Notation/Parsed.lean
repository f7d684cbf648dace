import TreePredicate.Proofs.Draft.Fits
import TreePredicate.Proofs.Notation.Parser

/-!
# What is read from a text

* `Recognized`, `recognized_of_lexeme` : how a token gets its meaning and its length;
* `readable_of_tokenize` : the numbers of tokens are finite and have not too many digits;
* `suffix_of_derives` : what is left of some tokens is what they end with;
* `phraseFits_of_derives` : predicates that can be derived from such tokens are regular, and nested no
  deeper than there are levels;
* `fits_of_parse` : so is the group that a text stands for.
-/

set_option autoImplicit false

namespace TreePredicate.Notation

open Predicate Draft

/-! ## Numbers of tokens -/

theorem ofUnits_cases (negative : Bool) (num den : Nat) :
    (Double.ofUnits negative num den).isFinite = true ∨
      Double.ofUnits negative num den = .infinite negative := by
  unfold Double.ofUnits
  dsimp only
  split
  · exact .inl rfl
  · exact .inr rfl

theorem toDouble_cases (d : Decimal) :
    d.toDouble.isFinite = true ∨ d.toDouble = .infinite d.negative := by
  unfold Decimal.toDouble
  split
  · exact ofUnits_cases _ _ _
  · split
    · exact .inr rfl
    · split
      · exact ofUnits_cases _ _ _
      · exact ofUnits_cases _ _ _

theorem digitValue?_lt {c : Char} : (Text.digitValue? c).getD 0 < 10 := by
  unfold Text.digitValue?
  cases hfound : Text.digitBlocks.find? fun first => first ≤ c.toNat && c.toNat < first + 10 with
  | none => exact Nat.succ_pos 9
  | some first =>
    have hfirst := List.find?_some hfound
    rw [Bool.and_eq_true, decide_eq_true_eq, decide_eq_true_eq] at hfirst
    show c.toNat - first < 10
    omega

theorem value_lt {digits : List Nat} (h : ∀ d ∈ digits, d < 10) :
    Decimal.value digits < 10 ^ digits.length := by
  have hfold : ∀ (digits : List Nat) (n k : Nat), (∀ d ∈ digits, d < 10) → n < 10 ^ k →
      digits.foldl (fun n d => 10 * n + d) n < 10 ^ (k + digits.length) := by
    intro digits
    induction digits with
    | nil => exact fun n k _ hn => hn
    | cons d rest ih =>
      intro n k h hn
      rw [List.forall_mem_cons] at h
      have hnext := ih (10 * n + d) (k + 1) h.2 (by rw [Nat.pow_succ]; omega)
      rw [List.foldl_cons, List.length_cons, Nat.add_comm rest.length, ← Nat.add_assoc]
      exact hnext
  have hall := hfold digits 0 0 h (Nat.one_pos)
  rwa [Nat.zero_add] at hall

theorem digitsValue_lt (digits : List Char) : Numeral.digitsValue digits < 10 ^ digits.length := by
  unfold Numeral.digitsValue
  refine Nat.lt_of_lt_of_eq (value_lt ?_) (by rw [List.length_map])
  exact List.forall_mem_map.mpr fun c _ => digitValue?_lt

/-- The value of a literal can be read. -/
theorem readable_of_value {n : Numeral} {offset : Nat} {value : Number}
    (h : n.value offset = .ok value) : value.Readable := by
  unfold Numeral.value at h
  split at h
  · have hcases := toDouble_cases n.decimal
    split at h
    · cases h
    · next d hfinite =>
      cases h
      rcases hcases with hcases | hcases
      · exact hcases
      · exact absurd hcases (hfinite _)
  · split at h
    · cases h
    · next hdigits =>
      cases h
      have hpos : 0 < Pattern.Fault.digitsAllowed := by decide
      show Decimal.length (signed n.isNegative (Numeral.digitsValue n.whole)).natAbs ≤ _
      rw [signed_natAbs, Decimal.length_le_iff hpos]
      exact Nat.lt_of_lt_of_le (digitsValue_lt n.whole)
        (Nat.pow_le_pow_right (by decide) (Nat.not_lt.mp hdigits))

/-- A number that a token means can be read. -/
def ReadableContent (content : Content) : Prop :=
  ∀ value width?, content = .number value width? → value.Readable

theorem readable_of_ne {content : Content} (h : ∀ value width?, content ≠ .number value width?) :
    ReadableContent content := by
  intro value width? heq
  exact absurd heq (h value width?)

theorem readable_of_content {n : Numeral} {text : List Char} {offset : Nat} {content : Content}
    (h : n.content text offset = .ok content) : ReadableContent content := by
  have hnumber : ∀ {width? : Option Width} {value : Number}, n.value offset = .ok value →
      ReadableContent (.number value width?) := by
    intro width? value hvalue other width?' heq
    cases heq
    exact readable_of_value hvalue
  unfold Numeral.content at h
  split at h
  · obtain ⟨value, hvalue, h⟩ := ok_of_bind h
    cases h
    exact hnumber hvalue
  · split at h
    · obtain ⟨value, hvalue, h⟩ := ok_of_bind h
      cases h
      exact hnumber hvalue
    · split at h
      · cases h
        exact readable_of_ne (by simp)
      · cases h

/-- The ways to a meaning of the characters at the front of a text, and to their number after the
first one. -/
inductive Recognized (offset : Nat) (c : Char) (rest : List Char) : Option Content → Nat → Prop
  | blanks : Text.isBlank c = true → Recognized offset c rest none (rest.takeWhile Text.isBlank).length
  | quoted {body value : List Char} : c = '"' → quotedBody? rest = some body →
    Text.Quoted.decode (offset + 1) body = .ok value →
    Recognized offset c rest (some (.quoted (String.ofList value))) (body.length + 1)
  | numeral {n : Numeral} {content : Content} : Numeral.read? (c :: rest) = some n →
    n.content (c :: rest.take (n.length - 1)) offset = .ok content →
    Recognized offset c rest (some content) (n.length - 1)
  | word : Numeral.read? (c :: rest) = none → Text.isWord c = true →
    Recognized offset c rest (some (.word (String.ofList (c :: rest.takeWhile Text.isWord))))
      (rest.takeWhile Text.isWord).length
  | pair {sign : Sign} : rest.head?.bind (Sign.ofPair? c) = some sign →
    Recognized offset c rest (some (.sign sign)) 1
  | single {sign : Sign} : Sign.ofChar? c = some sign →
    Recognized offset c rest (some (.sign sign)) 0

theorem recognized_of_lexeme {offset more : Nat} {c : Char} {rest : List Char}
    {content? : Option Content} (h : lexeme offset c rest = .ok (content?, more)) :
    Recognized offset c rest content? more := by
  unfold lexeme at h
  split at h
  · next hblank =>
    cases h
    exact .blanks hblank
  · split at h
    · next body hbody =>
      have hquote : c = '"' := by
        by_contra hne
        simp [hne] at hbody
      rw [if_pos hquote] at hbody
      split at h
      · next value hvalue =>
        cases h
        exact .quoted hquote hbody hvalue
      · cases h
    · split at h
      · next n hread =>
        obtain ⟨content, hcontent, h⟩ := ok_of_bind h
        cases h
        exact .numeral hread hcontent
      · next hread =>
        split at h
        · next hword =>
          cases h
          exact .word hread hword
        · split at h
          · next sign hpair =>
            cases h
            exact .pair hpair
          · split at h
            · next sign hsingle =>
              cases h
              exact .single hsingle
            · cases h

/-- What a token can mean: a quoted text, a numeric literal, a word or a sign. -/
theorem content_of_lexeme {offset more : Nat} {c : Char} {rest : List Char} {content : Content}
    (h : lexeme offset c rest = .ok (some content, more)) :
    (∃ value, content = .quoted value) ∨
      (∃ (n : Numeral) (text : List Char), n.content text offset = .ok content) ∨
      (∃ value, content = .word value) ∨ ∃ sign, content = .sign sign := by
  cases recognized_of_lexeme h with
  | quoted => exact .inl ⟨_, rfl⟩
  | numeral _ hcontent => exact .inr (.inl ⟨_, _, hcontent⟩)
  | word => exact .inr (.inr (.inl ⟨_, rfl⟩))
  | pair | single => exact .inr (.inr (.inr ⟨_, rfl⟩))

theorem readable_of_lexeme {offset more : Nat} {c : Char} {rest : List Char} {content : Content}
    (h : lexeme offset c rest = .ok (some content, more)) : ReadableContent content := by
  rcases content_of_lexeme h with ⟨_, rfl⟩ | ⟨_, _, hcontent⟩ | ⟨_, rfl⟩ | ⟨_, rfl⟩
  · exact readable_of_ne (by simp)
  · exact readable_of_content hcontent
  · exact readable_of_ne (by simp)
  · exact readable_of_ne (by simp)

/-- The numbers of some tokens can be read. -/
def ReadableTokens (ts : List Token) : Prop := ∀ token ∈ ts, ReadableContent token.content

theorem readable_of_tokensFrom {offset : Nat} {chars : List Char} {ts : List Token}
    (h : tokensFrom offset chars = .ok ts) : ReadableTokens ts := by
  fun_induction tokensFrom offset chars generalizing ts with
  | case1 offset =>
    cases h
    exact List.forall_mem_singleton.mpr (readable_of_ne (by simp))
  | case2 offset c rest ih =>
    obtain ⟨⟨content?, more⟩, hlexeme, h⟩ := ok_of_bind h
    obtain ⟨later, hlater, h⟩ := ok_of_bind h
    have hrest := ih _ hlater
    cases content? with
    | none =>
      cases h
      exact hrest
    | some content =>
      cases h
      exact List.forall_mem_cons.mpr ⟨readable_of_lexeme hlexeme, hrest⟩

/-- The numbers of the tokens of a text can be read. -/
theorem readable_of_tokenize {text : String} {ts : List Token} (h : tokenize text = .ok ts) :
    ReadableTokens ts := readable_of_tokensFrom h

theorem ReadableTokens.suffix {ts rest : List Token} (h : ReadableTokens ts) (hrest : rest <:+ ts) :
    ReadableTokens rest := fun token htoken => h token (hrest.subset htoken)

/-! ## What is left -/

theorem suffix_of_positions {stop : Nat} {ts rest : List Token} {path : Path}
    (h : Positions stop ts path rest) : rest <:+ ts := by
  induction h with
  | done _ => exact List.suffix_refl _
  | @more stop opening index closing position rest left path _ _ _ _ _ ih =>
    exact ih.trans (List.suffix_append [opening, index, closing] rest)

theorem suffix_of_path {ts rest : List Token} {path : Path} (h : PathOf ts path rest) :
    rest <:+ ts := by
  induction h with
  | last _ hpositions _ => exact (suffix_of_positions hpositions).trans (List.suffix_cons _ _)
  | more _ hpositions _ _ ih =>
    exact (ih.trans (List.suffix_cons _ _)).trans
      ((suffix_of_positions hpositions).trans (List.suffix_cons _ _))

theorem suffix_of_bound {ts rest : List Token} {bound? : Option (Number × Option Width)}
    (h : Bound ts bound? rest) : rest <:+ ts := by
  cases h with
  | none _ => exact List.suffix_refl _
  | some _ => exact List.suffix_cons _ _

theorem suffix_of_range {lowerIncluded : Bool} {ts rest : List Token} {test : NumberTest}
    (h : RangeOf lowerIncluded ts test rest) : rest <:+ ts := by
  cases h with
  | mk hlower _ hupper _ _ =>
    exact (List.drop_suffix _ _).trans ((List.suffix_cons _ _).trans ((suffix_of_bound hupper).trans
      ((List.suffix_cons _ _).trans (suffix_of_bound hlower))))

theorem suffix_of_skips {sign : Sign} {ts rest : List Token} {found : Bool}
    (h : Skips sign ts found rest) : rest <:+ ts := by
  cases h with
  | absent _ => exact List.suffix_refl _
  | present _ => exact List.suffix_cons _ _

theorem suffix_of_derives [Room] {levels : Nat} {phrase : Phrase} {ts rest : List Token}
    (h : Derives levels phrase ts rest) : rest <:+ ts := by
  induction h with
  | number _ => exact List.suffix_cons _ _
  | text _ => exact List.suffix_cons _ _
  | group _ _ _ ih => exact ih.trans (List.suffix_cons _ _)
  | range _ _ hrange => exact (suffix_of_range hrange).trans (List.suffix_cons _ _)
  | pattern _ _ _ => exact (List.drop_suffix _ _).trans (List.suffix_cons _ _)
  | comparison _ _ _ => exact (List.suffix_cons _ _).trans (List.suffix_cons _ _)
  | list _ _ _ ih => exact ih.trans (List.suffix_cons _ _)
  | markedList _ _ _ _ ih => exact ih.trans ((List.suffix_cons _ _).trans (List.suffix_cons _ _))
  | field hbang hpath hcolon _ _ _ ih =>
    exact ih.trans ((suffix_of_skips hcolon).trans ((suffix_of_path hpath).trans
      (suffix_of_skips hbang)))
  | noFields _ => exact List.suffix_cons _ _
  | lastField _ _ ih => exact (List.suffix_cons _ _).trans ih
  | moreFields _ _ _ ihfield ihfields =>
    exact ihfields.trans ((List.suffix_cons _ _).trans ihfield)
  | noElements _ => exact List.suffix_cons _ _
  | lastElement _ _ ih => exact (List.suffix_cons _ _).trans ih
  | moreElements _ _ _ ihp ihelements => exact ihelements.trans ((List.suffix_cons _ _).trans ihp)

/-! ## What is read -/

theorem readable_of_positions {stop : Nat} {ts rest : List Token} {path : Path}
    (h : Positions stop ts path rest) (hreadable : ReadableTokens ts) : ReadablePositions path := by
  induction h with
  | done _ =>
    intro i hi
    cases hi
  | @more stop opening index closing position rest left path _ _ hindex _ _ ih =>
    intro i hi
    rcases List.mem_cons.mp hi with hi | hi
    · cases hi
      exact hreadable index (by simp) _ _ hindex
    · exact ih (hreadable.suffix (List.suffix_append [opening, index, closing] rest)) i hi

/-- A path starts with a key, and its positions can be read. -/
theorem readable_of_path {ts rest : List Token} {path : Path} (h : PathOf ts path rest)
    (hreadable : ReadableTokens ts) : path.StartsWithKey ∧ ReadablePositions path := by
  induction h with
  | last hkey hpositions _ =>
    have hrest := readable_of_positions hpositions (hreadable.suffix (List.suffix_cons _ _))
    exact ⟨⟨_, _, rfl⟩, fun i hi => hrest i (by simpa using hi)⟩
  | more hkey hpositions _ _ ih =>
    have hafter := hreadable.suffix (List.suffix_cons _ _)
    have hrest := readable_of_positions hpositions hafter
    have hothers := (ih ((hafter.suffix (suffix_of_positions hpositions)).suffix
      (List.suffix_cons _ _))).2
    refine ⟨⟨_, _, rfl⟩, fun i hi => ?_⟩
    rcases List.mem_append.mp hi with hi | hi
    · exact hrest i (by simpa using hi)
    · exact hothers i hi

theorem readable_of_bound {ts rest : List Token} {bound? : Option (Number × Option Width)}
    (h : Bound ts bound? rest) (hreadable : ReadableTokens ts) :
    ∀ value ∈ (bound?.map Prod.fst).toList, value.Readable := by
  cases h with
  | none _ => exact List.forall_mem_nil _
  | some hcontent =>
    exact List.forall_mem_singleton.mpr (hreadable _ List.mem_cons_self _ _ hcontent)

theorem readable_of_range {lowerIncluded : Bool} {ts rest : List Token} {test : NumberTest}
    (h : RangeOf lowerIncluded ts test rest) (hreadable : ReadableTokens ts) :
    ∀ value ∈ testNumbers test, value.Readable := by
  cases h with
  | mk hlower _ hupper _ _ =>
    have hafter := (hreadable.suffix (suffix_of_bound hlower)).suffix (List.suffix_cons _ _)
    rw [testNumbers, List.forall_mem_append]
    exact ⟨readable_of_bound hlower hreadable, readable_of_bound hupper hafter⟩

/-- What is known of a phrase that can be derived from tokens whose numbers can be read. -/
def PhraseFits (levels : Nat) : Phrase → Prop
  | .predicate p => Fits levels p ∧ isIndexGroup p = false
  | .field before after | .fields before after =>
    Inside levels before ∧ before.kind? = some false →
      Inside levels after ∧ after.kind? = some false
  | .elements ps => ∀ p ∈ ps, Fits levels p ∧ isIndexGroup p = false

theorem fits_leaf {p : Predicate} (hmembers : p.members = []) (hdepth : p.depth = 0)
    (h : Regular p) (levels : Nat) : Fits levels p :=
  ⟨(everywhere_leaf hmembers).mpr h, hdepth ▸ Nat.zero_le levels⟩

theorem fits_list {levels : Nat} {elements : List Predicate}
    (h : ∀ p ∈ elements, Fits levels p ∧ isIndexGroup p = false) (quantifier : Quantifier) :
    Fits (levels + 1) (.list quantifier elements) :=
  ⟨everywhere_list.mpr ⟨fun p hp => (h p hp).2, fun p hp => (h p hp).1.regular⟩,
    depth_list_le.mpr ⟨Nat.succ_pos levels, fun p hp => (h p hp).1.depth⟩⟩

/-- What can be derived from tokens is regular, and nested no deeper than there are levels. -/
theorem phraseFits_of_derives [Room] {levels : Nat} {phrase : Phrase} {ts rest : List Token}
    (h : Derives levels phrase ts rest) (hreadable : ReadableTokens ts) :
    PhraseFits levels phrase := by
  induction h with
  | number hcontent =>
    refine ⟨fits_leaf rfl rfl ?_ _, rfl⟩
    exact List.forall_mem_singleton.mpr (hreadable _ List.mem_cons_self _ _ hcontent)
  | @text levels token rest value _ =>
    have hregular : Regular (.text value) := trivial
    exact ⟨fits_leaf rfl rfl hregular _, rfl⟩
  | @group levels token rest left sign draft _ _ _ ih =>
    obtain ⟨hinside, hkind⟩ := ih (hreadable.suffix (List.suffix_cons _ _))
      ⟨inside_container levels false, rfl⟩
    cases draft with
    | finished p => cases hkind
    | indexGroup members => cases hkind
    | group members negated => exact ⟨fits_build hinside trivial, rfl⟩
  | range _ _ hrange =>
    refine ⟨fits_leaf rfl rfl ?_ _, rfl⟩
    exact readable_of_range hrange (hreadable.suffix (List.suffix_cons _ _))
  | @pattern levels token rest sign source offset p _ _ _ =>
    have hregular : Regular (.pattern p) := trivial
    exact ⟨fits_leaf rfl rfl hregular _, rfl⟩
  | comparison _ _ hnumber =>
    refine ⟨fits_leaf rfl rfl ?_ _, rfl⟩
    exact List.forall_mem_singleton.mpr
      (hreadable _ (List.mem_cons_of_mem _ List.mem_cons_self) _ _ hnumber)
  | list _ _ _ ih => exact ⟨fits_list (ih (hreadable.suffix (List.suffix_cons _ _))) _, rfl⟩
  | markedList _ _ _ _ ih =>
    exact ⟨fits_list (ih ((hreadable.suffix (List.suffix_cons _ _)).suffix (List.suffix_cons _ _))) _,
      rfl⟩
  | field hbang hpath hcolon hlevels _ hadd ih =>
    rintro ⟨hinside, hkind⟩
    have hafter := hreadable.suffix (suffix_of_skips hbang)
    obtain ⟨hstart, hpositions⟩ := readable_of_path hpath hafter
    obtain ⟨hp, hnot⟩ :=
      ih ((hafter.suffix (suffix_of_path hpath)).suffix (suffix_of_skips hcolon))
    have hdepth := hp.depth
    exact inside_addField hkind hinside hstart hpositions hp.regular hnot (by omega) hadd
  | noFields _ => exact fun h => h
  | lastField _ _ ih => exact ih hreadable
  | moreFields hfield _ _ ihfield ihfields =>
    have hothers := (hreadable.suffix (suffix_of_derives hfield)).suffix (List.suffix_cons _ _)
    exact fun h => ihfields hothers (ihfield hreadable h)
  | noElements _ => exact List.forall_mem_nil _
  | lastElement _ _ ih => exact List.forall_mem_singleton.mpr (ih hreadable)
  | moreElements hp _ _ ihp ihelements =>
    have hothers := (hreadable.suffix (suffix_of_derives hp)).suffix (List.suffix_cons _ _)
    exact List.forall_mem_cons.mpr ⟨ihp hreadable, ihelements hothers⟩

/-- What a text stands for is a regular group that is not nested too deep. -/
theorem fits_of_parse [Room] {text : String} {p : Predicate} (h : parse text = .ok p) :
    (∃ fields negated, p = .group fields negated) ∧ Fits nestingLimit p := by
  obtain ⟨ts, htokens, hparse⟩ := parse_eq_ok.mp h
  obtain ⟨token, inside, rest, rfl, hopening, hderives, -⟩ := parseTokens_eq_ok.mp hparse
  have hfits := phraseFits_of_derives hderives (readable_of_tokenize htokens)
  obtain ⟨left, draft, hlevels, rfl, hfields⟩ := fields_of_derives hopening hderives
  refine ⟨?_, hfits.1⟩
  have hinside := phraseFits_of_derives hfields
    ((readable_of_tokenize htokens).suffix (List.suffix_cons _ _))
  obtain ⟨-, hkind⟩ := hinside ⟨inside_container left false, rfl⟩
  cases draft with
  | finished p => cases hkind
  | indexGroup members => cases hkind
  | group members negated => exact ⟨_, _, rfl⟩

end TreePredicate.Notation
