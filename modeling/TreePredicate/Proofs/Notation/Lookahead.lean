import TreePredicate.Proofs.Notation.Parser
import TreePredicate.Proofs.Notation.Production

/-!
# What lookahead decides

The parser tells from the next tokens which rule to follow and where a phrase ends. What it finds so
are the phrases of the rules.

* `comparisonOf?_eq_some`, `quantifierOf?_eq_some`, `keyOf?_eq_some`, `ofSuffix_eq_ok`,
  `oneWidth?_eq_some`, `addField_eq_ok` : what single tokens stand for;
* `Begins`, `begins_beginning` : what a sign begins;
* `pathTokens_of_pathOf`, `pathOf_of_pathTokens` : paths end where no bracket or point goes on;
* `produces_of_rangeOf`, `rangeOf_of_tokens` : ranges end where no letter goes on.
-/

set_option autoImplicit false

namespace TreePredicate.Notation

/-! ## Single tokens -/

theorem comparisonOf?_eq_some {sign : Sign} {c : Comparison} :
    comparisonOf? sign = some c ↔ sign.chars = c.symbol.toList := by
  cases sign <;> cases c <;> decide

theorem quantifierOf?_eq_some {sign : Sign} {quantifier : Quantifier} :
    quantifierOf? sign = some quantifier ↔ sign.chars = quantifier.symbol.toList := by
  cases sign <;> cases quantifier <;> decide

theorem keyOf?_eq_some {token : Token} {key : String} :
    keyOf? token = some key ↔ KeyToken token key := by
  constructor
  · intro h
    unfold keyOf? at h
    split at h
    · next hcontent =>
      cases h
      exact .word hcontent
    · next hcontent =>
      cases h
      exact .quoted hcontent
    · next hcontent =>
      split at h
      · next hword =>
        cases h
        exact .number hcontent (List.all_eq_true.mp hword)
      · cases h
    · cases h
  · intro h
    unfold keyOf?
    cases h with
    | word h | quoted h => rw [h]
    | number h hword =>
      rw [h]
      exact if_pos (List.all_eq_true.mpr hword)

theorem toNat_toLower (c : Char) :
    c.toLower.toNat = if 65 ≤ c.toNat ∧ c.toNat ≤ 90 then c.toNat + 32 else c.toNat := by
  have hcapital : (c.val ≥ 'A'.val ∧ c.val ≤ 'Z'.val) ↔ (65 ≤ c.toNat ∧ c.toNat ≤ 90) := by
    rw [ge_iff_le, UInt32.le_iff_toNat_le, UInt32.le_iff_toNat_le]
    rfl
  by_cases h : 65 ≤ c.toNat ∧ c.toNat ≤ 90
  · rw [if_pos h]
    refine (congrArg Char.toNat (dif_pos (hcapital.mpr h))).trans ?_
    show (c.val + 32).toNat = c.val.toNat + 32
    have hsmall : c.val.toNat ≤ 90 := h.2
    rw [UInt32.toNat_add, show UInt32.toNat 32 = 32 from rfl]
    omega
  · rw [if_neg h]
    exact congrArg Char.toNat (dif_neg (mt hcapital.mp h))

theorem suffix_inj {a b : Width} (h : a.suffix = b.suffix) : a = b := by
  revert h
  cases a <;> cases b <;> decide

/-- A letter stands for a width in either case. -/
theorem ofLetter?_eq_some {letter : Char} {width : Width} :
    Width.ofLetter? letter = some width ↔
      letter = width.suffix ∨ letter = width.suffix.toUpper := by
  have hlower : width.suffix = letter.toLower ↔
      letter = width.suffix ∨ letter = width.suffix.toUpper := by
    have := toNat_toLower letter
    cases width <;> simp only [Width.suffix, ← Char.toNat_inj, this] <;> split <;> simp <;> omega
  rw [← hlower]
  unfold Width.ofLetter?
  constructor
  · intro h
    simpa using List.find?_some h
  · intro h
    have hone : ∀ other : Width, (other.suffix == letter.toLower) = (other == width) := by
      intro other
      rw [← h, Bool.eq_iff_iff, beq_iff_eq, beq_iff_eq]
      exact ⟨suffix_inj, congrArg _⟩
    simp only [hone]
    cases width <;> rfl

theorem ofSuffix_eq_ok {suffix : String} {width : Width} :
    Width.ofSuffix suffix = .ok width ↔ ∃ letter, suffix = letter.toString ∧
      (letter = width.suffix ∨ letter = width.suffix.toUpper) := by
  simp only [← ofLetter?_eq_some]
  constructor
  · intro h
    unfold Width.ofSuffix at h
    split at h
    · next letter hchars =>
      refine ⟨letter, ?_, ?_⟩
      · rw [← String.toList_inj, hchars, Char.toString, String.toList_singleton]
      · cases hletter : Width.ofLetter? letter <;> simp_all
    · cases h
  · rintro ⟨letter, rfl, h⟩
    rw [Width.ofSuffix, Char.toString, String.toList_singleton]
    dsimp only
    rw [h]
    rfl

/-- There is one width, or none, if no two of the declared ones differ. -/
theorem oneWidth?_eq_some {widths : List (Option Width)} {width? : Option Width} :
    oneWidth? widths = some width? ↔ ∀ width, width? = some width ↔ some width ∈ widths := by
  have hmem : ∀ width, some width ∈ widths ↔ width ∈ (widths.filterMap id).eraseDups := by
    simp [List.mem_eraseDups]
  simp only [hmem]
  unfold oneWidth?
  cases widths.filterMap id with
  | nil => cases width? <;> simp
  | cons first rest =>
    rw [List.eraseDups_cons]
    cases hothers : (rest.filter fun other => !other == first).eraseDups with
    | nil => cases width? <;> simp [eq_comm]
    | cons other others =>
      have hother : other ∈ (rest.filter fun other => !other == first).eraseDups :=
        hothers ▸ List.mem_cons_self
      have hne : other ≠ first := by
        simpa using (List.mem_filter.mp (List.mem_eraseDups.mp hother)).2
      constructor
      · intro h
        cases h
      · intro h
        have hfirst := (h first).mpr (by simp)
        have hother := (h other).mpr (by simp)
        exact absurd (Option.some.inj (hother.symm.trans hfirst)) hne

theorem addField_eq_ok {before after : Draft} {negated : Bool} {path : Path} {p : Predicate}
    {offset : Nat} :
    addField before negated path p offset = .ok after ↔
      before.call? (fieldCall negated path p) = some after := by
  cases negated with
  | true => simp [addField, fieldCall, Draft.call?]
  | false =>
    simp only [addField, fieldCall, Bool.false_eq_true, if_false, Draft.call?]
    cases before.add path p with
    | mk next conflict? => cases conflict? <;> simp

/-! ## Beginnings -/

/-- What a sign is if it begins something. -/
def Begins (sign : Sign) (rest : List Token) : Beginning → Prop
  | .group => sign = .openBrace
  | .range lowerIncluded => sign = if lowerIncluded then .openBracket else .openParenthesis
  | .pattern source offset => sign = .tilde ∧
    ∃ quoted others, rest = quoted :: others ∧ quoted.content = .quoted source ∧ quoted.start = offset
  | .comparison c => comparisonOf? sign = some c
  | .list quantifier false => sign = .openBracket ∧ quantifier = .exact
  | .list quantifier true => quantifierOf? sign = some quantifier
  | .nothing => True

theorem begins_beginning (sign : Sign) (rest : List Token) :
    Begins sign rest (beginning sign rest) := by
  unfold beginning
  split
  · rfl
  · rfl
  · split
    · rfl
    · exact ⟨rfl, rfl⟩
  · split
    · exact ⟨rfl, _, _, rfl, rfl, rfl⟩
    · split
      · next c quantifier hcomparison hquantifier =>
        split
        · exact hquantifier
        · exact hcomparison
      · next hcomparison _ => exact hcomparison
      · next _ hquantifier => exact hquantifier
      · trivial

theorem begins_of_eq {sign : Sign} {rest : List Token} {b : Beginning}
    (h : beginning sign rest = b) : Begins sign rest b := h ▸ begins_beginning sign rest

theorem beginning_comparison {sign : Sign} {c : Comparison} {number : Token} {value : Number}
    {width? : Option Width} (h : comparisonOf? sign = some c)
    (hnumber : number.content = .number value width?) (rest : List Token) :
    beginning sign (number :: rest) = .comparison c := by
  cases sign <;> simp [comparisonOf?] at h <;>
    simp [beginning, comparisonOf?, quantifierOf?, startsWithSign, Token.isSign, hnumber, h]

theorem beginning_pattern {quoted : Token} {source : String}
    (h : quoted.content = .quoted source) (rest : List Token) :
    beginning .tilde (quoted :: rest) = .pattern source quoted.start := by
  obtain ⟨content, text, start⟩ := quoted
  cases h
  rfl

theorem beginning_markedList {sign : Sign} {quantifier : Quantifier} {opening : Token}
    (h : quantifierOf? sign = some quantifier) (hopening : opening.content = .sign .openBracket)
    (rest : List Token) : beginning sign (opening :: rest) = .list quantifier true := by
  obtain ⟨content, text, start⟩ := opening
  cases hopening
  cases sign <;> cases h <;> rfl

/-- A predicate does not start with a sign that begins nothing. -/
theorem startsWithSign_of_derives [Room] {levels : Nat} {p : Predicate} {ts rest : List Token} {sign : Sign}
    (h : Derives levels (.predicate p) ts rest)
    (hnothing : ∀ rest, beginning sign rest = .nothing) : startsWithSign sign ts = false := by
  have hne : ∀ {token : Token} {other : Sign} {rest : List Token} {b : Beginning},
      token.content = .sign other → beginning other rest = b → b ≠ .nothing →
        token.isSign sign = false := by
    intro token other rest b hcontent hbegins hb
    refine isSign_eq_false ((isSign_iff token other).mpr hcontent) ?_
    rintro rfl
    exact hb (hbegins.symm.trans (hnothing rest))
  cases h with
  | number h | text h => simp [startsWithSign, Token.isSign, h]
  | group h hbegins _ | range h hbegins _ | pattern h hbegins _ | comparison h hbegins _
  | list h hbegins _ | markedList h hbegins _ _ => exact hne h hbegins (by simp)

/-! ## Paths -/

theorem closed_iff {before after : List Token} :
    Closed before after ↔ ∀ last ∈ before.getLast?, ¬ OpensAt last.stop after := by
  unfold Closed
  refine forall₂_congr fun last _ => ?_
  cases after with
  | nil => simp [OpensAt]
  | cons opening rest => simp [opensAt_iff, isSign_iff]

theorem closed_append {before : List Token} (h : before ≠ []) (first after : List Token) :
    Closed (first ++ before) after ↔ Closed before after := by
  rw [Closed, Closed, List.getLast?_append_of_ne_nil first h]

theorem PathTokens.ne_nil {ts : List Token} {path : Path} (h : PathTokens ts path) : ts ≠ [] := by
  cases h with
  | last h =>
    cases h
    simp
  | more => simp

/-- Positions are integers in brackets, up to where no bracket opens. -/
theorem indexTokens_of_positions {stop : Nat} {ts rest : List Token} {path : Path}
    (h : Positions stop ts path rest) :
    ∃ before, ts = before ++ rest ∧ IndexTokens stop before path ∧
      ∀ first : Token, first.stop = stop → Closed (first :: before) rest := by
  induction h with
  | done h =>
    refine ⟨[], rfl, .none, fun first hstop => closed_iff.mpr ?_⟩
    rintro last hlast
    cases hlast
    exact hstop ▸ h
  | @more _ opening index closing _ _ _ _ hopening hstart hindex hclosing _ ih =>
    obtain ⟨before, rfl, htokens, hclosed⟩ := ih
    refine ⟨opening :: index :: closing :: before, rfl,
      .more ((isSign_iff _ _).mp hopening) hstart hindex ((isSign_iff _ _).mp hclosing) htokens,
      fun first _ => ?_⟩
    exact (closed_append (List.cons_ne_nil _ _) [first, opening, index] _).mpr (hclosed closing rfl)

theorem positions_of_indexTokens {stop : Nat} {before rest : List Token} {path : Path}
    (h : IndexTokens stop before path) {first : Token} (hstop : first.stop = stop)
    (hclosed : Closed (first :: before) rest) : Positions stop (before ++ rest) path rest := by
  induction h generalizing first with
  | none => exact .done (hstop ▸ closed_iff.mp hclosed first rfl)
  | @more _ opening index closing _ _ _ hopening hstart hindex hclosing _ ih =>
    refine .more ((isSign_iff _ _).mpr hopening) hstart hindex ((isSign_iff _ _).mpr hclosing)
      (ih rfl ?_)
    exact (closed_append (List.cons_ne_nil _ _) [first, opening, index] _).mp hclosed

theorem pathTokens_of_pathOf {ts rest : List Token} {path : Path} (h : PathOf ts path rest) :
    ∃ before, ts = before ++ rest ∧ PathTokens before path ∧ Closed before rest := by
  induction h with
  | @last token _ _ _ _ hkey hpositions _ =>
    obtain ⟨before, rfl, hindices, hclosed⟩ := indexTokens_of_positions hpositions
    exact ⟨token :: before, rfl, .last (.mk (keyOf?_eq_some.mp hkey) hindices), hclosed token rfl⟩
  | @more token point _ _ _ _ _ _ hkey hpositions hpoint _ ih =>
    obtain ⟨before, rfl, hindices, -⟩ := indexTokens_of_positions hpositions
    obtain ⟨others, rfl, htokens, hclosed⟩ := ih
    refine ⟨(token :: before) ++ point :: others, by simp,
      .more (.mk (keyOf?_eq_some.mp hkey) hindices) ((isSign_iff _ _).mp hpoint) htokens, ?_⟩
    rw [closed_append (List.cons_ne_nil _ _)]
    exact (closed_append htokens.ne_nil [point] _).mpr hclosed

theorem pathOf_of_pathTokens {before rest : List Token} {path : Path} (h : PathTokens before path)
    (hclosed : Closed before rest) (hpoint : startsWithSign .point rest = false) :
    PathOf (before ++ rest) path rest := by
  induction h with
  | last h =>
    cases h with
    | mk hkey hindices =>
      exact .last (keyOf?_eq_some.mpr hkey) (positions_of_indexTokens hindices rfl hclosed) hpoint
  | @more _ others point _ _ h hsign htokens ih =>
    cases h with
    | mk hkey hindices =>
      rw [closed_append (List.cons_ne_nil _ _)] at hclosed
      have hothers := ih ((closed_append htokens.ne_nil [point] _).mp hclosed)
      rw [List.append_assoc]
      refine .more (keyOf?_eq_some.mpr hkey) (positions_of_indexTokens hindices rfl ?_)
        ((isSign_iff _ _).mpr hsign) hothers
      intro last _ opening hopening hbracket
      cases hopening
      cases hsign.symm.trans hbracket

/-! ## Ranges -/

theorem boundTokens_of_bound {ts rest : List Token} {found : Option (Number × Option Width)}
    (h : Bound ts found rest) : ∃ before, ts = before ++ rest ∧ BoundTokens before found := by
  cases h with
  | none => exact ⟨[], rfl, .none⟩
  | some h => exact ⟨[_], rfl, .some h⟩

theorem bound_of_tokens {before rest : List Token} {found : Option (Number × Option Width)}
    (h : BoundTokens before found) {next : Token} {sign : Sign} (hnext : next.content = .sign sign) :
    Bound (before ++ next :: rest) found (next :: rest) := by
  cases h with
  | none =>
    refine .none fun token htoken => ?_
    cases htoken
    exact isNumber_of_isSign ((isSign_iff _ _).mpr hnext)
  | some h => exact .some h

theorem suffixTokens_of_bracketSuffix? (closing : Token) (rest : List Token) :
    ∃ suffix, rest = suffix ++ rest.drop (if (bracketSuffix? closing rest).isSome then 1 else 0) ∧
      SuffixTokens closing suffix (bracketSuffix? closing rest) := by
  cases hsuffix : bracketSuffix? closing rest with
  | none => exact ⟨[], rfl, .none⟩
  | some width =>
    unfold bracketSuffix? at hsuffix
    split at hsuffix
    · cases hsuffix
    · next token others =>
      split at hsuffix
      · next value hcontent =>
        split at hsuffix
        · next hstart =>
          have hwidth : Width.ofSuffix value = .ok width := by
            cases hvalue : Width.ofSuffix value <;> simp_all [Except.toOption]
          obtain ⟨letter, rfl, hletter⟩ := ofSuffix_eq_ok.mp hwidth
          exact ⟨[token], rfl, .some hcontent (beq_iff_eq.mp hstart) hletter⟩
        · cases hsuffix
      · cases hsuffix

/-- No word comes next, which would be the suffix of a range. -/
def NoWord (ts : List Token) : Prop := ∀ token ∈ ts.head?, ∀ value, token.content ≠ .word value

theorem noWord_of_sign {token : Token} {sign : Sign} (h : token.isSign sign = true)
    (rest : List Token) : NoWord (token :: rest) := by
  intro other hother value hword
  cases hother
  rw [(isSign_iff token sign).mp h] at hword
  cases hword

theorem bracketSuffix?_of_tokens {closing : Token} {suffix : List Token} {suffix? : Option Width}
    (h : SuffixTokens closing suffix suffix?) {rest : List Token} (hrest : NoWord rest) :
    bracketSuffix? closing (suffix ++ rest) = suffix? ∧
      (suffix ++ rest).drop (if suffix?.isSome then 1 else 0) = rest := by
  refine ⟨?_, ?_⟩
  · cases h with
    | none =>
      cases rest with
      | nil => rfl
      | cons token others =>
        rw [List.nil_append, bracketSuffix?]
        split
        · next value hword => exact absurd hword (hrest token rfl value)
        · rfl
    | some h hstart hletter =>
      have hwidth := ofSuffix_eq_ok.mpr ⟨_, rfl, hletter⟩
      rw [List.singleton_append, bracketSuffix?, h]
      dsimp only
      rw [if_pos (beq_iff_eq.mpr hstart), hwidth]
      rfl
  · cases h <;> rfl

/-- The sign that closes a range says if the bound is included. -/
theorem closes_iff {closing : Token} {included : Bool} :
    closing.content = .sign (if included then .closeBracket else .closeParenthesis) ↔
      (closing.isSign .closeParenthesis || closing.isSign .closeBracket) = true ∧
        closing.isSign .closeBracket = included := by
  cases included <;> simp only [Token.isSign] <;> grind

theorem produces_of_rangeOf [Room] {lowerIncluded : Bool} {opening : Token} {ts rest : List Token}
    {test : NumberTest}
    (hopening : opening.content = .sign (if lowerIncluded then .openBracket else .openParenthesis))
    (h : RangeOf lowerIncluded ts test rest) :
    ∃ before, ts = before ++ rest ∧ Produces (.predicate (.number test)) (opening :: before) 0 := by
  cases h with
  | @mk afterTilde rest tilde closing _ _ _ hboundLower htilde hboundUpper hclosing hwidth =>
    obtain ⟨lower, rfl, hlower⟩ := boundTokens_of_bound hboundLower
    obtain ⟨upper, rfl, hupper⟩ := boundTokens_of_bound hboundUpper
    obtain ⟨suffix, hrest, hsuffix⟩ := suffixTokens_of_bracketSuffix? closing rest
    refine ⟨lower ++ tilde :: upper ++ closing :: suffix, ?_, ?_⟩
    · nth_rewrite 1 [hrest]
      simp
    · exact .range hopening hlower ((isSign_iff _ _).mp htilde) hupper
        (closes_iff.mpr ⟨hclosing, rfl⟩) hsuffix (oneWidth?_eq_some.mp hwidth)

theorem rangeOf_of_tokens {tilde closing : Token} {lower upper suffix rest : List Token}
    {lower? upper? : Option (Number × Option Width)} {suffix? width? : Option Width}
    {lowerIncluded upperIncluded : Bool} (hlower : BoundTokens lower lower?)
    (htilde : tilde.content = .sign .tilde) (hupper : BoundTokens upper upper?)
    (hclosing :
      closing.content = .sign (if upperIncluded then .closeBracket else .closeParenthesis))
    (hsuffix : SuffixTokens closing suffix suffix?)
    (hagree : ∀ width, width? = some width ↔
      some width ∈ [lower?.bind Prod.snd, upper?.bind Prod.snd, suffix?])
    (hrest : NoWord rest) :
    RangeOf lowerIncluded (lower ++ tilde :: upper ++ closing :: suffix ++ rest)
      (.range (lower?.map Prod.fst) (upper?.map Prod.fst) lowerIncluded upperIncluded width?)
      rest := by
  obtain ⟨hfound, hdrop⟩ := bracketSuffix?_of_tokens hsuffix hrest
  obtain ⟨hcloses, hincluded⟩ := closes_iff.mp hclosing
  have hrange : RangeOf lowerIncluded (lower ++ tilde :: (upper ++ closing :: (suffix ++ rest))) _ _ :=
    .mk (bound_of_tokens hlower htilde) ((isSign_iff _ _).mpr htilde)
      (bound_of_tokens hupper hclosing) hcloses (hfound ▸ oneWidth?_eq_some.mpr hagree)
  rw [hfound, hdrop, hincluded] at hrange
  simpa using hrange

/-- A range that opens with a bracket is told from a list by its next two tokens. -/
theorem opensRange_of_tokens {tilde closing : Token} {lower upper : List Token}
    {lower? upper? : Option (Number × Option Width)} {upperIncluded : Bool}
    (hlower : BoundTokens lower lower?) (htilde : tilde.content = .sign .tilde)
    (hupper : BoundTokens upper upper?)
    (hclosing :
      closing.content = .sign (if upperIncluded then .closeBracket else .closeParenthesis))
    (rest : List Token) : opensRange (lower ++ tilde :: upper ++ closing :: rest) = true := by
  cases hlower with
  | none =>
    cases hupper with
    | none => cases upperIncluded <;> simp_all [opensRange, Token.isSign]
    | some h => simp [opensRange, Token.isSign, Token.isNumber, htilde, h]
  | some h => simp [opensRange, Token.isSign, Token.isNumber, htilde, h]

theorem opensRange_other {first : Token} (htilde : first.isSign .tilde = false)
    (hnumber : first.isNumber = false) (rest : List Token) : opensRange (first :: rest) = false := by
  cases rest with
  | nil => rfl
  | cons second others => rw [opensRange, htilde, hnumber]; rfl

end TreePredicate.Notation
