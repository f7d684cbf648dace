import TreePredicate.Proofs.Notation.Lookahead
import TreePredicate.Proofs.Notation.Parsed

/-!
# The parser accepts its grammar

* `Accounted`, `accounted_of_derives` : the rules derive what the parser reads;
* `Read`, `read_of_produces` : the parser reads what the rules derive, whatever comes after it but a
  word, and a bracket or brace that closes it;
* `parse_eq_ok_iff_produces` : so a text is read as a group if the rules derive all its tokens from
  the group, and no deeper nested than is allowed.
-/

set_option autoImplicit false

namespace TreePredicate.Notation

/-! ## What is read is derived by the rules -/

/-- The rules derive the tokens of a phrase, and no deeper nested than the levels that are left.
Fields and elements are read with the sign that closes them. -/
def Accounted [Room] (levels : Nat) (ts rest : List Token) : Phrase → Prop
  | .predicate p => ∃ before depth, ts = before ++ rest ∧ depth ≤ levels ∧
    Produces (.predicate p) before depth
  | .field draft after => ∃ call before depth, ts = before ++ rest ∧ depth ≤ levels ∧
    Produces (.field call) before depth ∧ draft.call? call = some after
  | .fields draft after => ∃ calls before closing depth, ts = before ++ closing :: rest ∧
    closing.content = .sign .closeBrace ∧ depth ≤ levels ∧
    Produces (.fields calls) before depth ∧ draft.calls? calls = some after
  | .elements ps => ∃ before closing depth, ts = before ++ closing :: rest ∧
    closing.content = .sign .closeBracket ∧ depth ≤ levels ∧ Produces (.elements ps) before depth

theorem signTokens_of_skips {sign : Sign} {ts rest : List Token} {found : Bool}
    (h : Skips sign ts found rest) :
    ∃ before, ts = before ++ rest ∧ SignTokens sign before found := by
  cases h with
  | absent => exact ⟨[], rfl, .absent⟩
  | present h => exact ⟨[_], rfl, .present ((isSign_iff _ _).mp h)⟩

theorem Closed.left {before first rest : List Token} (h : Closed before (first ++ rest)) :
    Closed before first := by
  cases first with
  | nil => simp [Closed]
  | cons => exact h

theorem accounted_of_derives [Room] {levels : Nat} {phrase : Phrase} {ts rest : List Token}
    (h : Derives levels phrase ts rest) : Accounted levels ts rest phrase := by
  induction h with
  | number h => exact ⟨[_], 0, rfl, Nat.zero_le _, .number h⟩
  | text h => exact ⟨[_], 0, rfl, Nat.zero_le _, .text h⟩
  | @group _ token _ _ _ _ h hbegins _ ih =>
    obtain ⟨calls, before, closing, depth, rfl, hclosing, hdepth, hfields, hcalls⟩ := ih
    have hsign : _ = Sign.openBrace := begins_of_eq hbegins
    exact ⟨token :: before ++ [closing], depth + 1, by simp, Nat.succ_le_succ hdepth,
      .nested (.group (hsign ▸ h) hfields hclosing hcalls)⟩
  | range h hbegins hrange =>
    have hsign : _ = ite _ _ _ := begins_of_eq hbegins
    obtain ⟨before, rfl, hproduces⟩ := produces_of_rangeOf (hsign ▸ h) hrange
    exact ⟨_ :: before, 0, rfl, Nat.zero_le _, hproduces⟩
  | @pattern _ token _ _ _ _ _ h hbegins hcompile =>
    obtain ⟨hsign, quoted, others, rfl, hquoted, rfl⟩ := begins_of_eq hbegins
    exact ⟨[token, quoted], 0, rfl, Nat.zero_le _, .pattern (hsign ▸ h) hquoted hcompile⟩
  | comparison h hbegins hnumber =>
    have hcomparison := comparisonOf?_eq_some.mp (begins_of_eq hbegins)
    exact ⟨[_, _], 0, rfl, Nat.zero_le _, .comparison h hcomparison hnumber⟩
  | @list _ token _ _ _ _ _ h hbegins _ ih =>
    obtain ⟨before, closing, depth, rfl, hclosing, hdepth, helements⟩ := ih
    obtain ⟨hsign, rfl⟩ := begins_of_eq hbegins
    exact ⟨[] ++ token :: before ++ [closing], depth + 1, by simp, Nat.succ_le_succ hdepth,
      .list .none (hsign ▸ h) helements hclosing⟩
  | @markedList _ token opening _ _ _ _ _ h hbegins hopening _ ih =>
    obtain ⟨before, closing, depth, rfl, hclosing, hdepth, helements⟩ := ih
    have hquantifier := quantifierOf?_eq_some.mp (begins_of_eq hbegins)
    exact ⟨[token] ++ opening :: before ++ [closing], depth + 1, by simp, Nat.succ_le_succ hdepth,
      .list (.some h hquantifier) ((isSign_iff _ _).mp hopening) helements hclosing⟩
  | field hskipsBang hpathOf hskipsColon hlevels _ hadd ih =>
    obtain ⟨before, depth, rfl, hdepth, hp⟩ := ih
    obtain ⟨colon, rfl, hcolon⟩ := signTokens_of_skips hskipsColon
    obtain ⟨path, rfl, hpath, hclosed⟩ := pathTokens_of_pathOf hpathOf
    obtain ⟨bang, rfl, hbang⟩ := signTokens_of_skips hskipsBang
    rw [← List.append_assoc] at hclosed
    exact ⟨_, bang ++ path ++ colon ++ before, _, by simp, by omega,
      .field hbang hpath hclosed.left hcolon hp, addField_eq_ok.mp hadd⟩
  | noFields h => exact ⟨[], [], _, 0, rfl, (isSign_iff _ _).mp h, Nat.zero_le _, .noFields, rfl⟩
  | lastField _ hclosing ih =>
    obtain ⟨call, before, depth, rfl, hdepth, hfield, hcall⟩ := ih
    refine ⟨[call], before, _, depth, rfl, (isSign_iff _ _).mp hclosing, hdepth, .lastField hfield, ?_⟩
    rw [Draft.calls?, hcall]
    rfl
  | @moreFields _ separator _ _ _ _ _ _ _ hcomma _ ihfield ihfields =>
    obtain ⟨call, before, depth, rfl, hdepth, hfield, hcall⟩ := ihfield
    obtain ⟨calls, others, closing, depth', rfl, hclosing, hdepth', hfields, hcalls⟩ := ihfields
    refine ⟨call :: calls, before ++ separator :: others, closing, max depth depth', by simp, hclosing,
      max_le hdepth hdepth', .moreFields hfield ((isSign_iff _ _).mp hcomma) hfields, ?_⟩
    rw [Draft.calls?, hcall]
    exact hcalls
  | noElements h => exact ⟨[], _, 0, rfl, (isSign_iff _ _).mp h, Nat.zero_le _, .noElements⟩
  | lastElement _ hclosing ih =>
    obtain ⟨before, depth, rfl, hdepth, hp⟩ := ih
    exact ⟨before, _, depth, rfl, (isSign_iff _ _).mp hclosing, hdepth, .lastElement hp⟩
  | @moreElements _ separator _ _ _ _ _ _ hcomma _ ihp ihelements =>
    obtain ⟨before, depth, rfl, hdepth, hp⟩ := ihp
    obtain ⟨others, closing, depth', rfl, hclosing, hdepth', helements⟩ := ihelements
    exact ⟨before ++ separator :: others, closing, max depth depth', by simp, hclosing,
      max_le hdepth hdepth', .moreElements hp ((isSign_iff _ _).mp hcomma) helements⟩

/-! ## What the rules derive is read -/

theorem opensRange_of_sign {first : Token} {sign : Sign} (h : first.content = .sign sign)
    (hne : sign ≠ .tilde) (rest : List Token) : opensRange (first :: rest) = false := by
  have hsign := (isSign_iff first sign).mpr h
  exact opensRange_other (isSign_eq_false hsign hne) (isNumber_of_isSign hsign) rest

theorem opensRange_of_quoted {first second : Token} {value : String}
    (h : second.content = .quoted value) (rest : List Token) :
    opensRange (first :: second :: rest) = false := by
  simp [opensRange, Token.isSign, Token.isNumber, h]

theorem opensRange_of_marker {marker : List Token} {quantifier : Quantifier} {opening : Token}
    (hmarker : MarkerTokens marker quantifier) (hopening : opening.content = .sign .openBracket)
    (rest : List Token) : opensRange (marker ++ opening :: rest) = false := by
  cases hmarker with
  | none => exact opensRange_of_sign hopening (by decide) rest
  | some _ _ => simp [opensRange, Token.isSign, Token.isNumber, *]

/-- A predicate in front of a token other than a tilde does not open a range. -/
theorem opensRange_of_predicate [Room] {p : Predicate} {ts : List Token} {depth : Nat}
    (h : Produces (.predicate p) ts depth) {next : Token} (hnext : next.isSign .tilde = false)
    (rest : List Token) : opensRange (ts ++ next :: rest) = false := by
  cases h with
  | number h =>
    simp only [Token.isSign, beq_eq_false_iff_ne] at hnext
    simp [opensRange, Token.isSign, h, hnext]
  | text h => simp [opensRange, Token.isSign, Token.isNumber, h]
  | nested h =>
    cases h with
    | group hopening _ _ _ => exact opensRange_of_sign hopening (by decide) _
  | comparison h hsymbol _ =>
    refine opensRange_of_sign h ?_ _
    rintro rfl
    cases comparisonOf?_eq_some.mpr hsymbol
  | pattern _ hquoted _ => exact opensRange_of_quoted hquoted _
  | range hopening _ _ _ _ _ _ => exact opensRange_of_sign hopening (by split <;> decide) _
  | list hmarker hopening _ _ =>
    rw [List.append_assoc, List.append_assoc, List.cons_append]
    exact opensRange_of_marker hmarker hopening _

/-- The elements of a list and the bracket that closes it do not open a range. -/
theorem opensRange_of_elements [Room] {ps : List Predicate} {ts : List Token} {depth : Nat}
    (h : Produces (.elements ps) ts depth) {closing : Token}
    (hclosing : closing.content = .sign .closeBracket) (rest : List Token) :
    opensRange (ts ++ closing :: rest) = false := by
  have hsign := (isSign_iff closing .closeBracket).mpr hclosing
  cases h with
  | noElements => exact opensRange_of_sign hclosing (by decide) rest
  | lastElement h => exact opensRange_of_predicate h (isSign_eq_false hsign (by decide)) rest
  | moreElements h hcomma _ =>
    have hcomma := (isSign_iff _ .comma).mpr hcomma
    rw [List.append_assoc]
    exact opensRange_of_predicate h (isSign_eq_false hcomma (by decide)) _

/-- The parser reads what the rules derive from a construct. -/
def Read [Room] (ts : List Token) (depth : Nat) : Construct → Prop
  | .group p | .predicate p => ∀ {levels : Nat} {rest : List Token}, depth ≤ levels → NoWord rest →
    Derives levels (.predicate p) (ts ++ rest) rest
  | .field call => ∀ {levels : Nat} {rest : List Token} {draft after : Draft}, depth ≤ levels →
    NoWord rest → draft.call? call = some after → Derives levels (.field draft after) (ts ++ rest) rest
  | .fields calls => ∀ {levels : Nat} {closing : Token} {rest : List Token} {draft after : Draft},
    depth ≤ levels → closing.content = .sign .closeBrace → draft.calls? calls = some after →
      Derives levels (.fields draft after) (ts ++ closing :: rest) rest
  | .elements ps => ∀ {levels : Nat} {closing : Token} {rest : List Token}, depth ≤ levels →
    closing.content = .sign .closeBracket →
      Derives levels (.elements ps) (ts ++ closing :: rest) rest

theorem skips_of_tokens {sign : Sign} {before rest : List Token} {found : Bool}
    (h : SignTokens sign before found) (hrest : startsWithSign sign rest = false) :
    Skips sign (before ++ rest) found rest := by
  cases h with
  | absent => exact .absent hrest
  | present h => exact .present ((isSign_iff _ _).mpr h)

theorem ne_nil_of_predicate [Room] {p : Predicate} {ts : List Token} {depth : Nat}
    (h : Produces (.predicate p) ts depth) : ts ≠ [] := by
  cases h with
  | nested h =>
    cases h
    simp
  | _ => simp

theorem read_of_field [Room] {bang path colon ts : List Token} {negated coloned : Bool} {steps : Path}
    {p : Predicate} {depth : Nat} (hbang : SignTokens .bang bang negated)
    (hpath : PathTokens path steps) (hclosed : Closed path (colon ++ ts))
    (hcolon : SignTokens .colon colon coloned) (hne : ts ≠ []) (hp : Read ts depth (.predicate p)) :
    Read (bang ++ path ++ colon ++ ts) (steps.length - 1 + depth)
      (.field (fieldCall negated steps p)) := by
  intro levels rest draft after hdepth hrest hcall
  have hderives : Derives (levels - (steps.length - 1)) (.predicate p) (ts ++ rest) rest :=
    hp (by omega) hrest
  have hpoint : startsWithSign .point (colon ++ (ts ++ rest)) = false := by
    cases hcolon with
    | absent => exact startsWithSign_of_derives hderives fun _ => rfl
    | present h => simp [startsWithSign, Token.isSign, h]
  have hends : Closed path (colon ++ (ts ++ rest)) := by
    rw [← List.append_assoc, Closed, List.head?_append_of_ne_nil _ (by simp [hne])]
    exact hclosed
  have hpathOf := pathOf_of_pathTokens hpath hends hpoint
  have hskipsBang := skips_of_tokens hbang (startsWithSign_of_pathOf hpathOf .bang)
  have hskipsColon :=
    skips_of_tokens hcolon (startsWithSign_of_derives hderives fun _ => rfl)
  have hadd : addField draft negated steps p 0 = .ok after := addField_eq_ok.mpr hcall
  simp only [List.append_assoc]
  exact .field hskipsBang hpathOf hskipsColon (by omega) hderives hadd

theorem read_of_list [Room] {marker ts : List Token} {opening closing : Token} {quantifier : Quantifier}
    {ps : List Predicate} {depth : Nat} (hmarker : MarkerTokens marker quantifier)
    (hopening : opening.content = .sign .openBracket)
    (hopens : ∀ rest, opensRange (ts ++ closing :: rest) = false)
    (hclosing : closing.content = .sign .closeBracket) (helements : Read ts depth (.elements ps)) :
    Read (marker ++ opening :: ts ++ [closing]) (depth + 1) (.predicate (.list quantifier ps)) := by
  intro levels rest hdepth _
  cases levels with
  | zero => omega
  | succ levels =>
    have hinside : Derives levels _ (ts ++ closing :: rest) rest :=
      helements (Nat.le_of_succ_le_succ hdepth) hclosing
    cases hmarker with
    | none =>
      have hbegins : beginning .openBracket (ts ++ closing :: rest) = .list .exact false :=
        if_neg (by simp [hopens])
      simpa using Derives.list hopening hbegins hinside
    | some h hsymbol =>
      have hbegins := beginning_markedList (quantifierOf?_eq_some.mpr hsymbol) hopening
        (ts ++ closing :: rest)
      simpa using Derives.markedList h hbegins ((isSign_iff _ _).mpr hopening) hinside

theorem read_of_produces [Room] {construct : Construct} {ts : List Token} {depth : Nat}
    (h : Produces construct ts depth) : Read ts depth construct := by
  induction h with
  | @group opening closing ts _ _ _ hopening _ hclosing hcalls ih =>
    intro levels rest hdepth _
    cases levels with
    | zero => omega
    | succ levels =>
      have hfields : Derives levels _ (ts ++ closing :: rest) rest :=
        ih (Nat.le_of_succ_le_succ hdepth) hclosing hcalls
      simpa using Derives.group hopening rfl hfields
  | number h => exact fun _ _ => .number h
  | text h => exact fun _ _ => .text h
  | nested _ ih => exact ih
  | comparison h hsymbol hnumber =>
    intro levels rest _ _
    exact .comparison h (beginning_comparison (comparisonOf?_eq_some.mpr hsymbol) hnumber rest) hnumber
  | pattern htilde hquoted hcompile =>
    intro levels rest _ _
    exact .pattern htilde (beginning_pattern hquoted rest) hcompile
  | @range _ _ _ _ _ suffix _ _ _ _ lowerIncluded _ hopening hlower htilde hupper hclosing hsuffix
      hagree =>
    intro levels rest _ hrest
    refine .range hopening ?_
      (rangeOf_of_tokens hlower htilde hupper hclosing hsuffix hagree hrest)
    cases lowerIncluded with
    | false => rfl
    | true =>
      have hopens := opensRange_of_tokens hlower htilde hupper hclosing (suffix ++ rest)
      exact if_pos (by simpa using hopens)
  | list hmarker hopening helements hclosing ih =>
    exact read_of_list hmarker hopening (opensRange_of_elements helements hclosing) hclosing ih
  | field hbang hpath hclosed hcolon hp ih =>
    exact read_of_field hbang hpath hclosed hcolon (ne_nil_of_predicate hp) ih
  | noFields =>
    intro levels closing rest draft after _ hclosing hcalls
    cases hcalls
    exact .noFields ((isSign_iff _ _).mpr hclosing)
  | lastField _ ih =>
    intro levels closing rest draft after hdepth hclosing hcalls
    obtain ⟨next, hcall, hnext⟩ := Option.bind_eq_some_iff.mp hcalls
    cases hnext
    have hsign := (isSign_iff _ _).mpr hclosing
    exact .lastField (ih hdepth (noWord_of_sign hsign rest) hcall) hsign
  | moreFields _ hcomma _ ih ihrest =>
    intro levels closing rest draft after hdepth hclosing hcalls
    obtain ⟨next, hcall, hnext⟩ := Option.bind_eq_some_iff.mp hcalls
    have hsign := (isSign_iff _ _).mpr hcomma
    rw [List.append_assoc]
    exact .moreFields (ih (le_trans (le_max_left _ _) hdepth) (noWord_of_sign hsign _) hcall) hsign
      (ihrest (le_trans (le_max_right _ _) hdepth) hclosing hnext)
  | noElements =>
    intro levels closing rest _ hclosing
    exact .noElements ((isSign_iff _ _).mpr hclosing)
  | lastElement _ ih =>
    intro levels closing rest hdepth hclosing
    have hsign := (isSign_iff _ _).mpr hclosing
    exact .lastElement (ih hdepth (noWord_of_sign hsign rest)) hsign
  | moreElements _ hcomma _ ih ihrest =>
    intro levels closing rest hdepth hclosing
    have hsign := (isSign_iff _ _).mpr hcomma
    rw [List.append_assoc]
    exact .moreElements (ih (le_trans (le_max_left _ _) hdepth) (noWord_of_sign hsign _)) hsign
      (ihrest (le_trans (le_max_right _ _) hdepth) hclosing)

/-! ## Texts -/

theorem lexeme_ne_stop {offset more : Nat} {c : Char} {rest : List Char} {content : Content}
    (h : lexeme offset c rest = .ok (some content, more)) : content ≠ .stop := by
  rcases content_of_lexeme h with ⟨_, rfl⟩ | ⟨n, text, hcontent⟩ | ⟨_, rfl⟩ | ⟨_, rfl⟩
  · simp
  · rintro rfl
    unfold Numeral.content at hcontent
    split at hcontent
    · obtain ⟨_, _, hstop⟩ := ok_of_bind hcontent
      cases hstop
    · split at hcontent
      · obtain ⟨_, _, hstop⟩ := ok_of_bind hcontent
        cases hstop
      · split at hcontent <;> cases hcontent
  · simp
  · simp

/-- The last token stands for the end of the text, and no other one does. -/
theorem tokensFrom_eq_ok {offset : Nat} {chars : List Char} {ts : List Token}
    (h : tokensFrom offset chars = .ok ts) :
    ∃ body stop, ts = body ++ [stop] ∧ stop.content = .stop ∧
      ∀ token ∈ body, token.content ≠ .stop := by
  fun_induction tokensFrom offset chars generalizing ts with
  | case1 offset =>
    cases h
    exact ⟨[], _, rfl, rfl, by simp⟩
  | case2 offset c rest ih =>
    obtain ⟨⟨content?, more⟩, hlexeme, h⟩ := ok_of_bind h
    obtain ⟨later, hlater, h⟩ := ok_of_bind h
    obtain ⟨body, stop, rfl, hstop, hbody⟩ := ih _ hlater
    cases content? with
    | none =>
      cases h
      exact ⟨body, stop, rfl, hstop, hbody⟩
    | some content =>
      cases h
      exact ⟨_ :: body, stop, rfl, hstop, List.forall_mem_cons.mpr ⟨lexeme_ne_stop hlexeme, hbody⟩⟩

/-- Tokens in front of the one for the end are all tokens but that one. -/
theorem eq_singleton_of_append {front rest body : List Token} {closing stop : Token}
    (h : front ++ closing :: rest = body ++ [stop]) (hbody : ∀ token ∈ body, token.content ≠ .stop)
    (hclosing : closing.content ≠ stop.content)
    (hrest : ∀ last ∈ rest.head?, last.content = .stop) : rest = [stop] := by
  rcases List.eq_nil_or_concat rest with rfl | ⟨others, last, rfl⟩
  · obtain ⟨-, heq⟩ := List.append_inj' h rfl
    cases heq
    exact absurd rfl hclosing
  · rw [List.concat_eq_append, ← List.cons_append, ← List.append_assoc] at h
    obtain ⟨rfl, heq⟩ := List.append_inj' h rfl
    cases heq
    cases others with
    | nil => rfl
    | cons next others => exact absurd (hrest next rfl) (hbody next (by simp))

/-- A text is read as a group exactly if the rules derive its tokens, but the one for its end, from
the group, and no point of it is nested too deep. -/
theorem parse_eq_ok_iff_produces [Room] {text : String} {p : Predicate} :
    parse text = .ok p ↔ ∃ body stop depth, tokenize text = .ok (body ++ [stop]) ∧
      stop.content = .stop ∧ Produces (.group p) body depth ∧ depth ≤ nestingLimit := by
  constructor
  · intro h
    obtain ⟨ts, htokens, h⟩ := parse_eq_ok.mp h
    obtain ⟨opening, inside, rest, rfl, hopening, hderives, hlast⟩ := parseTokens_eq_ok.mp h
    obtain ⟨levels, draft, hlevels, rfl, hinner⟩ := fields_of_derives hopening hderives
    obtain ⟨calls, before, closing, depth, rfl, hclosing, hdepth, hfields, hcalls⟩ :=
      accounted_of_derives hinner
    obtain ⟨body, stop, hbody, hstop, hinside⟩ := tokensFrom_eq_ok htokens
    have hrest : rest = [stop] := by
      rw [← List.cons_append] at hbody
      exact eq_singleton_of_append hbody hinside (by simp [hclosing, hstop]) hlast
    subst hrest
    refine ⟨opening :: before ++ [closing], stop, depth + 1, by simpa using htokens, hstop,
      .group ((isSign_iff _ _).mp hopening) hfields hclosing hcalls, ?_⟩
    omega
  · rintro ⟨body, stop, depth, htokens, hstop, hgroup, hdepth⟩
    have hend : NoWord [stop] := by simp [NoWord, hstop]
    have hderives : Derives nestingLimit (.predicate p) (body ++ [stop]) [stop] :=
      read_of_produces hgroup hdepth hend
    refine parse_eq_ok.mpr ⟨_, htokens, parseTokens_eq_ok.mpr ?_⟩
    cases hgroup with
    | group hopening _ _ _ =>
      exact ⟨_, _, _, rfl, (isSign_iff _ _).mpr hopening, hderives, by simp [hstop]⟩

end TreePredicate.Notation
