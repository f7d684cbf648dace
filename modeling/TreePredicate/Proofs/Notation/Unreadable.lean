import TreePredicate.Proofs.Notation.Failing
import TreePredicate.Proofs.Notation.ParseError
import TreePredicate.Proofs.Notation.PathSpelling

/-!
# Patterns that cannot be read

A pattern can hold a number that is too large to be taken, or flags that exclude each other, or more
groups inside one another than there is room for. Reading a text fails at such a pattern, and not by a
parse error.

* `UnreadablePattern`, `found_of_halts` : such a pattern, and that there is one where the parser fails
  otherwise;
* `Fails`, `fails_of_leads` : and where there is one it does, by induction on what stands before;
* `parse_group_or_parseError_iff` : so a text is read as a group or refused by a parse error, unless
  reading comes to an integer with too many digits or to such a pattern;
* `parse_refused` : a text with such a pattern; `parse_letters`, `parse_nestedGroups` are two of them.
-/

set_option autoImplicit false

namespace TreePredicate.Notation

/-! ## Patterns -/

/-- A tilde and a quoted text that cannot be read as a pattern, though not for its syntax. -/
structure UnreadablePattern [Room] (tilde quoted : Token) : Prop where
  tilde : tilde.content = .sign .tilde
  quoted : ∃ source fault, quoted.content = .quoted source ∧
    Pattern.compileAt source quoted.start = .error fault ∧
      ∀ message position, fault ≠ .malformed message position

/-- Where something is expected, the tokens lead to an unreadable pattern. -/
def Found [Room] (awaited : Awaited) (levels : Nat) (ts : List Token) : Prop :=
  ∃ before depth tilde quoted rest, ts = before ++ tilde :: quoted :: rest ∧ depth ≤ levels ∧
    Leads awaited before depth ∧ UnreadablePattern tilde quoted

/-- Where reading stops with a failure that is no parse error, there is an unreadable pattern. -/
theorem found_of_halts [Room] {awaited : Awaited} {levels : Nat} {ts : List Token} {failure : Failure}
    (h : Halts levels awaited ts failure) (hnot : ¬ failure.IsParseError) :
    Found awaited levels ts := by
  cases h with
  | misses h =>
    obtain ⟨before, after, what, rfl, -, rfl⟩ := h
    cases after <;> exact absurd .grammar hnot
  | within hleads hdepth h =>
    cases h with
    | pattern htilde hquoted hcompile =>
      refine ⟨_, _, _, _, _, rfl, hdepth, hleads, htilde, _, _, hquoted, hcompile, ?_⟩
      rintro message position rfl
      exact hnot .pattern
    | group => exact absurd .ambiguous hnot
  | conflicts => exact absurd .ambiguous hnot

/-! ## What is failed at -/

/-- The parser fails otherwise where something is expected. -/
def Fails [Room] (levels : Nat) (ts : List Token) : Awaited → Prop
  | .predicate => FailsOtherwise (predicate levels ts)
  | .fields draft => FailsOtherwise (moreFields levels draft ts)
  | .elements => FailsOtherwise (moreElements levels ts)

/-- A sign that begins nothing is a parse error where a predicate is expected. -/
theorem startsWithSign_of_fails [Room] {levels : Nat} {ts : List Token} {sign : Sign}
    (h : FailsOtherwise (predicate levels ts)) (hnothing : ∀ rest, beginning sign rest = .nothing) :
    startsWithSign sign ts = false := by
  cases ts with
  | nil => rfl
  | cons token rest =>
    rw [startsWithSign_cons, Bool.eq_false_iff]
    intro hsign
    rw [predicate, (isSign_iff _ _).mp hsign] at h
    dsimp only at h
    rw [hnothing] at h
    exact not_failsOtherwise_expected _ _ h

theorem fails_of_pattern [Room] {tilde quoted : Token} (h : UnreadablePattern tilde quoted) (levels : Nat)
    (rest : List Token) : FailsOtherwise (predicate levels (tilde :: quoted :: rest)) := by
  obtain ⟨source, fault, hquoted, hcompile, hfault⟩ := h.quoted
  rw [predicate, h.tilde]
  dsimp only
  rw [beginning_pattern hquoted rest]
  exact failsOtherwise_bind.mpr
    (.inl (patternOf_failsOtherwise_iff.mpr ⟨fault, hcompile, hfault⟩))

theorem fails_of_group [Room] {levels : Nat} {opening : Token} {inside : List Token}
    (hopening : opening.content = .sign .openBrace)
    (h : FailsOtherwise (moreFields levels .empty inside)) :
    FailsOtherwise (predicate (levels + 1) (opening :: inside)) := by
  have hbegins : beginning .openBrace inside = .group := rfl
  rw [predicate, hopening]
  dsimp only
  rw [hbegins]
  dsimp only
  rw [fields]
  exact failsOtherwise_bind.mpr (.inl h)

theorem fails_of_list [Room] {levels : Nat} {marker inside : List Token} {opening : Token}
    {quantifier : Quantifier} (hmarker : MarkerTokens marker quantifier)
    (hopening : opening.content = .sign .openBracket) (hopens : opensRange inside = false)
    (h : FailsOtherwise (moreElements levels inside)) :
    FailsOtherwise (predicate (levels + 1) (marker ++ opening :: inside)) := by
  cases hmarker with
  | none =>
    have hbegins : beginning .openBracket inside = .list .exact false := if_neg (by simp [hopens])
    rw [List.nil_append, predicate, hopening]
    dsimp only
    rw [hbegins]
    dsimp only
    rw [elements]
    exact failsOtherwise_bind.mpr (.inl h)
  | some hsign hsymbol =>
    rw [List.singleton_append, predicate, hsign]
    dsimp only
    rw [beginning_markedList (quantifierOf?_eq_some.mpr hsymbol) hopening]
    dsimp only
    rw [takeSign_cons ((isSign_iff _ _).mpr hopening)]
    refine failsOtherwise_bind.mpr (.inr ⟨_, rfl, ?_⟩)
    dsimp only [Rest.tail]
    rw [elements]
    exact failsOtherwise_bind.mpr (.inl h)

theorem fails_of_field [Room] {levels : Nat} {ts afterBang afterPath afterColon : List Token}
    {negated colon : Bool} {steps : Path} (draft : Draft) (hbang : Skips .bang ts negated afterBang)
    (hpath : PathOf afterBang steps afterPath) (hcolon : Skips .colon afterPath colon afterColon)
    (hlevels : steps.length - 1 ≤ levels)
    (h : FailsOtherwise (predicate (levels - (steps.length - 1)) afterColon)) :
    FailsOtherwise (moreFields levels draft ts) := by
  obtain ⟨token, tail, rfl, hfirst⟩ := not_closeBrace_of_field hbang hpath
  obtain ⟨hle₁, hbang⟩ := eq_of_skips hbang
  obtain ⟨hlt₂, hpath⟩ := gives_path hpath
  obtain ⟨hle₃, hcolon⟩ := eq_of_skips hcolon
  rw [moreFields_eq hfirst]
  refine failsOtherwise_bind.mpr (.inl ?_)
  unfold readField
  rw [hbang]
  dsimp only
  rw [hpath]
  refine failsOtherwise_bind.mpr (.inr ⟨_, rfl, ?_⟩)
  dsimp only
  rw [hcolon]
  dsimp only
  rw [if_neg (Nat.not_lt.mpr hlevels)]
  exact failsOtherwise_bind.mpr (.inl h)

theorem fails_of_behindField [Room] {levels : Nat} {ts others : List Token} {comma : Token}
    {draft next : Draft} (hfield : Derives levels (.field draft next) ts (comma :: others))
    (hcomma : comma.isSign .comma = true) (h : FailsOtherwise (moreFields levels next others)) :
    FailsOtherwise (moreFields levels draft ts) := by
  obtain ⟨hlt, heq⟩ := moreFields_of_field (reads_of_derives hfield)
  obtain ⟨failure, hfailure, hnot⟩ := h
  refine ⟨failure, ?_, hnot⟩
  rw [heq, behindField, if_pos hcomma, hfailure]
  rfl

theorem fails_of_element [Room] {levels : Nat} {ts : List Token} (h : FailsOtherwise (predicate levels ts)) :
    FailsOtherwise (moreElements levels ts) := by
  have hfirst : startsWithSign .closeBracket ts = false := startsWithSign_of_fails h fun _ => rfl
  cases ts with
  | nil =>
    rw [predicate] at h
    exact absurd h (not_failsOtherwise_expected _ _)
  | cons token tail =>
    rw [startsWithSign_cons] at hfirst
    rw [moreElements, if_neg (by simp [hfirst])]
    exact failsOtherwise_bind.mpr (.inl h)

theorem fails_of_behindElement [Room] {levels : Nat} {ts others : List Token} {comma : Token}
    {p : Predicate} (hp : Derives levels (.predicate p) ts (comma :: others))
    (hcomma : comma.isSign .comma = true) (h : FailsOtherwise (moreElements levels others)) :
    FailsOtherwise (moreElements levels ts) := by
  have hgives : Gives (predicate levels ts) p (comma :: others) := reads_of_derives hp
  obtain ⟨token, tail, rfl, hfirst⟩ := not_closeBracket_of_gives hgives
  obtain ⟨hlt, hgives⟩ := hgives
  rw [moreElements, if_neg hfirst, hgives]
  refine failsOtherwise_bind.mpr (.inr ⟨_, rfl, ?_⟩)
  dsimp only
  rw [if_pos hcomma]
  exact failsOtherwise_bind.mpr (.inl h)

/-- What leads to a pattern among the elements of a list does not open a range. -/
theorem opensRange_of_leads [Room] {ts : List Token} {depth : Nat} (h : Leads .elements ts depth)
    {tilde quoted : Token} (hpattern : UnreadablePattern tilde quoted) (rest : List Token) :
    opensRange (ts ++ tilde :: quoted :: rest) = false := by
  obtain ⟨source, fault, hquoted, -⟩ := hpattern.quoted
  cases h with
  | element h =>
    cases h with
    | here => exact opensRange_of_quoted hquoted rest
    | group hopening _ => exact opensRange_of_sign hopening (by decide) _
    | list hmarker hopening _ =>
      rw [List.append_assoc]
      exact opensRange_of_marker hmarker hopening _
  | behindElement hp hcomma _ =>
    have hcomma := (isSign_iff _ .comma).mpr hcomma
    rw [List.append_assoc]
    exact opensRange_of_predicate hp (isSign_eq_false hcomma (by decide)) _

theorem closed_of_leads {path colon ts : List Token} (hclosed : Closed path (colon ++ ts))
    {tilde : Token} (htilde : tilde.content = .sign .tilde) (rest : List Token) :
    Closed path (colon ++ (ts ++ tilde :: rest)) := by
  rw [← List.append_assoc]
  cases hfront : colon ++ ts with
  | nil =>
    intro last _ opening hopening hbracket
    cases hopening
    cases htilde.symm.trans hbracket
  | cons first others =>
    rw [hfront] at hclosed
    exact hclosed

theorem fails_of_leads [Room] {awaited : Awaited} {before : List Token} {depth : Nat}
    (h : Leads awaited before depth) {tilde quoted : Token} (hpattern : UnreadablePattern tilde quoted)
    {levels : Nat} (hdepth : depth ≤ levels) (rest : List Token) :
    Fails levels (before ++ tilde :: quoted :: rest) awaited := by
  induction h generalizing levels with
  | here => exact fails_of_pattern hpattern levels rest
  | group hopening _ ih =>
    cases levels with
    | zero => omega
    | succ levels => exact fails_of_group hopening (ih (Nat.le_of_succ_le_succ hdepth))
  | list hmarker hopening hleads ih =>
    cases levels with
    | zero => omega
    | succ levels =>
      have hopens := opensRange_of_leads hleads hpattern rest
      rw [List.append_assoc]
      exact fails_of_list hmarker hopening hopens (ih (Nat.le_of_succ_le_succ hdepth))
  | @field bang path colon ts negated coloned steps draft depth hbang hpath hclosed hcolon hleads ih =>
    have hfails : FailsOtherwise (predicate (levels - (steps.length - 1))
        (ts ++ tilde :: quoted :: rest)) := ih (by omega)
    have hpoint : startsWithSign .point (colon ++ (ts ++ tilde :: quoted :: rest)) = false := by
      cases hcolon with
      | absent => exact startsWithSign_of_fails hfails fun _ => rfl
      | present h => simp [startsWithSign, Token.isSign, h]
    have hpathOf := pathOf_of_pathTokens hpath (closed_of_leads hclosed hpattern.tilde _) hpoint
    have hskipsBang := skips_of_tokens hbang (startsWithSign_of_pathOf hpathOf .bang)
    have hskipsColon := skips_of_tokens hcolon (startsWithSign_of_fails hfails fun _ => rfl)
    simp only [List.append_assoc]
    exact fails_of_field draft hskipsBang hpathOf hskipsColon (by omega) hfails
  | @behindField call front others comma draft next _ _ hfield hcall hcomma _ ih =>
    have hsign := (isSign_iff _ .comma).mpr hcomma
    have hderives : Derives levels (.field draft next)
        (front ++ comma :: (others ++ tilde :: quoted :: rest)) _ :=
      read_of_produces hfield (le_trans (le_max_left _ _) hdepth) (noWord_of_sign hsign _) hcall
    rw [List.append_assoc]
    exact fails_of_behindField hderives hsign (ih (le_trans (le_max_right _ _) hdepth))
  | element _ ih => exact fails_of_element (ih hdepth)
  | @behindElement p front others comma _ _ hp hcomma _ ih =>
    have hsign := (isSign_iff _ .comma).mpr hcomma
    have hderives : Derives levels (.predicate p)
        (front ++ comma :: (others ++ tilde :: quoted :: rest)) _ :=
      read_of_produces hp (le_trans (le_max_left _ _) hdepth) (noWord_of_sign hsign _)
    rw [List.append_assoc]
    exact fails_of_behindElement hderives hsign (ih (le_trans (le_max_right _ _) hdepth))

/-! ## Texts -/

/-- Cutting a text into tokens comes to an integer literal with more digits than are read. -/
def ComesToLongLiteral (text : String) : Prop :=
  ∃ place left, CutsTo 0 text.toList place left ∧ LongLiteral left

/-- A text can be cut into tokens, and reading them as a group comes to an unreadable pattern. -/
def ComesToUnreadablePattern [Room] (text : String) : Prop :=
  ∃ opening before tilde quoted rest depth,
    tokenize text = .ok (opening :: before ++ tilde :: quoted :: rest) ∧
    opening.content = .sign .openBrace ∧ Leads (.fields .empty) before depth ∧
    depth + 1 ≤ nestingLimit ∧ UnreadablePattern tilde quoted

theorem parseTokens_failsOtherwise_iff [Room] {ts : List Token} :
    FailsOtherwise (parseTokens ts) ↔ ∃ opening inside, ts = opening :: inside ∧
      opening.content = .sign .openBrace ∧
      ∃ levels, nestingLimit = levels + 1 ∧ Found (.fields .empty) levels inside := by
  constructor
  · rintro ⟨failure, h, hnot⟩
    rcases parseTokens_eq_error h with ⟨_, after, _, -, -, rfl⟩ | ⟨opening, inside, levels, htokens, hopening,
      hlevels, hhalts⟩
    · cases after <;> exact absurd .grammar hnot
    · exact ⟨opening, inside, htokens, hopening, levels, hlevels, found_of_halts hhalts hnot⟩
  · rintro ⟨opening, inside, rfl, hopening, levels, hlevels, before, depth, tilde, quoted, rest, rfl,
      hdepth, hleads, hpattern⟩
    have hfails : FailsOtherwise (moreFields levels .empty _) :=
      fails_of_leads hleads hpattern hdepth rest
    rw [parseTokens, takeSign_cons ((isSign_iff _ _).mpr hopening)]
    refine failsOtherwise_bind.mpr (.inr ⟨_, rfl, failsOtherwise_bind.mpr (.inl ?_)⟩)
    rw [hlevels, fields]
    exact hfails

theorem parse_failsOtherwise_iff [Room] {text : String} :
    FailsOtherwise (parse text) ↔ ComesToLongLiteral text ∨ ComesToUnreadablePattern text := by
  rw [parse, failsOtherwise_bind, tokenize, tokensFrom_failsOtherwise_iff]
  refine or_congr Iff.rfl ?_
  constructor
  · rintro ⟨ts, htokens, h⟩
    obtain ⟨opening, inside, rfl, hopening, levels, hlevels, before, depth, tilde, quoted, rest, rfl,
      hdepth, hleads, hpattern⟩ := parseTokens_failsOtherwise_iff.mp h
    exact ⟨opening, before, tilde, quoted, rest, depth, htokens, hopening, hleads, by omega, hpattern⟩
  · rintro ⟨opening, before, tilde, quoted, rest, depth, htokens, hopening, hleads, hdepth, hpattern⟩
    exact ⟨_, htokens, parseTokens_failsOtherwise_iff.mpr ⟨opening, _, rfl, hopening, _, rfl,
      before, depth, tilde, quoted, rest, rfl, Nat.le_of_succ_le_succ hdepth, hleads, hpattern⟩⟩

/-- A text is read as a group or refused by a parse error, exactly if reading it comes neither to an
integer literal with more digits than are read nor to a pattern that cannot be read though not for its
syntax. -/
theorem parse_group_or_parseError_iff [Room] {text : String} :
    ((∃ fields negated, parse text = .ok (.group fields negated)) ∨
        ∃ failure, parse text = .error failure ∧ failure.IsParseError) ↔
      ¬ ComesToLongLiteral text ∧ ¬ ComesToUnreadablePattern text := by
  rw [← not_or, ← parse_failsOtherwise_iff]
  constructor
  · rintro (⟨fields, negated, h⟩ | ⟨failure, h, herror⟩) ⟨other, hother, hnot⟩
    · cases h.symm.trans hother
    · cases h.symm.trans hother
      exact hnot herror
  · intro hnot
    cases h : parse text with
    | ok p =>
      obtain ⟨⟨fields, negated, rfl⟩, -⟩ := fits_of_parse h
      exact .inl ⟨fields, negated, rfl⟩
    | error failure =>
      refine .inr ⟨failure, rfl, ?_⟩
      by_contra hother
      exact hnot ⟨failure, h, hother⟩

/-! ## Two texts -/

/-- The pieces of a group with one field. -/
def fieldA (value : List Piece) : List Piece :=
  [.sign .openBrace, .word "a", .sign .colon, .blank] ++ value ++ [.sign .closeBrace]

theorem charsOf_fieldA (value : List Piece) :
    charsOf (fieldA value) = "\x7ba: ".toList ++ charsOf value ++ "\x7d".toList := by
  simp only [fieldA, charsOf_append]
  rfl

theorem valid_fieldA {value : List Piece} (h : ∀ piece ∈ value, piece.Valid) :
    ∀ piece ∈ fieldA value, piece.Valid := by
  have hword : Piece.IsWord "a" :=
    ⟨⟨'a', [], rfl, by decide +kernel⟩, List.forall_mem_singleton.mpr (by decide +kernel)⟩
  simp only [fieldA, List.forall_mem_append, List.forall_mem_cons]
  exact ⟨⟨⟨trivial, hword, trivial, trivial, List.forall_mem_nil _⟩, h⟩, trivial, List.forall_mem_nil _⟩

theorem flowsTo_fieldA {first : Piece} (hfirst : first.Valid) (hne : first ≠ .blank)
    {others : List Piece} (h : FlowsTo (first :: others) ['\x7d']) :
    FlowsTo (fieldA (first :: others)) [] := by
  have hends : Text.isWord ':' = false := by decide +kernel
  have hkey : Starts (Piece.word "a").Ends
      (charsOf (.sign .colon :: .blank :: (first :: others ++ [.sign .closeBrace])) ++ []) :=
    starts_sign rfl hends _ _
  have hblank : Starts (fun c => Text.isBlank c = false)
      (charsOf (first :: others ++ [.sign .closeBrace]) ++ []) := by
    rw [List.cons_append, charsOf_cons, List.append_assoc]
    exact starts_notBlank hfirst hne _
  have hvalue : FlowsTo (first :: others ++ [.sign .closeBrace]) [] :=
    (flowsTo_append _ _ _).mpr ⟨h, starts_nil _, trivial⟩
  have hcolon : FlowsTo (.sign .colon :: .blank :: (first :: others ++ [.sign .closeBrace])) [] :=
    (flowsTo_sign (by decide) (by decide) _ _).mpr ⟨hblank, hvalue⟩
  exact (flowsTo_sign (by decide) (by decide) _ _).mpr ⟨hkey, hcolon⟩

/-- An integer literal of ones. -/
theorem parse_ones {n : Nat} (h : Pattern.Fault.digitsAllowed < n) :
    FailsOtherwise (parse ("\x7ba: " ++ String.ofList (List.replicate n '1') ++ "\x7d")) := by
  have hvalid : (Piece.digits (String.ofList (List.replicate n '1'))).Valid := by
    refine isDigits_iff.mpr ?_
    rw [String.toList_ofList]
    refine ⟨List.ne_nil_of_length_pos (by rw [List.length_replicate]; omega), fun c hc => ?_⟩
    rw [List.eq_of_mem_replicate hc]
    decide +kernel
  have hlong : ¬ (Piece.digits (String.ofList (List.replicate n '1'))).Short := by
    simpa [Piece.Short] using h
  obtain ⟨digits, hdigits⟩ := tokensFrom_long 0
    (valid_fieldA (List.forall_mem_singleton.mpr hvalid)) (by simp [fieldA]) hlong
    (flowsTo_fieldA hvalid (by simp) ⟨starts_cons.mpr ⟨by decide +kernel, by decide⟩, trivial⟩)
  rw [charsOf_fieldA, charsOf_cons, Piece.text] at hdigits
  have hchars : ("\x7ba: " ++ String.ofList (List.replicate n '1') ++ "\x7d").toList =
      "\x7ba: ".toList ++ ((String.ofList (List.replicate n '1')).toList ++ charsOf []) ++
        "\x7d".toList := by
    rw [String.toList_append, String.toList_append, charsOf, List.flatMap_nil, List.append_nil]
  refine ⟨.tooManyDigits digits, ?_, by rintro ⟨⟩⟩
  rw [parse, tokenize, hchars, hdigits]
  rfl

/-- A pattern that is refused, though not for its syntax. -/
theorem parse_refused [Room] {source : String} {fault : Pattern.Fault}
    (hcompile : ∀ offset, Pattern.compileAt source offset = .error fault)
    (hfault : ∀ message position, fault ≠ .malformed message position) :
    FailsOtherwise (parse ("\x7ba: ~" ++ Text.Quoted.encode source ++ "\x7d")) := by
  have hquoted : (Piece.quoted source).Valid := trivial
  have htilde : (Piece.sign .tilde).Valid := trivial
  have hflows : FlowsTo [.sign .tilde, .quoted source] ['\x7d'] :=
    (flowsTo_sign (by decide) (by decide) _ _).mpr ⟨starts_cons.mpr trivial, trivial⟩
  have htokens := tokensFrom_pieces 0 (valid_fieldA (by simp [htilde, hquoted]))
    (by simp [fieldA, Piece.Short]) (flowsTo_fieldA htilde (by simp) hflows)
  have hchars : ("\x7ba: ~" ++ Text.Quoted.encode source ++ "\x7d").toList =
      charsOf (fieldA [.sign .tilde, .quoted source]) := by
    rw [charsOf_fieldA, charsOf_cons, charsOf_cons, String.toList_append, String.toList_append]
    simp [Piece.text, charsOf, Sign.chars]
  rw [← hchars] at htokens
  obtain ⟨opening, key, colon, tilde, quoted, closing, hplace, hopening, hkey, hcolon, htilde,
      hquoted⟩ : ∃ opening key colon tilde quoted closing : Token,
      place 0 (fieldA [.sign .tilde, .quoted source]) =
        [opening, key, colon, tilde, quoted, closing] ∧
      opening.content = .sign .openBrace ∧ key.content = .word "a" ∧
      colon.content = .sign .colon ∧ tilde.content = .sign .tilde ∧
      quoted.content = .quoted source := ⟨_, _, _, _, _, _, rfl, rfl, rfl, rfl, rfl, rfl⟩
  have hpath : PathTokens [key] [.key "a"] := .last (.mk (.word hkey) .none)
  have hclosed : Closed [key] ([colon] ++ []) := by
    intro last _ bracket hbracket hcontent
    cases hbracket
    cases hcolon.symm.trans hcontent
  have hleads : Leads (.fields .empty) ([] ++ [key] ++ [colon] ++ []) 0 :=
    .field .absent hpath hclosed (.present hcolon) .here
  rw [hplace] at htokens
  refine parse_failsOtherwise_iff.mpr (.inr ?_)
  exact ⟨opening, [key, colon], tilde, quoted, _, 0, htokens, hopening, hleads, by decide, htilde,
    source, _, hquoted, hcompile _, hfault⟩

/-- A pattern that asks for more letters than can be counted. -/
theorem parse_letters :
    FailsOtherwise (parse "\x7ba: ~\"b\x7b4294967296\x7d\"\x7d") := by
  have htext : "\x7ba: ~\"b\x7b4294967296\x7d\"\x7d" =
      "\x7ba: ~" ++ Text.Quoted.encode "b\x7b4294967296\x7d" ++ "\x7d" := by
    decide +kernel
  rw [htext]
  generalize hsource : "b\x7b4294967296\x7d" = source
  have hfault : (Pattern.read "b\x7b4294967296\x7d".toList matches .error .repetitionTooLarge) = true := by
    decide +kernel
  have hcompile : Pattern.compile source = .error .repetitionTooLarge := by
    rw [← hsource]
    unfold Pattern.compile
    split
    · next hread =>
      rw [hread] at hfault
      cases hfault
    · next fault hread =>
      rw [hread] at hfault
      cases fault <;> simp_all
  exact parse_refused (fun _ => hcompile) (by simp)

/-- A letter in groups inside one another. -/
def nestedGroups (n : Nat) : String :=
  String.ofList (List.replicate n '(' ++ 'a' :: List.replicate n ')')

theorem le_nesting_nestedGroups (n : Nat) : n ≤ Room.nesting (nestedGroups n) := by
  have hopen : ∀ depth rest, Room.nestingFrom depth (List.replicate n '(' ++ rest) =
      Room.nestingFrom (depth + n) rest := by
    induction n with
    | zero => exact fun _ _ => rfl
    | succ n ih =>
      intro depth rest
      rw [List.replicate_succ, List.cons_append, Room.nestingFrom, ih]
      congr 1
      omega
  rw [Room.nesting, nestedGroups, String.toList_ofList, hopen, Nat.zero_add]
  exact Room.le_nestingFrom n _

/-- Whatever depth of groups there is room for, there are patterns that go deeper. -/
theorem parse_nestedGroups (reading drawing : Nat) :
    FailsOtherwise (@parse (.ofNesting reading drawing)
      ("\x7ba: ~" ++ Text.Quoted.encode (nestedGroups (reading + 1)) ++ "\x7d")) := by
  have hdeep : ¬ Room.nesting (nestedGroups (reading + 1)) ≤ reading :=
    Nat.not_le.mpr (le_nesting_nestedGroups (reading + 1))
  refine @parse_refused (.ofNesting reading drawing) _ .tooDeep (fun offset => if_neg ?_) (by simp)
  exact fun h => hdeep (of_decide_eq_true h)

/-- Both an integer literal and a pattern can be too large. -/
theorem parse_large_failsOtherwise :
    FailsOtherwise (parse ("\x7ba: " ++ String.ofList (List.replicate 4301 '1') ++ "\x7d")) ∧
      FailsOtherwise (parse "\x7ba: ~\"b\x7b4294967296\x7d\"\x7d") :=
  ⟨parse_ones (by decide), parse_letters⟩

end TreePredicate.Notation
