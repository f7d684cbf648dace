import TreePredicate.Proofs.Notation.Derivation

/-!
# The parser reads what can be derived

* `Reads`, `reads_of_derives` : a phrase that can be derived is read, by induction on the derivation;
* `Sound`, `sound` : what is read can be derived, by induction on the number of tokens;
* `gives_predicate_iff`, `parseTokens_eq_ok` : so a predicate and a whole text are read as what can be
  derived from their tokens.
-/

set_option autoImplicit false

namespace TreePredicate.Notation

/-! ## Predicates -/

/-- A field is added, or not, wherever it stands. -/
theorem addField_offset {before after : Draft} {negated : Bool} {path : Path} {p : Predicate}
    {offset : Nat} (other : Nat) (h : addField before negated path p offset = .ok after) :
    addField before negated path p other = .ok after := by
  unfold addField at h ⊢
  split
  · next hnegated =>
    rw [if_pos hnegated] at h
    exact h
  · next hnegated =>
    rw [if_neg hnegated] at h
    split at h
    · exact h
    · cases h

/-- The parser reads a phrase. -/
def Reads [Room] (levels : Nat) (ts rest : List Token) : Phrase → Prop
  | .predicate p => Gives (predicate levels ts) p rest
  | .field before after => ∃ negated afterBang steps afterPath colon afterColon p offset,
    Skips .bang ts negated afterBang ∧ PathOf afterBang steps afterPath ∧
      Skips .colon afterPath colon afterColon ∧ steps.length - 1 ≤ levels ∧
      Gives (predicate (levels - (steps.length - 1)) afterColon) p rest ∧
      addField before negated steps p offset = .ok after
  | .fields before after => Gives (moreFields levels before ts) after rest
  | .elements ps => Gives (moreElements levels ts) ps rest

/-- A field does not start with a closing brace. -/
theorem not_closeBrace_of_field {ts afterBang afterPath : List Token} {negated : Bool} {steps : Path}
    (hbang : Skips .bang ts negated afterBang) (hpath : PathOf afterBang steps afterPath) :
    ∃ token rest, ts = token :: rest ∧ ¬ token.isSign .closeBrace = true := by
  cases hbang with
  | present h =>
    refine ⟨_, _, rfl, ?_⟩
    rw [isSign_eq_false h (by decide)]
    exact Bool.false_ne_true
  | absent h =>
    obtain ⟨token, rest, rfl, hsign⟩ := hpath.first
    refine ⟨token, rest, rfl, ?_⟩
    rw [hsign]
    exact Bool.false_ne_true

/-- What is left behind four parts of some tokens, two of which have to be there, is shorter. -/
theorem length_lt_of_parts {ts ts₁ ts₂ ts₃ ts₄ : List Token} (le₁ : ts₁.length ≤ ts.length)
    (lt₂ : ts₂.length < ts₁.length) (le₃ : ts₃.length ≤ ts₂.length)
    (lt₄ : ts₄.length < ts₃.length) : ts₄.length < ts.length := by
  omega

variable [Room]

/-- A field at the front of some tokens, added to a draft. -/
def readField (levels : Nat) (draft : Draft) (ts : List Token) : Parsed Draft ts := do
  let (negated, ⟨afterBang, le₁⟩) := skipSign .bang ts
  let (steps, ⟨afterPath, lt₂⟩) ← path afterBang
  let (_, ⟨afterColon, le₃⟩) := skipSign .colon afterPath
  if levels < steps.length - 1 then tooDeep afterColon
  let (p, ⟨afterField, lt₄⟩) ← predicate (levels - (steps.length - 1)) afterColon
  let draft ← addField draft negated steps p (placeOf afterBang)
  return (draft, ⟨afterField, length_lt_of_parts le₁ lt₂ le₃ lt₄⟩)

/-- What the parser does behind a field, from the separator on. -/
def behindField (levels : Nat) (draft : Draft) {ts : List Token} : Rest ts → Parsed Draft ts
  | ⟨separator :: others, h⟩ =>
    if separator.isSign .comma then
      (moreFields levels draft others).map fun parsed =>
        (parsed.1, ⟨parsed.2.val, Nat.lt_trans parsed.2.property (Nat.lt_of_succ_lt h)⟩)
    else if separator.isSign .closeBrace then .ok (draft, ⟨others, Nat.lt_of_succ_lt h⟩)
    else expected "',' or '\x7d'" (separator :: others)
  | ⟨[], _⟩ => expected "',' or '\x7d'" []

/-- The parser reads a field and goes on behind it. -/
theorem moreFields_eq {levels : Nat} {draft : Draft} {token : Token} {rest : List Token}
    (h : ¬ token.isSign .closeBrace = true) :
    moreFields levels draft (token :: rest) =
      readField levels draft (token :: rest) >>= fun parsed =>
        behindField levels parsed.1 parsed.2 := by
  rw [moreFields, if_neg h]
  unfold readField
  cases skipSign .bang (token :: rest) with
  | mk negated afterBang =>
    simp only [bind_assoc]
    refine bind_congr fun parsed => ?_
    obtain ⟨steps, afterPath⟩ := parsed
    dsimp only
    split
    · obtain ⟨failure, hfailure⟩ : ∃ failure,
          (tooDeep (skipSign .colon afterPath.val).2.val : Except Failure PUnit) = .error failure :=
        expected_eq_error _ _
      rw [hfailure]
      rfl
    · simp only [bind_assoc, pure_bind]
      refine bind_congr fun parsed => bind_congr fun draft => ?_
      obtain ⟨p, left, hleft⟩ := parsed
      cases left with
      | nil => rfl
      | cons separator others =>
        simp only [behindField]
        split
        · cases moreFields levels draft others <;> rfl
        · split <;> rfl

theorem gives_readField {levels : Nat} {before after : Draft} {ts rest : List Token}
    (h : Reads levels ts rest (.field before after)) : Gives (readField levels before ts) after rest := by
  obtain ⟨negated, afterBang, steps, afterPath, colon, afterColon, p, offset, hbang, hpath, hcolon,
    hlevels, hgives, hadd⟩ := h
  obtain ⟨hle₁, hbang⟩ := eq_of_skips hbang
  obtain ⟨hlt₂, hpath⟩ := gives_path hpath
  obtain ⟨hle₃, hcolon⟩ := eq_of_skips hcolon
  obtain ⟨hlt₄, hp⟩ := hgives
  refine ⟨by omega, ?_⟩
  unfold readField
  rw [hbang]
  dsimp only
  rw [hpath]
  dsimp only [bind, Except.bind]
  rw [hcolon]
  dsimp only
  rw [if_neg (Nat.not_lt.mpr hlevels)]
  simp only [pure, Except.pure]
  rw [hp]
  dsimp only
  rw [addField_offset _ hadd]

theorem moreFields_of_field {levels : Nat} {before after : Draft} {ts rest : List Token}
    (h : Reads levels ts rest (.field before after)) :
    ∃ hlt : rest.length < ts.length,
      moreFields levels before ts = behindField levels after ⟨rest, hlt⟩ := by
  obtain ⟨hlt, hfield⟩ := gives_readField h
  obtain ⟨_, _, _, _, _, _, _, _, hbang, hpath, -⟩ := h
  obtain ⟨token, tail, rfl, hfirst⟩ := not_closeBrace_of_field hbang hpath
  refine ⟨hlt, ?_⟩
  rw [moreFields_eq hfirst, hfield]
  rfl

theorem gives_lastField {levels : Nat} {before after : Draft} {ts rest : List Token}
    {separator : Token} (h : Reads levels ts (separator :: rest) (.field before after))
    (hclosing : separator.isSign .closeBrace = true) :
    Gives (moreFields levels before ts) after rest := by
  obtain ⟨hlt, hfield⟩ := moreFields_of_field h
  have hcomma : separator.isSign .comma = false := isSign_eq_false hclosing (by decide)
  rw [hfield, behindField, hcomma, if_neg Bool.false_ne_true, if_pos hclosing]
  exact ⟨_, rfl⟩

theorem gives_moreFields {levels : Nat} {before next after : Draft} {ts others rest : List Token}
    {separator : Token} (h : Reads levels ts (separator :: others) (.field before next))
    (hcomma : separator.isSign .comma = true)
    (hmore : Gives (moreFields levels next others) after rest) :
    Gives (moreFields levels before ts) after rest := by
  obtain ⟨hlt, hfield⟩ := moreFields_of_field h
  obtain ⟨hlt', hmore⟩ := hmore
  rw [hfield, behindField, if_pos hcomma, hmore]
  exact ⟨_, rfl⟩

/-- A predicate does not start with a closing bracket. -/
theorem not_closeBracket_of_gives {levels : Nat} {ts rest : List Token} {p : Predicate}
    (h : Gives (predicate levels ts) p rest) :
    ∃ token tail, ts = token :: tail ∧ ¬ token.isSign .closeBracket = true := by
  obtain ⟨hlt, hp⟩ := h
  cases ts with
  | nil => cases hlt
  | cons token tail =>
    refine ⟨token, tail, rfl, fun hclosing => ?_⟩
    rw [predicate, (isSign_iff token .closeBracket).mp hclosing] at hp
    exact absurd hp expected_ne_ok

theorem gives_lastElement {levels : Nat} {ts rest : List Token} {separator : Token} {p : Predicate}
    (h : Gives (predicate levels ts) p (separator :: rest))
    (hclosing : separator.isSign .closeBracket = true) :
    Gives (moreElements levels ts) [p] rest := by
  obtain ⟨token, tail, rfl, hfirst⟩ := not_closeBracket_of_gives h
  obtain ⟨hlt, hp⟩ := h
  have hcomma : separator.isSign .comma = false := isSign_eq_false hclosing (by decide)
  refine ⟨by rw [List.length_cons] at hlt; omega, ?_⟩
  rw [moreElements, if_neg hfirst, hp]
  dsimp only [bind, Except.bind]
  rw [hcomma, if_neg Bool.false_ne_true, if_pos hclosing]
  rfl

theorem gives_moreElements {levels : Nat} {ts others rest : List Token} {separator : Token}
    {p : Predicate} {ps : List Predicate} (h : Gives (predicate levels ts) p (separator :: others))
    (hcomma : separator.isSign .comma = true) (hmore : Gives (moreElements levels others) ps rest) :
    Gives (moreElements levels ts) (p :: ps) rest := by
  obtain ⟨token, tail, rfl, hfirst⟩ := not_closeBracket_of_gives h
  obtain ⟨hlt, hp⟩ := h
  obtain ⟨hlt', hmore⟩ := hmore
  refine ⟨by rw [List.length_cons] at hlt; omega, ?_⟩
  rw [moreElements, if_neg hfirst, hp]
  dsimp only [bind, Except.bind]
  rw [if_pos hcomma, hmore]
  rfl

/-- The parser reads what can be derived. -/
theorem reads_of_derives {levels : Nat} {phrase : Phrase} {ts rest : List Token}
    (h : Derives levels phrase ts rest) : Reads levels ts rest phrase := by
  induction h with
  | number h =>
    refine ⟨Nat.lt_succ_self _, ?_⟩
    rw [predicate, h]
    rfl
  | text h =>
    refine ⟨Nat.lt_succ_self _, ?_⟩
    rw [predicate, h]
    rfl
  | group h hbegins _ ih =>
    obtain ⟨hlt, hfields⟩ := ih
    refine ⟨Nat.lt_succ_of_lt hlt, ?_⟩
    rw [predicate, h]
    dsimp only
    rw [hbegins]
    dsimp only
    rw [fields, hfields]
    rfl
  | range h hbegins hrange =>
    obtain ⟨hlt, hrange⟩ := gives_range hrange
    refine ⟨Nat.lt_succ_of_lt hlt, ?_⟩
    rw [predicate, h]
    dsimp only
    rw [hbegins]
    dsimp only
    rw [hrange]
    rfl
  | pattern h hbegins hcompile =>
    refine ⟨by simp only [List.length_drop, List.length_cons]; omega, ?_⟩
    rw [predicate, h]
    dsimp only
    rw [hbegins]
    dsimp only
    rw [patternOf, hcompile]
    rfl
  | comparison h hbegins hnumber =>
    refine ⟨by simp only [List.length_cons]; omega, ?_⟩
    rw [predicate, h]
    dsimp only
    rw [hbegins]
    dsimp only
    rw [comparison, hnumber]
    rfl
  | list h hbegins _ ih =>
    obtain ⟨hlt, helements⟩ := ih
    refine ⟨Nat.lt_succ_of_lt hlt, ?_⟩
    rw [predicate, h]
    dsimp only
    rw [hbegins]
    dsimp only
    rw [elements, helements]
    rfl
  | markedList h hbegins hopening _ ih =>
    obtain ⟨hlt, helements⟩ := ih
    refine ⟨by simp only [List.length_cons]; omega, ?_⟩
    rw [predicate, h]
    dsimp only
    rw [hbegins]
    dsimp only
    rw [takeSign_cons hopening]
    dsimp only [bind, Except.bind, Rest.tail]
    rw [elements, helements]
    rfl
  | field hbang hpath hcolon hlevels _ hadd ih =>
    exact ⟨_, _, _, _, _, _, _, _, hbang, hpath, hcolon, hlevels, ih, hadd⟩
  | noFields h =>
    refine ⟨Nat.lt_succ_self _, ?_⟩
    rw [moreFields, if_pos h]
    rfl
  | lastField _ hclosing ih => exact gives_lastField ih hclosing
  | moreFields _ hcomma _ ihfield ihfields => exact gives_moreFields ihfield hcomma ihfields
  | noElements h =>
    refine ⟨Nat.lt_succ_self _, ?_⟩
    rw [moreElements, if_pos h]
    rfl
  | lastElement _ hclosing ih => exact gives_lastElement ih hclosing
  | moreElements _ hcomma _ ihp ihelements => exact gives_moreElements ihp hcomma ihelements

/-! ## What was read -/

theorem fields_eq_ok {levels : Nat} {ts : List Token} {result : Draft × Rest ts}
    (h : fields levels ts = .ok result) :
    ∃ inner, levels = inner + 1 ∧ moreFields inner .empty ts = .ok result := by
  cases levels with
  | zero =>
    rw [fields] at h
    exact absurd h expected_ne_ok
  | succ inner =>
    rw [fields] at h
    exact ⟨inner, rfl, h⟩

theorem elements_eq_ok {levels : Nat} {ts : List Token} {result : List Predicate × Rest ts}
    (h : elements levels ts = .ok result) :
    ∃ inner, levels = inner + 1 ∧ moreElements inner ts = .ok result := by
  cases levels with
  | zero =>
    rw [elements] at h
    exact absurd h expected_ne_ok
  | succ inner =>
    rw [elements] at h
    exact ⟨inner, rfl, h⟩

theorem patternOf_eq_ok {source : String} {offset : Nat} {q : Predicate}
    (h : patternOf source offset = .ok q) :
    ∃ p, Pattern.compileAt source offset = .ok p ∧ q = .pattern p := by
  unfold patternOf at h
  split at h
  · next p hcompile =>
    cases h
    exact ⟨p, hcompile, rfl⟩
  · cases h

omit [Room] in
theorem comparison_eq_ok {c : Comparison} {ts : List Token} {result : Predicate × Rest ts}
    (h : comparison c ts = .ok result) :
    ∃ number value width?, ts = number :: result.2.val ∧
      number.content = .number value width? ∧ result.1 = .number (.compare c value width?) := by
  cases ts with
  | nil =>
    rw [comparison] at h
    exact absurd h expected_ne_ok
  | cons number others =>
    rw [comparison] at h
    split at h
    · next value width? hnumber =>
      cases h
      exact ⟨number, value, width?, rfl, hnumber, rfl⟩
    · exact absurd h expected_ne_ok

/-- What the parser reads from some tokens can be derived. -/
structure Sound (ts : List Token) : Prop where
  predicate : ∀ {levels : Nat} {p : Predicate} {rest : List Token},
    Gives (predicate levels ts) p rest → Derives levels (.predicate p) ts rest
  fields : ∀ {levels : Nat} {before after : Draft} {rest : List Token},
    Gives (moreFields levels before ts) after rest → Derives levels (.fields before after) ts rest
  elements : ∀ {levels : Nat} {ps : List Predicate} {rest : List Token},
    Gives (moreElements levels ts) ps rest → Derives levels (.elements ps) ts rest

theorem derives_predicate {levels : Nat} {ts rest : List Token} {p : Predicate}
    (ih : ∀ us : List Token, us.length < ts.length → Sound us)
    (h : Gives (predicate levels ts) p rest) : Derives levels (.predicate p) ts rest := by
  obtain ⟨hlt, h⟩ := h
  cases ts with
  | nil => cases hlt
  | cons token tail =>
    have ihtail := ih tail (Nat.lt_succ_self _)
    rw [predicate] at h
    split at h
    · next value width? hcontent =>
      cases h
      exact .number hcontent
    · next value hcontent =>
      cases h
      exact .text hcontent
    · next sign hcontent =>
      split at h
      · next hbegins =>
        obtain ⟨⟨draft, left⟩, hfields, h⟩ := ok_of_bind h
        cases h
        obtain ⟨inner, rfl, hmore⟩ := fields_eq_ok hfields
        exact .group hcontent hbegins (ihtail.fields (gives_of_ok hmore))
      · next lowerIncluded hbegins =>
        obtain ⟨⟨q, left⟩, hrange, h⟩ := ok_of_bind h
        cases h
        obtain ⟨test, rfl, hderived⟩ := range_of_gives (gives_of_ok hrange)
        exact .range hcontent hbegins hderived
      · next source offset hbegins =>
        obtain ⟨q, hpattern, h⟩ := ok_of_bind h
        cases h
        obtain ⟨compiled, hcompile, rfl⟩ := patternOf_eq_ok hpattern
        exact .pattern hcontent hbegins hcompile
      · next c hbegins =>
        obtain ⟨⟨q, left⟩, hcomparison, h⟩ := ok_of_bind h
        cases h
        obtain ⟨number, value, width?, htail, hnumber, hq⟩ := comparison_eq_ok hcomparison
        dsimp only at htail hq
        rw [htail] at hbegins
        rw [hq]
        have hderived : Derives levels _ (token :: number :: left.val) left.val :=
          .comparison hcontent hbegins hnumber
        rw [← htail] at hderived
        exact hderived
      · next quantifier hbegins =>
        obtain ⟨⟨ps, left⟩, helements, h⟩ := ok_of_bind h
        cases h
        obtain ⟨inner, rfl, hmore⟩ := elements_eq_ok helements
        exact .list hcontent hbegins (ihtail.elements (gives_of_ok hmore))
      · next quantifier hbegins =>
        obtain ⟨⟨opening, inside⟩, htake, h⟩ := ok_of_bind h
        obtain ⟨⟨ps, left⟩, helements, h⟩ := ok_of_bind h
        cases h
        obtain ⟨hopening, others, htail, rfl⟩ := takeSign_eq_ok htake
        have ihinside := ih inside.val (Nat.lt_succ_of_lt inside.property)
        obtain ⟨inner, rfl, hmore⟩ := elements_eq_ok helements
        rw [htail] at hbegins
        have hlist := Derives.markedList hcontent hbegins hopening
          (ihinside.elements (gives_of_ok hmore))
        rw [← htail] at hlist
        exact hlist
      · exact absurd h expected_ne_ok
    · exact absurd h expected_ne_ok

theorem derives_elements {levels : Nat} {ts rest : List Token} {ps : List Predicate}
    (ih : ∀ us : List Token, us.length < ts.length → Sound us)
    (h : Gives (moreElements levels ts) ps rest) : Derives levels (.elements ps) ts rest := by
  obtain ⟨hlt, h⟩ := h
  cases ts with
  | nil => cases hlt
  | cons token tail =>
    rw [moreElements] at h
    split at h
    · next hclosing =>
      cases h
      exact .noElements hclosing
    · obtain ⟨⟨p, left⟩, hpredicate, h⟩ := ok_of_bind h
      obtain ⟨left, hleft⟩ := left
      have hp := derives_predicate ih (gives_of_ok hpredicate)
      dsimp only at h hp
      cases left with
      | nil => exact absurd h expected_ne_ok
      | cons separator others =>
        dsimp only at h
        split at h
        · next hcomma =>
          obtain ⟨⟨qs, left⟩, helements, h⟩ := ok_of_bind h
          cases h
          have ihothers := ih others (by rw [List.length_cons] at hleft; omega)
          exact .moreElements hp hcomma (ihothers.elements (gives_of_ok helements))
        · split at h
          · next hclosing =>
            cases h
            exact .lastElement hp hclosing
          · exact absurd h expected_ne_ok

theorem derives_field {levels : Nat} {ts rest : List Token} {before after : Draft}
    (ih : ∀ us : List Token, us.length < ts.length → Sound us)
    (h : Gives (readField levels before ts) after rest) :
    Derives levels (.field before after) ts rest := by
  obtain ⟨hlt, h⟩ := h
  unfold readField at h
  cases hbang : skipSign .bang ts with
  | mk negated afterBang =>
    rw [hbang] at h
    obtain ⟨⟨steps, afterPath⟩, hpath, h⟩ := ok_of_bind h
    dsimp only at h
    cases hcolon : skipSign .colon afterPath.val with
    | mk colon afterColon =>
      rw [hcolon] at h
      dsimp only at h
      split at h
      · obtain ⟨_, hdeep, -⟩ := ok_of_bind h
        exact absurd hdeep expected_ne_ok
      · next hlevels =>
        obtain ⟨⟨p, left⟩, hpredicate, h⟩ := ok_of_bind h
        obtain ⟨draft, hadd, h⟩ := ok_of_bind h
        cases h
        have hshorter : afterColon.val.length < ts.length :=
          Nat.lt_of_le_of_lt afterColon.property
            (Nat.lt_of_lt_of_le afterPath.property afterBang.property)
        exact .field (skips_of_eq hbang) (path_of_gives (gives_of_ok hpath)) (skips_of_eq hcolon)
          (Nat.not_lt.mp hlevels) ((ih _ hshorter).predicate (gives_of_ok hpredicate)) hadd

theorem derives_fields {levels : Nat} {ts rest : List Token} {before after : Draft}
    (ih : ∀ us : List Token, us.length < ts.length → Sound us)
    (h : Gives (moreFields levels before ts) after rest) :
    Derives levels (.fields before after) ts rest := by
  obtain ⟨hlt, h⟩ := h
  cases ts with
  | nil => cases hlt
  | cons token tail =>
    by_cases hclosing : token.isSign .closeBrace = true
    · rw [moreFields, if_pos hclosing] at h
      cases h
      exact .noFields hclosing
    · rw [moreFields_eq hclosing] at h
      obtain ⟨⟨draft, left, hleft⟩, hread, h⟩ := ok_of_bind h
      have hfield := derives_field ih (gives_of_ok hread)
      dsimp only at h hfield
      cases left with
      | nil =>
        rw [behindField] at h
        exact absurd h expected_ne_ok
      | cons separator others =>
        rw [behindField] at h
        split at h
        · next hcomma =>
          have ihothers := ih others (Nat.lt_of_succ_lt hleft)
          cases hmore : moreFields levels draft others with
          | error failure =>
            rw [hmore] at h
            cases h
          | ok parsed =>
            rw [hmore] at h
            cases h
            exact .moreFields hfield hcomma (ihothers.fields (gives_of_ok hmore))
        · split at h
          · next hclosing =>
            cases h
            exact .lastField hfield hclosing
          · exact absurd h expected_ne_ok

theorem sound (ts : List Token) : Sound ts := by
  induction hn : ts.length using Nat.strongRecOn generalizing ts with
  | ind n ih =>
    have ih' : ∀ us : List Token, us.length < ts.length → Sound us :=
      fun us hus => ih us.length (hn ▸ hus) us rfl
    exact ⟨derives_predicate ih', derives_fields ih', derives_elements ih'⟩

theorem gives_predicate_iff {levels : Nat} {ts rest : List Token} {p : Predicate} :
    Gives (predicate levels ts) p rest ↔ Derives levels (.predicate p) ts rest :=
  ⟨(sound ts).predicate, fun h => reads_of_derives h⟩

/-- Behind an opening brace come the fields of a group. -/
theorem fields_of_derives {levels : Nat} {token : Token} {inside rest : List Token} {p : Predicate}
    (hopening : token.isSign .openBrace = true)
    (h : Derives levels (.predicate p) (token :: inside) rest) :
    ∃ left draft, levels = left + 1 ∧ p = draft.build ∧
      Derives left (.fields .empty draft) inside rest := by
  rw [isSign_iff] at hopening
  cases h with
  | group _ _ hfields => exact ⟨_, _, rfl, rfl, hfields⟩
  | number h | text h =>
    rw [hopening] at h
    cases h
  | range h hbegins _ | pattern h hbegins _ | comparison h hbegins _ | list h hbegins _
  | markedList h hbegins _ _ =>
    rw [hopening] at h
    cases h
    cases hbegins

/-- A whole text is read as what can be derived from all of its tokens. -/
theorem parseTokens_eq_ok {ts : List Token} {p : Predicate} :
    parseTokens ts = .ok p ↔ ∃ token inside rest, ts = token :: inside ∧
      token.isSign .openBrace = true ∧ Derives nestingLimit (.predicate p) ts rest ∧
      ∀ last ∈ rest.head?, last.content = .stop := by
  constructor
  · intro h
    unfold parseTokens at h
    obtain ⟨⟨token, inside⟩, htake, h⟩ := ok_of_bind h
    obtain ⟨⟨draft, left⟩, hfields, h⟩ := ok_of_bind h
    obtain ⟨hopening, others, htokens, rfl⟩ := takeSign_eq_ok htake
    have hbegins : beginning .openBrace inside.val = .group := rfl
    rw [nestingLimit, fields] at hfields
    have hgroup := Derives.group ((isSign_iff token .openBrace).mp hopening) hbegins
      ((sound inside.val).fields (gives_of_ok hfields))
    rw [← htokens] at hgroup
    dsimp only at h
    split at h
    · next text start later heq =>
      cases h
      refine ⟨token, inside.val, left.val, htokens, hopening, hgroup, ?_⟩
      intro last hlast
      rw [heq] at hlast
      cases hlast
      rfl
    · next heq =>
      cases h
      refine ⟨token, inside.val, left.val, htokens, hopening, hgroup, ?_⟩
      intro last hlast
      rw [heq] at hlast
      cases hlast
    · exact absurd h expected_ne_ok
  · rintro ⟨token, inside, rest, rfl, hopening, hderives, hlast⟩
    obtain ⟨left, draft, hlevels, rfl, hfields⟩ := fields_of_derives hopening hderives
    obtain ⟨hlt, hfields⟩ := reads_of_derives hfields
    unfold parseTokens
    rw [takeSign_cons hopening]
    dsimp only [bind, Except.bind, Rest.tail]
    rw [hlevels, fields, hfields]
    dsimp only
    split
    · rfl
    · rfl
    · next hstop hnil =>
      cases rest with
      | nil => exact absurd rfl hnil
      | cons last others =>
        obtain ⟨content, text, start⟩ := last
        have hcontent : content = .stop := hlast ⟨content, text, start⟩ rfl
        exact absurd rfl (hcontent ▸ hstop text start others)

/-- A text is read as what can be derived from its tokens. -/
theorem parse_eq_ok {text : String} {p : Predicate} :
    parse text = .ok p ↔ ∃ ts, tokenize text = .ok ts ∧ parseTokens ts = .ok p :=
  ⟨ok_of_bind, fun ⟨ts, htokens, hparse⟩ => by rw [parse, htokens]; exact hparse⟩

end TreePredicate.Notation
