import TreePredicate.Notation.Grammar
import TreePredicate.Proofs.Number.Range

/-!
# Derivations

The grammar of the notation as a relation between the tokens at the start of a phrase, what the
phrase means, and the tokens after it. Levels of nesting are counted down as the parser does.

* `Positions`, `PathOf`, `RangeOf` : the phrases that hold no predicates;
* `Phrase`, `Derives` : predicates, the fields of groups and the elements of lists;
* `Gives` : a parser gives a meaning and leaves some tokens;
* `gives_positions`, `gives_path`, `gives_range` : the parser reads the phrases without predicates;
* `positions_of_gives`, `path_of_gives`, `range_of_gives` : and what it reads is one.
-/

set_option autoImplicit false

namespace TreePredicate.Notation

/-! ## Grammar -/

/-- A bracket opens right at a place. -/
def OpensAt (stop : Nat) (ts : List Token) : Prop :=
  ∃ opening rest, ts = opening :: rest ∧ opening.isSign .openBracket = true ∧ opening.start = stop

/-- Positions in brackets, each of which opens right where the token before it stops. -/
inductive Positions : Nat → List Token → Path → List Token → Prop where
  | done {stop : Nat} {ts : List Token} (h : ¬ OpensAt stop ts) : Positions stop ts [] ts
  | more {stop : Nat} {opening index closing : Token} {position : Int} {rest left : List Token}
      {path : Path} (hopening : opening.isSign .openBracket = true) (hstart : opening.start = stop)
      (hindex : index.content = .number (.int position) none)
      (hclosing : closing.isSign .closeBracket = true)
      (hrest : Positions closing.stop rest path left) :
      Positions stop (opening :: index :: closing :: rest) (.index position :: path) left

/-- Keys with their positions, and points between them. -/
inductive PathOf : List Token → Path → List Token → Prop where
  | last {token : Token} {key : String} {rest left : List Token} {positions : Path}
      (hkey : keyOf? token = some key) (hpositions : Positions token.stop rest positions left)
      (hpoint : startsWithSign .point left = false) :
      PathOf (token :: rest) (.key key :: positions) left
  | more {token point : Token} {key : String} {rest others left : List Token} {positions path : Path}
      (hkey : keyOf? token = some key)
      (hpositions : Positions token.stop rest positions (point :: others))
      (hpoint : point.isSign .point = true) (hpath : PathOf others path left) :
      PathOf (token :: rest) (.key key :: positions ++ path) left

/-- A number, or nothing where there is none. -/
inductive Bound : List Token → Option (Number × Option Width) → List Token → Prop where
  | none {ts : List Token} (h : ∀ token ∈ ts.head?, token.isNumber = false) : Bound ts none ts
  | some {token : Token} {value : Number} {width? : Option Width} {rest : List Token}
      (h : token.content = .number value width?) : Bound (token :: rest) (some (value, width?)) rest

/-- A range after its opening bracket. -/
inductive RangeOf (lowerIncluded : Bool) : List Token → NumberTest → List Token → Prop where
  | mk {ts afterTilde rest : List Token} {tilde closing : Token}
      {lower? upper? : Option (Number × Option Width)} {width? : Option Width}
      (hlower : Bound ts lower? (tilde :: afterTilde)) (htilde : tilde.isSign .tilde = true)
      (hupper : Bound afterTilde upper? (closing :: rest))
      (hclosing : (closing.isSign .closeParenthesis || closing.isSign .closeBracket) = true)
      (hwidth : oneWidth? [lower?.bind Prod.snd, upper?.bind Prod.snd, bracketSuffix? closing rest] =
        some width?) :
      RangeOf lowerIncluded ts (.range (lower?.map Prod.fst) (upper?.map Prod.fst) lowerIncluded
        (closing.isSign .closeBracket) width?)
        (rest.drop (if (bracketSuffix? closing rest).isSome then 1 else 0))

/-- A sign that may stand there. -/
inductive Skips (sign : Sign) : List Token → Bool → List Token → Prop where
  | absent {ts : List Token} (h : startsWithSign sign ts = false) : Skips sign ts false ts
  | present {token : Token} {rest : List Token} (h : token.isSign sign = true) :
      Skips sign (token :: rest) true rest

/-- The phrases that hold predicates. A field, or fields one after another, turn a draft into
another one. -/
inductive Phrase where
  | predicate (p : Predicate)
  | field (before after : Draft)
  | fields (before after : Draft)
  | elements (ps : List Predicate)

/-- A phrase can be derived from tokens, with some levels of nesting left, and leaves others. -/
inductive Derives [Room] : Nat → Phrase → List Token → List Token → Prop where
  | number {levels : Nat} {token : Token} {rest : List Token} {value : Number} {width? : Option Width}
      (h : token.content = .number value width?) :
      Derives levels (.predicate (.number (.equals value width?))) (token :: rest) rest
  | text {levels : Nat} {token : Token} {rest : List Token} {value : String}
      (h : token.content = .quoted value) :
      Derives levels (.predicate (.text value)) (token :: rest) rest
  | group {levels : Nat} {token : Token} {rest left : List Token} {sign : Sign} {draft : Draft}
      (h : token.content = .sign sign) (hbegins : beginning sign rest = .group)
      (hfields : Derives levels (.fields .empty draft) rest left) :
      Derives (levels + 1) (.predicate draft.build) (token :: rest) left
  | range {levels : Nat} {token : Token} {rest left : List Token} {sign : Sign}
      {lowerIncluded : Bool} {test : NumberTest} (h : token.content = .sign sign)
      (hbegins : beginning sign rest = .range lowerIncluded)
      (hrange : RangeOf lowerIncluded rest test left) :
      Derives levels (.predicate (.number test)) (token :: rest) left
  | pattern {levels : Nat} {token : Token} {rest : List Token} {sign : Sign} {source : String}
      {offset : Nat} {p : Pattern} (h : token.content = .sign sign)
      (hbegins : beginning sign rest = .pattern source offset)
      (hcompile : Pattern.compileAt source offset = .ok p) :
      Derives levels (.predicate (.pattern p)) (token :: rest) (rest.drop 1)
  | comparison {levels : Nat} {token number : Token} {rest : List Token} {sign : Sign}
      {c : Comparison} {value : Number} {width? : Option Width} (h : token.content = .sign sign)
      (hbegins : beginning sign (number :: rest) = .comparison c)
      (hnumber : number.content = .number value width?) :
      Derives levels (.predicate (.number (.compare c value width?))) (token :: number :: rest) rest
  | list {levels : Nat} {token : Token} {rest left : List Token} {sign : Sign}
      {quantifier : Quantifier} {ps : List Predicate} (h : token.content = .sign sign)
      (hbegins : beginning sign rest = .list quantifier false)
      (helements : Derives levels (.elements ps) rest left) :
      Derives (levels + 1) (.predicate (.list quantifier ps)) (token :: rest) left
  | markedList {levels : Nat} {token opening : Token} {inside left : List Token} {sign : Sign}
      {quantifier : Quantifier} {ps : List Predicate} (h : token.content = .sign sign)
      (hbegins : beginning sign (opening :: inside) = .list quantifier true)
      (hopening : opening.isSign .openBracket = true)
      (helements : Derives levels (.elements ps) inside left) :
      Derives (levels + 1) (.predicate (.list quantifier ps)) (token :: opening :: inside) left
  | field {levels offset : Nat} {ts afterBang afterPath afterColon rest : List Token}
      {before after : Draft} {negated colon : Bool} {path : Path} {p : Predicate}
      (hbang : Skips .bang ts negated afterBang) (hpath : PathOf afterBang path afterPath)
      (hcolon : Skips .colon afterPath colon afterColon) (hlevels : path.length - 1 ≤ levels)
      (hp : Derives (levels - (path.length - 1)) (.predicate p) afterColon rest)
      (hadd : addField before negated path p offset = .ok after) :
      Derives levels (.field before after) ts rest
  | noFields {levels : Nat} {token : Token} {rest : List Token} {draft : Draft}
      (h : token.isSign .closeBrace = true) :
      Derives levels (.fields draft draft) (token :: rest) rest
  | lastField {levels : Nat} {separator : Token} {ts rest : List Token} {before after : Draft}
      (hfield : Derives levels (.field before after) ts (separator :: rest))
      (hclosing : separator.isSign .closeBrace = true) :
      Derives levels (.fields before after) ts rest
  | moreFields {levels : Nat} {separator : Token} {ts others rest : List Token}
      {before next after : Draft} (hfield : Derives levels (.field before next) ts (separator :: others))
      (hcomma : separator.isSign .comma = true)
      (hfields : Derives levels (.fields next after) others rest) :
      Derives levels (.fields before after) ts rest
  | noElements {levels : Nat} {token : Token} {rest : List Token}
      (h : token.isSign .closeBracket = true) : Derives levels (.elements []) (token :: rest) rest
  | lastElement {levels : Nat} {separator : Token} {ts rest : List Token} {p : Predicate}
      (hp : Derives levels (.predicate p) ts (separator :: rest))
      (hclosing : separator.isSign .closeBracket = true) : Derives levels (.elements [p]) ts rest
  | moreElements {levels : Nat} {separator : Token} {ts others rest : List Token} {p : Predicate}
      {ps : List Predicate} (hp : Derives levels (.predicate p) ts (separator :: others))
      (hcomma : separator.isSign .comma = true)
      (helements : Derives levels (.elements ps) others rest) :
      Derives levels (.elements (p :: ps)) ts rest

/-! ## Tokens -/

theorem isSign_iff (token : Token) (sign : Sign) :
    token.isSign sign = true ↔ token.content = .sign sign := by
  unfold Token.isSign
  exact beq_iff_eq

theorem startsWithSign_cons (sign : Sign) (token : Token) (rest : List Token) :
    startsWithSign sign (token :: rest) = token.isSign sign := rfl

theorem isSign_eq_false {token : Token} {sign other : Sign} (h : token.isSign sign = true)
    (hne : sign ≠ other) : token.isSign other = false := by
  rw [← Bool.not_eq_true, isSign_iff, (isSign_iff token sign).mp h]
  exact fun heq => hne (Content.sign.inj heq)

theorem expected_eq_error {α : Type} (what : String) (ts : List Token) :
    ∃ failure, (expected what ts : Except Failure α) = .error failure := by
  cases ts <;> exact ⟨_, rfl⟩

theorem expected_ne_ok {α : Type} {what : String} {ts : List Token} {a : α} :
    (expected what ts : Except Failure α) ≠ .ok a := by
  cases ts <;> simp [expected]

/-- A parser gives a meaning and leaves some tokens. -/
def Gives {α : Type} {P : List Token → Prop} (r : Except Failure (α × { rest // P rest })) (a : α)
    (rest : List Token) : Prop := ∃ h : P rest, r = .ok (a, ⟨rest, h⟩)

theorem gives_of_ok {α : Type} {P : List Token → Prop} {r : Except Failure (α × { rest // P rest })}
    {a : α} {left : { rest // P rest }} (h : r = .ok (a, left)) : Gives r a left.val :=
  ⟨left.property, h⟩

/-! ## Paths -/

theorem opensAt_iff {stop : Nat} {opening : Token} {rest : List Token} :
    OpensAt stop (opening :: rest) ↔
      (opening.isSign .openBracket && opening.start == stop) = true := by
  rw [Bool.and_eq_true, beq_iff_eq]
  constructor
  · rintro ⟨_, _, heq, h⟩
    cases heq
    exact h
  · exact fun h => ⟨opening, rest, rfl, h⟩

theorem gives_positions {stop : Nat} {ts rest : List Token} {path : Path}
    (h : Positions stop ts path rest) : Gives (positions stop ts) path rest := by
  induction h with
  | @done stop ts h =>
    unfold positions
    split
    · rw [if_neg (mt opensAt_iff.mpr h)]
      exact ⟨Nat.le_refl _, rfl⟩
    · rw [if_neg (mt opensAt_iff.mpr h)]
      exact ⟨Nat.le_refl _, rfl⟩
    · exact ⟨Nat.le_refl _, rfl⟩
  | @more stop opening index closing position rest left path hopening hstart hindex hclosing _ ih =>
    obtain ⟨hle, hrest⟩ := ih
    have hopens : (opening.isSign .openBracket && opening.start == stop) = true := by
      rw [hopening, hstart, beq_self_eq_true, Bool.and_self]
    refine ⟨Nat.le_add_right_of_le (k := 3) hle, ?_⟩
    rw [positions, if_pos hopens, hindex]
    dsimp only
    rw [if_pos hclosing, hrest]
    rfl

theorem positions_of_gives {stop : Nat} {ts rest : List Token} {path : Path}
    (h : Gives (positions stop ts) path rest) : Positions stop ts path rest := by
  obtain ⟨hle, h⟩ := h
  fun_induction positions stop ts generalizing path rest with
  | case1 stop opening index closing others hopens position hindex hclosing ih =>
    obtain ⟨⟨inner, left⟩, hinner, h⟩ := ok_of_bind h
    cases h
    rw [Bool.and_eq_true, beq_iff_eq] at hopens
    obtain ⟨hopening, hstart⟩ := hopens
    exact .more hopening hstart hindex hclosing (ih left.property hinner)
  | case2 => exact absurd h expected_ne_ok
  | case3 => exact absurd h expected_ne_ok
  | case4 stop opening index closing others hopens =>
    cases h
    exact .done (mt opensAt_iff.mp hopens)
  | case5 => exact absurd h expected_ne_ok
  | case6 => exact absurd h expected_ne_ok
  | case7 stop opening others hshort hopens =>
    cases h
    exact .done (mt opensAt_iff.mp hopens)
  | case8 stop =>
    cases h
    refine .done ?_
    rintro ⟨opening, rest, heq, -⟩
    cases heq

theorem gives_segment {token : Token} {key : String} {rest left : List Token} {positions : Path}
    (hkey : keyOf? token = some key) (h : Positions token.stop rest positions left) :
    Gives (segment (token :: rest)) (.key key :: positions) left := by
  obtain ⟨hle, hpositions⟩ := gives_positions h
  refine ⟨Nat.lt_succ_of_le hle, ?_⟩
  rw [segment, hkey]
  dsimp only
  rw [hpositions]
  rfl

theorem gives_path {ts rest : List Token} {steps : Path} (h : PathOf ts steps rest) :
    Gives (path ts) steps rest := by
  induction h with
  | @last token key rest left positions hkey hpositions hpoint =>
    obtain ⟨hleft, hsegment⟩ := gives_segment hkey hpositions
    refine ⟨hleft, ?_⟩
    rw [path, hsegment]
    cases left with
    | nil => rfl
    | cons point others =>
      rw [startsWithSign_cons] at hpoint
      show (if point.isSign .point = true then _ else _) = _
      rw [if_neg (by rw [hpoint]; exact Bool.false_ne_true)]
      rfl
  | @more token point key rest others left positions steps hkey hpositions hpoint _ ih =>
    obtain ⟨hbehind, hsegment⟩ := gives_segment hkey hpositions
    obtain ⟨hlt, hpath⟩ := ih
    have hleft : left.length < (token :: rest).length := by
      rw [List.length_cons] at hbehind
      omega
    refine ⟨hleft, ?_⟩
    rw [path, hsegment]
    show (if point.isSign .point = true then _ else _) = _
    rw [if_pos hpoint, hpath]
    rfl

theorem positions_of_segment {ts : List Token} {steps : Path} {left : Rest ts}
    (h : segment ts = .ok (steps, left)) :
    ∃ token rest key positions, ts = token :: rest ∧ keyOf? token = some key ∧
      steps = .key key :: positions ∧ Positions token.stop rest positions left.val := by
  cases ts with
  | nil =>
    rw [segment] at h
    exact absurd h expected_ne_ok
  | cons token rest =>
    rw [segment] at h
    cases hkey : keyOf? token with
    | none =>
      rw [hkey] at h
      exact absurd h expected_ne_ok
    | some key =>
      rw [hkey] at h
      obtain ⟨⟨steps', left'⟩, hpositions, h⟩ := ok_of_bind h
      cases h
      exact ⟨token, rest, key, steps', rfl, hkey, rfl, positions_of_gives (gives_of_ok hpositions)⟩

theorem path_of_gives {ts rest : List Token} {steps : Path} (h : Gives (path ts) steps rest) :
    PathOf ts steps rest := by
  obtain ⟨hlt, h⟩ := h
  fun_induction path ts generalizing steps rest with
  | case1 ts ih =>
    obtain ⟨⟨first, left, hleft⟩, hsegment, h⟩ := ok_of_bind h
    obtain ⟨token, others, key, positions, rfl, hkey, rfl, hpositions⟩ :=
      positions_of_segment hsegment
    dsimp only at h
    cases left with
    | nil =>
      cases h
      exact .last hkey hpositions rfl
    | cons point others =>
      dsimp only at h
      split at h
      · next hpoint =>
        obtain ⟨⟨steps', left'⟩, hpath, h⟩ := ok_of_bind h
        cases h
        exact .more hkey hpositions hpoint (ih point others hleft left'.property hpath)
      · next hpoint =>
        cases h
        exact .last hkey hpositions (Bool.eq_false_iff.mpr hpoint)

theorem isSign_of_keyOf? {token : Token} {key : String} (h : keyOf? token = some key) (sign : Sign) :
    token.isSign sign = false := by
  rw [Bool.eq_false_iff]
  intro hsign
  unfold keyOf? at h
  rw [(isSign_iff token sign).mp hsign] at h
  cases h

/-- A path does not start with a sign. -/
theorem PathOf.first {ts rest : List Token} {steps : Path} (h : PathOf ts steps rest) :
    ∃ token others, ts = token :: others ∧ ∀ sign, token.isSign sign = false := by
  cases h with
  | last hkey _ _ => exact ⟨_, _, rfl, isSign_of_keyOf? hkey⟩
  | more hkey _ _ _ => exact ⟨_, _, rfl, isSign_of_keyOf? hkey⟩

theorem startsWithSign_of_pathOf {ts rest : List Token} {path : Path} (h : PathOf ts path rest)
    (sign : Sign) : startsWithSign sign ts = false := by
  obtain ⟨token, others, rfl, hsign⟩ := h.first
  rw [startsWithSign_cons]
  exact hsign sign

/-! ## Ranges and signs -/

theorem isNumber_of_isSign {token : Token} {sign : Sign} (h : token.isSign sign = true) :
    token.isNumber = false := by
  unfold Token.isNumber
  rw [(isSign_iff token sign).mp h]

theorem bound_iff {ts rest : List Token} {found : Option (Number × Option Width)} :
    Bound ts found rest ↔ (number? ts).1 = found ∧ (number? ts).2.val = rest := by
  constructor
  · intro h
    cases h with
    | none h =>
      cases ts with
      | nil => exact ⟨rfl, rfl⟩
      | cons token rest =>
        have hnot := h token rfl
        unfold Token.isNumber at hnot
        rw [number?]
        cases hcontent : token.content with
        | number value width? =>
          rw [hcontent] at hnot
          cases hnot
        | _ => exact ⟨rfl, rfl⟩
    | some h =>
      rw [number?, h]
      exact ⟨rfl, rfl⟩
  · rintro ⟨rfl, rfl⟩
    cases ts with
    | nil =>
      refine .none ?_
      intro token htoken
      cases htoken
    | cons token rest =>
      rw [number?]
      split
      · next value width? h => exact .some h
      · next hcontent =>
        refine .none fun other hother => ?_
        cases hother
        unfold Token.isNumber
        split
        · next value width? heq => exact absurd heq (hcontent value width?)
        · rfl

theorem skips_iff {sign : Sign} {ts rest : List Token} {found : Bool} :
    Skips sign ts found rest ↔ (skipSign sign ts).1 = found ∧ (skipSign sign ts).2.val = rest := by
  constructor
  · intro h
    cases h with
    | absent h =>
      cases ts with
      | nil => exact ⟨rfl, rfl⟩
      | cons token rest =>
        rw [startsWithSign_cons] at h
        rw [skipSign, h]
        exact ⟨rfl, rfl⟩
    | present h =>
      rw [skipSign, if_pos h]
      exact ⟨rfl, rfl⟩
  · rintro ⟨rfl, rfl⟩
    cases ts with
    | nil => exact .absent rfl
    | cons token rest =>
      rw [skipSign]
      split
      · next h => exact .present h
      · next h => exact .absent (Bool.eq_false_iff.mpr h)

theorem takeSign_cons {sign : Sign} {what : String} {token : Token} {rest : List Token}
    (h : token.isSign sign = true) :
    takeSign sign what (token :: rest) = .ok (token, Rest.tail token rest) := by
  rw [takeSign, if_pos h]

theorem takeSign_eq_ok {sign : Sign} {what : String} {ts : List Token} {token : Token}
    {left : Rest ts} (h : takeSign sign what ts = .ok (token, left)) :
    token.isSign sign = true ∧ ∃ rest, ts = token :: rest ∧ left.val = rest := by
  cases ts with
  | nil =>
    rw [takeSign] at h
    exact absurd h expected_ne_ok
  | cons first rest =>
    rw [takeSign] at h
    split at h
    · next hsign =>
      cases h
      exact ⟨hsign, rest, rfl, rfl⟩
    · exact absurd h expected_ne_ok

theorem eq_of_bound {ts rest : List Token} {found : Option (Number × Option Width)}
    (h : Bound ts found rest) : ∃ hle, number? ts = (found, ⟨rest, hle⟩) := by
  obtain ⟨rfl, rfl⟩ := bound_iff.mp h
  exact ⟨(number? ts).2.property, rfl⟩

theorem eq_of_skips {sign : Sign} {ts rest : List Token} {found : Bool}
    (h : Skips sign ts found rest) : ∃ hle, skipSign sign ts = (found, ⟨rest, hle⟩) := by
  obtain ⟨rfl, rfl⟩ := skips_iff.mp h
  exact ⟨(skipSign sign ts).2.property, rfl⟩

theorem skips_of_eq {sign : Sign} {ts : List Token} {found : Bool}
    {rest : { rest : List Token // rest.length ≤ ts.length }} (h : skipSign sign ts = (found, rest)) :
    Skips sign ts found rest.val :=
  skips_iff.mpr ⟨congrArg Prod.fst h, congrArg (fun x => x.2.val) h⟩

theorem gives_range {lowerIncluded : Bool} {ts rest : List Token} {test : NumberTest}
    (h : RangeOf lowerIncluded ts test rest) :
    Gives (range lowerIncluded ts) (.number test) rest := by
  cases h with
  | @mk afterTilde rest tilde closing lower? upper? width? hlower htilde hupper hclosing hwidth =>
    obtain ⟨hle₁, hlower⟩ := eq_of_bound hlower
    obtain ⟨hle₂, hupper⟩ := eq_of_bound hupper
    have hlt : (rest.drop (if (bracketSuffix? closing rest).isSome then 1 else 0)).length <
        ts.length := by
      simp only [List.length_drop, List.length_cons] at hle₁ hle₂ ⊢
      omega
    refine ⟨hlt, ?_⟩
    have hend : Gives (rangeEnd lowerIncluded lower? (number? afterTilde).1 (number? afterTilde).2.val)
        (.number (.range (lower?.map Prod.fst) (upper?.map Prod.fst) lowerIncluded
          (closing.isSign .closeBracket) width?))
        (rest.drop (if (bracketSuffix? closing rest).isSome then 1 else 0)) := by
      rw [hupper, rangeEnd, if_pos hclosing]
      dsimp only
      rw [hwidth]
      exact ⟨_, rfl⟩
    obtain ⟨_, hend⟩ := hend
    unfold range
    rw [hlower]
    dsimp only
    rw [takeSign_cons htilde]
    simp only [Rest.tail, bind, Except.bind]
    rw [hend]
    rfl

theorem range_of_gives {lowerIncluded : Bool} {ts rest : List Token} {p : Predicate}
    (h : Gives (range lowerIncluded ts) p rest) :
    ∃ test, p = .number test ∧ RangeOf lowerIncluded ts test rest := by
  obtain ⟨hlt, h⟩ := h
  unfold range at h
  cases hlower : number? ts with
  | mk lower? afterLower =>
    rw [hlower] at h
    obtain ⟨⟨tilde, afterTilde⟩, htake, h⟩ := ok_of_bind h
    obtain ⟨htilde, others, hafter, rfl⟩ := takeSign_eq_ok htake
    dsimp only at h
    cases hupper : number? afterTilde.val with
    | mk upper? afterUpper =>
      rw [hupper] at h
      obtain ⟨⟨q, left⟩, hend, h⟩ := ok_of_bind h
      cases h
      obtain ⟨afterUpper, hle⟩ := afterUpper
      cases afterUpper with
      | nil =>
        rw [rangeEnd] at hend
        exact absurd hend expected_ne_ok
      | cons closing rest =>
        rw [rangeEnd] at hend
        split at hend
        · next hclosing =>
          dsimp only at hend
          split at hend
          · exact absurd hend expected_ne_ok
          · next width? hwidth =>
            cases hend
            have htokens : afterLower.val = tilde :: afterTilde.val := hafter
            have hboundLower : Bound ts lower? (tilde :: afterTilde.val) := by
              rw [← htokens]
              exact bound_iff.mpr ⟨congrArg Prod.fst hlower, congrArg (fun x => x.2.val) hlower⟩
            have hboundUpper : Bound afterTilde.val upper? (closing :: rest) :=
              bound_iff.mpr ⟨congrArg Prod.fst hupper, congrArg (fun x => x.2.val) hupper⟩
            exact ⟨_, rfl, .mk hboundLower htilde hboundUpper hclosing hwidth⟩
        · exact absurd hend expected_ne_ok

end TreePredicate.Notation
