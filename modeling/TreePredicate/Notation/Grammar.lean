import TreePredicate.Notation.Lexeme
import TreePredicate.Predicate

/-!
# From tokens to predicates

The grammar of the notation, in which the colon after a path is optional:

* a group is fields between braces, with commas between them and perhaps one after the last;
* a field is a path and a predicate, perhaps negated by a bang;
* a path is keys with points between them, and positions in brackets right behind their keys;
* a predicate is a number, a quoted text, a group, a comparison, a range, a pattern or a list.

A bracket opens a range if a tilde and then a number or closing bracket follow, or a number and then
a tilde; otherwise it opens a list.

Every part of the grammar is a function of the tokens that are left, which end with the one for the
end of the text, and gives back fewer of them (`Rest`), so the recursion ends with the tokens. The
levels of nesting that remain are counted down: one for a group or a list, and one for every step of
a path after the first.
-/

set_option autoImplicit false

namespace TreePredicate.Notation

/-- How deep groups and lists may be nested. -/
def nestingLimit : Nat := 64

/-- What is left of some tokens after at least one of them. -/
abbrev Rest (ts : List Token) := { rest : List Token // rest.length < ts.length }

/-- A value and the tokens after it, or a failure. -/
abbrev Parsed (α : Type) (ts : List Token) := Except Failure (α × Rest ts)

/-- What is left after one more token. -/
def Rest.behind {ts : List Token} (token : Token) (rest : Rest ts) : Rest (token :: ts) :=
  ⟨rest.val, Nat.lt_succ_of_lt rest.property⟩

/-- What is left after the first token. -/
def Rest.tail (token : Token) (ts : List Token) : Rest (token :: ts) := ⟨ts, Nat.lt_succ_self _⟩

/-! ## Failures -/

/-- What a failure says was found. -/
def foundText (token : Token) : String :=
  match token.content with
  | .stop => "end of input"
  | _ => Text.shown token.text

/-- Something else was expected at the next token. -/
def expected {α : Type} (what : String) : List Token → Except Failure α
  | [] => .error (.grammar what "end of input" 0)
  | token :: _ => .error (.grammar what (foundText token) token.start)

/-- Groups and lists are nested too deep. -/
def tooDeep {α : Type} (ts : List Token) : Except Failure α :=
  expected ("at most " ++ toString nestingLimit ++ " levels of nesting") ts

/-- What a failure says was expected if it is a certain sign. -/
def signText (sign : Sign) : String := "'" ++ String.ofList sign.chars ++ "'"

/-- Takes a sign. -/
def takeSign (sign : Sign) (what : String) : (ts : List Token) → Parsed Token ts
  | [] => expected what []
  | token :: rest =>
    if token.isSign sign then .ok (token, Rest.tail token rest) else expected what (token :: rest)

/-! ## Paths -/

/-- The key that a token stands for on a path. -/
def keyOf? (token : Token) : Option String :=
  match token.content with
  | .word value => some value
  | .quoted value => some value
  | .number .. => if token.text.toList.all Text.isWord then some token.text else none
  | _ => none

/-- Positions in brackets; each bracket opens right where the token before it stops. -/
def positions : (stop : Nat) → (ts : List Token) →
    Except Failure (Path × { rest : List Token // rest.length ≤ ts.length })
  | stop, opening :: index :: closing :: rest =>
    if opening.isSign .openBracket && opening.start == stop then
      match index.content with
      | .number (.int position) none =>
        if closing.isSign .closeBracket then do
          let (path, ⟨left, le⟩) ← positions closing.stop rest
          return (.index position :: path, ⟨left, Nat.le_add_right_of_le (k := 3) le⟩)
        else expected (signText .closeBracket) (closing :: rest)
      | _ => expected "integer list index" (index :: closing :: rest)
    else .ok ([], ⟨_, Nat.le_refl _⟩)
  | stop, opening :: rest =>
    if opening.isSign .openBracket && opening.start == stop then
      match rest with
      | ⟨.number (.int _) none, _, _⟩ :: after => expected (signText .closeBracket) after
      | _ => expected "integer list index" rest
    else .ok ([], ⟨_, Nat.le_refl _⟩)
  | _, [] => .ok ([], ⟨[], Nat.le_refl _⟩)

/-- A key with its positions. -/
def segment : (ts : List Token) → Parsed Path ts
  | [] => expected "field key" []
  | token :: rest =>
    match keyOf? token with
    | none => expected "field key" (token :: rest)
    | some key => do
      let (path, ⟨left, le⟩) ← positions token.stop rest
      return (.key key :: path, ⟨left, Nat.lt_succ_of_le le⟩)

/-- Keys with their positions, and points between them. -/
def path (ts : List Token) : Parsed Path ts := do
  match ← segment ts with
  | (first, ⟨token :: rest, lt⟩) =>
    if token.isSign .point then
      let (others, ⟨left, lt'⟩) ← path rest
      return (first ++ others, ⟨left, by simp at lt; omega⟩)
    else return (first, ⟨token :: rest, lt⟩)
  | (first, ⟨[], lt⟩) => return (first, ⟨[], lt⟩)
termination_by ts.length
decreasing_by simp at lt; omega

/-! ## Numbers, ranges and patterns -/

/-- Takes a number, if there is one. -/
def number? : (ts : List Token) →
    Option (Number × Option Width) × { rest : List Token // rest.length ≤ ts.length }
  | [] => (none, ⟨[], Nat.le_refl _⟩)
  | token :: rest =>
    match token.content with
    | .number value width? => (some (value, width?), ⟨rest, Nat.le_succ _⟩)
    | _ => (none, ⟨token :: rest, Nat.le_refl _⟩)

/-- A comparison; its sign has just been taken. -/
def comparison (sign : Comparison) : (ts : List Token) → Parsed Predicate ts
  | [] => expected "number" []
  | token :: rest =>
    match token.content with
    | .number value width? => .ok (.number (.compare sign value width?), Rest.tail token rest)
    | _ => expected "number" (token :: rest)

/-- The width that a letter right behind a closing bracket declares. -/
def bracketSuffix? (closing : Token) : List Token → Option Width
  | [] => none
  | token :: _ =>
    match token.content with
    | .word value =>
      if token.start == closing.stop then (Width.ofSuffix value).toOption else none
    | _ => none

/-- The one width that is declared, none if there is none; fails if there are two. -/
def oneWidth? (widths : List (Option Width)) : Option (Option Width) :=
  match (widths.filterMap id).eraseDups with
  | [] => some none
  | [width] => some (some width)
  | _ => none

/-- The rest of a range after its upper bound. -/
def rangeEnd (lowerIncluded : Bool) (lower? upper? : Option (Number × Option Width)) :
    (ts : List Token) → Parsed Predicate ts
  | [] => expected "')' or ']'" []
  | closing :: rest =>
    if closing.isSign .closeParenthesis || closing.isSign .closeBracket then
      let suffix? := bracketSuffix? closing rest
      match oneWidth? [lower?.bind Prod.snd, upper?.bind Prod.snd, suffix?] with
      | none => expected "a single numeric suffix for both bounds" (closing :: rest)
      | some width? =>
        let test := .range (lower?.map Prod.fst) (upper?.map Prod.fst) lowerIncluded
          (closing.isSign .closeBracket) width?
        .ok (.number test, ⟨rest.drop (if suffix?.isSome then 1 else 0), by
          simp only [List.length_drop, List.length_cons]; omega⟩)
    else expected "')' or ']'" (closing :: rest)

/-- A range; its opening bracket has just been taken. -/
def range (lowerIncluded : Bool) (ts : List Token) : Parsed Predicate ts := do
  let (lower?, ⟨afterLower, le₁⟩) := number? ts
  let (_, ⟨afterTilde, lt⟩) ← takeSign .tilde (signText .tilde) afterLower
  let (upper?, ⟨afterUpper, le₂⟩) := number? afterTilde
  let (test, ⟨rest, lt'⟩) ← rangeEnd lowerIncluded lower? upper? afterUpper
  return (test, ⟨rest, by omega⟩)

/-- The tokens after an opening bracket make it the bracket of a range. -/
def opensRange : List Token → Bool
  | first :: second :: _ =>
    if first.isSign .tilde then
      second.isNumber || second.isSign .closeBracket || second.isSign .closeParenthesis
    else first.isNumber && second.isSign .tilde
  | _ => false

/-- The pattern that a quoted text stands for. -/
def patternOf [Room] (source : String) (offset : Nat) : Except Failure Predicate :=
  match Pattern.compileAt source offset with
  | .ok p => .ok (.pattern p)
  | .error fault => .error (.pattern source fault offset)

/-! ## Groups and lists -/

/-- Adds a field to a draft. -/
def addField (draft : Draft) (negated : Bool) (path : Path) (p : Predicate) (offset : Nat) :
    Except Failure Draft :=
  if negated then .ok (draft.negate path p)
  else
    match draft.add path p with
    | (draft, none) => .ok draft
    | (_, some conflict) => .error (.ambiguous conflict offset)

/-- Takes a sign, if it comes next. -/
def skipSign (sign : Sign) : (ts : List Token) →
    Bool × { rest : List Token // rest.length ≤ ts.length }
  | [] => (false, ⟨[], Nat.le_refl _⟩)
  | token :: rest =>
    if token.isSign sign then (true, ⟨rest, Nat.le_succ _⟩)
    else (false, ⟨token :: rest, Nat.le_refl _⟩)

/-- The place of the next token. -/
def placeOf (ts : List Token) : Nat := (ts.head?.map Token.start).getD 0

/-- The quantifier that a sign stands for in front of a list. -/
def quantifierOf? : Sign → Option Quantifier
  | .tilde => some .any
  | .less => some .subset
  | .greater => some .superset
  | .starts => some .startsWith
  | .ends => some .endsWith
  | .sequence => some .containsSequence
  | _ => none

/-- The comparison that a sign stands for in front of a number. -/
def comparisonOf? : Sign → Option Comparison
  | .atLeast => some .atLeast
  | .atMost => some .atMost
  | .greater => some .above
  | .less => some .below
  | _ => none

/-- The next token is a certain sign. -/
def startsWithSign (sign : Sign) (ts : List Token) : Bool :=
  (ts.head?.map (·.isSign sign)).getD false

/-- What a sign begins where a predicate is expected. -/
inductive Beginning where
  | group
  | range (lowerIncluded : Bool)
  | pattern (source : String) (offset : Nat)
  | comparison (sign : Comparison)
  | list (quantifier : Quantifier) (marked : Bool)
  | nothing

/-- What a sign begins, given the tokens after it. -/
def beginning (sign : Sign) (rest : List Token) : Beginning :=
  match sign with
  | .openBrace => .group
  | .openParenthesis => .range false
  | .openBracket => if opensRange rest then .range true else .list .exact false
  | _ =>
    match sign, rest with
    | .tilde, ⟨.quoted source, _, offset⟩ :: _ => .pattern source offset
    | _, _ =>
      match comparisonOf? sign, quantifierOf? sign with
      | some c, some q => if startsWithSign .openBracket rest then .list q true else .comparison c
      | some c, none => .comparison c
      | none, some q => .list q true
      | none, none => .nothing

mutual

/-- A predicate. -/
def predicate [Room] (levels : Nat) : (ts : List Token) → Parsed Predicate ts
  | [] => expected "predicate" []
  | token :: rest =>
    match token.content with
    | .number value width? => .ok (.number (.equals value width?), Rest.tail token rest)
    | .quoted value => .ok (.text value, Rest.tail token rest)
    | .sign sign =>
      match beginning sign rest with
      | .group => do
        let (draft, left) ← fields levels rest
        return (draft.build, left.behind token)
      | .range lowerIncluded => do
        let (p, left) ← range lowerIncluded rest
        return (p, left.behind token)
      | .pattern source offset => do
        let p ← patternOf source offset
        return (p, ⟨rest.drop 1, by simp only [List.length_drop, List.length_cons]; omega⟩)
      | .comparison sign => do
        let (p, left) ← comparison sign rest
        return (p, left.behind token)
      | .list quantifier false => do
        let (elements, left) ← elements levels rest
        return (.list quantifier elements, left.behind token)
      | .list quantifier true => do
        let (_, ⟨inside, lt⟩) ← takeSign .openBracket (signText .openBracket) rest
        let (elements, ⟨left, lt'⟩) ← elements levels inside
        return (.list quantifier elements, ⟨left, by simp; omega⟩)
      | .nothing => expected "predicate" (token :: rest)
    | _ => expected "predicate" (token :: rest)
termination_by ts => (ts.length, 0)

/-- The fields of a group and the brace that closes it; the opening one has just been taken. -/
def fields [Room] : (levels : Nat) → (ts : List Token) → Parsed Draft ts
  | 0, ts => tooDeep ts
  | levels + 1, ts => moreFields levels .empty ts
termination_by _ ts => (ts.length, 2)

/-- The fields of a group that are still to come and the brace that closes it. -/
def moreFields [Room] (levels : Nat) (draft : Draft) : (ts : List Token) → Parsed Draft ts
  | [] => expected "field key" []
  | token :: rest =>
    if token.isSign .closeBrace then .ok (draft, Rest.tail token rest)
    else do
      let (negated, ⟨afterBang, le₁⟩) := skipSign .bang (token :: rest)
      let (steps, ⟨afterPath, lt₂⟩) ← path afterBang
      let (_, ⟨afterColon, le₃⟩) := skipSign .colon afterPath
      if levels < steps.length - 1 then tooDeep afterColon
      have : afterColon.length < (token :: rest).length := by omega
      let (p, ⟨afterField, lt₄⟩) ← predicate (levels - (steps.length - 1)) afterColon
      let draft ← addField draft negated steps p (placeOf afterBang)
      match afterField, lt₄ with
      | separator :: others, lt₄ =>
        have : others.length < (token :: rest).length := by
          simp only [List.length_cons] at *
          omega
        if separator.isSign .comma then
          let (draft, ⟨left, lt₅⟩) ← moreFields levels draft others
          return (draft, ⟨left, by simp at *; omega⟩)
        else if separator.isSign .closeBrace then
          return (draft, ⟨others, by simp at *; omega⟩)
        else expected "',' or '\x7d'" (separator :: others)
      | [], _ => expected "',' or '\x7d'" []
termination_by ts => (ts.length, 1)

/-- The elements of a list and the bracket that closes it; the opening one has just been taken. -/
def elements [Room] : (levels : Nat) → (ts : List Token) → Parsed (List Predicate) ts
  | 0, ts => tooDeep ts
  | levels + 1, ts => moreElements levels ts
termination_by _ ts => (ts.length, 2)

/-- The elements of a list that are still to come and the bracket that closes it. -/
def moreElements [Room] (levels : Nat) : (ts : List Token) → Parsed (List Predicate) ts
  | [] => expected "predicate" []
  | token :: rest =>
    if token.isSign .closeBracket then .ok ([], Rest.tail token rest)
    else do
      let (p, ⟨afterElement, lt₁⟩) ← predicate levels (token :: rest)
      match afterElement, lt₁ with
      | separator :: others, lt₁ =>
        have : others.length < (token :: rest).length := by
          simp only [List.length_cons] at *
          omega
        if separator.isSign .comma then
          let (elements, ⟨left, lt₂⟩) ← moreElements levels others
          return (p :: elements, ⟨left, by simp at *; omega⟩)
        else if separator.isSign .closeBracket then
          return ([p], ⟨others, by simp at *; omega⟩)
        else expected "',' or ']'" (separator :: others)
      | [], _ => expected "',' or ']'" []
termination_by ts => (ts.length, 1)

end

/-- A whole text: a group and nothing after it. -/
def parseTokens [Room] (ts : List Token) : Except Failure Predicate := do
  let (_, ⟨inside, _⟩) ← takeSign .openBrace (signText .openBrace) ts
  let (draft, ⟨rest, _⟩) ← fields nestingLimit inside
  match rest with
  | ⟨.stop, _, _⟩ :: _ | [] => return draft.build
  | _ => expected "end of input" rest

/-- The predicate that a text stands for, which is a group. -/
def parse [Room] (text : String) : Except Failure Predicate := do
  let ts ← tokenize text
  parseTokens ts

end TreePredicate.Notation
