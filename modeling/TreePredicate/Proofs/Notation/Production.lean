import TreePredicate.Notation.Grammar
import TreePredicate.Proofs.Draft.Meaning

/-!
# The rules of the grammar

The grammar of the notation over tokens, as it is written down, without lookahead and without an order
in which alternatives are tried. Square brackets enclose what may be left out:

* group: `{` [ field (`,` field)* [`,`] ] `}`;
* field: [`!`] path [`:`] predicate;
* path: segment (`.` segment)*; segment: key (`[` integer `]`)*, where each opening bracket starts
  right where the key or the bracket before it ends;
* key: a word, a quoted text, or a number written in word characters only;
* predicate: a number, a quoted text, a group, a comparison sign and a number, a tilde and a quoted
  text, a range, or [marker] `[` [ predicate (`,` predicate)* [`,`] ] `]`;
* range: (`(` or `[`) [number] `~` [number] (`)` or `]`) [suffix], where the suffix is a letter that
  starts right where the bracket ends.

`Produces` says that the rules derive some tokens from a construct. With the tokens goes how deep groups,
lists and paths are nested in them. What the tokens stand for is part of the construct, so the rules
also ask that the suffixes of a range agree, that patterns can be read and that no fields clash.
-/

set_option autoImplicit false

namespace TreePredicate.Notation

open Draft (Call)

/-! ## Paths -/

/-- A token that may stand for a key of a path. -/
inductive KeyToken : Token → String → Prop where
  | word {token : Token} {key : String} (h : token.content = .word key) : KeyToken token key
  | quoted {token : Token} {key : String} (h : token.content = .quoted key) : KeyToken token key
  | number {token : Token} {value : Number} {width? : Option Width}
      (h : token.content = .number value width?)
      (hword : ∀ c ∈ token.text.toList, Text.isWord c = true) : KeyToken token token.text

/-- Integers in brackets, each of which opens right where the token before it stops. -/
inductive IndexTokens : Nat → List Token → Path → Prop where
  | none {stop : Nat} : IndexTokens stop [] []
  | more {stop : Nat} {opening index closing : Token} {position : Int} {rest : List Token}
      {path : Path} (hopening : opening.content = .sign .openBracket) (hstart : opening.start = stop)
      (hindex : index.content = .number (.int position) none)
      (hclosing : closing.content = .sign .closeBracket)
      (hrest : IndexTokens closing.stop rest path) :
      IndexTokens stop (opening :: index :: closing :: rest) (.index position :: path)

/-- A key with its positions. -/
inductive SegmentTokens : List Token → Path → Prop where
  | mk {token : Token} {key : String} {rest : List Token} {positions : Path}
      (hkey : KeyToken token key) (hindices : IndexTokens token.stop rest positions) :
      SegmentTokens (token :: rest) (.key key :: positions)

/-- Segments with points between them. -/
inductive PathTokens : List Token → Path → Prop where
  | last {ts : List Token} {path : Path} (h : SegmentTokens ts path) : PathTokens ts path
  | more {ts rest : List Token} {point : Token} {first path : Path} (h : SegmentTokens ts first)
      (hpoint : point.content = .sign .point) (hrest : PathTokens rest path) :
      PathTokens (ts ++ point :: rest) (first ++ path)

/-- No bracket opens right where some tokens end; it would belong to them. -/
def Closed (before after : List Token) : Prop :=
  ∀ last ∈ before.getLast?, ∀ opening ∈ after.head?,
    opening.content = .sign .openBracket → opening.start ≠ last.stop

/-! ## Numbers and signs -/

/-- A sign that may be left out. -/
inductive SignTokens (sign : Sign) : List Token → Bool → Prop where
  | absent : SignTokens sign [] false
  | present {token : Token} (h : token.content = .sign sign) : SignTokens sign [token] true

/-- A number with its suffix that may be left out. -/
inductive BoundTokens : List Token → Option (Number × Option Width) → Prop where
  | none : BoundTokens [] none
  | some {token : Token} {value : Number} {width? : Option Width}
      (h : token.content = .number value width?) : BoundTokens [token] (some (value, width?))

/-- A letter for a width, in either case, that may be left out; it starts right where the bracket
before it ends. -/
inductive SuffixTokens (closing : Token) : List Token → Option Width → Prop where
  | none : SuffixTokens closing [] none
  | some {token : Token} {letter : Char} {width : Width}
      (h : token.content = .word letter.toString) (hstart : token.start = closing.stop)
      (hletter : letter = width.suffix ∨ letter = width.suffix.toUpper) :
      SuffixTokens closing [token] (some width)

/-- The sign in front of a list, which is left out where all items are asked for in order. -/
inductive MarkerTokens : List Token → Quantifier → Prop where
  | none : MarkerTokens [] .exact
  | some {token : Token} {sign : Sign} {quantifier : Quantifier}
      (h : token.content = .sign sign) (hsymbol : sign.chars = quantifier.symbol.toList) :
      MarkerTokens [token] quantifier

/-! ## Predicates -/

/-- What the rules derive tokens from, with what the tokens stand for. -/
inductive Construct where
  | group (p : Predicate)
  | predicate (p : Predicate)
  | field (call : Call)
  | fields (calls : List Call)
  | elements (ps : List Predicate)

/-- The call that a field stands for. -/
def fieldCall (negated : Bool) (path : Path) (p : Predicate) : Call :=
  if negated then .negate path p else .add path p

/-- The rules derive tokens from a construct, with groups, lists and paths nested so deep. -/
inductive Produces [Room] : Construct → List Token → Nat → Prop where
  | group {opening closing : Token} {ts : List Token} {depth : Nat} {calls : List Call}
      {draft : Draft} (hopening : opening.content = .sign .openBrace)
      (hfields : Produces (.fields calls) ts depth)
      (hclosing : closing.content = .sign .closeBrace)
      (hcalls : Draft.empty.calls? calls = some draft) :
      Produces (.group draft.build) (opening :: ts ++ [closing]) (depth + 1)
  | number {token : Token} {value : Number} {width? : Option Width}
      (h : token.content = .number value width?) :
      Produces (.predicate (.number (.equals value width?))) [token] 0
  | text {token : Token} {value : String} (h : token.content = .quoted value) :
      Produces (.predicate (.text value)) [token] 0
  | nested {p : Predicate} {ts : List Token} {depth : Nat} (h : Produces (.group p) ts depth) :
      Produces (.predicate p) ts depth
  | comparison {token number : Token} {sign : Sign} {c : Comparison} {value : Number}
      {width? : Option Width} (h : token.content = .sign sign)
      (hsymbol : sign.chars = c.symbol.toList) (hnumber : number.content = .number value width?) :
      Produces (.predicate (.number (.compare c value width?))) [token, number] 0
  | pattern {tilde quoted : Token} {source : String} {p : Pattern}
      (htilde : tilde.content = .sign .tilde) (hquoted : quoted.content = .quoted source)
      (hcompile : Pattern.compileAt source quoted.start = .ok p) :
      Produces (.predicate (.pattern p)) [tilde, quoted] 0
  | range {opening tilde closing : Token} {lower upper suffix : List Token}
      {lower? upper? : Option (Number × Option Width)} {suffix? width? : Option Width}
      {lowerIncluded upperIncluded : Bool}
      (hopening : opening.content = .sign (if lowerIncluded then .openBracket else .openParenthesis))
      (hlower : BoundTokens lower lower?) (htilde : tilde.content = .sign .tilde)
      (hupper : BoundTokens upper upper?)
      (hclosing :
        closing.content = .sign (if upperIncluded then .closeBracket else .closeParenthesis))
      (hsuffix : SuffixTokens closing suffix suffix?)
      (hagree : ∀ width, width? = some width ↔
        some width ∈ [lower?.bind Prod.snd, upper?.bind Prod.snd, suffix?]) :
      Produces
        (.predicate (.number (.range (lower?.map Prod.fst) (upper?.map Prod.fst) lowerIncluded
          upperIncluded width?)))
        (opening :: lower ++ tilde :: upper ++ closing :: suffix) 0
  | list {marker ts : List Token} {opening closing : Token} {quantifier : Quantifier}
      {ps : List Predicate} {depth : Nat} (hmarker : MarkerTokens marker quantifier)
      (hopening : opening.content = .sign .openBracket)
      (helements : Produces (.elements ps) ts depth)
      (hclosing : closing.content = .sign .closeBracket) :
      Produces (.predicate (.list quantifier ps)) (marker ++ opening :: ts ++ [closing]) (depth + 1)
  | field {bang path colon ts : List Token} {negated coloned : Bool} {steps : Path} {p : Predicate}
      {depth : Nat} (hbang : SignTokens .bang bang negated) (hpath : PathTokens path steps)
      (hclosed : Closed path (colon ++ ts)) (hcolon : SignTokens .colon colon coloned)
      (hp : Produces (.predicate p) ts depth) :
      Produces (.field (fieldCall negated steps p)) (bang ++ path ++ colon ++ ts)
        (steps.length - 1 + depth)
  | noFields : Produces (.fields []) [] 0
  | lastField {call : Call} {ts : List Token} {depth : Nat} (h : Produces (.field call) ts depth) :
      Produces (.fields [call]) ts depth
  | moreFields {call : Call} {calls : List Call} {ts rest : List Token} {comma : Token}
      {depth depth' : Nat} (h : Produces (.field call) ts depth)
      (hcomma : comma.content = .sign .comma) (hrest : Produces (.fields calls) rest depth') :
      Produces (.fields (call :: calls)) (ts ++ comma :: rest) (max depth depth')
  | noElements : Produces (.elements []) [] 0
  | lastElement {p : Predicate} {ts : List Token} {depth : Nat}
      (h : Produces (.predicate p) ts depth) : Produces (.elements [p]) ts depth
  | moreElements {p : Predicate} {ps : List Predicate} {ts rest : List Token} {comma : Token}
      {depth depth' : Nat} (h : Produces (.predicate p) ts depth)
      (hcomma : comma.content = .sign .comma) (hrest : Produces (.elements ps) rest depth') :
      Produces (.elements (p :: ps)) (ts ++ comma :: rest) (max depth depth')

end TreePredicate.Notation
