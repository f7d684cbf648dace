import TreePredicate.Notation.Failure
import TreePredicate.Notation.Token
import TreePredicate.Text.Blank

/-!
# From characters to tokens

* `Numeral`, `Numeral.read?` : the parts of a numeric literal: a sign, digits, a fraction, an exponent,
  and the word characters that stick to it;
* `lexeme` : the meaning and the length of the token at the front of a text;
* `tokenize` : the tokens of a text, with a last one for its end.

The token at the front is a run of blanks, a quoted text, a number, a word or a sign, the first of
these that fits, and as long as it can be.
-/

set_option autoImplicit false

namespace TreePredicate.Notation

/-! ## Numeric literals -/

/-- The parts of a numeric literal. The exponent has a letter, a sign and digits. -/
structure Numeral where
  sign : List Char
  whole : List Char
  fraction : List Char
  exponent : Option (Char × List Char × List Char)
  tail : List Char

namespace Numeral

/-- A sign, if there is one, and what follows. -/
def splitSign : List Char → List Char × List Char
  | c :: rest => if c = '+' ∨ c = '-' then ([c], rest) else ([], c :: rest)
  | [] => ([], [])

/-- The digits of a fraction, if there is one, and what follows. -/
def splitFraction : List Char → List Char × List Char
  | '.' :: rest =>
    let digits := rest.takeWhile Text.isDigit
    if digits.isEmpty then ([], '.' :: rest) else (digits, rest.dropWhile Text.isDigit)
  | chars => ([], chars)

/-- The letter, sign and digits of an exponent, if there is one, and what follows. -/
def splitExponent : List Char → Option (Char × List Char × List Char) × List Char
  | c :: rest =>
    if c = 'e' ∨ c = 'E' then
      let (sign, after) := splitSign rest
      let digits := after.takeWhile Text.isDigit
      if digits.isEmpty then (none, c :: rest)
      else (some (c, sign, digits), after.dropWhile Text.isDigit)
    else (none, c :: rest)
  | [] => (none, [])

/-- The numeric literal at the front of a text. -/
def read? (chars : List Char) : Option Numeral :=
  let (sign, rest) := splitSign chars
  let whole := rest.takeWhile Text.isDigit
  if whole.isEmpty then none
  else
    let (fraction, rest) := splitFraction (rest.dropWhile Text.isDigit)
    let (exponent, rest) := splitExponent rest
    some ⟨sign, whole, fraction, exponent, rest.takeWhile Text.isWord⟩

/-- How many characters the exponent has. -/
def exponentLength (n : Numeral) : Nat :=
  match n.exponent with
  | none => 0
  | some (_, sign, digits) => 1 + sign.length + digits.length

/-- How many characters the literal has. -/
def length (n : Numeral) : Nat :=
  n.sign.length + n.whole.length +
    (if n.fraction.isEmpty then 0 else 1 + n.fraction.length) + n.exponentLength + n.tail.length

/-- The literal has a fraction or an exponent. -/
def isDecimal (n : Numeral) : Bool := !n.fraction.isEmpty || n.exponent.isSome

/-- The literal is digits only, without its tail. -/
def isPlain (n : Numeral) : Bool := n.sign.isEmpty && !n.isDecimal

/-- The literal is negative. -/
def isNegative (n : Numeral) : Bool := n.sign == ['-']

/-- The number that digits of any script stand for. -/
def digitsValue (digits : List Char) : Nat :=
  Decimal.value (digits.map fun c => (Text.digitValue? c).getD 0)

/-- The power of ten that the exponent stands for. -/
def exponentValue (n : Numeral) : Int :=
  match n.exponent with
  | none => 0
  | some (_, sign, digits) => signed (sign == ['-']) (digitsValue digits)

/-- The decimal number that the literal stands for. -/
def decimal (n : Numeral) : Decimal :=
  ⟨n.isNegative, digitsValue (n.whole ++ n.fraction), n.exponentValue - n.fraction.length⟩

/-- The value of the literal, or why it has none. -/
def value (n : Numeral) (offset : Nat) : Except Failure Number :=
  if n.isDecimal then
    match n.decimal.toDouble with
    | .infinite _ => .error (.lexical .numberTooLarge offset)
    | d => .ok (.double d)
  else if Pattern.Fault.digitsAllowed < n.whole.length then
    .error (.tooManyDigits n.whole.length)
  else .ok (.int (signed n.isNegative (digitsValue n.whole)))

/-- The meaning of the literal with the characters `text`. Digits with a tail that is no width
suffix are a word. -/
def content (n : Numeral) (text : List Char) (offset : Nat) : Except Failure Content :=
  match n.tail with
  | [] => do
    let value ← n.value offset
    return .number value none
  | tail =>
    match Width.ofSuffix (String.ofList tail) with
    | .ok width => do
      let value ← n.value offset
      return .number value (some width)
    | .error _ =>
      if n.isPlain then .ok (.word (String.ofList text))
      else .error (.lexical .malformedNumber offset)

end Numeral

/-! ## Quoted texts -/

/-- The characters up to a closing quote. A backslash goes with the next character, which must not
end the line. -/
def quotedBody? : List Char → Option (List Char)
  | [] => none
  | '"' :: _ => some []
  | '\\' :: c :: rest => if c = '\n' then none else (quotedBody? rest).map ('\\' :: c :: ·)
  | c :: rest => if c = '\\' then none else (quotedBody? rest).map (c :: ·)

/-! ## Tokens -/

/-- Why no token starts with a character. -/
def lexicalFault (c : Char) : LexicalFault :=
  if c = '"' then .unterminated
  else if c = '+' ∨ c = '-' then .malformedNumber
  else .unexpected c

/-- The meaning of the token at the front of a text, none for blanks, and how many characters it has
after the first one. -/
def lexeme (offset : Nat) (c : Char) (rest : List Char) :
    Except Failure (Option Content × Nat) :=
  if Text.isBlank c then .ok (none, (rest.takeWhile Text.isBlank).length)
  else
    match if c = '"' then quotedBody? rest else none with
    | some body =>
      match Text.Quoted.decode (offset + 1) body with
      | .ok value => .ok (some (.quoted (String.ofList value)), body.length + 1)
      | .error (fault, place) => .error (.lexical (.badEscape fault) place)
    | none =>
      match Numeral.read? (c :: rest) with
      | some numeral => do
        let content ← numeral.content (c :: rest.take (numeral.length - 1)) offset
        return (some content, numeral.length - 1)
      | none =>
        if Text.isWord c then
          let tail := rest.takeWhile Text.isWord
          .ok (some (.word (String.ofList (c :: tail))), tail.length)
        else
          match rest.head?.bind (Sign.ofPair? c) with
          | some sign => .ok (some (.sign sign), 1)
          | none =>
            match Sign.ofChar? c with
            | some sign => .ok (some (.sign sign), 0)
            | none => .error (.lexical (lexicalFault c) offset)

/-- The tokens of a text that starts at a place. -/
def tokensFrom (offset : Nat) : List Char → Except Failure (List Token)
  | [] => .ok [⟨.stop, "", offset⟩]
  | c :: rest => do
    let (content?, more) ← lexeme offset c rest
    let later ← tokensFrom (offset + 1 + more) (rest.drop more)
    match content? with
    | some content => return ⟨content, String.ofList (c :: rest.take more), offset⟩ :: later
    | none => return later
termination_by chars => chars.length

/-- The tokens of a text; the last one stands for its end. -/
def tokenize (text : String) : Except Failure (List Token) := tokensFrom 0 text.toList

end TreePredicate.Notation
