import TreePredicate.Width

/-!
# Tokens

A token is a part of a text with its place and its meaning. Places are counted in characters.
-/

set_option autoImplicit false

namespace TreePredicate.Notation

/-- The signs of the notation. -/
inductive Sign where
  | openBrace
  | closeBrace
  | openBracket
  | closeBracket
  | openParenthesis
  | closeParenthesis
  | colon
  | comma
  | point
  | bang
  | tilde
  | less
  | greater
  | atMost
  | atLeast
  | starts
  | ends
  | sequence
deriving DecidableEq

namespace Sign

/-- All signs, those of two characters first. -/
def all : List Sign :=
  [.starts, .ends, .sequence, .atLeast, .atMost, .openBrace, .closeBrace, .openBracket,
    .closeBracket, .openParenthesis, .closeParenthesis, .colon, .comma, .point, .bang, .tilde,
    .less, .greater]

/-- The characters of a sign. -/
def chars : Sign → List Char
  | .openBrace => ['\x7b']
  | .closeBrace => ['\x7d']
  | .openBracket => ['[']
  | .closeBracket => [']']
  | .openParenthesis => ['(']
  | .closeParenthesis => [')']
  | .colon => [':']
  | .comma => [',']
  | .point => ['.']
  | .bang => ['!']
  | .tilde => ['~']
  | .less => ['<']
  | .greater => ['>']
  | .atMost => ['<', '=']
  | .atLeast => ['>', '=']
  | .starts => ['<', '<']
  | .ends => ['>', '>']
  | .sequence => ['>', '<']

/-- The sign of one character. -/
def ofChar? (c : Char) : Option Sign := all.find? fun sign => sign.chars == [c]

/-- The sign of two characters. -/
def ofPair? (c d : Char) : Option Sign := all.find? fun sign => sign.chars == [c, d]

end Sign

/-- What a token means. -/
inductive Content where
  | word (value : String)
  | number (value : Number) (width? : Option Width)
  | quoted (value : String)
  | sign (sign : Sign)
  | stop
deriving DecidableEq

/-- A part of a text, with its place and its meaning. -/
structure Token where
  content : Content
  text : String
  start : Nat
deriving DecidableEq

namespace Token

/-- The place after a token. -/
def stop (token : Token) : Nat := token.start + token.text.length

/-- The token is a certain sign. -/
def isSign (token : Token) (sign : Sign) : Bool := token.content == .sign sign

/-- The token is a number. -/
def isNumber (token : Token) : Bool :=
  match token.content with
  | .number .. => true
  | _ => false

end Token

end TreePredicate.Notation
