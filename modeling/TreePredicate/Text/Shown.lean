import TreePredicate.Text.Printable

/-!
# Text shown in messages

`shown s` is a text between quotes with everything that cannot be seen written as an escape. The
quote is a single one, unless the text has single quotes and no double ones.
-/

set_option autoImplicit false

namespace TreePredicate.Text

/-- A number in base sixteen with at least `width` digits. -/
def hex (width n : Nat) : List Char :=
  let digits := Nat.toDigits 16 n
  List.replicate (width - digits.length) '0' ++ digits

/-- One character of a shown text. -/
def shownChar (quote c : Char) : List Char :=
  if c = quote ∨ c = '\\' then ['\\', c]
  else if c = '\n' then ['\\', 'n']
  else if c = '\r' then ['\\', 'r']
  else if c = '\t' then ['\\', 't']
  else if isPrintable c then [c]
  else if c.toNat < 0x100 then ['\\', 'x'] ++ hex 2 c.toNat
  else if c.toNat < 0x10000 then ['\\', 'u'] ++ hex 4 c.toNat
  else ['\\', 'U'] ++ hex 8 c.toNat

/-- A text as it is shown in messages. -/
def shown (s : String) : String :=
  let chars := s.toList
  let quote := if chars.contains '\'' && !chars.contains '"' then '"' else '\''
  String.ofList (quote :: (chars.flatMap (shownChar quote) ++ [quote]))

end TreePredicate.Text
