import TreePredicate.Text.Shown

/-!
# Quoted text

The string form of the notation: a text between double quotes, with a backslash before what stands
for something else.

* `Quoted.encode` : the quoted form; only the quote, the backslash and control characters are
  escaped;
* `Quoted.decode` : the text between the quotes, or the place of the first escape that is none. Two
  escapes for the halves of a surrogate pair are one character, and half a pair alone is read as the
  replacement character.

The last is a limit of `Char`, which has no surrogates: texts that differ only in halves of pairs
that stand alone are read as one text. So `{"\ud800": 1, "\ud801": 2}` constrains one key twice,
though its keys differ.
-/

set_option autoImplicit false

namespace TreePredicate.Text.Quoted

/-- What is wrong with an escape. -/
inductive Fault where
  | escape
  | codePoint
deriving DecidableEq

/-- What is said of a wrong escape. -/
def Fault.message : Fault → String
  | .escape => "Invalid \\escape"
  | .codePoint => "Invalid \\uXXXX escape"

/-- One character of a quoted text. -/
def encodeChar (c : Char) : List Char :=
  if c = '"' then ['\\', '"']
  else if c = '\\' then ['\\', '\\']
  else if c = '\n' then ['\\', 'n']
  else if c = '\r' then ['\\', 'r']
  else if c = '\t' then ['\\', 't']
  else if c = '\x0c' then ['\\', 'f']
  else if c = '\x08' then ['\\', 'b']
  else if c.toNat < 0x20 then ['\\', 'u'] ++ hex 4 c.toNat
  else [c]

/-- The quoted form of a text. -/
def encode (s : String) : String :=
  String.ofList ('"' :: (s.toList.flatMap encodeChar ++ ['"']))

/-- The value of a digit in base sixteen. -/
def hexValue? (c : Char) : Option Nat :=
  if '0' ≤ c ∧ c ≤ '9' then some (c.toNat - '0'.toNat)
  else if 'a' ≤ c ∧ c ≤ 'f' then some (c.toNat - 'a'.toNat + 10)
  else if 'A' ≤ c ∧ c ≤ 'F' then some (c.toNat - 'A'.toNat + 10)
  else none

/-- The code unit that four digits in base sixteen give. -/
def unit? (a b c d : Char) : Option Nat := do
  let a ← hexValue? a
  let b ← hexValue? b
  let c ← hexValue? c
  let d ← hexValue? d
  return ((a * 16 + b) * 16 + c) * 16 + d

/-- The first half of a surrogate pair. -/
def isHighSurrogate (n : Nat) : Bool := 0xd800 ≤ n && n < 0xdc00

/-- The second half of a surrogate pair. -/
def isLowSurrogate (n : Nat) : Bool := 0xdc00 ≤ n && n < 0xe000

/-- The characters of code units. Two halves of a surrogate pair in a row are one character; a half
alone is read as the replacement character. -/
def joinPairs : List Nat → List Char
  | [] => []
  | [n] => [if isHighSurrogate n || isLowSurrogate n then '\ufffd' else Char.ofNat n]
  | m :: n :: rest =>
    if isHighSurrogate m && isLowSurrogate n then
      Char.ofNat (0x10000 + (m - 0xd800) * 0x400 + (n - 0xdc00)) :: joinPairs rest
    else
      (if isHighSurrogate m || isLowSurrogate m then '\ufffd' else Char.ofNat m) ::
        joinPairs (n :: rest)

/-- What a single character after a backslash stands for. -/
def escape? (c : Char) : Option Char :=
  if c = '"' ∨ c = '\\' ∨ c = '/' then some c
  else if c = 'b' then some '\x08'
  else if c = 'f' then some '\x0c'
  else if c = 'n' then some '\n'
  else if c = 'r' then some '\r'
  else if c = 't' then some '\t'
  else none

/-- The code units of the text between the quotes, which starts at `offset`; a fault comes with its
place. -/
def units (offset : Nat) : List Char → Except (Fault × Nat) (List Nat)
  | [] => .ok []
  | '\\' :: 'u' :: a :: b :: c :: d :: rest =>
    match unit? a b c d with
    | some unit => (units (offset + 6) rest).map (unit :: ·)
    | none => .error (.codePoint, offset + 1)
  | '\\' :: c :: rest =>
    if c = 'u' then .error (.codePoint, offset + 1)
    else
      match escape? c with
      | some meant => (units (offset + 2) rest).map (meant.toNat :: ·)
      | none => .error (.escape, offset)
  | c :: rest => (units (offset + 1) rest).map (c.toNat :: ·)

/-- The text between the quotes, which starts at `offset`; a fault comes with its place. -/
def decode (offset : Nat) (chars : List Char) : Except (Fault × Nat) (List Char) :=
  (units offset chars).map joinPairs

end TreePredicate.Text.Quoted
