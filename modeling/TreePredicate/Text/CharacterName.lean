import TreePredicate.Text.CharacterName.Aliases
import TreePredicate.Text.CharacterName.Alphabets
import TreePredicate.Text.CharacterName.Ancient
import TreePredicate.Text.CharacterName.Hieroglyphs
import TreePredicate.Text.CharacterName.Ideographs
import TreePredicate.Text.CharacterName.Music
import TreePredicate.Text.CharacterName.Pictographs
import TreePredicate.Text.CharacterName.Syllabaries
import TreePredicate.Text.CharacterName.Symbols
import TreePredicate.Text.Ranges

/-!
# Characters by name

`namedCode? name` is the code point of the character with a name, in the fourteenth edition of the
character set. Names are found in two ways:

* unified ideographs are named by their code point and Hangul syllables by their letters, in
  capitals only;
* all other characters have names in tables, and some of them aliases, in letters of either case.

A table is a list of runs of characters with consecutive code points. Small letters, which no name
contains, stand between the names of a run: they are a number in base twenty-six, which says with
how many characters of the name before it the next name starts. Where a line ends means nothing.
-/

set_option autoImplicit false

namespace TreePredicate.Text

namespace CharacterName

/-- All runs of characters with names in tables. -/
def runs : List (Nat × List String) :=
  alphabets ++ syllabaries ++ symbols ++ ideographs ++ ancient ++ hieroglyphs ++ music ++
    pictographs ++ aliases

/-- A letter that stands between names. -/
def isMark (c : Char) : Bool := 'a' ≤ c && c ≤ 'z'

/-- The number that letters between names stand for. -/
def markValue (letters : List Char) : Nat :=
  letters.foldl (fun n c => 26 * n + (c.toNat - 'a'.toNat)) 0

/-- How many names come before a given one in the names of a run, given the name before them. -/
def indexIn? (name before : List Char) : List Char → Option Nat
  | [] => none
  | c :: rest =>
    let letters := c :: rest.takeWhile isMark
    let afterLetters := rest.dropWhile isMark
    let current := before.take (markValue letters) ++ afterLetters.takeWhile (!isMark ·)
    if current = name then some 0
    else (indexIn? name current (afterLetters.dropWhile (!isMark ·))).map (· + 1)
termination_by chars => chars.length
decreasing_by
  have first := (List.dropWhile_sublist isMark (l := rest)).length_le
  have second := (List.dropWhile_sublist (!isMark ·) (l := rest.dropWhile isMark)).length_le
  simp only [List.length_cons]
  omega

/-- The code point of a character with a name in a table. -/
def inTables? (name : List Char) : Option Nat :=
  runs.findSome? fun (start, lines) =>
    (indexIn? name [] (lines.flatMap String.toList)).map (start + ·)

/-! ## Unified ideographs -/

/-- The code points of unified ideographs. -/
def ideographRanges : List (Nat × Nat) :=
  [(0x3400, 0x4dbf), (0x4e00, 0x9fff), (0x20000, 0x2a6df), (0x2a700, 0x2b738),
    (0x2b740, 0x2b81d), (0x2b820, 0x2cea1), (0x2ceb0, 0x2ebe0), (0x30000, 0x3134a)]

/-- The value of a digit in base sixteen that is written with capitals. -/
def hexCapital? (c : Char) : Option Nat :=
  if '0' ≤ c ∧ c ≤ '9' then some (c.toNat - '0'.toNat)
  else if 'A' ≤ c ∧ c ≤ 'F' then some (c.toNat - 'A'.toNat + 10)
  else none

/-- The code point of the unified ideograph with four or five digits. -/
def ideograph? (digits : List Char) : Option Nat := do
  guard (digits.length = 4 ∨ digits.length = 5)
  let values ← digits.mapM hexCapital?
  let code := values.foldl (fun n d => 16 * n + d) 0
  guard (inRanges ideographRanges code)
  return code

/-! ## Hangul syllables -/

/-- The names of the letters that a syllable starts with; one of them is silent. -/
def leading : List String :=
  ["G", "GG", "N", "D", "DD", "R", "M", "B", "BB", "S", "SS", "", "J", "JJ", "C", "K", "T", "P",
    "H"]

/-- The names of the vowels. -/
def vowels : List String :=
  ["A", "AE", "YA", "YAE", "EO", "E", "YEO", "YE", "O", "WA", "WAE", "OE", "YO", "U", "WEO", "WE",
    "WI", "YU", "EU", "YI", "I"]

/-- The names of the letters that a syllable ends with, none first. -/
def trailing : List String :=
  ["", "G", "GG", "GS", "N", "NJ", "NH", "D", "L", "LG", "LM", "LB", "LS", "LT", "LP", "LH", "M",
    "B", "BS", "S", "SS", "NG", "J", "C", "K", "T", "P", "H"]

/-- The place of the longest of some letters that a text starts with, and the rest of the text. -/
def longest? (letters : List String) (text : List Char) : Option (Nat × List Char) :=
  let found := letters.zipIdx.filter fun (letter, _) => letter.toList.isPrefixOf text
  let best := found.foldl (fun best (letter, place) =>
    match best with
    | some (size, _) => if letter.length ≤ size then best else some (letter.length, place)
    | none => some (letter.length, place)) (none : Option (Nat × Nat))
  best.map fun (size, place) => (place, text.drop size)

/-- The code point of the syllable with some letters. -/
def syllable? (text : List Char) : Option Nat := do
  let (first, text) ← longest? leading text
  let (second, text) ← longest? vowels text
  let (third, text) ← longest? trailing text
  guard text.isEmpty
  return 0xac00 + (first * 21 + second) * 28 + third

end CharacterName

open CharacterName

/-- The code point of the character with a name. -/
def namedCode? (name : String) : Option Nat :=
  let chars := name.toList
  let ideographs := "CJK UNIFIED IDEOGRAPH-".toList
  let syllables := "HANGUL SYLLABLE ".toList
  if syllables.isPrefixOf chars then syllable? (chars.drop syllables.length)
  else if ideographs.isPrefixOf chars then ideograph? (chars.drop ideographs.length)
  else inTables? (chars.map Char.toUpper)

end TreePredicate.Text
