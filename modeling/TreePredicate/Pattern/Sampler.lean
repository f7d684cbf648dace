import TreePredicate.Pattern.CharacterSet

/-!
# Drawing texts for patterns

A text is drawn item by item, without regard to flags, anchors and negative assertions, and with the
text of a positive assertion written out. So a drawn text need not match, and whoever draws has to
test it. Atomic groups, possessive repeats and conditions are not drawn at all, and neither is a
repeat of more than a hundred passes.

* `Dice` : a deterministic source of choices;
* `Refusal` : why nothing can be drawn;
* `draw` : one text for a pattern.
-/

set_option autoImplicit false

namespace TreePredicate.Pattern

/-- A deterministic source of choices. -/
structure Dice where
  state : Nat
deriving DecidableEq

namespace Dice

/-- The source of choices that a seed gives. -/
def ofSeed (seed : Int) : Dice := ⟨(seed % 0x10000000000000000).toNat⟩

/-- A choice among `count` possibilities, and the source of the next ones. -/
def roll (dice : Dice) (count : Nat) : Nat × Dice :=
  let state := (dice.state * 6364136223846793005 + 1442695040888963407) % 0x10000000000000000
  (state / 0x200000000 % count, ⟨state⟩)

end Dice

/-- Why no text can be drawn for a pattern. -/
inductive Refusal where
  | unsupported (construct : String)
  | unsetGroup (group : Nat)
  | tooManyPasses (least : Nat)
  | emptySet
deriving DecidableEq

namespace Refusal

/-- What is said of a pattern for which nothing can be drawn. -/
def message : Refusal → String
  | .unsupported construct => "'" ++ construct ++ "'"
  | .unsetGroup group => toString group
  | .tooManyPasses least =>
    "empty range for randrange() (" ++ toString least ++ ", 101, " ++
      toString (101 - (least : Int)) ++ ")"
  | .emptySet => "Cannot choose from an empty sequence"

end Refusal

/-- Drawing: choices so far, and the texts of the groups so far. -/
abbrev Draw := ExceptT Refusal (StateM (Dice × List (Nat × List Char)))

namespace Draw

/-- A choice among `count` possibilities. -/
def roll (count : Nat) : Draw Nat :=
  modifyGet fun (dice, groups) =>
    let (choice, dice) := dice.roll count
    (choice, (dice, groups))

/-- The same drawing several times, one text after another. -/
def times (draw : Draw (List Char)) : Nat → Draw (List Char)
  | 0 => return []
  | n + 1 => do
    let first ← draw
    let others ← times draw n
    return first ++ others

end Draw

/-! ## Alphabets -/

/-- The digits. -/
def digitAlphabet : List Char := "0123456789".toList

/-- The letters. -/
def letterAlphabet : List Char :=
  "abcdefghijklmnopqrstuvwxyzABCDEFGHIJKLMNOPQRSTUVWXYZ".toList

/-- The punctuation marks. -/
def markAlphabet : List Char :=
  ['!', '"', '#', '$', '%', '&', '\'', '(', ')', '*', '+', ',', '-', '.', '/', ':', ';', '<', '=',
    '>', '?', '@', '[', '\\', ']', '^', '_', '\x60', '\x7b', '|', '\x7d', '~']

/-- The blanks. -/
def blankAlphabet : List Char := [' ', '\t', '\n', '\r', '\x0b', '\x0c']

/-- The characters that are drawn where nearly all are allowed. -/
def printableAlphabet : List Char :=
  digitAlphabet ++ letterAlphabet ++ markAlphabet ++ blankAlphabet

/-- The characters that are drawn for a class. -/
def categoryAlphabet (kind : Category) (negated : Bool) : List Char :=
  match kind, negated with
  | .digit, false => digitAlphabet
  | .digit, true => letterAlphabet ++ markAlphabet
  | .space, false => blankAlphabet
  | .space, true => digitAlphabet ++ letterAlphabet ++ markAlphabet
  | .word, false => digitAlphabet ++ letterAlphabet ++ ['_']
  | .word, true => (markAlphabet ++ blankAlphabet).filter (· != '_')

/-- The ranges of code points that are drawn for a member of a set. -/
def memberRanges : Member → List (Nat × Nat)
  | .code code => [(code, code)]
  | .range first last => [(first, last)]
  | .category kind negated => (categoryAlphabet kind negated).map fun c => (c.toNat, c.toNat)

/-- The code point with a number among those of some ranges. -/
def pick? : List (Nat × Nat) → Nat → Option Nat
  | [], _ => none
  | (first, last) :: rest, n =>
    if n < last + 1 - first then some (first + n) else pick? rest (n - (last + 1 - first))

/-- Draws a code point of some ranges. -/
def drawCode (ranges : List (Nat × Nat)) : Draw (List Char) := do
  let count := ranges.foldl (fun n (first, last) => n + (last + 1 - first)) 0
  if count = 0 then throw .emptySet
  let choice ← Draw.roll count
  return [Char.ofNat ((pick? ranges choice).getD 0)]

/-- Draws a printable character outside some ranges. -/
def drawOutside (ranges : List (Nat × Nat)) : Draw (List Char) :=
  drawCode <| (printableAlphabet.map Char.toNat).filterMap fun code =>
    if ranges.any fun (first, last) => first ≤ code && code ≤ last then none else some (code, code)

/-! ## Items -/

/-- The most passes of a repeat. -/
def passBound : Nat := 100

namespace Tree

mutual

/-- Draws a text for an item. -/
def draw : Tree → Draw (List Char)
  | .literal code => return [Char.ofNat code]
  | .notLiteral code => drawOutside [(code, code)]
  | .any => drawOutside [(10, 10)]
  | .set false members => drawCode (members.flatMap memberRanges)
  | .set true members => drawOutside (members.flatMap memberRanges)
  | .anchor _ => return []
  | .backReference n _ => do
    match (← get).2.lookup n with
    | some text => return text
    | none => throw (.unsetGroup n)
  | .branch alternatives => do
    let choice ← Draw.roll alternatives.length
    drawNth alternatives choice
  | .group number _ _ body => do
    let text ← drawAll body
    if let some n := number then modify fun (dice, groups) => (dice, (n, text) :: groups)
    return text
  | .atomic _ => throw (.unsupported "atomic_group")
  | .repeated .possessive _ _ _ => throw (.unsupported "possessive_repeat")
  | .repeated _ least most body => do
    let most := min (most.getD passBound) passBound
    if most < least then throw (.tooManyPasses least)
    let extra ← Draw.roll (most - least + 1)
    (drawAll body).times (least + extra)
  | .look _ positive body => if positive then drawAll body else return []
  | .conditional _ _ _ => throw (.unsupported "groupref_exists")

/-- Draws a text for items one after another. -/
def drawAll : List Tree → Draw (List Char)
  | [] => return []
  | item :: rest => do
    let first ← draw item
    let others ← drawAll rest
    return first ++ others

/-- Draws a text for one of some alternatives. -/
def drawNth : List (List Tree) → Nat → Draw (List Char)
  | [], _ => throw .emptySet
  | items :: others, n =>
    match n with
    | 0 => drawAll items
    | n + 1 => drawNth others n

end

end Tree

/-- Draws a text for a pattern. -/
def drawText (program : Program) (dice : Dice) : Except Refusal (List Char) × Dice :=
  let (result, (dice, _)) := (Tree.drawAll program.items).run.run (dice, [])
  (result, dice)

end TreePredicate.Pattern
