import TreePredicate.Pattern.CharacterSet

/-!
# Matching patterns

A pattern matches by trying the ways of its items in order and going back when the rest fails. What
follows an item is a function from states to results, its *rest*, so that each item is tried with
everything that comes after it.

* `State` : a place in the text and the marks of the groups so far;
* `Repeat.exactly`, `Repeat.upTo`, `Repeat.possibly`, `Repeat.grab` : the passes of a repeat. A pass
  past the least number is tried only if the place has moved since the last such pass began;
* `Tree.run` : one item;
* `fullMatch` : the pattern matches the whole text.
-/

set_option autoImplicit false

namespace TreePredicate.Pattern

/-- A place in the text, and the places where groups began and ended: group `n` begins at mark
`2 * n` and ends at mark `2 * n + 1`. -/
structure State where
  place : Nat
  marks : List (Nat × Nat) := []

namespace State

/-- Sets a mark at the current place. -/
def mark (s : State) (which : Nat) : State :=
  { s with marks := (which, s.place) :: s.marks.filter (·.1 != which) }

/-- The places between which a group has matched. -/
def group? (s : State) (group : Nat) : Option (Nat × Nat) := do
  let first ← s.marks.lookup (2 * group)
  let last ← s.marks.lookup (2 * group + 1)
  if first ≤ last then return (first, last) else none

end State

/-- What follows an item: the final state, if all of it matches. -/
abbrev Rest := State → Option State

/-- An item, tried with what follows it. -/
abbrev Step := State → Rest → Option State

/-! ## Repeats -/

namespace Repeat

/-- A number of passes. -/
def exactly (step : Step) : Nat → Step
  | 0, s, rest => rest s
  | n + 1, s, rest => step s fun s => exactly step n s rest

/-- Up to a number of passes, as many as possible first; `last?` is where the last one began. -/
def upTo (step : Step) : Nat → Option Nat → Step
  | 0, _, s, rest => rest s
  | n + 1, last?, s, rest =>
    if last? = some s.place then rest s
    else
      match step s fun t => upTo step n (some s.place) t rest with
      | some final => some final
      | none => rest s

/-- Up to a number of passes, as few as possible first; `last?` is where the last one began. -/
def possibly (step : Step) : Nat → Option Nat → Step
  | 0, _, s, rest => rest s
  | n + 1, last?, s, rest =>
    match rest s with
    | some final => some final
    | none =>
      if last? = some s.place then none
      else step s fun t => possibly step n (some s.place) t rest

/-- Up to a number of passes, each taken as it first matches and never taken back. -/
def grab (step : Step) : Nat → State → State
  | 0, s => s
  | n + 1, s =>
    match step s some with
    | some t => if t.place = s.place then t else grab step n t
    | none => s

/-- A number of passes, each taken as it first matches and never taken back. -/
def grabExactly (step : Step) : Nat → State → Option State
  | 0, s => some s
  | n + 1, s => (step s some).bind (grabExactly step n)

end Repeat

/-! ## Places -/

/-- The code point before a place. -/
def before? (text : Array Char) (place : Nat) : Option Nat :=
  if place = 0 then none else text[place - 1]?.map Char.toNat

/-- The code point at a place. -/
def at? (text : Array Char) (place : Nat) : Option Nat := text[place]?.map Char.toNat

/-- A condition on a place holds. An empty text has neither a word boundary nor a place that is
none. -/
def Anchor.holds (text : Array Char) (flags : Flags) (place : Nat) : Anchor → Bool
  | .lineStart => place == 0 || (flags.multiline && before? text place == some 10)
  | .textStart => place == 0
  | .lineEnd =>
    place == text.size ||
      (at? text place == some 10 && (flags.multiline || place + 1 == text.size))
  | .textEnd => place == text.size
  | .boundary => text.size != 0 && wordBefore != wordAfter
  | .noBoundary => text.size != 0 && wordBefore == wordAfter
where
  isWord (code? : Option Nat) : Bool := (code?.map (categoryHolds flags.ascii .word)).getD false
  wordBefore : Bool := isWord (before? text place)
  wordAfter : Bool := isWord (at? text place)

/-- Takes one character that passes a test. -/
def take (text : Array Char) (test : Nat → Bool) : Step := fun s rest =>
  match at? text s.place with
  | some code => if test code then rest { s with place := s.place + 1 } else none
  | none => none

/-- The text repeats at `place` what stands between two places. -/
def repeats (text : Array Char) (flags : Flags) (first last place : Nat) : Bool :=
  place + (last - first) ≤ text.size &&
    (List.range (last - first)).all fun i =>
      match at? text (first + i), at? text (place + i) with
      | some a, some b =>
        if flags.ignoreCase then lower flags.ascii a == lower flags.ascii b else a == b
      | _, _ => false

/-! ## Items -/

namespace Tree

mutual

/-- Tries an item with what follows it. -/
def run (text : Array Char) : Tree → Flags → Step
  | .literal code, flags => take text (sameCode flags code)
  | .notLiteral code, flags => take text (fun c => !sameCode flags code c)
  | .any, flags => take text (fun c => flags.dotAll || c != 10)
  | .set negated members, flags => take text (setHolds flags negated members)
  | .anchor condition, flags => fun s rest =>
    if condition.holds text flags s.place then rest s else none
  | .backReference n _, flags => fun s rest =>
    match s.group? n with
    | some (first, last) =>
      if repeats text flags first last s.place then
        rest { s with place := s.place + (last - first) }
      else none
    | none => none
  | .branch alternatives, flags => runAny text alternatives flags
  | .group number added removed body, flags => fun s rest =>
    match number with
    | none => runAll text body (flags.within added removed) s rest
    | some n =>
      runAll text body (flags.within added removed) (s.mark (2 * n)) fun t =>
        rest (t.mark (2 * n + 1))
  | .atomic body, flags => fun s rest => (runAll text body flags s some).bind rest
  | .repeated greed least most body, flags => fun s rest =>
    let step := runAll text body flags
    let more (t : State) : Nat :=
      let room := text.size - t.place + 2
      match most with
      | some most => min (most - least) room
      | none => room
    match greed with
    | .greedy => Repeat.exactly step least s fun t => Repeat.upTo step (more t) none t rest
    | .lazy => Repeat.exactly step least s fun t => Repeat.possibly step (more t) none t rest
    | .possessive =>
      (Repeat.grabExactly step least s).bind fun t => rest (Repeat.grab step (more t) t)
  | .look ahead positive body, flags => fun s rest =>
    let back := if ahead then 0 else (spanOfAll body).least
    let found := if s.place < back then none
      else runAll text body flags { s with place := s.place - back } some
    match positive, found with
    | true, some t => rest { t with place := s.place }
    | false, none => rest s
    | _, _ => none
  | .conditional n present absent, flags => fun s rest =>
    if (s.group? n).isSome then runAll text present flags s rest
    else runAll text absent flags s rest

/-- Tries items one after another. -/
def runAll (text : Array Char) : List Tree → Flags → Step
  | [], _ => fun s rest => rest s
  | item :: items, flags => fun s rest =>
    run text item flags s fun t => runAll text items flags t rest

/-- Tries alternatives in order. -/
def runAny (text : Array Char) : List (List Tree) → Flags → Step
  | [], _ => fun _ _ => none
  | items :: others, flags => fun s rest =>
    match runAll text items flags s rest with
    | some final => some final
    | none => runAny text others flags s rest

end

end Tree

/-- The pattern matches the whole text. -/
def fullMatch (program : Program) (text : List Char) : Bool :=
  let text := text.toArray
  (Tree.runAll text program.items program.flags { place := 0 } fun s =>
    if s.place = text.size then some s else none).isSome

end TreePredicate.Pattern
