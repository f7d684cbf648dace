/-!
# Syntax trees of patterns

A pattern is a regular expression with groups, back-references, assertions, atomic groups, lazy and
possessive repeats and inline flags.

* `Flags` : the inline flags;
* `Member` : a member of a character set;
* `Anchor` : a condition on a place between characters;
* `Tree` : one item of a pattern; a pattern is a list of items;
* `Span` : the least and the greatest length of what an item matches, which look-behind needs.

Characters are code points, because a pattern may name a surrogate, which no text holds.
-/

set_option autoImplicit false

namespace TreePredicate.Pattern

/-- Inline flags. -/
structure Flags where
  ignoreCase : Bool := false
  locale : Bool := false
  multiline : Bool := false
  dotAll : Bool := false
  verbose : Bool := false
  ascii : Bool := false
  template : Bool := false
  unicode : Bool := false
deriving DecidableEq

namespace Flags

/-- No flag. -/
def empty : Flags := {}

/-- The flags that a letter turns on. -/
def ofLetter? : Char → Option Flags
  | 'i' => some { ignoreCase := true }
  | 'L' => some { locale := true }
  | 'm' => some { multiline := true }
  | 's' => some { dotAll := true }
  | 'x' => some { verbose := true }
  | 'a' => some { ascii := true }
  | 't' => some { template := true }
  | 'u' => some { unicode := true }
  | _ => none

/-- The flags in either of two. -/
def union (f g : Flags) : Flags where
  ignoreCase := f.ignoreCase || g.ignoreCase
  locale := f.locale || g.locale
  multiline := f.multiline || g.multiline
  dotAll := f.dotAll || g.dotAll
  verbose := f.verbose || g.verbose
  ascii := f.ascii || g.ascii
  template := f.template || g.template
  unicode := f.unicode || g.unicode

/-- The flags in both of two. -/
def inter (f g : Flags) : Flags where
  ignoreCase := f.ignoreCase && g.ignoreCase
  locale := f.locale && g.locale
  multiline := f.multiline && g.multiline
  dotAll := f.dotAll && g.dotAll
  verbose := f.verbose && g.verbose
  ascii := f.ascii && g.ascii
  template := f.template && g.template
  unicode := f.unicode && g.unicode

/-- The flags of the first that are not in the second. -/
def diff (f g : Flags) : Flags where
  ignoreCase := f.ignoreCase && !g.ignoreCase
  locale := f.locale && !g.locale
  multiline := f.multiline && !g.multiline
  dotAll := f.dotAll && !g.dotAll
  verbose := f.verbose && !g.verbose
  ascii := f.ascii && !g.ascii
  template := f.template && !g.template
  unicode := f.unicode && !g.unicode

/-- Among the flags is one that chooses what letters, digits and blanks are. -/
def choosesClasses (f : Flags) : Bool := f.ascii || f.locale || f.unicode

/-- How many of the flags choose what letters, digits and blanks are. -/
def classCount (f : Flags) : Nat := f.ascii.toNat + f.locale.toNat + f.unicode.toNat

/-- The flags inside a group that adds some and removes others. A choice of character classes
replaces the one outside. -/
def within (f added removed : Flags) : Flags :=
  let outer :=
    if added.choosesClasses then { f with ascii := false, locale := false, unicode := false } else f
  (outer.union added).diff removed

end Flags

/-- A class of characters. -/
inductive Category where
  | digit
  | space
  | word
deriving DecidableEq

/-- A member of a character set. -/
inductive Member where
  | code (code : Nat)
  | range (first last : Nat)
  | category (category : Category) (negated : Bool)
deriving DecidableEq

/-- A condition on a place between characters. -/
inductive Anchor where
  | lineStart
  | textStart
  | lineEnd
  | textEnd
  | boundary
  | noBoundary
deriving DecidableEq

/-- Which number of passes a repeat tries first, and whether it goes back on its choice. -/
inductive Greed where
  | greedy
  | lazy
  | possessive
deriving DecidableEq

/-- The least and the greatest length of a match; `Span.ceiling` stands for every greater one. -/
structure Span where
  least : Nat
  most : Nat
deriving DecidableEq

namespace Span

/-- Lengths are counted up to here. -/
def ceiling : Nat := 0x10000000000000000

/-- Lengths past the ceiling are the ceiling. -/
def cap (s : Span) : Span := ⟨min s.least ceiling, min s.most ceiling⟩

/-- One after the other. -/
def add (s t : Span) : Span := ⟨s.least + t.least, s.most + t.most⟩

/-- Either of two. -/
def or (s t : Span) : Span := ⟨min s.least t.least, max s.most t.most⟩

end Span

/-- One item of a pattern. A back-reference carries the span of its group; `most` is `none` for a
repeat without an upper limit. -/
inductive Tree where
  | literal (code : Nat)
  | notLiteral (code : Nat)
  | any
  | set (negated : Bool) (members : List Member)
  | anchor (anchor : Anchor)
  | backReference (group : Nat) (span : Span)
  | branch (alternatives : List (List Tree))
  | group (number : Option Nat) (added removed : Flags) (body : List Tree)
  | atomic (body : List Tree)
  | repeated (greed : Greed) (least : Nat) (most : Option Nat) (body : List Tree)
  | look (ahead : Bool) (positive : Bool) (body : List Tree)
  | conditional (group : Nat) (present absent : List Tree)

namespace Tree

mutual

/-- The span of an item. -/
def span : Tree → Span
  | .literal _ | .notLiteral _ | .any | .set _ _ => ⟨1, 1⟩
  | .anchor _ | .look _ _ _ => ⟨0, 0⟩
  | .backReference _ span => span
  | .branch alternatives => spanOfAny alternatives
  | .group _ _ _ body => spanOfAll body
  | .atomic body => spanOfAll body
  | .repeated _ least most body =>
    let inner := spanOfAll body
    ⟨inner.least * least,
      match most with
      | some most => inner.most * most
      | none => if inner.most = 0 then 0 else Span.ceiling⟩
  | .conditional _ present absent => (spanOfAll present).or (spanOfAll absent)

/-- The span of items one after another. -/
def spanOfAll (items : List Tree) : Span := (spanOfSum items).cap

/-- The sum of the spans of items. -/
def spanOfSum : List Tree → Span
  | [] => ⟨0, 0⟩
  | item :: rest => (span item).add (spanOfSum rest)

/-- The span of whichever of some alternatives is taken. -/
def spanOfAny : List (List Tree) → Span
  | [] => ⟨Span.ceiling, 0⟩
  | items :: rest => (spanOfAll items).or (spanOfAny rest)

end

/-- Two items that are the same at sight: no groups, repeats or assertions. -/
def sameLeaf : Tree → Tree → Bool
  | .literal a, .literal b => a == b
  | .notLiteral a, .notLiteral b => a == b
  | .any, .any => true
  | .set m a, .set n b => m == n && a == b
  | .anchor a, .anchor b => a == b
  | .backReference a _, .backReference b _ => a == b
  | _, _ => false

end Tree

/-- A pattern that has been read. -/
structure Program where
  items : List Tree
  flags : Flags

end TreePredicate.Pattern
