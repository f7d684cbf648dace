import TreePredicate.Pattern.Matcher
import TreePredicate.Pattern.Reader
import TreePredicate.Pattern.Room

/-!
# Patterns

* `Pattern` : a regular expression that has been read, with its source;
* `Pattern.compile` : reads a regular expression;
* `Pattern.compileAt` : reads one at a place of a text, if there is room for it;
* `Pattern.accepts` : the pattern matches a whole text;
* `Pattern.draw` : a text drawn for the pattern, which need not match.

Two patterns are equal if their sources are, since the source determines the program.
-/

set_option autoImplicit false

namespace TreePredicate

/-- A regular expression that has been read. -/
structure Pattern where
  source : String
  program : Pattern.Program
  reads : Pattern.read source.toList = .ok program

namespace Pattern

/-- Reads a regular expression. -/
def compile (source : String) : Except Fault Pattern :=
  match reads : read source.toList with
  | .ok program => .ok ⟨source, program, reads⟩
  | .error fault => .error fault

/-- Reads a regular expression that stands at an offset of a text, if there is room for it. -/
def compileAt [Room] (source : String) (offset : Nat) : Except Fault Pattern :=
  if Room.reads source offset then compile source else .error .tooDeep

/-- The pattern matches a whole text. -/
def accepts (pattern : Pattern) (text : String) : Bool :=
  fullMatch pattern.program text.toList

/-- A text drawn for the pattern. -/
def draw (pattern : Pattern) (dice : Dice) : Except Refusal String × Dice :=
  let (drawn, dice) := drawText pattern.program dice
  (drawn.map String.ofList, dice)

/-- The source determines the pattern. -/
theorem eq_of_source_eq {p q : Pattern} (h : p.source = q.source) : p = q := by
  obtain ⟨source, program, reads⟩ := p
  obtain ⟨_, program', reads'⟩ := q
  cases h
  have : program = program' := by
    rw [reads] at reads'
    cases reads'
    rfl
  subst this
  rfl

instance : DecidableEq Pattern := fun p q =>
  if h : p.source = q.source then isTrue (eq_of_source_eq h)
  else isFalse fun e => h (e ▸ rfl)

end Pattern

end TreePredicate
