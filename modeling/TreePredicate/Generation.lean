import TreePredicate.Generation.Sketch
import TreePredicate.Generation.Slots
import TreePredicate.Interval.Candidate
import TreePredicate.Notation.Print
import TreePredicate.Predicate.Holds

/-!
# Trees made to satisfy predicates

* `Predicate.generate` : a tree for a predicate, or why none was made. It is as small as the
  predicate allows, its numbers are chosen by `Interval.choose?` and its lists sized by
  `Slots.size`;
* `TextSupply` : where the texts for patterns come from. It may give any text, which is tested, and
  it may give none, for a reason or by an error that nobody takes for one;
* `Settings`, `Settings.supply` : a supply that draws texts with a seeded source of choices;
* `generate` : a tree for a predicate under some settings.

The parts of a predicate are taken in the order in which they stand, and the first failure is the
failure of the whole. Only a list that asks for any of its elements goes on to the next element, and
only if the failure was that of an unsatisfiable element. A generation can also break off, by an
overflow, by an error of its supply, or because an interval that is refused has too many digits to be
written out; then it ends there. Negated fields have no part in the making; a tree that breaks one of
them is given up.
-/

set_option autoImplicit false

namespace TreePredicate

/-- Why no tree was made. -/
inductive Unsatisfiable where
  | emptyInterval (interval : Interval)
  | noNumber (interval : Interval)
  | violated (path : Path)
  | noElement
  | undrawable (source reason : String)
  | noMatch (source : String) (attempts : Nat)
deriving DecidableEq

namespace Unsatisfiable

/-- What is said where no tree was made. -/
def message : Unsatisfiable → String
  | .emptyInterval interval => "Numeric interval is empty: " ++ interval.text
  | .noNumber interval =>
    "No " ++ (interval.width?.map Width.name).getD "number" ++ " value found in interval " ++
      interval.text
  | .violated path =>
    "Generated value at " ++ Text.shown (Notation.pathText path) ++
      " violates its negated constraint"
  | .noElement => "No element of the '~' list can be generated"
  | .undrawable source reason =>
    "Cannot generate strings for regex " ++ Text.shown source ++ ": " ++ reason
  | .noMatch source attempts =>
    "No string matching " ++ Text.shown source ++ " found in " ++ toString attempts ++ " attempts"

end Unsatisfiable

/-- An error of a drawing that nobody takes for a reason. -/
inductive Escape where
  | emptyChoice
  | tooDeep
  | other (message : String)
deriving DecidableEq

/-- What is said of an error of a drawing. -/
def Escape.message : Escape → String
  | .emptyChoice => Pattern.Refusal.emptySet.message
  | .tooDeep => Pattern.Fault.tooDeepMessage
  | .other message => message

/-- Why no text is drawn. -/
inductive DrawFault where
  | refused (reason : String)
  | escaped (error : Escape)
deriving DecidableEq

/-- Why a generation breaks off. -/
inductive Breakdown where
  | overflow (cause : Overflow)
  | unwritable
  | drawing (error : Escape)
deriving DecidableEq

/-- What is said of a generation that breaks off. -/
def Breakdown.message : Breakdown → String
  | .overflow cause => cause.message
  | .unwritable => Notation.PrintFault.tooManyDigits.message
  | .drawing error => error.message

/-- Why a generation ends without a tree. -/
inductive GenerationFault where
  | unsatisfiable (cause : Unsatisfiable)
  | broken (cause : Breakdown)
deriving DecidableEq

/-- What is said of a generation that ends without a tree. -/
def GenerationFault.message : GenerationFault → String
  | .unsatisfiable cause => cause.message
  | .broken cause => cause.message

/-- A number has no more digits than are written. -/
def Number.isWritten (value : Number) : Bool := (Notation.printNumber value).isOk

/-- An interval can be written out. -/
def Interval.isWritten (i : Interval) : Bool := i.low.isWritten && i.high.isWritten

/-- Where texts for patterns come from, and how many are tried before a pattern is given up. -/
structure TextSupply (σ : Type) where
  draw : Pattern → σ → Except DrawFault String × σ
  attempts : Nat

/-- A generation; what texts were drawn before counts also after a failure. -/
abbrev Generation (σ α : Type) := ExceptT GenerationFault (StateM σ) α

namespace Generation

variable {σ α β : Type}

/-- No tree can be made. -/
def unsatisfiable (cause : Unsatisfiable) : Generation σ α := throw (.unsatisfiable cause)

/-- A generation breaks off. -/
def breakOff (cause : Breakdown) : Generation σ α := throw (.broken cause)

/-- An interval is given up, which is written out to say so. -/
def giveUp (interval : Interval) (cause : Unsatisfiable) : Generation σ α :=
  if interval.isWritten then unsatisfiable cause else breakOff .unwritable

/-- Another generation in place of one that turns out to be unsatisfiable. -/
def orElse (first second : Generation σ α) : Generation σ α :=
  tryCatch first fun fault =>
    match fault with
    | .unsatisfiable _ => second
    | .broken _ => throw fault

/-- A text of a supply. -/
def text (supply : TextSupply σ) (pattern : Pattern) : Generation σ String := do
  let drawn ← modifyGet (supply.draw pattern)
  match drawn with
  | .ok text => return text
  | .error (.refused reason) => unsatisfiable (.undrawable pattern.source reason)
  | .error (.escaped error) => breakOff (.drawing error)

/-- The first text that a pattern accepts, among so many. -/
def acceptedText (supply : TextSupply σ) (pattern : Pattern) : Nat → Generation σ String
  | 0 => unsatisfiable (.noMatch pattern.source supply.attempts)
  | n + 1 => do
    let text ← text supply pattern
    if pattern.accepts text then return text else acceptedText supply pattern n

/-- A quantity inside an interval. -/
def quantity (interval : Interval) : Generation σ Quantity :=
  if interval.isEmpty then giveUp interval (.emptyInterval interval)
  else
    match interval.choose? with
    | .ok (some quantity) => return quantity
    | .ok none => giveUp interval (.noNumber interval)
    | .error cause => breakOff (.overflow cause)

/-- The path of the first negated field that a tree breaks. -/
def firstViolated? (tree : Node) (negated : List (Path × Predicate)) : Option Path :=
  (negated.find? fun (path, p) => ((tree.resolve? path).map p.holds).getD false).map Prod.fst

end Generation

namespace Predicate

open Generation

variable {σ : Type}

mutual

/-- A tree for a predicate. -/
def generate (supply : TextSupply σ) : Predicate → Generation σ Sketch
  | .group fields negated => do
    let entries ← generateFields supply fields
    let sketch := Sketch.compound entries
    match firstViolated? sketch.toNode negated with
    | none => return sketch
    | some path => unsatisfiable (.violated path)
  | .indexGroup fields => do
    let items ← generateItems supply fields
    let size := Slots.size (items.map Prod.fst)
    return .list (Slots.fill (Slots.arrange size items))
  | .number test => do
    let quantity ← quantity (Interval.ofTest test)
    return .number quantity
  | .text value => return .text value
  | .pattern p => do
    let text ← acceptedText supply p supply.attempts
    return .drawn p text
  | .list quantifier elements =>
    match quantifier with
    | .subset => return .list []
    | .any => do
      let items ← generateAny supply elements
      return .list items
    | _ => do
      let items ← generateElements supply elements
      return .list items

/-- Trees for the fields of a group. -/
def generateFields (supply : TextSupply σ) :
    List (String × Predicate) → Generation σ (List (String × Sketch))
  | [] => return []
  | (name, p) :: rest => do
    let sketch ← generate supply p
    let others ← generateFields supply rest
    return (name, sketch) :: others

/-- Trees for the fields of an index group. -/
def generateItems (supply : TextSupply σ) :
    List (Int × Predicate) → Generation σ (List (Int × Sketch))
  | [] => return []
  | (position, p) :: rest => do
    let sketch ← generate supply p
    let others ← generateItems supply rest
    return (position, sketch) :: others

/-- Trees for all elements of a list predicate. -/
def generateElements (supply : TextSupply σ) : List Predicate → Generation σ (List Sketch)
  | [] => return []
  | p :: rest => do
    let sketch ← generate supply p
    let others ← generateElements supply rest
    return sketch :: others

/-- A tree for the first element that can be satisfied, and none where there is no element. -/
def generateAny (supply : TextSupply σ) : List Predicate → Generation σ (List Sketch)
  | [] => return []
  | p :: rest =>
    orElse
      (do
        let sketch ← generate supply p
        return [sketch])
      (match rest with
        | [] => unsatisfiable .noElement
        | next :: others => generateAny supply (next :: others))

end

end Predicate

/-! ## Settings -/

/-- A seed for the choices of texts, if they are to be the same every time, and how many texts are
tried for a pattern. -/
structure Settings where
  seed? : Option Int := some 0
  attempts : Nat := 16
  attempts_pos : 0 < attempts := by decide

namespace Settings

/-- A number of attempts that is not positive. -/
structure Fault where
  attempts : Int
deriving DecidableEq

/-- What is said of a number of attempts that is not positive. -/
def Fault.message (e : Fault) : String :=
  "regex_attempts must be >= 1, got " ++ toString e.attempts

theorem toNat_pos {attempts : Int} (positive : 0 < attempts) : 0 < attempts.toNat :=
  Int.pos_iff_toNat_pos.mp positive

/-- Settings with a given number of attempts. -/
def make (seed? : Option Int) (attempts : Int) : Except Fault Settings :=
  if positive : 0 < attempts then .ok ⟨seed?, attempts.toNat, toNat_pos positive⟩
  else .error ⟨attempts⟩

/-- The source of choices with which a generation starts. -/
def dice (settings : Settings) : Pattern.Dice := .ofSeed (settings.seed?.getD 0)

/-- What becomes of a pattern for which nothing can be drawn. A choice from an empty set is the one
error that is not taken for a reason. -/
def drawFault : Pattern.Refusal → DrawFault
  | .emptySet => .escaped .emptyChoice
  | refusal => .refused refusal.message

/-- The supply that draws texts for patterns, as far as there is room for it. -/
def supply [Room] (settings : Settings) : TextSupply Pattern.Dice where
  draw pattern dice :=
    if Room.draws pattern.source dice then
      let (drawn, dice) := pattern.draw dice
      (drawn.mapError drawFault, dice)
    else (.error (.escaped .tooDeep), dice)
  attempts := settings.attempts

end Settings

/-- A tree for a predicate under some settings. -/
def generate [Room] (p : Predicate) (settings : Settings := {}) : Except GenerationFault Sketch :=
  ((p.generate settings.supply).run settings.dice).1

end TreePredicate
