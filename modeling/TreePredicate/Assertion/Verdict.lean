import TreePredicate.Assertion
import TreePredicate.Notation.Print

/-!
# What an assertion comes to

An assertion passes, fails with a message, or raises the fault that the check came to. The message
shows the predicate and the value, and both are written here step by step, with every step that could
fail: a predicate that has no canonical form, and an integer with more digits than are written at all.

* `Value.print` : a tree, as `Value.shown` shows it;
* `AssertionFault.print` : the message of an assertion that fails;
* `Verdict`, `Verdict.of` : what an assertion comes to, also if its message cannot be written;
* `Store.assert`, `Asserter.judge` : an assertion with the predicate of a text, which is read through
  a store or through the cache of an asserter.
-/

set_option autoImplicit false

namespace TreePredicate

namespace Value

open Notation

mutual

/-- Writes a tree as its plain value is shown in messages. -/
def print : Node → Except PrintFault String
  | .compound entries => do
    let entries ← printEntries entries
    return "\x7b" ++ ", ".intercalate entries ++ "\x7d"
  | .list items => do
    let items ← printItems items
    return "[" ++ ", ".intercalate items ++ "]"
  | .number quantity => printNumber quantity.value
  | .text value => .ok (Text.shown value)

/-- Writes named nodes. -/
def printEntries : List (String × Node) → Except PrintFault (List String)
  | [] => .ok []
  | (name, node) :: rest => do
    let value ← print node
    let others ← printEntries rest
    return (Text.shown name ++ ": " ++ value) :: others

/-- Writes nodes. -/
def printItems : List Node → Except PrintFault (List String)
  | [] => .ok []
  | node :: rest => do
    let value ← print node
    let others ← printItems rest
    return value :: others

end

end Value

/-- Writes what is said of an assertion that fails. -/
def AssertionFault.print : AssertionFault → Except Notation.PrintFault String
  | .check cause => .ok cause.message
  | .mismatch p tree => do
    let predicate ← Notation.print p
    let value ← Value.print tree
    return "Value does not match predicate\n  predicate: " ++ predicate ++
      "\n  value:     " ++ value

/-- What an assertion comes to. -/
inductive Verdict where
  | passes
  | fails (message : String)
  | raises (cause : CheckFault)
  | unwritten (cause : Notation.PrintFault)

/-- What an assertion comes to, once the message of a mismatch is written. -/
def Verdict.of : Except AssertionFault Unit → Verdict
  | .ok () => .passes
  | .error (.check cause) => .raises cause
  | .error (.mismatch p tree) =>
    match (AssertionFault.mismatch p tree).print with
    | .ok message => .fails message
    | .error cause => .unwritten cause

/-- What the assertion of a value comes to, with a predicate that is read through a store, and the
store afterwards. -/
def Store.assert {σ : Type} (store : Store σ Predicate) (s : σ) (source : String) (value : Value) :
    Verdict × σ :=
  match store.parse s source with
  | (.ok p, s) => (.of (p.assert value), s)
  | (.error cause, s) => (.raises (.text source cause), s)

/-- What the assertion of a value comes to, and the asserter for the assertions to come. -/
def Asserter.judge (asserter : Asserter) (source : String) (value : Value) : Verdict × Asserter :=
  let (result, asserter) := asserter.assert source value
  (.of result, asserter)

end TreePredicate
