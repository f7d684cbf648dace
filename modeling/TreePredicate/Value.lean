import TreePredicate.Node

/-!
# Plain values

A plain value is what a caller hands over: nested lists, records, texts, numbers and flags, and
among them finished nodes.

* `Value.toNode` : the tree of a value. Flags become bytes, tuples lists; a finished node is taken
  as it is;
* `Value.ofNode` : the plain value of a tree, without the widths;
* `Value.shown` : a plain value as it is shown in messages.
-/

set_option autoImplicit false

namespace TreePredicate

/-- A plain value. The keys of a record are names; a position among them is refused when the tree is
made. -/
inductive Value where
  | nothing
  | flag (value : Bool)
  | text (value : String)
  | number (value : Number)
  | list (items : List Value)
  | tuple (items : List Value)
  | record (entries : List (Segment × Value))
  | finished (tree : Node)

namespace Value

/-- Why a plain value has no tree. -/
inductive Refusal where
  | noValue
  | positionAsKey
  | outOfRange (cause : Width.OutOfRange)
deriving DecidableEq

/-- What is said of a refused value. -/
def Refusal.message : Refusal → String
  | .noValue => "Unsupported value type: <class 'NoneType'>"
  | .positionAsKey => "Compound keys must be str, got <class 'int'>"
  | .outOfRange cause => cause.message

/-- The quantity of a plain number. -/
def quantity (width? : Option Width) (value : Number) : Except Refusal Quantity :=
  (Quantity.ofNumber width? value).mapError .outOfRange

mutual

/-- The tree of a plain value, or the first refusal met. -/
def toNode : Value → Except Refusal Node
  | .nothing => .error .noValue
  | .flag value => do
    let quantity ← quantity (some .byte) (.int (if value then 1 else 0))
    return .number quantity
  | .text value => .ok (.text value)
  | .number value => do
    let quantity ← quantity none value
    return .number quantity
  | .list items => do
    let nodes ← itemNodes items
    return .list nodes
  | .tuple items => do
    let nodes ← itemNodes items
    return .list nodes
  | .record entries => do
    let nodes ← entryNodes entries
    return .ofEntries nodes
  | .finished tree => .ok tree

/-- The trees of values, in order. -/
def itemNodes : List Value → Except Refusal (List Node)
  | [] => .ok []
  | value :: rest => do
    let node ← toNode value
    let nodes ← itemNodes rest
    return node :: nodes

/-- The trees of named values, in order. -/
def entryNodes : List (Segment × Value) → Except Refusal (List (String × Node))
  | [] => .ok []
  | (.index _, _) :: _ => .error .positionAsKey
  | (.key name, value) :: rest => do
    let node ← toNode value
    let nodes ← entryNodes rest
    return (name, node) :: nodes

end

mutual

/-- The plain value of a tree. -/
def ofNode : Node → Value
  | .compound entries => .record (ofEntries entries)
  | .list items => .list (ofItems items)
  | .number quantity => .number quantity.value
  | .text value => .text value

/-- The plain values of named nodes. -/
def ofEntries : List (String × Node) → List (Segment × Value)
  | [] => []
  | (name, node) :: rest => (.key name, ofNode node) :: ofEntries rest

/-- The plain values of nodes. -/
def ofItems : List Node → List Value
  | [] => []
  | node :: rest => ofNode node :: ofItems rest

end

mutual

/-- A tree as its plain value is shown in messages. -/
def shown : Node → String
  | .compound entries => "\x7b" ++ ", ".intercalate (shownEntries entries) ++ "\x7d"
  | .list items => "[" ++ ", ".intercalate (shownItems items) ++ "]"
  | .number quantity => quantity.value.text
  | .text value => Text.shown value

/-- Named nodes as they are shown. -/
def shownEntries : List (String × Node) → List String
  | [] => []
  | (name, node) :: rest => (Text.shown name ++ ": " ++ shown node) :: shownEntries rest

/-- Nodes as they are shown. -/
def shownItems : List Node → List String
  | [] => []
  | node :: rest => shown node :: shownItems rest

end

end Value

end TreePredicate
