import TreePredicate.Predicate

/-!
# Drafts of groups

A draft is a group in the making. Fields come one after another, each with a path, and fields that
share the beginning of their paths share the groups along it. A field that is itself a group, or an
index group, is taken apart and its own fields are added one by one.

* `Draft` : a finished predicate, or a group or index group in the making;
* `Draft.add` : adds a field. A field in conflict with an earlier one leaves what had been added of
  it before the conflict;
* `Draft.negate` : adds a negated field;
* `Draft.build` : the group as it stands.

A path is followed step by step (`Draft.follow`), a predicate is taken apart by recursion
(`Draft.place`), and both go into a member the same way (`Draft.enter`).
-/

set_option autoImplicit false

namespace TreePredicate

/-- A predicate in the making: finished, or a group or an index group with the members so far. -/
inductive Draft where
  | finished (p : Predicate)
  | group (members : List (String × Draft)) (negated : List (Path × Predicate))
  | indexGroup (members : List (Int × Draft))

/-- Why two fields cannot stand together. -/
inductive Clash where
  | memberOfFinished
  | groupAndIndexGroup
  | finishedGroup
  | twice
deriving DecidableEq

/-- What is said of two fields that cannot stand together. -/
def Clash.message : Clash → String
  | .memberOfFinished => "a constrained leaf cannot have children"
  | .groupAndIndexGroup => "used both as a compound and as a list"
  | .finishedGroup => "a parent path cannot also be a leaf"
  | .twice => "constrained more than once"

/-- A clash and the path at which it was found. -/
structure Conflict where
  path : Path
  clash : Clash
deriving DecidableEq

namespace Segment

/-- A step into a list. -/
def isIndex : Segment → Bool
  | .index _ => true
  | .key _ => false

end Segment

namespace Draft

/-- A group without members. -/
def empty : Draft := .group [] []

/-- A group, or an index group, without members. -/
def container (isIndexGroup : Bool) : Draft := if isIndexGroup then .indexGroup [] else .group [] []

/-- The member at a step. -/
def member? : Draft → Segment → Option Draft
  | .group members _, .key key => Table.find? key members
  | .indexGroup members, .index position => Table.find? position members
  | _, _ => none

/-- Puts a member at a step. A step of the wrong kind leads nowhere, and the member is dropped; no
path of a field takes such a step, since it starts with a key (see `Draft.add`). -/
def put (member : Draft) : Draft → Segment → Draft
  | .group members negated, .key key => .group (Table.insert key member members) negated
  | .indexGroup members, .index position => .indexGroup (Table.insert position member members)
  | draft, _ => draft

/-- The group, or index group, at a step; a new one if there is none yet. -/
def enter (draft : Draft) (step : Segment) (isIndexGroup : Bool) : Except Clash Draft :=
  match draft.member? step with
  | none => .ok (container isIndexGroup)
  | some (.finished _) => .error .memberOfFinished
  | some (.group members negated) =>
    if isIndexGroup then .error .groupAndIndexGroup else .ok (.group members negated)
  | some (.indexGroup members) =>
    if isIndexGroup then .ok (.indexGroup members) else .error .groupAndIndexGroup

/-- Puts a finished predicate at a step where nothing is yet. -/
def finish (draft : Draft) (step : Segment) (p : Predicate) : Except Clash Draft :=
  match draft.member? step with
  | none => .ok (put (.finished p) draft step)
  | some (.finished _) => .error .twice
  | some _ => .error .finishedGroup

/-- Adds negated fields to a group. -/
def negateAll (negated : List (Path × Predicate)) : Draft → Draft
  | .group members earlier => .group members (earlier ++ negated)
  | draft => draft

/-- Adds a predicate that is no group at a step. -/
def placeFinished (p : Predicate) (draft : Draft) (step : Segment) (path : Path) :
    Draft × Option Conflict :=
  match draft.finish step p with
  | .error clash => (draft, some ⟨path, clash⟩)
  | .ok draft => (draft, none)

mutual

/-- Adds a predicate at a step; `path` leads to the step. A group is added field by field. -/
def place : Predicate → Draft → Segment → Path → Draft × Option Conflict
  | .group fields negated, draft, step, path =>
    match draft.enter step false with
    | .error clash => (draft, some ⟨path, clash⟩)
    | .ok inner =>
      match placeFields fields inner path with
      | (inner, some conflict) => (put inner draft step, some conflict)
      | (inner, none) => (put (negateAll negated inner) draft step, none)
  | .indexGroup fields, draft, step, path =>
    match draft.enter step true with
    | .error clash => (draft, some ⟨path, clash⟩)
    | .ok inner =>
      let (inner, conflict?) := placeItems fields inner path
      (put inner draft step, conflict?)
  | .number test, draft, step, path => placeFinished (.number test) draft step path
  | .text value, draft, step, path => placeFinished (.text value) draft step path
  | .pattern p, draft, step, path => placeFinished (.pattern p) draft step path
  | .list quantifier elements, draft, step, path =>
    placeFinished (.list quantifier elements) draft step path

/-- Adds the fields of a group, up to the first conflict. -/
def placeFields : List (String × Predicate) → Draft → Path → Draft × Option Conflict
  | [], draft, _ => (draft, none)
  | (key, p) :: rest, draft, path =>
    match place p draft (.key key) (path ++ [.key key]) with
    | (draft, some conflict) => (draft, some conflict)
    | (draft, none) => placeFields rest draft path

/-- Adds the fields of an index group, up to the first conflict. -/
def placeItems : List (Int × Predicate) → Draft → Path → Draft × Option Conflict
  | [], draft, _ => (draft, none)
  | (position, p) :: rest, draft, path =>
    match place p draft (.index position) (path ++ [.index position]) with
    | (draft, some conflict) => (draft, some conflict)
    | (draft, none) => placeItems rest draft path

end

/-- Adds a predicate at the end of a path, of which `before` has been followed. -/
def follow (p : Predicate) : Draft → Path → Path → Draft × Option Conflict
  | draft, _, [] => (draft, none)
  | draft, before, [step] => place p draft step (before ++ [step])
  | draft, before, step :: next :: rest =>
    match draft.enter step next.isIndex with
    | .error clash => (draft, some ⟨before ++ [step], clash⟩)
    | .ok inner =>
      let (inner, conflict?) := follow p inner (before ++ [step]) (next :: rest)
      (put inner draft step, conflict?)

/-- Adds a field; with a conflict if it cannot stand with the earlier ones. The path starts with a
key, as all paths of the notation do: a group has no members with numbers, so of a path that starts
with an index nothing is kept. -/
def add (draft : Draft) (path : Path) (p : Predicate) : Draft × Option Conflict :=
  follow p draft [] path

/-- Adds a negated field. -/
def negate (draft : Draft) (path : Path) (p : Predicate) : Draft := negateAll [(path, p)] draft

mutual

/-- The predicate as it stands. -/
def build : Draft → Predicate
  | .finished p => p
  | .group members negated => .group (buildMembers members) negated
  | .indexGroup members => .indexGroup (buildItems members)

/-- The named members as they stand. -/
def buildMembers : List (String × Draft) → List (String × Predicate)
  | [] => []
  | (key, draft) :: rest => (key, build draft) :: buildMembers rest

/-- The numbered members as they stand. -/
def buildItems : List (Int × Draft) → List (Int × Predicate)
  | [] => []
  | (position, draft) :: rest => (position, build draft) :: buildItems rest

end

end Draft

end TreePredicate
