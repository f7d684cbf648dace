import TreePredicate.Notation.Grammar
import TreePredicate.Proofs.Draft.Meaning

/-!
# Paths and nested groups

A path is followed step by step and a predicate is taken apart by recursion, so the rest of a path may
as well be written as groups and index groups around the predicate, each with one field. Neither the
draft nor a conflict shows which of the two was written, and so no call that comes later does.

* `Predicate.wrap` : a predicate inside one group for each key of a path and one index group for each
  position;
* `follow_eq_place_wrap`, `follow_append` : following a path is placing such a predicate, by induction
  on the rest of the path, and then by induction on what comes before it;
* `Draft.attempt`, `Draft.attempts` : calls one after another, also behind one that fails;
* `Call.Renested`, `attempt_renested` : calls that differ in how much of a path is nested;
* `attempts_renested` : so any calls may be written either way.
-/

set_option autoImplicit false

namespace TreePredicate

/-- A predicate inside groups, one for each key of a path, and index groups, one for each position. -/
def Predicate.wrap (p : Predicate) : Path → Predicate
  | [] => p
  | .key key :: rest => .group [(key, p.wrap rest)] []
  | .index position :: rest => .indexGroup [(position, p.wrap rest)]

namespace Draft

/-! ## One field -/

theorem negateAll_nil (draft : Draft) : negateAll [] draft = draft := by
  cases draft with
  | group members earlier => rw [negateAll, List.append_nil]
  | _ => rfl

theorem placeFields_singleton (key : String) (p : Predicate) (draft : Draft) (path : Path) :
    placeFields [(key, p)] draft path = place p draft (.key key) (path ++ [.key key]) := by
  rw [placeFields]
  cases place p draft (.key key) (path ++ [.key key]) with
  | mk after conflict? => cases conflict? <;> rfl

theorem placeItems_singleton (position : Int) (p : Predicate) (draft : Draft) (path : Path) :
    placeItems [(position, p)] draft path =
      place p draft (.index position) (path ++ [.index position]) := by
  rw [placeItems]
  cases place p draft (.index position) (path ++ [.index position]) with
  | mk after conflict? => cases conflict? <;> rfl

/-- Following a path is placing its rest, written as nested groups, at its first step. -/
theorem follow_eq_place_wrap (p : Predicate) (draft : Draft) (before : Path) (step : Segment)
    (rest : Path) :
    follow p draft before (step :: rest) = place (p.wrap rest) draft step (before ++ [step]) := by
  induction rest generalizing draft before step with
  | nil => rw [follow, Predicate.wrap]
  | cons next rest ih =>
    -- the step behind `step` decides which kind of group both of them enter
    rw [follow]
    cases next with
    | key key =>
      rw [Predicate.wrap, place, Segment.isIndex]
      cases draft.enter step false with
      | error clash => rfl
      | ok inner =>
        dsimp only
        rw [ih, placeFields_singleton]
        cases place (p.wrap rest) inner (.key key) (before ++ [step] ++ [.key key]) with
        | mk after conflict? =>
          cases conflict? with
          | some conflict => rfl
          | none =>
            dsimp only
            rw [negateAll_nil]
    | index position =>
      rw [Predicate.wrap, place, Segment.isIndex]
      cases draft.enter step true with
      | error clash => rfl
      | ok inner =>
        dsimp only
        rw [ih, placeItems_singleton]

/-- The end of a path may be written as nested groups, wherever it begins. -/
theorem follow_append (p : Predicate) (draft : Draft) (before : Path) (step : Segment)
    (pre post : Path) :
    follow p draft before (step :: (pre ++ post)) =
      follow (p.wrap post) draft before (step :: pre) := by
  induction pre generalizing draft before step with
  | nil => rw [List.nil_append, follow_eq_place_wrap, follow]
  | cons next rest ih =>
    rw [List.cons_append, follow, follow]
    simp only [ih]

/-! ## Calls that may fail -/

/-- The draft after a call, and the failure with what is noted of the place of the call, if it
fails. -/
def attempt (draft : Draft) (call : Call) (offset : Nat) : Draft × Option Notation.Failure :=
  match call with
  | .add path p =>
    let (after, conflict?) := draft.add path p
    (after, conflict?.map fun conflict => .ambiguous conflict offset)
  | .negate path p => (draft.negate path p, none)

/-- The draft after calls, whichever of them fail, and the failure of each. -/
def attempts (draft : Draft) : List (Call × Nat) → Draft × List (Option Notation.Failure)
  | [] => (draft, [])
  | (call, offset) :: rest =>
    let (next, failure?) := draft.attempt call offset
    let (last, failures) := next.attempts rest
    (last, failure? :: failures)

/-- Two calls that differ in how much of a path is written as nested groups. -/
inductive Call.Renested : Call → Call → Prop
  | nested (step : Segment) (pre post : Path) (p : Predicate) :
      Renested (.add (step :: (pre ++ post)) p) (.add (step :: pre) (p.wrap post))
  | refl (c : Call) : Renested c c
  | symm {c d : Call} : Renested c d → Renested d c
  | trans {c d e : Call} : Renested c d → Renested d e → Renested c e

/-- Such calls lead to one draft and fail alike. -/
theorem attempt_renested {c d : Call} (h : c.Renested d) (draft : Draft) (offset : Nat) :
    draft.attempt c offset = draft.attempt d offset := by
  induction h with
  | nested step pre post p => rw [attempt, attempt, add, add, follow_append]
  | refl => rfl
  | symm _ ih => exact ih.symm
  | trans _ _ ih ih' => exact ih.trans ih'

/-- Two calls at the same place that differ in how much of a path is nested. -/
def RenestedAt (c d : Call × Nat) : Prop := c.1.Renested d.1 ∧ c.2 = d.2

/-- So do any number of calls, one after another. -/
theorem attempts_renested {calls others : List (Call × Nat)}
    (h : List.Forall₂ RenestedAt calls others) (draft : Draft) :
    draft.attempts calls = draft.attempts others := by
  induction h generalizing draft with
  | nil => rfl
  | @cons c d _ _ hcall _ ih =>
    obtain ⟨c, offset⟩ := c
    obtain ⟨d, offset'⟩ := d
    obtain ⟨hrenested, rfl⟩ := hcall
    rw [attempts, attempts, attempt_renested hrenested]
    simp only [ih]

/-- The end of a path may be written as nested groups, one for each key and each position, in any
calls, also if some of them fail: a field leads to the same draft, with its members in the same order,
or to the same conflict at the same path and place and with what had been added before it. The fields
of a text are added alike, and any calls one after another, written either way, leave the same draft
and fail alike. -/
theorem attempt_wrap :
    (∀ (calls : List (Call × Nat)) (step : Segment) (pre post : Path) (p : Predicate) (offset : Nat),
      (empty.attempts calls).1.attempt (.add (step :: (pre ++ post)) p) offset =
        (empty.attempts calls).1.attempt (.add (step :: pre) (p.wrap post)) offset) ∧
    (∀ (draft : Draft) (step : Segment) (pre post : Path) (p : Predicate),
      draft.add (step :: (pre ++ post)) p = draft.add (step :: pre) (p.wrap post) ∧
      ∀ offset, Notation.addField draft false (step :: (pre ++ post)) p offset =
        Notation.addField draft false (step :: pre) (p.wrap post) offset) ∧
    ∀ (draft : Draft) (calls others : List (Call × Nat)), List.Forall₂ RenestedAt calls others →
      draft.attempts calls = draft.attempts others := by
  have hadd : ∀ (draft : Draft) (step : Segment) (pre post : Path) (p : Predicate),
      draft.add (step :: (pre ++ post)) p = draft.add (step :: pre) (p.wrap post) :=
    fun draft step pre post p => follow_append p draft [] step pre post
  refine ⟨fun calls step pre post p offset => attempt_renested (.nested step pre post p) _ _, ?_,
    fun draft calls others h => attempts_renested h draft⟩
  refine fun draft step pre post p => ⟨hadd draft step pre post p, fun offset => ?_⟩
  rw [Notation.addField, Notation.addField, hadd]
  rfl

/-- A field that is in conflict with an earlier one, and one that is not, with paths. -/
def lockedCalls : List (Call × Nat) :=
  [(.add [.key "lid", .key "lock"] (.text "oak"), 1),
   (.add [.key "lid", .key "lock", .index 0, .key "pin"] (.text "map"), 8),
   (.add [.key "slots", .index (-1), .key "id"] (.text "key"), 20)]

/-- The same fields, nested. -/
def lockedCallsNested : List (Call × Nat) :=
  [(.add [.key "lid"] (.group [("lock", .text "oak")] []), 1),
   (.add [.key "lid", .key "lock"] (.indexGroup [(0, .group [("pin", .text "map")] [])]), 8),
   (.add [.key "slots"] (.indexGroup [(-1, .group [("id", .text "key")] [])]), 20)]

theorem attempt_wrap_locked :
    (empty.attempts lockedCalls).2 =
      [none, some (.ambiguous ⟨[.key "lid", .key "lock"], .memberOfFinished⟩ 8), none] ∧
    empty.attempts lockedCalls = empty.attempts lockedCallsNested := by
  refine ⟨by rfl, attempt_wrap.2.2 empty lockedCalls lockedCallsNested ?_⟩
  refine .cons ⟨.nested (.key "lid") [] [.key "lock"] (.text "oak"), rfl⟩ (.cons ⟨?_, rfl⟩
    (.cons ⟨?_, rfl⟩ .nil))
  · exact .nested (.key "lid") [.key "lock"] [.index 0, .key "pin"] (.text "map")
  · exact .nested (.key "slots") [] [.index (-1), .key "id"] (.text "key")

end Draft

end TreePredicate
