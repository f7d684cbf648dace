import TreePredicate.Proofs.Draft.Rebuild

/-!
# What stands at the end of a path in a draft

* `Draft.at?` : the member at the end of a path;
* `Draft.view?` : whether it is a group, an index group, or which finished predicate it is;
* `Draft.negatedAt` : its negated fields;
* `view?_put`, `view?_put_of_ne` : a changed member is seen behind its step and nowhere else;
* `Draft.fieldDraft` : the draft of one field alone.
-/

set_option autoImplicit false

namespace TreePredicate

namespace Draft

open Predicate

/-- What a draft is, apart from its members and negated fields. -/
inductive View where
  | leaf (p : Predicate)
  | compound
  | list

/-- What a draft is, apart from its members and negated fields. -/
def view : Draft → View
  | .finished p => .leaf p
  | .group _ _ => .compound
  | .indexGroup _ => .list

/-- The negated fields of a draft. -/
def negatedFields : Draft → List (Path × Predicate)
  | .group _ negated => negated
  | _ => []

/-- The member at the end of a path. -/
def at? : Draft → Path → Option Draft
  | draft, [] => some draft
  | draft, step :: rest => (draft.member? step).bind fun inner => inner.at? rest

/-- What is at the end of a path. -/
def view? (draft : Draft) (path : Path) : Option View := (draft.at? path).map view

/-- The negated fields at the end of a path. -/
def negatedAt (draft : Draft) (path : Path) : List (Path × Predicate) :=
  ((draft.at? path).map negatedFields).getD []

/-! ## Paths -/

variable {draft member : Draft} {step : Segment}

theorem view?_nil (draft : Draft) : draft.view? [] = some draft.view := rfl

theorem negatedAt_nil (draft : Draft) : draft.negatedAt [] = draft.negatedFields := rfl

theorem view?_cons_of_none (h : draft.member? step = none) (path : Path) :
    draft.view? (step :: path) = none := by
  rw [view?, at?, h]
  rfl

theorem view?_cons_of_some (h : draft.member? step = some member) (path : Path) :
    draft.view? (step :: path) = member.view? path := by
  rw [view?, at?, h]
  rfl

theorem negatedAt_cons_of_none (h : draft.member? step = none) (path : Path) :
    draft.negatedAt (step :: path) = [] := by
  rw [negatedAt, at?, h]
  rfl

theorem negatedAt_cons_of_some (h : draft.member? step = some member) (path : Path) :
    draft.negatedAt (step :: path) = member.negatedAt path := by
  rw [negatedAt, at?, h]
  rfl

theorem member?_eq_none_of_view? (h : draft.view? [step] = none) : draft.member? step = none := by
  cases hmember : draft.member? step with
  | none => rfl
  | some member =>
    rw [view?_cons_of_some hmember, view?_nil] at h
    cases h

/-! ## Changed members -/

theorem member?_put_of_ne {other : Segment} (h : other ≠ step) (member draft : Draft) :
    (put member draft step).member? other = draft.member? other := by
  cases draft with
  | finished p => rfl
  | group members negated =>
    cases step with
    | index position => rfl
    | key key =>
      cases other with
      | index position => rfl
      | key other =>
        rw [put, member?, member?, Table.find?_insert, if_neg]
        rintro rfl
        exact h rfl
  | indexGroup members =>
    cases step with
    | key key => rfl
    | index position =>
      cases other with
      | key key => rfl
      | index other =>
        rw [put, member?, member?, Table.find?_insert, if_neg]
        rintro rfl
        exact h rfl

theorem view_put (member draft : Draft) (step : Segment) : (put member draft step).view = draft.view := by
  cases draft <;> cases step <;> rfl

theorem negatedFields_put (member draft : Draft) (step : Segment) :
    (put member draft step).negatedFields = draft.negatedFields := by
  cases draft <;> cases step <;> rfl

/-- A changed member is seen behind its step. -/
theorem view?_put (hkind : draft.kind? = some step.isIndex) (member : Draft) (path : Path) :
    (put member draft step).view? (step :: path) = member.view? path :=
  view?_cons_of_some (member?_put hkind member) path

theorem negatedAt_put (hkind : draft.kind? = some step.isIndex) (member : Draft) (path : Path) :
    (put member draft step).negatedAt (step :: path) = member.negatedAt path :=
  negatedAt_cons_of_some (member?_put hkind member) path

/-- A changed member is seen nowhere else. -/
theorem view?_put_of_ne {other : Segment} (h : other ≠ step) (member draft : Draft) (path : Path) :
    (put member draft step).view? (other :: path) = draft.view? (other :: path) := by
  rw [view?, at?, member?_put_of_ne h]
  rfl

theorem negatedAt_put_of_ne {other : Segment} (h : other ≠ step) (member draft : Draft) (path : Path) :
    (put member draft step).negatedAt (other :: path) = draft.negatedAt (other :: path) := by
  rw [negatedAt, at?, member?_put_of_ne h]
  rfl

/-! ## Negated fields -/

theorem member?_negateAll (negated : List (Path × Predicate)) (draft : Draft) (step : Segment) :
    (negateAll negated draft).member? step = draft.member? step := by
  cases draft <;> cases step <;> rfl

theorem view?_negateAll (negated : List (Path × Predicate)) (draft : Draft) (path : Path) :
    (negateAll negated draft).view? path = draft.view? path := by
  cases path with
  | nil => cases draft <;> rfl
  | cons step rest => rw [view?, view?, at?, at?, member?_negateAll]

theorem negatedAt_negateAll (hkind : draft.kind? = some false) (negated : List (Path × Predicate))
    (path : Path) :
    (negateAll negated draft).negatedAt path =
      draft.negatedAt path ++ if path = [] then negated else [] := by
  cases path with
  | nil =>
    cases draft with
    | finished p => cases hkind
    | indexGroup members => cases hkind
    | group members earlier => rfl
  | cons step rest =>
    rw [if_neg (List.cons_ne_nil _ _), List.append_nil, negatedAt, negatedAt, at?, at?,
      member?_negateAll]

/-! ## Containers -/

theorem member?_container (isIndexGroup : Bool) (step : Segment) :
    (container isIndexGroup).member? step = none := by
  cases isIndexGroup <;> cases step <;> rfl

theorem negatedAt_container (isIndexGroup : Bool) (path : Path) :
    (container isIndexGroup).negatedAt path = [] := by
  cases path with
  | nil => cases isIndexGroup <;> rfl
  | cons step rest => exact negatedAt_cons_of_none (member?_container isIndexGroup step) rest

/-- Two drafts of one kind look the same. -/
theorem view_eq_of_kind? {other : Draft} {isIndexGroup : Bool} (h : draft.kind? = some isIndexGroup)
    (h' : other.kind? = some isIndexGroup) : draft.view = other.view := by
  cases draft <;> cases other <;> cases h <;> cases h' <;> rfl

theorem view_container_eq {isIndexGroup : Bool} (h : draft.kind? = some isIndexGroup) :
    (container isIndexGroup).view = draft.view := view_eq_of_kind? (kind?_container _) h

/-- A container shows nothing that a draft of its kind does not. -/
theorem view?_of_container {isIndexGroup : Bool} (h : draft.kind? = some isIndexGroup) {path : Path}
    {v : View} (hv : (container isIndexGroup).view? path = some v) : draft.view? path = some v := by
  cases path with
  | nil => rwa [view?_nil, view_container_eq h] at hv
  | cons step rest =>
    rw [view?_cons_of_none (member?_container isIndexGroup step)] at hv
    cases hv

/-! ## Drafts of fields -/

/-- The draft of one field: its predicate opened up, in containers along its path. -/
def fieldDraft (p : Predicate) : Path → Draft
  | [] => ofPredicate p
  | step :: rest => put (fieldDraft p rest) (container step.isIndex) step

theorem kind?_fieldDraft (p : Predicate) (step : Segment) (rest : Path) :
    (fieldDraft p (step :: rest)).kind? = some step.isIndex := by
  rw [fieldDraft, kind?_put, kind?_container]

theorem member?_ofFields (fields : List (String × Predicate)) (negated : List (Path × Predicate))
    (key : String) :
    (Draft.group (ofFields fields) negated).member? (.key key) =
      (Table.find? key fields).map ofPredicate := by
  rw [member?, ofFields_eq_map, Table.find?_map]

theorem member?_ofItems (fields : List (Int × Predicate)) (position : Int) :
    (Draft.indexGroup (ofItems fields)).member? (.index position) =
      (Table.find? position fields).map ofPredicate := by
  rw [member?, ofItems_eq_map, Table.find?_map]

end Draft

end TreePredicate
