import TreePredicate.Proofs.Draft.View

/-!
# What a predicate puts into a draft

A draft shows something at the end of a path, and has negated fields there. What a predicate puts into
a draft is what its own draft has.

* `Draft.Entry`, `Draft.entries` : what is put at which path, depth first;
* `Draft.Has` : an entry at the end of a path in a draft;
* `mem_entries_iff` : the entries of a predicate are those of its draft, by induction on the predicate.
-/

set_option autoImplicit false

namespace TreePredicate.Draft

open Predicate

/-! ## Depth first -/

/-- What is put into a draft at a path: something that is shown there, or a negated field. -/
inductive Entry where
  | shown (v : View)
  | negated (field : Path × Predicate)

mutual

/-- All that a predicate puts into a draft at a path and behind it, depth first: of a group the fields
in their order and then what is negated. -/
def entries : Path → Predicate → List (Path × Entry)
  | path, .group fields negated =>
    (path, .shown .compound) :: fieldEntries path fields ++
      negated.map fun field => (path, .negated field)
  | path, .indexGroup fields => (path, .shown .list) :: indexEntries path fields
  | path, .number test => [(path, .shown (.leaf (.number test)))]
  | path, .text value => [(path, .shown (.leaf (.text value)))]
  | path, .pattern p => [(path, .shown (.leaf (.pattern p)))]
  | path, .list quantifier elements => [(path, .shown (.leaf (.list quantifier elements)))]

/-- All that the fields of a group put into a draft. -/
def fieldEntries : Path → List (String × Predicate) → List (Path × Entry)
  | _, [] => []
  | path, (key, p) :: rest => entries (path ++ [.key key]) p ++ fieldEntries path rest

/-- All that the fields of an index group put into a draft. -/
def indexEntries : Path → List (Int × Predicate) → List (Path × Entry)
  | _, [] => []
  | path, (position, p) :: rest => entries (path ++ [.index position]) p ++ indexEntries path rest

end

/-- Both of them, for keys of any kind. -/
def tableEntries {κ : Type} (toStep : κ → Segment) (path : Path) (fields : List (κ × Predicate)) :
    List (Path × Entry) :=
  fields.flatMap fun f => entries (path ++ [toStep f.1]) f.2

theorem tableEntries_cons {κ : Type} (toStep : κ → Segment) (path : Path) (f : κ × Predicate)
    (rest : List (κ × Predicate)) : tableEntries toStep path (f :: rest) =
      entries (path ++ [toStep f.1]) f.2 ++ tableEntries toStep path rest := List.flatMap_cons

theorem fieldEntries_eq (path : Path) (fields : List (String × Predicate)) :
    fieldEntries path fields = tableEntries .key path fields := by
  induction fields with
  | nil => rfl
  | cons f rest ih => rw [fieldEntries, ih, tableEntries_cons]

theorem indexEntries_eq (path : Path) (fields : List (Int × Predicate)) :
    indexEntries path fields = tableEntries .index path fields := by
  induction fields with
  | nil => rfl
  | cons f rest ih => rw [indexEntries, ih, tableEntries_cons]

/-- A predicate puts itself first. -/
theorem exists_entries_eq (path : Path) (p : Predicate) :
    ∃ v rest, entries path p = (path, .shown v) :: rest := by
  cases p with
  | _ => exact ⟨_, _, rfl⟩

/-! ## Entries of a draft -/

/-- A draft has an entry at the end of a path. -/
def Has (draft : Draft) (path : Path) : Entry → Prop
  | .shown v => draft.view? path = some v
  | .negated field => field ∈ draft.negatedAt path

variable {draft member : Draft} {step : Segment} {p : Predicate}

theorem has_cons_of_some (h : draft.member? step = some member) (path : Path) (e : Entry) :
    draft.Has (step :: path) e ↔ member.Has path e := by
  cases e with
  | shown v => rw [Has, Has, view?_cons_of_some h]
  | negated field => rw [Has, Has, negatedAt_cons_of_some h]

theorem not_has_cons_of_none (h : draft.member? step = none) (path : Path) (e : Entry) :
    ¬ draft.Has (step :: path) e := by
  cases e with
  | shown v =>
    rw [Has, view?_cons_of_none h]
    exact Option.some_ne_none v ∘ Eq.symm
  | negated field =>
    rw [Has, negatedAt_cons_of_none h]
    exact List.not_mem_nil

/-- At its root a draft has what it shows and its negated fields. -/
theorem has_nil_iff (draft : Draft) (e : Entry) : draft.Has [] e ↔
    e = .shown draft.view ∨ ∃ field ∈ draft.negatedFields, e = .negated field := by
  cases e with
  | shown v => simp [Has, view?_nil, eq_comm]
  | negated field => simp [Has, negatedAt_nil]

theorem has_finished_iff (p : Predicate) (path : Path) (e : Entry) :
    (Draft.finished p).Has path e ↔ path = [] ∧ e = .shown (.leaf p) := by
  cases path with
  | nil => simp [has_nil_iff, view, negatedFields]
  | cons step rest =>
    have hnone : (Draft.finished p).member? step = none := rfl
    simp [not_has_cons_of_none hnone]

/-- A draft whose members are the drafts of some fields has the entries of these fields, and its own. -/
theorem exists_has_iff {κ : Type} [DecidableEq κ] {fields : List (κ × Predicate)}
    {toStep : κ → Segment} (hdistinct : Table.Distinct fields)
    (hmember : ∀ key, draft.member? (toStep key) = (Table.find? key fields).map ofPredicate)
    (hsteps : ∀ step member, draft.member? step = some member → ∃ key, step = toStep key)
    {path : Path} (hfields : ∀ f ∈ fields, ∀ whole e, (whole, e) ∈ entries (path ++ [toStep f.1]) f.2 ↔
      ∃ rest, whole = path ++ [toStep f.1] ++ rest ∧ (ofPredicate f.2).Has rest e)
    (whole : Path) (e : Entry) :
    (whole = path ∧ draft.Has [] e ∨ (whole, e) ∈ tableEntries toStep path fields) ↔
      ∃ rest, whole = path ++ rest ∧ draft.Has rest e := by
  rw [tableEntries, List.mem_flatMap]
  constructor
  · rintro (⟨rfl, hhere⟩ | ⟨f, hf, hentry⟩)
    · exact ⟨[], (List.append_nil _).symm, hhere⟩
    · obtain ⟨rest, rfl, hhas⟩ := (hfields f hf _ _).mp hentry
      have hm : draft.member? (toStep f.1) = some (ofPredicate f.2) := by
        rw [hmember, Table.find?_eq_of_mem hdistinct hf, Option.map_some]
      exact ⟨toStep f.1 :: rest, List.append_assoc _ _ _, (has_cons_of_some hm rest e).mpr hhas⟩
  · rintro ⟨rest, rfl, hhas⟩
    cases rest with
    | nil => exact .inl ⟨List.append_nil _, hhas⟩
    | cons step rest =>
      cases hm : draft.member? step with
      | none => exact absurd hhas (not_has_cons_of_none hm rest e)
      | some member =>
        obtain ⟨key, rfl⟩ := hsteps step member hm
        rw [has_cons_of_some hm] at hhas
        rw [hmember] at hm
        obtain ⟨q, hq, rfl⟩ := Option.map_eq_some_iff.mp hm
        have hmem := Table.mem_of_find? hq
        exact .inr ⟨_, hmem, (hfields _ hmem _ _).mpr ⟨rest, List.append_cons _ _ _, hhas⟩⟩

/-- A predicate has the entries that its draft has. -/
theorem mem_entries_iff (h : p.WellFormed) (path whole : Path) (e : Entry) :
    (whole, e) ∈ entries path p ↔ ∃ rest, whole = path ++ rest ∧ (ofPredicate p).Has rest e := by
  induction p generalizing path whole e with
  | group fields negated ih _ =>
    obtain ⟨hdistinct, hfields, -⟩ := (wellFormed_group _ _).mp h
    rw [ofPredicate, ← exists_has_iff hdistinct (member?_ofFields fields negated) (fun step member hm => ?_)
      (fun f hf => ih f hf (hfields f hf) _), has_nil_iff, entries, fieldEntries_eq]
    · simp only [view, negatedFields, List.mem_append, List.mem_cons, List.mem_map, Prod.mk.injEq]
      grind
    · cases step with
      | key key => exact ⟨key, rfl⟩
      | index position => cases hm
  | indexGroup fields ih =>
    obtain ⟨hdistinct, hfields⟩ := (wellFormed_indexGroup _).mp h
    rw [ofPredicate, ← exists_has_iff hdistinct (member?_ofItems fields) (fun step member hm => ?_)
      (fun f hf => ih f hf (hfields f hf) _), has_nil_iff, entries, indexEntries_eq]
    · simp [view, negatedFields]
    · cases step with
      | key key => cases hm
      | index position => exact ⟨position, rfl⟩
  | _ =>
    simp only [entries, ofPredicate, has_finished_iff, List.mem_singleton, Prod.mk.injEq]
    constructor
    · rintro ⟨rfl, rfl⟩
      exact ⟨[], (List.append_nil _).symm, rfl, rfl⟩
    · rintro ⟨rest, rfl, rfl, rfl⟩
      exact ⟨List.append_nil _, rfl⟩

end TreePredicate.Draft
