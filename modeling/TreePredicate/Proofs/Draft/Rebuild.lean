import TreePredicate.Proofs.Draft.Meaning
import TreePredicate.Proofs.Predicate.Regular

/-!
# Groups rebuilt from the fields they are written as

A group is written as fields with whole paths, and adding these one after another brings back the
group with its fields in the same order.

* `Draft.ofPredicate` : a predicate with its groups opened up, so that more can be added;
* `place_of_none` : where there is nothing yet, a predicate is placed as its draft;
* `addAll?_parts` : the fields that it is written as add up to the same;
* `callsOf`, `calls?_callsOf` : so the fields of a group rebuild the group.
-/

set_option autoImplicit false

namespace TreePredicate.Draft

open Predicate Notation

/-! ## Drafts of predicates -/

mutual

/-- A predicate with its groups and index groups opened up. -/
def ofPredicate : Predicate → Draft
  | .group fields negated => .group (ofFields fields) negated
  | .indexGroup fields => .indexGroup (ofItems fields)
  | .number test => .finished (.number test)
  | .text value => .finished (.text value)
  | .pattern p => .finished (.pattern p)
  | .list quantifier elements => .finished (.list quantifier elements)

/-- The fields of a group with their groups opened up. -/
def ofFields : List (String × Predicate) → List (String × Draft)
  | [] => []
  | (key, p) :: rest => (key, ofPredicate p) :: ofFields rest

/-- The fields of an index group with their groups opened up. -/
def ofItems : List (Int × Predicate) → List (Int × Draft)
  | [] => []
  | (position, p) :: rest => (position, ofPredicate p) :: ofItems rest

end

theorem ofFields_eq_map (fields : List (String × Predicate)) :
    ofFields fields = fields.map fun f => (f.1, ofPredicate f.2) := by
  induction fields with
  | nil => rfl
  | cons f rest ih => rw [ofFields, ih, List.map_cons]

theorem ofItems_eq_map (fields : List (Int × Predicate)) :
    ofItems fields = fields.map fun f => (f.1, ofPredicate f.2) := by
  induction fields with
  | nil => rfl
  | cons f rest ih => rw [ofItems, ih, List.map_cons]

theorem map_snd_eq_self {κ α : Type} {g : α → α} {entries : List (κ × α)}
    (h : ∀ e ∈ entries, g e.2 = e.2) : (entries.map fun e => (e.1, g e.2)) = entries := by
  conv => rhs; rw [← List.map_id entries]
  exact List.map_congr_left fun e he => by rw [h e he]; rfl

theorem build_ofPredicate (p : Predicate) : (ofPredicate p).build = p := by
  induction p with
  | group fields negated ih _ =>
    rw [ofPredicate, build, buildMembers_eq_map, ofFields_eq_map, List.map_map]
    congr 1
    exact map_snd_eq_self (g := fun p => (ofPredicate p).build) ih
  | indexGroup fields ih =>
    rw [ofPredicate, build, buildItems_eq_map, ofItems_eq_map, List.map_map]
    congr 1
    exact map_snd_eq_self (g := fun p => (ofPredicate p).build) ih
  | _ => rfl

/-! ## Members -/

theorem member?_put {draft : Draft} {step : Segment} (hkind : draft.kind? = some step.isIndex)
    (member : Draft) : (put member draft step).member? step = some member := by
  cases draft with
  | finished p => cases hkind
  | group members negated =>
    cases step with
    | key key => rw [put, member?, Table.find?_insert, if_pos rfl]
    | index position => cases hkind
  | indexGroup members =>
    cases step with
    | key key => cases hkind
    | index position => rw [put, member?, Table.find?_insert, if_pos rfl]

theorem put_put (old new draft : Draft) (step : Segment) :
    put new (put old draft step) step = put new draft step := by
  cases draft <;> cases step <;> simp only [put, Table.insert_insert]

/-- A member at a key that is not there yet comes last. -/
theorem put_key {members : List (String × Draft)} {key : String}
    (h : key ∉ members.map Prod.fst) (negated : List (Path × Predicate)) (member : Draft) :
    (Draft.group members negated).member? (.key key) = none ∧
      put member (.group members negated) (.key key) = .group (members ++ [(key, member)]) negated := by
  have hnone := Table.find?_eq_none_of_not_mem h
  exact ⟨hnone, by rw [put, Table.insert_of_find?_eq_none hnone]⟩

/-- A member at a position that is not there yet comes last. -/
theorem put_index {members : List (Int × Draft)} {position : Int}
    (h : position ∉ members.map Prod.fst) (member : Draft) :
    (Draft.indexGroup members).member? (.index position) = none ∧
      put member (.indexGroup members) (.index position) =
        .indexGroup (members ++ [(position, member)]) := by
  have hnone := Table.find?_eq_none_of_not_mem h
  exact ⟨hnone, by rw [put, Table.insert_of_find?_eq_none hnone]⟩

/-! ## Placing a predicate where nothing is -/

/-- Where there is nothing yet, a predicate is placed as its draft. -/
def PlacedAsDraft (p : Predicate) : Prop :=
  ∀ (draft : Draft) (step : Segment) (path : Path), draft.member? step = none →
    place p draft step path = (put (ofPredicate p) draft step, none)

theorem placeFields_append {fields : List (String × Predicate)}
    (ih : ∀ f ∈ fields, PlacedAsDraft f.2) (members : List (String × Draft))
    (hdistinct : (members.map Prod.fst ++ fields.map Prod.fst).Nodup)
    (negated : List (Path × Predicate)) (path : Path) :
    placeFields fields (.group members negated) path =
      (.group (members ++ ofFields fields) negated, none) := by
  induction fields generalizing members with
  | nil => rw [placeFields, ofFields, List.append_nil]
  | cons f rest ihrest =>
    obtain ⟨key, p⟩ := f
    rw [List.map_cons] at hdistinct
    obtain ⟨hnone, hput⟩ := put_key (Table.not_mem_of_nodup hdistinct) negated (ofPredicate p)
    rw [placeFields, ih (key, p) List.mem_cons_self _ _ _ hnone, hput]
    dsimp only
    have hrest := ihrest (fun f hf => ih f (List.mem_cons_of_mem _ hf)) _
      (Table.nodup_append_singleton hdistinct (ofPredicate p))
    rw [hrest, ofFields, List.append_assoc, List.singleton_append]

theorem placeItems_append {fields : List (Int × Predicate)}
    (ih : ∀ f ∈ fields, PlacedAsDraft f.2) (members : List (Int × Draft))
    (hdistinct : (members.map Prod.fst ++ fields.map Prod.fst).Nodup) (path : Path) :
    placeItems fields (.indexGroup members) path =
      (.indexGroup (members ++ ofItems fields), none) := by
  induction fields generalizing members with
  | nil => rw [placeItems, ofItems, List.append_nil]
  | cons f rest ihrest =>
    obtain ⟨position, p⟩ := f
    rw [List.map_cons] at hdistinct
    obtain ⟨hnone, hput⟩ := put_index (Table.not_mem_of_nodup hdistinct) (ofPredicate p)
    rw [placeItems, ih (position, p) List.mem_cons_self _ _ _ hnone, hput]
    dsimp only
    have hrest := ihrest (fun f hf => ih f (List.mem_cons_of_mem _ hf)) _
      (Table.nodup_append_singleton hdistinct (ofPredicate p))
    rw [hrest, ofItems, List.append_assoc, List.singleton_append]

theorem enter_of_none {draft : Draft} {step : Segment} (h : draft.member? step = none)
    (isIndexGroup : Bool) : draft.enter step isIndexGroup = .ok (container isIndexGroup) := by
  rw [enter, h]

theorem placeFinished_of_none {draft : Draft} {step : Segment} (h : draft.member? step = none)
    (p : Predicate) (path : Path) :
    placeFinished p draft step path = (put (.finished p) draft step, none) := by
  rw [placeFinished, finish, h]

theorem place_of_none {p : Predicate} (h : Everywhere Regular p) : PlacedAsDraft p := by
  induction p with
  | group fields negated ih _ =>
    intro draft step path hnone
    obtain ⟨⟨hdistinct, -⟩, hfields, -⟩ := everywhere_group.mp h
    have hplace := placeFields_append (fun f hf => ih f hf (hfields f hf)) [] hdistinct []
      path
    rw [place, enter_of_none hnone]
    dsimp only [container]
    rw [if_neg Bool.false_ne_true, hplace]
    rfl
  | indexGroup fields ih =>
    intro draft step path hnone
    obtain ⟨⟨hdistinct, -⟩, hfields⟩ := everywhere_indexGroup.mp h
    have hplace := placeItems_append (fun f hf => ih f hf (hfields f hf)) [] hdistinct path
    rw [place, enter_of_none hnone]
    dsimp only [container]
    rw [if_pos rfl, hplace]
    rfl
  | _ =>
    intro draft step path hnone
    rw [place, placeFinished_of_none hnone, ofPredicate]

/-! ## Adding the fields that a predicate is written as -/

/-- A draft after some fields, each at the end of a path of which `before` has been followed, unless
there is a conflict. -/
def addAll? (draft : Draft) (before : Path) : List (Path × Predicate) → Option Draft
  | [] => some draft
  | f :: rest =>
    match follow f.2 draft before f.1 with
    | (next, none) => next.addAll? before rest
    | (_, some _) => none

theorem addAll?_append (draft : Draft) (before : Path) (fields others : List (Path × Predicate)) :
    draft.addAll? before (fields ++ others) =
      (draft.addAll? before fields).bind fun next => next.addAll? before others := by
  induction fields generalizing draft with
  | nil => rfl
  | cons f rest ih =>
    rw [List.cons_append, addAll?, addAll?]
    split
    · exact ih _
    · rfl

theorem enter_of_member {draft inner : Draft} {step : Segment} {isIndexGroup : Bool}
    (hmember : draft.member? step = some inner) (hkind : inner.kind? = some isIndexGroup) :
    draft.enter step isIndexGroup = .ok inner := by
  rw [enter, hmember]
  cases inner <;> cases hkind <;> rfl

/-- The fields that all go into the same member go into it one after another. -/
theorem addAll?_step {fields : List (Path × Predicate)} (hne : fields ≠ [])
    {isIndexGroup : Bool} (hsteps : ∀ f ∈ fields, ∃ next rest, f.1 = next :: rest ∧
      next.isIndex = isIndexGroup) {draft inner after : Draft} {step : Segment} (before : Path)
    (hkind : draft.kind? = some step.isIndex) (henter : draft.enter step isIndexGroup = .ok inner)
    (h : inner.addAll? (before ++ [step]) fields = some after) :
    draft.addAll? before (fields.map fun f => (step :: f.1, f.2)) = some (put after draft step) := by
  induction fields generalizing draft inner with
  | nil => exact absurd rfl hne
  | cons f rest ih =>
    obtain ⟨next, path, hpath, rfl⟩ := hsteps f List.mem_cons_self
    obtain ⟨hinner, -⟩ := enter_eq_ok henter
    rw [addAll?] at h
    rw [List.map_cons, addAll?]
    dsimp only
    rw [hpath] at h ⊢
    rw [follow, henter]
    dsimp only
    cases hfollow : follow f.2 inner (before ++ [step]) (next :: path) with
    | mk filled conflict? =>
      rw [hfollow] at h
      cases conflict? with
      | some conflict => cases h
      | none =>
        have hfilled := (adds_follow f.2 hinner hfollow).kind.trans hinner
        dsimp only at h ⊢
        cases rest with
        | nil =>
          cases h
          rfl
        | cons g others =>
          have hnext := ih (by simp) (fun f hf => hsteps f (List.mem_cons_of_mem _ hf))
            ((kind?_put filled draft step).trans hkind)
            (enter_of_member (member?_put hkind filled) hfilled) h
          rw [hnext, put_put]

theorem parts_cons (step : Segment) (path : Path) (p : Predicate) :
    parts (step :: path) p = (parts path p).map fun f => (step :: f.1, f.2) := by
  induction p generalizing path with
  | indexGroup fields ih =>
    rw [parts, parts, itemParts_eq, itemParts_eq, List.map_flatMap]
    apply List.flatMap_congr
    intro f hf
    rw [List.cons_append, ih f hf]
  | _ => rw [parts, parts, List.map_singleton]

theorem itemParts_cons (step : Segment) (path : Path) (fields : List (Int × Predicate)) :
    itemParts (step :: path) fields =
      (itemParts path fields).map fun f => (step :: f.1, f.2) := by
  have h := parts_cons step path (.indexGroup fields)
  rw [parts, parts] at h
  exact h

theorem parts_ne_nil {p : Predicate} (h : Everywhere Regular p) (path : Path) :
    parts path p ≠ [] := by
  induction p generalizing path with
  | indexGroup fields ih =>
    obtain ⟨⟨-, hne, -⟩, hfields⟩ := everywhere_indexGroup.mp h
    obtain ⟨f, rest, rfl⟩ := List.exists_cons_of_ne_nil hne
    rw [parts, itemParts]
    exact List.append_ne_nil_of_left_ne_nil
      (ih f List.mem_cons_self (hfields f List.mem_cons_self) _) _
  | _ => rw [parts]; exact List.cons_ne_nil _ _

/-- Where there is nothing yet, the fields that a predicate is written as add up to its draft. -/
def AddsUp (p : Predicate) : Prop :=
  ∀ (draft : Draft) (step : Segment) (before : Path), draft.kind? = some step.isIndex →
    draft.member? step = none →
    draft.addAll? before (parts [step] p) = some (put (ofPredicate p) draft step)

theorem addAll?_itemParts {fields : List (Int × Predicate)} (ih : ∀ f ∈ fields, AddsUp f.2)
    (members : List (Int × Draft))
    (hdistinct : (members.map Prod.fst ++ fields.map Prod.fst).Nodup) (before : Path) :
    (Draft.indexGroup members).addAll? before (itemParts [] fields) =
      some (.indexGroup (members ++ ofItems fields)) := by
  induction fields generalizing members with
  | nil => rw [itemParts, addAll?, ofItems, List.append_nil]
  | cons f rest ihrest =>
    obtain ⟨position, p⟩ := f
    rw [List.map_cons] at hdistinct
    obtain ⟨hnone, hput⟩ := put_index (Table.not_mem_of_nodup hdistinct) (ofPredicate p)
    have hfirst := ih (position, p) List.mem_cons_self _ _ before rfl hnone
    have hrest := ihrest (fun f hf => ih f (List.mem_cons_of_mem _ hf)) _
      (Table.nodup_append_singleton hdistinct (ofPredicate p))
    rw [itemParts, addAll?_append, List.nil_append, hfirst, hput, Option.bind_some, hrest, ofItems,
      List.append_assoc, List.singleton_append]

theorem addAll?_fieldParts {fields : List (String × Predicate)} (ih : ∀ f ∈ fields, AddsUp f.2)
    (members : List (String × Draft)) (negated : List (Path × Predicate))
    (hdistinct : (members.map Prod.fst ++ fields.map Prod.fst).Nodup) (before : Path) :
    (Draft.group members negated).addAll? before (fieldParts fields) =
      some (.group (members ++ ofFields fields) negated) := by
  induction fields generalizing members with
  | nil => rw [fieldParts, List.flatMap_nil, addAll?, ofFields, List.append_nil]
  | cons f rest ihrest =>
    obtain ⟨key, p⟩ := f
    rw [List.map_cons] at hdistinct
    obtain ⟨hnone, hput⟩ := put_key (Table.not_mem_of_nodup hdistinct) negated (ofPredicate p)
    have hfirst := ih (key, p) List.mem_cons_self _ _ before rfl hnone
    have hrest := ihrest (fun f hf => ih f (List.mem_cons_of_mem _ hf)) _
      (Table.nodup_append_singleton hdistinct (ofPredicate p))
    rw [fieldParts] at hrest
    rw [fieldParts, List.flatMap_cons, addAll?_append, hfirst, hput, Option.bind_some, hrest, ofFields,
      List.append_assoc, List.singleton_append]

theorem addsUp_of_not_indexGroup {p : Predicate} (hnot : isIndexGroup p = false)
    (h : Everywhere Regular p) : AddsUp p := by
  intro draft step before _ hnone
  rw [parts_of_not_indexGroup hnot, addAll?, follow, place_of_none h _ _ _ hnone]
  rfl

/-- What is written as the fields of a predicate adds up to it. -/
theorem addAll?_parts {p : Predicate} (h : Everywhere Regular p) : AddsUp p := by
  induction p with
  | indexGroup fields ih =>
    intro draft step before hkind hnone
    obtain ⟨⟨hdistinct, -⟩, hfields⟩ := everywhere_indexGroup.mp h
    have hne : itemParts [] fields ≠ [] := by
      have := parts_ne_nil h []
      rw [parts] at this
      exact this
    have hsteps : ∀ f ∈ itemParts [] fields, ∃ next rest, f.1 = next :: rest ∧
        next.isIndex = true := by
      intro f hf
      rw [itemParts_eq] at hf
      obtain ⟨g, -, hf⟩ := List.mem_flatMap.mp hf
      obtain ⟨positions, hpath, -⟩ := (part_of_mem hf).path
      exact ⟨.index g.1, positions.map .index, hpath, rfl⟩
    have hitems := addAll?_itemParts (fun f hf => ih f hf (hfields f hf)) [] hdistinct
      (before ++ [step])
    rw [parts, itemParts_cons, addAll?_step hne hsteps before hkind (enter_of_none hnone true) hitems,
      ofPredicate, List.nil_append]
  | _ => exact addsUp_of_not_indexGroup rfl h

/-! ## The calls that rebuild a group -/

/-- The calls that the fields of a group are written as. -/
def callsOf (fields : List (String × Predicate)) (negated : List (Path × Predicate)) : List Call :=
  (fieldParts fields).map (fun f => .add f.1 f.2) ++ negated.map fun f => .negate f.1 f.2

/-- The predicate of a call. -/
def Call.predicate : Call → Predicate
  | .add _ p => p
  | .negate _ p => p

theorem sizeOf_lt_of_mem_callsOf {fields : List (String × Predicate)}
    {negated : List (Path × Predicate)} {c : Call} (h : c ∈ callsOf fields negated) :
    sizeOf c.predicate < sizeOf (Predicate.group fields negated) := by
  rcases List.mem_append.mp h with h | h
  · obtain ⟨f, hf, rfl⟩ := List.mem_map.mp h
    exact sizeOf_lt_of_mem_fieldParts hf
  · obtain ⟨f, hf, rfl⟩ := List.mem_map.mp h
    exact sizeOf_lt_of_mem_negated hf

theorem calls?_append (draft : Draft) (calls others : List Call) :
    draft.calls? (calls ++ others) =
      (draft.calls? calls).bind fun next => next.calls? others := by
  induction calls generalizing draft with
  | nil => rfl
  | cons c rest ih =>
    rw [List.cons_append, calls?, calls?, Option.bind_assoc]
    exact congrArg _ (funext fun next => ih next)

theorem calls?_add (draft : Draft) (fields : List (Path × Predicate)) :
    draft.calls? (fields.map fun f => .add f.1 f.2) = draft.addAll? [] fields := by
  induction fields generalizing draft with
  | nil => rfl
  | cons f rest ih =>
    rw [List.map_cons, calls?, call?, addAll?, add]
    cases follow f.2 draft [] f.1 with
    | mk next conflict? =>
      cases conflict? with
      | some conflict => rfl
      | none => exact ih next

theorem calls?_negate (members : List (String × Draft)) (earlier negated : List (Path × Predicate)) :
    (Draft.group members earlier).calls? (negated.map fun f => .negate f.1 f.2) =
      some (.group members (earlier ++ negated)) := by
  induction negated generalizing earlier with
  | nil => rw [List.map_nil, calls?, List.append_nil]
  | cons f rest ih =>
    rw [List.map_cons, calls?, call?, Option.bind_some, negate, negateAll, ih, List.append_assoc,
      List.singleton_append]

/-- The fields that a group is written as rebuild it. -/
theorem calls?_callsOf {fields : List (String × Predicate)} {negated : List (Path × Predicate)}
    (h : Everywhere Regular (.group fields negated)) :
    empty.calls? (callsOf fields negated) = some (ofPredicate (.group fields negated)) := by
  obtain ⟨⟨hdistinct, -⟩, hfields, -⟩ := everywhere_group.mp h
  have hadd := addAll?_fieldParts (fun f hf => addAll?_parts (hfields f hf)) [] [] hdistinct []
  rw [callsOf, calls?_append, calls?_add, empty, hadd, Option.bind_some, calls?_negate, ofPredicate]
  rfl

end TreePredicate.Draft
