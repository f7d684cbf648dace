import TreePredicate.Proofs.Draft.Entries
import TreePredicate.Proofs.Draft.Nested

/-!
# Placing a predicate up to a conflict

A predicate that is a group is taken apart, and its own fields come one after another until one of
them is in conflict. A conflict is with something that stood in the draft, so the groups on the way to
it stood there too, and what has changed is what the fields before it add.

* `Predicate.before` : the part of a predicate that comes before an item in it;
* `Draft.CutAt` : some entries up to one of them;
* `Draft.Stops` : how a predicate is placed up to a conflict;
* `Draft.placeAll`, `placeAll_stops` : the fields of a group or of an index group, by induction on
  them;
* `place_stops` : any predicate, by induction on it;
* `follow_stops` : any predicate at the end of a path, by induction on the path.
-/

set_option autoImplicit false

namespace TreePredicate

/-! ## The part before an item -/

namespace Predicate

mutual

/-- The part of a predicate that comes before the item at a path in it: of the groups on the way
there, the fields before the one that is next and the part of that one, and nothing that is negated. -/
def before : Predicate → Path → Predicate
  | .group fields _, .key key :: rest => .group (fieldsBefore fields key rest) []
  | .indexGroup fields, .index position :: rest => .indexGroup (itemsBefore fields position rest)
  | p, _ => p

/-- The fields before a key, and the part of the field at the key if the path goes on. -/
def fieldsBefore : List (String × Predicate) → String → Path → List (String × Predicate)
  | [], _, _ => []
  | (key, p) :: others, last, rest =>
    if key = last then if rest = [] then [] else [(key, before p rest)]
    else (key, p) :: fieldsBefore others last rest

/-- The fields before a position, and the part of the field at the position if the path goes on. -/
def itemsBefore : List (Int × Predicate) → Int → Path → List (Int × Predicate)
  | [], _, _ => []
  | (position, p) :: others, last, rest =>
    if position = last then if rest = [] then [] else [(position, before p rest)]
    else (position, p) :: itemsBefore others last rest

end

/-- Both of them, for keys of any kind. -/
def tableBefore {κ : Type} [DecidableEq κ] (last : κ) (rest : Path) :
    List (κ × Predicate) → List (κ × Predicate)
  | [] => []
  | (key, p) :: others =>
    if key = last then if rest = [] then [] else [(key, p.before rest)]
    else (key, p) :: tableBefore last rest others

theorem fieldsBefore_eq (fields : List (String × Predicate)) (last : String) (rest : Path) :
    fieldsBefore fields last rest = tableBefore last rest fields := by
  induction fields with
  | nil => rfl
  | cons f others ih => rw [fieldsBefore, tableBefore, ih]

theorem itemsBefore_eq (fields : List (Int × Predicate)) (last : Int) (rest : Path) :
    itemsBefore fields last rest = tableBefore last rest fields := by
  induction fields with
  | nil => rfl
  | cons f others ih => rw [itemsBefore, tableBefore, ih]

section Tables

variable {κ : Type} [DecidableEq κ] {fields : List (κ × Predicate)}

theorem distinct_tableBefore (h : Table.Distinct fields) (last : κ) (rest : Path) :
    Table.Distinct (tableBefore last rest fields) := by
  refine List.Nodup.sublist ?_ h
  clear h
  induction fields with
  | nil => exact List.Sublist.slnil
  | cons f others ih =>
    rw [tableBefore]
    split
    · split
      · exact List.nil_sublist _
      · exact (List.nil_sublist _).cons_cons _
    · exact ih.cons_cons _

theorem forall_mem_tableBefore {Q : Predicate → Prop}
    (h : ∀ f ∈ fields, Q f.2 ∧ ∀ rest, Q (f.2.before rest)) (last : κ) (rest : Path) :
    ∀ f ∈ tableBefore last rest fields, Q f.2 := by
  induction fields with
  | nil => exact List.forall_mem_nil _
  | cons f others ih =>
    rw [List.forall_mem_cons] at h
    rw [tableBefore]
    split
    · split
      · exact List.forall_mem_nil _
      · exact List.forall_mem_singleton.mpr (h.1.2 rest)
    · exact List.forall_mem_cons.mpr ⟨h.1.1, ih h.2⟩

end Tables

/-- A predicate that is no group is not cut. -/
theorem before_of_finished {p : Predicate} (hgroup : ∀ fields negated, p ≠ .group fields negated)
    (hindexGroup : ∀ fields, p ≠ .indexGroup fields) (inside : Path) : p.before inside = p := by
  cases p with
  | group fields negated => exact absurd rfl (hgroup fields negated)
  | indexGroup fields => exact absurd rfl (hindexGroup fields)
  | _ => rw [before] <;> simp

theorem WellFormed.before {p : Predicate} (h : p.WellFormed) (inside : Path) :
    (p.before inside).WellFormed := by
  induction p generalizing inside with
  | group fields negated ih _ =>
    obtain ⟨hdistinct, hfields, -⟩ := (wellFormed_group _ _).mp h
    rcases inside with _ | ⟨key | position, rest⟩
    · exact h
    · rw [Predicate.before, wellFormed_group, fieldsBefore_eq]
      refine ⟨distinct_tableBefore hdistinct _ _, ?_, List.forall_mem_nil _⟩
      exact forall_mem_tableBefore (fun f hf => ⟨hfields f hf, ih f hf (hfields f hf)⟩) _ _
    · exact h
  | indexGroup fields ih =>
    obtain ⟨hdistinct, hfields⟩ := (wellFormed_indexGroup _).mp h
    rcases inside with _ | ⟨key | position, rest⟩
    · exact h
    · exact h
    · rw [Predicate.before, wellFormed_indexGroup, itemsBefore_eq]
      refine ⟨distinct_tableBefore hdistinct _ _, ?_⟩
      exact forall_mem_tableBefore (fun f hf => ⟨hfields f hf, ih f hf (hfields f hf)⟩) _ _
  | _ =>
    rw [before_of_finished (by simp) (by simp)]
    exact h

end Predicate

namespace Draft

open Predicate

/-! ## Entries before a conflict -/

/-- Some entries are those up to the one that is shown at a path. -/
def CutAt (part whole : List (Path × Entry)) (path : Path) : Prop :=
  ∃ v rest, whole = part ++ (path, .shown v) :: rest

theorem CutAt.append_right {part whole : List (Path × Entry)} {path : Path}
    (h : CutAt part whole path) (more : List (Path × Entry)) : CutAt part (whole ++ more) path := by
  obtain ⟨v, rest, rfl⟩ := h
  exact ⟨v, rest ++ more, by rw [List.append_assoc, List.cons_append]⟩

theorem CutAt.append_left {part whole : List (Path × Entry)} {path : Path}
    (h : CutAt part whole path) (more : List (Path × Entry)) :
    CutAt (more ++ part) (more ++ whole) path := by
  obtain ⟨v, rest, rfl⟩ := h
  exact ⟨v, rest, (List.append_assoc _ _ _).symm⟩

/-! ## Conflicts with what stands in a draft -/

variable {draft after member : Draft} {step : Segment} {path : Path} {conflict : Conflict}

/-- Putting a member where it stands changes nothing. -/
theorem put_of_member? (h : draft.member? step = some member) : put member draft step = draft := by
  cases draft with
  | finished p => cases h
  | group members negated =>
    cases step with
    | key key => rw [put, Table.insert_of_find?_eq_some h]
    | index position => cases h
  | indexGroup members =>
    cases step with
    | key key => cases h
    | index position => rw [put, Table.insert_of_find?_eq_some h]

/-- A draft that shows something behind a step is of the kind for that step. -/
theorem kind?_of_view? {rest : Path} {v : View} (h : draft.view? (step :: rest) = some v) :
    draft.kind? = some step.isIndex := by
  cases hmember : draft.member? step with
  | none =>
    rw [view?_cons_of_none hmember] at h
    cases h
  | some member => cases draft <;> cases step <;> first | rfl | cases hmember

theorem member?_of_enter_eq_error {isIndexGroup : Bool} {clash : Clash}
    (h : draft.enter step isIndexGroup = .error clash) : ∃ member, draft.member? step = some member := by
  cases hmember : draft.member? step with
  | none =>
    rw [enter_of_none hmember] at h
    cases h
  | some member => exact ⟨member, rfl⟩

theorem exists_view?_of_member? (h : draft.member? step = some member) :
    ∃ v, draft.view? [step] = some v := ⟨member.view, view?_cons_of_some h []⟩

/-- Where something is shown behind a member that is entered, the member stood in the draft. -/
theorem member?_of_enter {inner : Draft} {isIndexGroup : Bool} {next : Segment} {rest : Path} {v : View}
    (h : draft.enter step isIndexGroup = .ok inner) (hview : inner.view? (next :: rest) = some v) :
    draft.member? step = some inner := by
  obtain ⟨-, ⟨-, rfl⟩ | hmember⟩ := enter_eq_ok h
  · rw [view?_cons_of_none (member?_container isIndexGroup next)] at hview
    cases hview
  · exact hmember

/-- A predicate that is placed at a step changes no other member. -/
theorem member?_place_of_ne {other : Segment} (h : other ≠ step) (p : Predicate) (draft : Draft)
    (path : Path) : (place p draft step path).1.member? other = draft.member? other := by
  have hfinished : ∀ q : Predicate,
      (placeFinished q draft step path).1.member? other = draft.member? other := by
    intro q
    cases hmember : draft.member? step with
    | none => rw [placeFinished_of_none hmember, member?_put_of_ne h]
    | some member => cases member <;> rw [placeFinished, finish, hmember]
  cases p with
  | group fields negated =>
    rw [place]
    cases draft.enter step false with
    | error clash => rfl
    | ok inner =>
      dsimp only
      rcases placeFields fields inner path with ⟨filled, _ | conflict⟩
      · exact member?_put_of_ne h _ draft
      · exact member?_put_of_ne h _ draft
  | indexGroup fields =>
    rw [place]
    cases draft.enter step true with
    | error clash => rfl
    | ok inner => exact member?_put_of_ne h _ draft
  | _ => exact hfinished _

/-- A predicate is placed at a step up to a conflict, to which `inside` leads from the step. The
conflict is with something that stood in the draft, and what was added is the part of the predicate
before it. -/
structure Stops (p : Predicate) (draft : Draft) (step : Segment) (path inside : Path) (after : Draft)
    (conflict : Conflict) : Prop where
  path_eq : conflict.path = path ++ inside
  stood : ∃ v, draft.view? (step :: inside) = some v
  untouched : inside = [] → after = draft
  placed : inside ≠ [] → place (p.before inside) draft step path = (after, none)
  cut : inside ≠ [] → CutAt (entries path (p.before inside)) (entries path p) conflict.path

/-- A predicate that cannot be placed is placed up to a conflict. -/
def PlaceStops (p : Predicate) : Prop :=
  ∀ (draft after : Draft) (step : Segment) (path : Path) (conflict : Conflict),
    place p draft step path = (after, some conflict) →
      ∃ inside, Stops p draft step path inside after conflict

theorem Stops.here {p : Predicate} {clash : Clash} (h : draft.member? step = some member) :
    Stops p draft step path [] draft ⟨path, clash⟩ where
  path_eq := (List.append_nil path).symm
  stood := exists_view?_of_member? h
  untouched := fun _ => rfl
  placed := fun hne => absurd rfl hne
  cut := fun hne => absurd rfl hne

theorem placeFinished_stops {p : Predicate}
    (h : placeFinished p draft step path = (after, some conflict)) :
    Stops p draft step path [] after conflict := by
  cases hmember : draft.member? step with
  | none =>
    rw [placeFinished_of_none hmember] at h
    cases h
  | some member =>
    rw [placeFinished, finish, hmember] at h
    cases member with
    | _ =>
      cases h
      exact Stops.here hmember

/-! ## Fields up to a conflict -/

section Tables

variable {κ : Type} {toStep : κ → Segment} {fields : List (κ × Predicate)}

/-- Adds the fields of a group, or of an index group, up to the first conflict. -/
def placeAll (toStep : κ → Segment) :
    List (κ × Predicate) → Draft → Path → Draft × Option Conflict
  | [], draft, _ => (draft, none)
  | (key, p) :: rest, draft, path =>
    match place p draft (toStep key) (path ++ [toStep key]) with
    | (draft, some conflict) => (draft, some conflict)
    | (draft, none) => placeAll toStep rest draft path

theorem placeFields_eq (fields : List (String × Predicate)) (draft : Draft) (path : Path) :
    placeFields fields draft path = placeAll .key fields draft path := by
  induction fields generalizing draft with
  | nil => rw [placeFields, placeAll]
  | cons f rest ih =>
    obtain ⟨key, p⟩ := f
    rw [placeFields, placeAll]
    cases place p draft (.key key) (path ++ [.key key]) with
    | mk next conflict? =>
      cases conflict? with
      | none => exact ih next
      | some conflict => rfl

theorem placeItems_eq (fields : List (Int × Predicate)) (draft : Draft) (path : Path) :
    placeItems fields draft path = placeAll .index fields draft path := by
  induction fields generalizing draft with
  | nil => rw [placeItems, placeAll]
  | cons f rest ih =>
    obtain ⟨position, p⟩ := f
    rw [placeItems, placeAll]
    cases place p draft (.index position) (path ++ [.index position]) with
    | mk next conflict? =>
      cases conflict? with
      | none => exact ih next
      | some conflict => rfl

variable [DecidableEq κ]

/-- Fields are placed up to a conflict, to which `rest` leads from the field at the key `last`. -/
structure TableStops (toStep : κ → Segment) (fields : List (κ × Predicate)) (draft : Draft)
    (path : Path) (last : κ) (rest : Path) (after : Draft) (conflict : Conflict) : Prop where
  mem : last ∈ fields.map Prod.fst
  path_eq : conflict.path = path ++ toStep last :: rest
  stood : ∃ v, draft.view? (toStep last :: rest) = some v
  placed : placeAll toStep (tableBefore last rest fields) draft path = (after, none)
  cut : CutAt (tableEntries toStep path (tableBefore last rest fields))
    (tableEntries toStep path fields) conflict.path

variable {key last : κ} {p : Predicate} {others : List (κ × Predicate)} {rest : Path} {next : Draft}

/-- A conflict in the first field. -/
theorem TableStops.first
    (h : Stops p draft (toStep key) (path ++ [toStep key]) rest after conflict) :
    TableStops toStep ((key, p) :: others) draft path key rest after conflict := by
  refine ⟨List.mem_cons_self, by rw [h.path_eq, List.append_assoc, List.singleton_append], h.stood,
    ?_, ?_⟩
  · rw [tableBefore, if_pos rfl]
    split
    · next hrest => rw [placeAll, h.untouched hrest]
    · next hrest => simp only [placeAll, h.placed hrest]
  · rw [tableBefore, if_pos rfl]
    split
    · next hrest =>
      obtain ⟨v, more, heq⟩ := exists_entries_eq (path ++ [toStep key]) p
      refine ⟨v, more ++ tableEntries toStep path others, ?_⟩
      rw [h.path_eq, hrest, List.append_nil, tableEntries_cons, heq]
      rfl
    · next hrest =>
      rw [tableEntries_cons, tableEntries_cons, tableEntries, List.flatMap_nil, List.append_nil]
      exact (h.cut hrest).append_right _

/-- A conflict in a later field: the first one is placed as a whole. -/
theorem TableStops.later (hinjective : Function.Injective toStep) (hne : key ≠ last)
    (hplace : place p draft (toStep key) (path ++ [toStep key]) = (next, none))
    (h : TableStops toStep others next path last rest after conflict) :
    TableStops toStep ((key, p) :: others) draft path last rest after conflict := by
  have hbefore : tableBefore last rest ((key, p) :: others) =
      (key, p) :: tableBefore last rest others := by rw [tableBefore, if_neg hne]
  refine ⟨List.mem_cons_of_mem _ h.mem, h.path_eq, ?_, ?_, ?_⟩
  · obtain ⟨v, hview⟩ := h.stood
    have hsteps : toStep last ≠ toStep key := fun heq => hne (hinjective heq.symm)
    have hmember := member?_place_of_ne hsteps p draft (path ++ [toStep key])
    rw [hplace] at hmember
    refine ⟨v, ?_⟩
    rwa [view?, at?, ← hmember]
  · rw [hbefore, placeAll, hplace]
    exact h.placed
  · rw [hbefore, tableEntries_cons, tableEntries_cons]
    exact h.cut.append_left _

theorem placeAll_stops (hinjective : Function.Injective toStep) (ih : ∀ f ∈ fields, PlaceStops f.2)
    (hdistinct : Table.Distinct fields)
    (h : placeAll toStep fields draft path = (after, some conflict)) :
    ∃ last rest, TableStops toStep fields draft path last rest after conflict := by
  induction fields generalizing draft with
  | nil => cases h
  | cons f others ihothers =>
    obtain ⟨key, p⟩ := f
    rw [List.forall_mem_cons] at ih
    obtain ⟨hkey, hothers⟩ := List.nodup_cons.mp hdistinct
    rcases hplace : place p draft (toStep key) (path ++ [toStep key]) with ⟨next, _ | found⟩
    · rw [placeAll, hplace] at h
      obtain ⟨last, rest, hstops⟩ := ihothers ih.2 hothers h
      have hne : key ≠ last := fun heq => hkey (heq ▸ hstops.mem)
      exact ⟨last, rest, hstops.later hinjective hne hplace⟩
    · rw [placeAll, hplace] at h
      cases h
      obtain ⟨inside, hstops⟩ := ih.1 _ _ _ _ _ hplace
      exact ⟨key, inside, .first hstops⟩

/-- Fields that are placed in a member up to a conflict. -/
theorem TableStops.inside {q : Predicate} {inner filled : Draft} {isIndexGroup : Bool}
    (h : TableStops toStep fields inner path last rest filled conflict)
    (henter : draft.enter step isIndexGroup = .ok inner)
    (hplaced : place (q.before (toStep last :: rest)) draft step path = (put filled draft step, none))
    (hcut : CutAt (entries path (q.before (toStep last :: rest))) (entries path q) conflict.path) :
    Stops q draft step path (toStep last :: rest) (put filled draft step) conflict := by
  obtain ⟨v, hview⟩ := h.stood
  refine ⟨h.path_eq, ⟨v, ?_⟩, fun hnil => ?_, fun _ => hplaced, fun _ => hcut⟩
  · rw [view?_cons_of_some (member?_of_enter henter hview), hview]
  · cases hnil

end Tables

/-! ## Placing and following up to a conflict -/

theorem place_stops {p : Predicate} (h : p.WellFormed) : PlaceStops p := by
  induction p with
  | group fields negated ih _ =>
    obtain ⟨hdistinct, hfields, -⟩ := (wellFormed_group _ _).mp h
    intro draft after step path conflict hplace
    rw [place] at hplace
    cases henter : draft.enter step false with
    | error clash =>
      rw [henter] at hplace
      cases hplace
      obtain ⟨member, hmember⟩ := member?_of_enter_eq_error henter
      exact ⟨[], .here hmember⟩
    | ok inner =>
      rw [henter] at hplace
      dsimp only at hplace
      rcases hinner : placeFields fields inner path with ⟨filled, _ | found⟩
      · rw [hinner] at hplace
        cases hplace
      · rw [hinner] at hplace
        cases hplace
        rw [placeFields_eq] at hinner
        obtain ⟨last, rest, hstops⟩ := placeAll_stops (fun _ _ => Segment.key.inj)
          (fun f hf => ih f hf (hfields f hf)) hdistinct hinner
        refine ⟨.key last :: rest, hstops.inside henter ?_ ?_⟩
        · rw [Predicate.before, place, henter]
          dsimp only
          rw [placeFields_eq, fieldsBefore_eq, hstops.placed]
          dsimp only
          rw [negateAll_nil]
        · rw [Predicate.before, entries, entries, fieldsBefore_eq, fieldEntries_eq, fieldEntries_eq,
            List.map_nil, List.append_nil]
          exact (hstops.cut.append_left [(path, .shown .compound)]).append_right _
  | indexGroup fields ih =>
    obtain ⟨hdistinct, hfields⟩ := (wellFormed_indexGroup _).mp h
    intro draft after step path conflict hplace
    rw [place] at hplace
    cases henter : draft.enter step true with
    | error clash =>
      rw [henter] at hplace
      cases hplace
      obtain ⟨member, hmember⟩ := member?_of_enter_eq_error henter
      exact ⟨[], .here hmember⟩
    | ok inner =>
      rw [henter] at hplace
      dsimp only at hplace
      rcases hinner : placeItems fields inner path with ⟨filled, _ | found⟩
      · rw [hinner] at hplace
        cases hplace
      · rw [hinner] at hplace
        cases hplace
        rw [placeItems_eq] at hinner
        obtain ⟨last, rest, hstops⟩ := placeAll_stops (fun _ _ => Segment.index.inj)
          (fun f hf => ih f hf (hfields f hf)) hdistinct hinner
        refine ⟨.index last :: rest, hstops.inside henter ?_ ?_⟩
        · rw [Predicate.before, place, henter]
          dsimp only
          rw [placeItems_eq, itemsBefore_eq, hstops.placed]
        · rw [Predicate.before, entries, entries, itemsBefore_eq, indexEntries_eq, indexEntries_eq]
          exact hstops.cut.append_left [(path, .shown .list)]
  | _ =>
    intro draft after step path conflict hplace
    exact ⟨[], placeFinished_stops hplace⟩

/-- A path is followed to a conflict on it, and then nothing has changed, or the predicate at its end
is placed up to a conflict. -/
theorem follow_stops {p : Predicate} (h : p.WellFormed) {before rest : Path}
    (hfollow : follow p draft before (step :: rest) = (after, some conflict)) :
    ∃ onward, conflict.path = before ++ step :: onward ∧
      (∃ v, draft.view? (step :: onward) = some v) ∧
      (onward <+: rest ∧ after = draft ∨
        ∃ inside, inside ≠ [] ∧ onward = rest ++ inside ∧
          follow (p.before inside) draft before (step :: rest) = (after, none) ∧
          CutAt (entries (before ++ step :: rest) (p.before inside))
            (entries (before ++ step :: rest) p) conflict.path) := by
  induction rest generalizing draft after step before with
  | nil =>
    rw [follow] at hfollow
    obtain ⟨inside, hstops⟩ := place_stops h _ _ _ _ _ hfollow
    refine ⟨inside, by rw [hstops.path_eq, List.append_assoc, List.singleton_append],
      hstops.stood, ?_⟩
    by_cases hinside : inside = []
    · exact .inl ⟨hinside ▸ List.prefix_rfl, hstops.untouched hinside⟩
    · refine .inr ⟨inside, hinside, rfl, ?_, hstops.cut hinside⟩
      rw [follow, hstops.placed hinside]
  | cons next rest ih =>
    rw [follow] at hfollow
    cases henter : draft.enter step next.isIndex with
    | error clash =>
      rw [henter] at hfollow
      cases hfollow
      obtain ⟨member, hmember⟩ := member?_of_enter_eq_error henter
      exact ⟨[], rfl, exists_view?_of_member? hmember, .inl ⟨List.nil_prefix, rfl⟩⟩
    | ok inner =>
      rw [henter] at hfollow
      dsimp only at hfollow
      rcases hinner : follow p inner (before ++ [step]) (next :: rest) with ⟨filled, _ | found⟩
      · rw [hinner] at hfollow
        cases hfollow
      · rw [hinner] at hfollow
        cases hfollow
        obtain ⟨onward, hpath, ⟨v, hview⟩, hends⟩ := ih hinner
        -- the conflict stood in the member, so the member is none that was made on the way
        have hmember := member?_of_enter henter hview
        rw [← List.append_cons] at hpath
        refine ⟨next :: onward, hpath, ⟨v, by rw [view?_cons_of_some hmember, hview]⟩, ?_⟩
        rcases hends with ⟨halong, rfl⟩ | ⟨inside, hinside, rfl, hadded, hcut⟩
        · exact .inl ⟨List.cons_prefix_cons.mpr ⟨rfl, halong⟩, put_of_member? hmember⟩
        · rw [← List.append_cons] at hcut
          refine .inr ⟨inside, hinside, rfl, ?_, hcut⟩
          rw [follow, henter]
          dsimp only
          rw [hadded]

end Draft

end TreePredicate
