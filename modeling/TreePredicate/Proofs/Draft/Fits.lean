import TreePredicate.Notation.Grammar
import TreePredicate.Proofs.Draft.Meaning
import TreePredicate.Proofs.Predicate.Regular

/-!
# Drafts of regular predicates

Adding fields keeps the predicates of a draft regular, and nested no deeper than the added fields
with their paths are.

* `Fits` : a predicate is regular everywhere and nested at most so deep;
* `Inside` : what a group or an index group in the making holds fits in;
* `inside_put`, `inside_enter` : changing a member, and going into it;
* `inside_place`, `inside_follow` : adding a predicate;
* `inside_addField` : adding a field.
-/

set_option autoImplicit false

namespace TreePredicate.Draft

open Predicate Notation

/-! ## What fits -/

/-- A predicate is regular everywhere and nested at most so deep. -/
structure Fits (n : Nat) (p : Predicate) : Prop where
  regular : Everywhere Regular p
  depth : p.depth ≤ n

/-- A negated field fits in. -/
structure FitsNegated (n : Nat) (f : Path × Predicate) : Prop where
  field : RegularNegated f
  regular : Everywhere Regular f.2
  depth : f.1.length - 1 + f.2.depth ≤ n

/-- The position of a step can be read. -/
def ReadableStep : Segment → Prop
  | .key _ => True
  | .index position => (Number.int position).Readable

/-- What a group or an index group in the making holds fits in. -/
def Inside (n : Nat) : Draft → Prop
  | .finished _ => False
  | .group members negated =>
    Table.Distinct members ∧ (∀ m ∈ members, Fits n m.2.build) ∧ ∀ f ∈ negated, FitsNegated n f
  | .indexGroup members =>
    Table.Distinct members ∧ ∀ m ∈ members, (Number.int m.1).Readable ∧ Fits n m.2.build

/-- An index group in the making that has members, or another draft. -/
def Filled : Draft → Prop
  | .indexGroup members => members ≠ []
  | _ => True

theorem fits_build {n : Nat} {draft : Draft} (h : Inside n draft) (hfilled : Filled draft) :
    Fits (n + 1) draft.build := by
  cases draft with
  | finished p => cases h
  | group members negated =>
    obtain ⟨hdistinct, hmembers, hnegated⟩ := h
    rw [build, buildMembers_eq_map]
    constructor
    · refine everywhere_group.mpr ⟨⟨(distinct_map_build members).mpr hdistinct,
        fun f hf => (hnegated f hf).field⟩, ?_, fun f hf => (hnegated f hf).regular⟩
      exact List.forall_mem_map.mpr fun m hm => (hmembers m hm).regular
    · refine depth_group_le.mpr ⟨Nat.succ_pos n, ?_, fun f hf => (hnegated f hf).depth⟩
      exact List.forall_mem_map.mpr fun m hm => (hmembers m hm).depth
  | indexGroup members =>
    obtain ⟨hdistinct, hmembers⟩ := h
    rw [build, buildItems_eq_map]
    constructor
    · refine everywhere_indexGroup.mpr ⟨⟨(distinct_map_build members).mpr hdistinct, ?_, ?_⟩, ?_⟩
      · exact mt List.map_eq_nil_iff.mp hfilled
      · exact List.forall_mem_map.mpr fun m hm => (hmembers m hm).1
      · exact List.forall_mem_map.mpr fun m hm => (hmembers m hm).2.regular
    · refine depth_indexGroup_le.mpr ⟨Nat.succ_pos n, ?_⟩
      exact List.forall_mem_map.mpr fun m hm => (hmembers m hm).2.depth

theorem inside_of_fits {n : Nat} {draft : Draft} {isIndexGroup : Bool}
    (hkind : draft.kind? = some isIndexGroup) (h : Fits n draft.build) :
    0 < n ∧ Inside (n - 1) draft := by
  obtain ⟨hregular, hdepth⟩ := h
  cases draft with
  | finished p => cases hkind
  | group members negated =>
    rw [build, buildMembers_eq_map] at hregular hdepth
    obtain ⟨⟨hdistinct, hfields⟩, hmembers, hnegated⟩ := everywhere_group.mp hregular
    obtain ⟨hpos, hmdepth, hndepth⟩ := depth_group_le.mp hdepth
    rw [List.forall_mem_map] at hmembers hmdepth
    exact ⟨hpos, (distinct_map_build members).mp hdistinct,
      fun m hm => ⟨hmembers m hm, hmdepth m hm⟩,
      fun f hf => ⟨hfields f hf, hnegated f hf, hndepth f hf⟩⟩
  | indexGroup members =>
    rw [build, buildItems_eq_map] at hregular hdepth
    obtain ⟨⟨hdistinct, -, hpositions⟩, hmembers⟩ := everywhere_indexGroup.mp hregular
    obtain ⟨hpos, hmdepth⟩ := depth_indexGroup_le.mp hdepth
    rw [List.forall_mem_map] at hpositions hmembers hmdepth
    exact ⟨hpos, (distinct_map_build members).mp hdistinct,
      fun m hm => ⟨hpositions m hm, hmembers m hm, hmdepth m hm⟩⟩

theorem inside_container (n : Nat) (isIndexGroup : Bool) : Inside n (container isIndexGroup) := by
  cases isIndexGroup with
  | false => exact ⟨Table.distinct_nil, List.forall_mem_nil _, List.forall_mem_nil _⟩
  | true => exact ⟨Table.distinct_nil, List.forall_mem_nil _⟩

/-! ## Members -/

/-- A member that fits in is put into a draft. -/
theorem inside_put {n : Nat} {draft member : Draft} {step : Segment}
    (hkind : draft.kind? = some step.isIndex) (h : Inside n draft) (hstep : ReadableStep step)
    (hmember : Fits n member.build) :
    Inside n (put member draft step) ∧ Filled (put member draft step) := by
  cases draft with
  | finished p => cases hkind
  | group members negated =>
    cases step with
    | index position => cases hkind
    | key key =>
      obtain ⟨hdistinct, hmembers, hnegated⟩ := h
      have hall : ∀ m ∈ Table.insert key member members, Fits n m.2.build :=
        Table.forall_mem_insert_of (P := fun _ d => Fits n (build d)) hmembers hmember
      exact ⟨⟨hdistinct.insert key member, hall, hnegated⟩, trivial⟩
  | indexGroup members =>
    cases step with
    | key key => cases hkind
    | index position =>
      obtain ⟨hdistinct, hmembers⟩ := h
      exact ⟨⟨hdistinct.insert position member, Table.forall_mem_insert_of
        (P := fun i d => (Number.int i).Readable ∧ Fits n (build d)) hmembers ⟨hstep, hmember⟩⟩,
        Table.insert_ne_nil position member members⟩

theorem fits_member {n : Nat} {draft member : Draft} {step : Segment} (h : Inside n draft)
    (hmember : draft.member? step = some member) : Fits n member.build := by
  cases draft with
  | finished p => cases h
  | group members negated =>
    cases step with
    | key key => exact h.2.1 _ (Table.mem_of_find? hmember)
    | index position => cases hmember
  | indexGroup members =>
    cases step with
    | key key => cases hmember
    | index position => exact (h.2 _ (Table.mem_of_find? hmember)).2

/-- What is gone into fits in one level less. -/
theorem inside_enter {n : Nat} {draft inner : Draft} {step : Segment} {isIndexGroup : Bool}
    (h : Inside n draft) (henter : draft.enter step isIndexGroup = .ok inner) :
    Inside (n - 1) inner := by
  obtain ⟨hkind, ⟨-, rfl⟩ | hmember⟩ := enter_eq_ok henter
  · exact inside_container _ _
  · exact (inside_of_fits hkind (fits_member h hmember)).2

theorem fits_put {n : Nat} {draft inner : Draft} {step : Segment}
    (hkind : draft.kind? = some step.isIndex) (h : Inside n draft) (hstep : ReadableStep step)
    (hpos : 0 < n) (hinner : Inside (n - 1) inner) (hfilled : Filled inner) :
    Inside n (put inner draft step) ∧ Filled (put inner draft step) := by
  apply inside_put hkind h hstep
  have hfits := fits_build hinner hfilled
  rwa [Nat.sub_add_cancel hpos] at hfits

/-! ## Adding predicates -/

/-- Placing a predicate that fits in keeps that what is there does. -/
def PlaceFits (p : Predicate) : Prop :=
  ∀ (n : Nat) (draft after : Draft) (step : Segment) (path : Path),
    draft.kind? = some step.isIndex → Inside n draft → ReadableStep step → Fits n p →
    place p draft step path = (after, none) → Inside n after ∧ Filled after

theorem inside_placeFinished {n : Nat} {p : Predicate} {draft after : Draft} {step : Segment}
    {path : Path} (hkind : draft.kind? = some step.isIndex) (h : Inside n draft)
    (hstep : ReadableStep step) (hp : Fits n p)
    (hplace : placeFinished p draft step path = (after, none)) : Inside n after ∧ Filled after := by
  obtain ⟨-, rfl⟩ := placeFinished_done hplace
  exact inside_put hkind h hstep hp

theorem inside_placeFields {n : Nat} {fields : List (String × Predicate)}
    (ih : ∀ f ∈ fields, PlaceFits f.2) (hfits : ∀ f ∈ fields, Fits n f.2) {draft after : Draft}
    {path : Path} (hkind : draft.kind? = some false) (h : Inside n draft)
    (hplace : placeFields fields draft path = (after, none)) :
    Inside n after ∧ after.kind? = some false := by
  induction fields generalizing draft with
  | nil =>
    cases hplace
    exact ⟨h, hkind⟩
  | cons f rest ihrest =>
    obtain ⟨key, p⟩ := f
    rw [List.forall_mem_cons] at ih hfits
    obtain ⟨next, hfirst, hrest⟩ := placeFields_cons_done hplace
    have hnext := ih.1 n draft next (.key key) _ hkind h trivial hfits.1 hfirst
    have hkind' := (adds_place p draft next (.key key) _ hkind hfirst).kind.trans hkind
    exact ihrest ih.2 hfits.2 hkind' hnext.1 hrest

theorem inside_placeItems {n : Nat} {fields : List (Int × Predicate)}
    (ih : ∀ f ∈ fields, PlaceFits f.2) (hfits : ∀ f ∈ fields, Fits n f.2)
    (hreadable : ∀ f ∈ fields, (Number.int f.1).Readable) {draft after : Draft}
    {path : Path} (hkind : draft.kind? = some true) (h : Inside n draft)
    (hfilled : fields = [] → Filled draft)
    (hplace : placeItems fields draft path = (after, none)) : Inside n after ∧ Filled after := by
  induction fields generalizing draft with
  | nil =>
    cases hplace
    exact ⟨h, hfilled rfl⟩
  | cons f rest ihrest =>
    obtain ⟨position, p⟩ := f
    rw [List.forall_mem_cons] at ih hfits hreadable
    obtain ⟨next, hfirst, hrest⟩ := placeItems_cons_done hplace
    have hnext := ih.1 n draft next (.index position) _ hkind h hreadable.1 hfits.1 hfirst
    have hkind' := (adds_place p draft next (.index position) _ hkind hfirst).kind.trans hkind
    exact ihrest ih.2 hfits.2 hreadable.2 hkind' hnext.1 (fun _ => hnext.2) hrest

theorem inside_negateAll {n : Nat} {draft : Draft} (hkind : draft.kind? = some false)
    (h : Inside n draft) {negated : List (Path × Predicate)}
    (hnegated : ∀ f ∈ negated, FitsNegated n f) :
    Inside n (negateAll negated draft) ∧ Filled (negateAll negated draft) := by
  cases draft with
  | finished p => cases hkind
  | indexGroup members => cases hkind
  | group members earlier =>
    obtain ⟨hdistinct, hmembers, hearlier⟩ := h
    exact ⟨⟨hdistinct, hmembers, List.forall_mem_append.mpr ⟨hearlier, hnegated⟩⟩, trivial⟩

theorem inside_place (p : Predicate) : PlaceFits p := by
  induction p with
  | group fields negated ih _ =>
    intro n draft after step path hkind h hstep hp hplace
    obtain ⟨⟨-, hregular⟩, hfields, hnegated⟩ := everywhere_group.mp hp.regular
    obtain ⟨hpos, hfdepth, hndepth⟩ := depth_group_le.mp hp.depth
    obtain ⟨inner, filled, henter, hfill, rfl⟩ := place_group_done hplace
    obtain ⟨hfilled, hkind'⟩ := inside_placeFields ih (fun f hf => ⟨hfields f hf, hfdepth f hf⟩)
      (enter_eq_ok henter).1 (inside_enter h henter) hfill
    obtain ⟨hall, hmember⟩ := inside_negateAll hkind' hfilled
      fun f hf => ⟨hregular f hf, hnegated f hf, hndepth f hf⟩
    exact fits_put hkind h hstep hpos hall hmember
  | indexGroup fields ih =>
    intro n draft after step path hkind h hstep hp hplace
    obtain ⟨⟨-, hne, hpositions⟩, hfields⟩ := everywhere_indexGroup.mp hp.regular
    obtain ⟨hpos, hfdepth⟩ := depth_indexGroup_le.mp hp.depth
    obtain ⟨inner, filled, henter, hfill, rfl⟩ := place_indexGroup_done hplace
    obtain ⟨hall, hmember⟩ := inside_placeItems ih (fun f hf => ⟨hfields f hf, hfdepth f hf⟩)
      hpositions (enter_eq_ok henter).1 (inside_enter h henter) (fun hnil => absurd hnil hne) hfill
    exact fits_put hkind h hstep hpos hall hmember
  | _ =>
    intro n draft after step path hkind h hstep hp hplace
    exact inside_placeFinished hkind h hstep hp hplace

/-- Adding a predicate at the end of a path takes a level for each step after the first. -/
theorem inside_follow {n : Nat} {p : Predicate} (hp : Everywhere Regular p) {draft after : Draft}
    {step : Segment} {before path : Path} (hkind : draft.kind? = some step.isIndex)
    (h : Inside n draft) (hsteps : ∀ s ∈ step :: path, ReadableStep s)
    (hdepth : path.length + p.depth ≤ n)
    (hfollow : follow p draft before (step :: path) = (after, none)) :
    Inside n after ∧ Filled after := by
  induction path generalizing draft after step before n with
  | nil =>
    rw [follow] at hfollow
    rw [List.length_nil, Nat.zero_add] at hdepth
    exact inside_place p n draft after step _ hkind h (hsteps step List.mem_cons_self) ⟨hp, hdepth⟩
      hfollow
  | cons next rest ih =>
    rw [List.length_cons] at hdepth
    rw [List.forall_mem_cons] at hsteps
    obtain ⟨inner, filled, henter, hinner, rfl⟩ := follow_cons_done hfollow
    obtain ⟨hall, hmember⟩ := ih (enter_eq_ok henter).1 (inside_enter h henter) hsteps.2 (by omega)
      hinner
    exact fits_put hkind h hsteps.1 (by omega) hall hmember

/-- Adding a field to a group in the making keeps that what it holds fits in. -/
theorem inside_addField {n : Nat} {before after : Draft} {negated : Bool} {path : Path}
    {p : Predicate} {offset : Nat} (hkind : before.kind? = some false) (h : Inside n before)
    (hpath : path.StartsWithKey) (hpositions : ReadablePositions path)
    (hp : Everywhere Regular p) (hnot : isIndexGroup p = false)
    (hdepth : path.length - 1 + p.depth ≤ n)
    (hadd : addField before negated path p offset = .ok after) :
    Inside n after ∧ after.kind? = some false := by
  unfold addField at hadd
  split at hadd
  · cases hadd
    have hfits : ∀ f ∈ [(path, p)], FitsNegated n f :=
      List.forall_mem_singleton.mpr ⟨⟨hpath, hpositions, hnot⟩, hp, hdepth⟩
    exact ⟨(inside_negateAll hkind h hfits).1, (kind?_negateAll _ _).trans hkind⟩
  · split at hadd
    · next hfollow =>
      cases hadd
      obtain ⟨key, rest, rfl⟩ := hpath
      have hsteps : ∀ s ∈ .key key :: rest, ReadableStep s := by
        intro s hs
        cases s with
        | key other => trivial
        | index position => exact hpositions position hs
      exact ⟨(inside_follow hp hkind h hsteps hdepth hfollow).1,
        (adds_follow p hkind hfollow).kind.trans hkind⟩
    · cases hadd

end TreePredicate.Draft
