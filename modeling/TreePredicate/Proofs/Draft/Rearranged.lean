import TreePredicate.Proofs.Draft.View
import TreePredicate.Proofs.Predicate.Rearranged
import TreePredicate.Proofs.Table.Related

/-!
# Drafts that look alike

* `Draft.Kept` : what every way of changing a draft keeps, fields and calls keep;
* `Draft.NoneTwice` : no group in the making has two members of one name, which is kept;
* `Draft.Alike` : two drafts show the same at every path, with the same negated fields in any order;
* `rearranged_build` : the groups built of alike drafts differ in order only.
-/

set_option autoImplicit false

namespace TreePredicate.Draft

open Predicate

variable {draft other inner after : Draft} {step : Segment}

/-! ## Induction over drafts -/

theorem sizeOf_member_lt {κ : Type} [SizeOf κ] {members : List (κ × Draft)} {m : κ × Draft}
    (h : m ∈ members) : sizeOf m.2 < sizeOf members := by
  have hlt := List.sizeOf_lt_of_mem h
  obtain ⟨k, d⟩ := m
  rw [Prod.mk.sizeOf_spec] at hlt
  show sizeOf d < sizeOf members
  omega

/-- Induction over drafts. The hypotheses of a case cover the members by membership. -/
@[induction_eliminator]
theorem induct {motive : Draft → Prop} (finished : ∀ p, motive (.finished p))
    (group : ∀ members negated, (∀ m ∈ members, motive m.2) → motive (.group members negated))
    (indexGroup : ∀ members, (∀ m ∈ members, motive m.2) → motive (.indexGroup members)) :
    ∀ draft, motive draft
  | .finished p => finished p
  | .group members negated =>
    group members negated fun m hm => by
      have := sizeOf_member_lt hm
      exact induct finished group indexGroup m.2
  | .indexGroup members =>
    indexGroup members fun m hm => by
      have := sizeOf_member_lt hm
      exact induct finished group indexGroup m.2
termination_by draft => sizeOf draft
decreasing_by all_goals (simp only [Draft.group.sizeOf_spec, Draft.indexGroup.sizeOf_spec]; omega)

/-! ## What changes keep -/

/-- A property of drafts that their members have, and that a new container, a finished predicate, a
changed member and more negated fields keep. -/
structure Kept (P : Draft → Prop) : Prop where
  finished : ∀ p, P (.finished p)
  container : ∀ isIndexGroup, P (container isIndexGroup)
  member : ∀ {draft step member}, P draft → draft.member? step = some member → P member
  put : ∀ {draft member}, P draft → P member → ∀ step, P (put member draft step)
  negateAll : ∀ {draft}, P draft → ∀ negated, P (negateAll negated draft)

namespace Kept

variable {P : Draft → Prop}

theorem enter (hP : Kept P) (h : P draft) {isIndexGroup : Bool}
    (henter : draft.enter step isIndexGroup = .ok inner) : P inner := by
  obtain ⟨-, ⟨-, rfl⟩ | hmember⟩ := enter_eq_ok henter
  · exact hP.container isIndexGroup
  · exact hP.member h hmember

theorem placeFinished (hP : Kept P) {p : Predicate} {path : Path} (h : P draft)
    (hplace : placeFinished p draft step path = (after, none)) : P after := by
  obtain ⟨-, rfl⟩ := placeFinished_done hplace
  exact hP.put h (hP.finished p) step

/-- Placing a predicate keeps a property. -/
def ByPlace (P : Draft → Prop) (p : Predicate) : Prop :=
  ∀ draft after step path, P draft → place p draft step path = (after, none) → P after

theorem placeFields {fields : List (String × Predicate)} (ih : ∀ f ∈ fields, ByPlace P f.2)
    {path : Path} (h : P draft) (hplace : placeFields fields draft path = (after, none)) :
    P after := by
  induction fields generalizing draft with
  | nil =>
    cases hplace
    exact h
  | cons f rest ihrest =>
    rw [List.forall_mem_cons] at ih
    obtain ⟨next, hfirst, hrest⟩ := placeFields_cons_done hplace
    exact ihrest ih.2 (ih.1 _ _ _ _ h hfirst) hrest

theorem placeItems {fields : List (Int × Predicate)} (ih : ∀ f ∈ fields, ByPlace P f.2)
    {path : Path} (h : P draft) (hplace : placeItems fields draft path = (after, none)) :
    P after := by
  induction fields generalizing draft with
  | nil =>
    cases hplace
    exact h
  | cons f rest ihrest =>
    rw [List.forall_mem_cons] at ih
    obtain ⟨next, hfirst, hrest⟩ := placeItems_cons_done hplace
    exact ihrest ih.2 (ih.1 _ _ _ _ h hfirst) hrest

theorem place (hP : Kept P) (p : Predicate) : ByPlace P p := by
  induction p with
  | group fields negated ih _ =>
    intro draft after step path h hplace
    obtain ⟨inner, filled, henter, hfill, rfl⟩ := place_group_done hplace
    exact hP.put h (hP.negateAll (placeFields ih (hP.enter h henter) hfill) negated) step
  | indexGroup fields ih =>
    intro draft after step path h hplace
    obtain ⟨inner, filled, henter, hfill, rfl⟩ := place_indexGroup_done hplace
    exact hP.put h (placeItems ih (hP.enter h henter) hfill) step
  | _ => exact fun _ _ _ _ h hplace => hP.placeFinished h hplace

theorem follow (hP : Kept P) (p : Predicate) {before path : Path} (h : P draft)
    (hfollow : follow p draft before path = (after, none)) : P after := by
  induction path generalizing draft after before with
  | nil =>
    cases hfollow
    exact h
  | cons step path ih =>
    cases path with
    | nil => exact hP.place p _ _ _ _ h hfollow
    | cons next rest =>
      obtain ⟨inner, filled, henter, hfilled, rfl⟩ := follow_cons_done hfollow
      exact hP.put h (ih (hP.enter h henter) hfilled) step

theorem call (hP : Kept P) {c : Call} (h : P draft) (hcall : draft.call? c = some after) :
    P after := by
  cases c with
  | add path p => exact hP.follow p h (call?_add_done hcall)
  | negate path p =>
    cases hcall
    exact hP.negateAll h _

theorem calls (hP : Kept P) {calls : List Call} (h : P draft)
    (hcalls : draft.calls? calls = some after) : P after := by
  induction calls generalizing draft with
  | nil =>
    cases hcalls
    exact h
  | cons c rest ih =>
    obtain ⟨next, hnext, hrest⟩ := Option.bind_eq_some_iff.mp hcalls
    exact ih (hP.call h hnext) hrest

end Kept

/-! ## Distinct members -/

/-- No two members of a draft have one name, or one position. -/
def DistinctMembers : Draft → Prop
  | .finished _ => True
  | .group members _ => Table.Distinct members
  | .indexGroup members => Table.Distinct members

/-- No group in the making, here or further inside, has two members of one name. -/
def NoneTwice (draft : Draft) : Prop := ∀ path inner, draft.at? path = some inner → inner.DistinctMembers

theorem NoneTwice.here (h : NoneTwice draft) : draft.DistinctMembers := h [] draft rfl

theorem noneTwice_of_members (h : draft.DistinctMembers)
    (hmembers : ∀ step member, draft.member? step = some member → NoneTwice member) :
    NoneTwice draft := by
  intro path inner hat
  cases path with
  | nil =>
    cases hat
    exact h
  | cons step rest =>
    obtain ⟨member, hmember, hinner⟩ := Option.bind_eq_some_iff.mp hat
    exact hmembers step member hmember rest inner hinner

theorem NoneTwice.member (h : NoneTwice draft) (hmember : draft.member? step = some inner) :
    NoneTwice inner := by
  intro path innermost hat
  refine h (step :: path) innermost ?_
  rw [at?, hmember]
  exact hat

theorem distinctMembers_put (h : draft.DistinctMembers) (member : Draft) (step : Segment) :
    (put member draft step).DistinctMembers := by
  cases draft with
  | finished p => exact trivial
  | group members negated =>
    cases step with
    | key key => exact Table.Distinct.insert h key member
    | index position => exact h
  | indexGroup members =>
    cases step with
    | key key => exact h
    | index position => exact Table.Distinct.insert h position member

/-- The members after a change are the changed one and the others. -/
theorem member?_put_cases {changed : Draft} {place : Segment}
    (h : (put changed draft place).member? step = some inner) :
    inner = changed ∨ draft.member? step = some inner := by
  by_cases hstep : step = place
  · subst hstep
    by_cases hkind : draft.kind? = some step.isIndex
    · rw [member?_put hkind] at h
      exact .inl (Option.some.inj h).symm
    · -- a step of the wrong kind changes nothing
      right
      cases draft <;> cases step <;> first | exact h | exact absurd rfl hkind
  · rw [member?_put_of_ne hstep] at h
    exact .inr h

theorem kept_noneTwice : Kept NoneTwice where
  finished := fun p => noneTwice_of_members trivial fun step member hmember => by cases hmember
  container := fun isIndexGroup => by
    refine noneTwice_of_members ?_ fun step member hmember => ?_
    · cases isIndexGroup <;> exact Table.distinct_nil
    · rw [member?_container] at hmember
      cases hmember
  member := fun h hmember => h.member hmember
  put := fun {draft member} h hmember step => by
    refine noneTwice_of_members (distinctMembers_put h.here member step) fun other inner hinner => ?_
    rcases member?_put_cases hinner with rfl | hold
    · exact hmember
    · exact h.member hold
  negateAll := fun {draft} h negated => by
    refine noneTwice_of_members ?_ fun step member hmember => ?_
    · have hhere := h.here
      cases draft <;> exact hhere
    · rw [member?_negateAll] at hmember
      exact h.member hmember

/-! ## Alike drafts -/

/-- Two drafts show the same at every path, and have the same negated fields there in any order. -/
structure Alike (draft other : Draft) : Prop where
  view : ∀ path, draft.view? path = other.view? path
  negated : ∀ path, (draft.negatedAt path).Perm (other.negatedAt path)

theorem Alike.symm (h : Alike draft other) : Alike other draft where
  view := fun path => (h.view path).symm
  negated := fun path => (h.negated path).symm

theorem Alike.member (h : Alike draft other) (hmember : draft.member? step = some inner) :
    ∃ inner', other.member? step = some inner' ∧ Alike inner inner' := by
  cases hother : other.member? step with
  | none =>
    have hview := h.view [step]
    rw [view?_cons_of_some hmember, view?_cons_of_none hother] at hview
    cases hview
  | some inner' =>
    refine ⟨inner', rfl, fun path => ?_, fun path => ?_⟩
    · rw [← view?_cons_of_some hmember, ← view?_cons_of_some hother, h.view]
    · rw [← negatedAt_cons_of_some hmember, ← negatedAt_cons_of_some hother]
      exact h.negated (step :: path)

/-- The members of alike drafts, once put into the order of the other, are rearranged one by one. -/
theorem exists_rearranged {κ : Type} [DecidableEq κ] {members others : List (κ × Draft)}
    (toStep : κ → Segment) (h : Alike draft other) (hdistinct : Table.Distinct members)
    (hdistinct' : Table.Distinct others)
    (hmembers : ∀ key, draft.member? (toStep key) = Table.find? key members)
    (hothers : ∀ key, other.member? (toStep key) = Table.find? key others)
    (hinner : ∀ m ∈ members, ∀ inner, draft.member? (toStep m.1) = some m.2 →
      other.member? (toStep m.1) = some inner → Alike m.2 inner →
        Rearranged m.2.build inner.build) :
    ∃ chosen : List (κ × Predicate),
      List.Forall₂ (fun f g => f.1 = g.1 ∧ Rearranged f.2 g.2)
        (members.map fun m => (m.1, m.2.build)) chosen ∧
      chosen.Perm (others.map fun m => (m.1, m.2.build)) := by
  have hmap : ∀ ms : List (κ × Draft),
      (ms.map fun m => (m.1, m.2.build)).map Prod.fst = ms.map Prod.fst := fun ms => by
    rw [List.map_map]
    rfl
  refine Table.exists_perm ((distinct_map_build members).mpr hdistinct)
    ((distinct_map_build others).mpr hdistinct') ?_ ?_
  · rw [List.forall_mem_map]
    intro m hm
    have hmember := (hmembers m.1).trans (Table.find?_eq_of_mem hdistinct hm)
    obtain ⟨inner, hinner', halike⟩ := h.member hmember
    refine ⟨inner.build, ?_, hinner m hm inner hmember hinner' halike⟩
    rw [Table.find?_map, ← hothers, hinner', Option.map_some]
  · rw [hmap, hmap]
    intro key hkey
    obtain ⟨m, hm, rfl⟩ := List.mem_map.mp hkey
    obtain ⟨inner, hinner', -⟩ :=
      h.symm.member ((hothers m.1).trans (Table.find?_eq_of_mem hdistinct' hm))
    rw [hmembers] at hinner'
    exact List.mem_map.mpr ⟨_, Table.mem_of_find? hinner', rfl⟩

/-- The groups built of alike drafts differ in order only. -/
theorem rearranged_build (hdraft : NoneTwice draft) (hother : NoneTwice other)
    (h : Alike draft other) : Rearranged draft.build other.build := by
  induction draft generalizing other with
  | finished p =>
    have hview := h.view []
    cases other <;> cases hview
    exact .refl _
  | group members negated ih =>
    have hview := h.view []
    cases other with
    | finished p => cases hview
    | indexGroup others => cases hview
    | group others negated' =>
      obtain ⟨chosen, hchosen, hperm⟩ := exists_rearranged Segment.key h hdraft.here hother.here
        (fun _ => rfl) (fun _ => rfl) fun m hm inner hmember hinner =>
          ih m hm (hdraft.member hmember) (hother.member hinner)
      rw [build, build, buildMembers_eq_map, buildMembers_eq_map]
      exact ((Rearranged.ofFields hchosen negated).trans (.fields negated hperm)).trans
        (.negated _ (h.negated []))
  | indexGroup members ih =>
    have hview := h.view []
    cases other with
    | finished p => cases hview
    | group others negated' => cases hview
    | indexGroup others =>
      obtain ⟨chosen, hchosen, hperm⟩ := exists_rearranged Segment.index h hdraft.here hother.here
        (fun _ => rfl) (fun _ => rfl) fun m hm inner hmember hinner =>
          ih m hm (hdraft.member hmember) (hother.member hinner)
      rw [build, build, buildItems_eq_map, buildItems_eq_map]
      exact (Rearranged.ofItems hchosen).trans (.items hperm)

end TreePredicate.Draft
