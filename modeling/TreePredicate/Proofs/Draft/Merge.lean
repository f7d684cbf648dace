import TreePredicate.Proofs.Draft.View

/-!
# Adding a field is merging

The draft of one field alone says what the field adds: where both drafts show something, it has to be
a group in both or an index group in both, and then the negated fields come together.

* `Draft.Mergeable`, `Draft.Merged` : two drafts can be merged; a draft is what comes of it;
* `mergeable_merged_iff`, `merged_mergeable_iff` : what can be merged with a merged draft can be
  merged with both of its parts;
* `Draft.Merges` : a change succeeds exactly if two drafts can be merged, and then merges them;
* `merges_enter`, `Merges.andThen` : changes of a member, and changes one after another;
* `merges_place`, `merges_follow` : placing a predicate and adding it at the end of a path.
-/

set_option autoImplicit false

namespace TreePredicate.Draft

open Predicate

/-- A group or an index group. -/
def View.isContainer : View → Bool
  | .leaf _ => false
  | _ => true

/-- What two drafts both show at a path is a group in both, or an index group in both. -/
def Mergeable (draft field : Draft) : Prop :=
  ∀ path v w, draft.view? path = some v → field.view? path = some w → v = w ∧ v.isContainer = true

/-- A draft shows what either of two drafts shows, and has their negated fields. -/
structure Merged (draft field after : Draft) : Prop where
  view : ∀ path v, after.view? path = some v ↔ draft.view? path = some v ∨ field.view? path = some v
  negated : ∀ path, after.negatedAt path = draft.negatedAt path ++ field.negatedAt path

variable {draft field other both after inner filled : Draft} {step : Segment} {isIndexGroup : Bool}

/-- Two groups, or two index groups, show the same at their roots. -/
theorem view_of_kind? {v w : View} (h : draft.kind? = some isIndexGroup)
    (h' : field.kind? = some isIndexGroup) (hv : draft.view? [] = some v)
    (hw : field.view? [] = some w) : v = w ∧ v.isContainer = true := by
  cases draft <;> cases field <;> cases h <;> cases h' <;> cases hv <;> cases hw <;>
    exact ⟨rfl, rfl⟩

/-! ## Merging twice -/

theorem Mergeable.symm (h : Mergeable draft field) : Mergeable field draft := by
  intro path v w hv hw
  obtain ⟨rfl, hcontainer⟩ := h path w v hw hv
  exact ⟨rfl, hcontainer⟩

/-- A draft is merged with two others one after another, or with the two merged. -/
theorem Merged.trans {next : Draft} (h : Merged draft field next) (h' : Merged next other after)
    (hboth : Merged field other both) : Merged draft both after where
  view := fun path v => by rw [h'.view, h.view, hboth.view, or_assoc]
  negated := fun path => by rw [h'.negated, h.negated, hboth.negated, List.append_assoc]

/-- A draft stays of its kind. -/
theorem Merged.kind (h : Merged draft field after) : after.kind? = draft.kind? := by
  have hview := (h.view [] draft.view).mpr (.inl rfl)
  cases draft <;> cases after <;> first | rfl | cases hview

theorem mergeable_merged_iff (h : Merged field other both) :
    Mergeable draft both ↔ Mergeable draft field ∧ Mergeable draft other := by
  constructor
  · intro hboth
    exact ⟨fun path v w hv hw => hboth path v w hv ((h.view path w).mpr (.inl hw)),
      fun path v w hv hw => hboth path v w hv ((h.view path w).mpr (.inr hw))⟩
  · rintro ⟨hfield, hother⟩ path v w hv hw
    rcases (h.view path w).mp hw with hw | hw
    · exact hfield path v w hv hw
    · exact hother path v w hv hw

theorem merged_mergeable_iff (h : Merged field other both) :
    Mergeable both draft ↔ Mergeable field draft ∧ Mergeable other draft := by
  have hsymm : ∀ a b : Draft, Mergeable a b ↔ Mergeable b a := fun a b => ⟨.symm, .symm⟩
  rw [hsymm both, hsymm field, hsymm other]
  exact mergeable_merged_iff h

/-! ## Members -/

/-- A member is merged where it stands. -/
theorem merged_put (hkind : draft.kind? = some step.isIndex)
    (hview : ∀ path v, filled.view? path = some v ↔
      draft.view? (step :: path) = some v ∨ inner.view? path = some v)
    (hnegated : ∀ path, filled.negatedAt path =
      draft.negatedAt (step :: path) ++ inner.negatedAt path) :
    Merged draft (put inner (container step.isIndex) step) (put filled draft step) := by
  have hkind' := kind?_container step.isIndex
  constructor
  · intro path v
    cases path with
    | nil => rw [view?_nil, view?_nil, view?_nil, view_put, view_put, view_container_eq hkind, or_self]
    | cons first rest =>
      by_cases h : first = step
      · subst h
        rw [view?_put hkind, view?_put hkind', hview]
      · rw [view?_put_of_ne h, view?_put_of_ne h, view?_cons_of_none (member?_container _ _)]
        exact (or_iff_left (by simp)).symm
  · intro path
    cases path with
    | nil =>
      rw [negatedAt_nil, negatedAt_nil, negatedAt_nil, negatedFields_put, negatedFields_put,
        ← negatedAt_nil (container _), negatedAt_container, List.append_nil]
    | cons first rest =>
      by_cases h : first = step
      · subst h
        rw [negatedAt_put hkind, negatedAt_put hkind', hnegated]
      · rw [negatedAt_put_of_ne h, negatedAt_put_of_ne h, negatedAt_container, List.append_nil]

theorem merged_put_new (hkind : draft.kind? = some step.isIndex) (hnone : draft.member? step = none) :
    Merged draft (put inner (container step.isIndex) step) (put inner draft step) := by
  refine merged_put hkind (fun path v => ?_) fun path => ?_
  · rw [view?_cons_of_none hnone]
    exact (or_iff_right (by simp)).symm
  · rw [negatedAt_cons_of_none hnone, List.nil_append]

/-- What is merged with a member that was entered is merged with the draft. -/
theorem merged_enter (hkind : draft.kind? = some step.isIndex)
    (henter : draft.enter step isIndexGroup = .ok inner) (hfield : field.kind? = some isIndexGroup)
    (h : Merged inner field filled) :
    Merged draft (put field (container step.isIndex) step) (put filled draft step) := by
  obtain ⟨-, ⟨hnone, rfl⟩ | hsome⟩ := enter_eq_ok henter
  · refine merged_put hkind (fun path v => ?_) fun path => ?_
    · rw [h.view, view?_cons_of_none hnone, or_iff_right_of_imp (view?_of_container hfield)]
      exact (or_iff_right (by simp)).symm
    · rw [h.negated, negatedAt_container, negatedAt_cons_of_none hnone]
  · refine merged_put hkind (fun path v => ?_) fun path => ?_
    · rw [h.view, view?_cons_of_some hsome]
    · rw [h.negated, negatedAt_cons_of_some hsome]

theorem mergeable_put (hkind : draft.kind? = some step.isIndex)
    (h : ∀ path v w, draft.view? (step :: path) = some v → inner.view? path = some w →
      v = w ∧ v.isContainer = true) :
    Mergeable draft (put inner (container step.isIndex) step) := by
  have hkind' := kind?_container step.isIndex
  intro path v w hv hw
  cases path with
  | nil => exact view_of_kind? hkind ((kind?_put _ _ _).trans hkind') hv hw
  | cons first rest =>
    by_cases heq : first = step
    · subst heq
      rw [view?_put hkind'] at hw
      exact h rest v w hv hw
    · rw [view?_put_of_ne heq, view?_cons_of_none (member?_container _ _)] at hw
      cases hw

theorem mergeable_put_new (hkind : draft.kind? = some step.isIndex) (hnone : draft.member? step = none) :
    Mergeable draft (put inner (container step.isIndex) step) := by
  refine mergeable_put hkind fun path v w hv _ => ?_
  rw [view?_cons_of_none hnone] at hv
  cases hv

theorem mergeable_enter (hkind : draft.kind? = some step.isIndex)
    (henter : draft.enter step isIndexGroup = .ok inner) (h : Mergeable inner field) :
    Mergeable draft (put field (container step.isIndex) step) := by
  obtain ⟨-, ⟨hnone, -⟩ | hsome⟩ := enter_eq_ok henter
  · exact mergeable_put_new hkind hnone
  · refine mergeable_put hkind fun path v w hv hw => h path v w ?_ hw
    rwa [view?_cons_of_some hsome] at hv

/-- Where a draft can be merged with a member that is a group, or an index group, there is one to
enter, or can be. -/
theorem exists_enter (hfield : field.kind? = some isIndexGroup)
    (h : Mergeable draft (put field (container step.isIndex) step)) :
    ∃ inner, draft.enter step isIndexGroup = .ok inner ∧ Mergeable inner field := by
  have hmember : ∀ path v w, draft.view? (step :: path) = some v → field.view? path = some w →
      v = w ∧ v.isContainer = true := by
    intro path v w hv hw
    exact h (step :: path) v w hv ((view?_put (kind?_container _) field path).trans hw)
  cases hold : draft.member? step with
  | none =>
    refine ⟨_, enter_of_none hold isIndexGroup, fun path v w hv hw => ?_⟩
    cases path with
    | nil => exact view_of_kind? (kind?_container isIndexGroup) hfield hv hw
    | cons first rest =>
      rw [view?_cons_of_none (member?_container _ _)] at hv
      cases hv
  | some member =>
    have hviews := hmember [] member.view field.view (view?_cons_of_some hold []) (view?_nil field)
    have hmkind : member.kind? = some isIndexGroup := by
      rw [← hfield]
      cases member <;> cases field <;> first | rfl | cases hviews.1
    refine ⟨member, enter_of_member hold hmkind, fun path v w hv hw => ?_⟩
    exact hmember path v w ((view?_cons_of_some hold path).trans hv) hw

/-! ## Fields of groups -/

/-- Two drafts of one kind without a common member are merged by having the members of both. -/
theorem merged_of_members (hfield : field.kind? = some isIndexGroup)
    (hother : other.kind? = some isIndexGroup) (hboth : both.kind? = some isIndexGroup)
    (hnegated : both.negatedFields = field.negatedFields ++ other.negatedFields)
    (hmember : ∀ step, field.member? step = none ∧ both.member? step = other.member? step ∨
      other.member? step = none ∧ both.member? step = field.member? step) :
    Mergeable field other ∧ Merged field other both := by
  refine ⟨fun path v w hv hw => ?_, fun path v => ?_, fun path => ?_⟩
  · cases path with
    | nil => exact view_of_kind? hfield hother hv hw
    | cons step rest =>
      rcases hmember step with ⟨hnone, -⟩ | ⟨hnone, -⟩
      · rw [view?_cons_of_none hnone] at hv
        cases hv
      · rw [view?_cons_of_none hnone] at hw
        cases hw
  · cases path with
    | nil =>
      rw [view?_nil, view?_nil, view?_nil, view_eq_of_kind? hboth hfield,
        view_eq_of_kind? hother hfield, or_self]
    | cons step rest =>
      rcases hmember step with ⟨hnone, heq⟩ | ⟨hnone, heq⟩
      · rw [view?_cons_of_none hnone, view?, at?, heq]
        exact (or_iff_right (by simp)).symm
      · rw [view?_cons_of_none hnone, view?, at?, heq]
        exact (or_iff_left (by simp)).symm
  · cases path with
    | nil => exact hnegated
    | cons step rest =>
      rcases hmember step with ⟨hnone, heq⟩ | ⟨hnone, heq⟩
      · rw [negatedAt_cons_of_none hnone, negatedAt, at?, heq]
        rfl
      · rw [negatedAt_cons_of_none hnone, negatedAt, at?, heq, List.append_nil]
        rfl

theorem merged_container (hkind : draft.kind? = some isIndexGroup) :
    Merged draft (container isIndexGroup) draft where
  view := fun path v => (or_iff_left_of_imp (view?_of_container hkind)).symm
  negated := fun path => by rw [negatedAt_container, List.append_nil]

/-- The draft of one field is merged with a draft without the field by having it as well. -/
theorem merged_fieldDraft {p : Predicate} (hother : other.kind? = some step.isIndex)
    (hboth : both.kind? = some step.isIndex) (hnegated : both.negatedFields = other.negatedFields)
    (hnone : other.member? step = none) (hhere : both.member? step = some (ofPredicate p))
    (helse : ∀ s, s ≠ step → both.member? s = other.member? s) :
    Mergeable (fieldDraft p [step]) other ∧ Merged (fieldDraft p [step]) other both := by
  refine merged_of_members (kind?_fieldDraft p step []) hother hboth ?_ fun s => ?_
  · rw [fieldDraft, negatedFields_put, ← negatedAt_nil (container _), negatedAt_container, hnegated,
      List.nil_append]
  · by_cases h : s = step
    · subst h
      refine .inr ⟨hnone, ?_⟩
      rw [hhere, fieldDraft, member?_put (kind?_container _)]
      rfl
    · refine .inl ⟨?_, helse s h⟩
      rw [fieldDraft, member?_put_of_ne h, member?_container]

theorem merged_fields_cons {key : String} {p : Predicate} {rest : List (String × Predicate)}
    (h : Table.Distinct ((key, p) :: rest)) :
    Mergeable (fieldDraft p [.key key]) (.group (ofFields rest) []) ∧
      Merged (fieldDraft p [.key key]) (.group (ofFields rest) [])
        (.group (ofFields ((key, p) :: rest)) []) := by
  have hkey : Table.find? key rest = none :=
    Table.find?_eq_none_of_not_mem (List.nodup_cons.mp h).1
  refine merged_fieldDraft rfl rfl rfl ?_ ?_ fun s hs => ?_
  · rw [member?_ofFields, hkey, Option.map_none]
  · rw [member?_ofFields, Table.find?_cons_self, Option.map_some]
  · cases s with
    | index position => rfl
    | key other =>
      have hne : key ≠ other := fun heq => hs (congrArg Segment.key heq.symm)
      rw [member?_ofFields, member?_ofFields, Table.find?_cons_of_ne hne]

theorem merged_items_cons {position : Int} {p : Predicate} {rest : List (Int × Predicate)}
    (h : Table.Distinct ((position, p) :: rest)) :
    Mergeable (fieldDraft p [.index position]) (.indexGroup (ofItems rest)) ∧
      Merged (fieldDraft p [.index position]) (.indexGroup (ofItems rest))
        (.indexGroup (ofItems ((position, p) :: rest))) := by
  have hposition : Table.find? position rest = none :=
    Table.find?_eq_none_of_not_mem (List.nodup_cons.mp h).1
  refine merged_fieldDraft rfl rfl rfl ?_ ?_ fun s hs => ?_
  · rw [member?_ofItems, hposition, Option.map_none]
  · rw [member?_ofItems, Table.find?_cons_self, Option.map_some]
  · cases s with
    | key key => rfl
    | index other =>
      have hne : position ≠ other := fun heq => hs (congrArg Segment.index heq.symm)
      rw [member?_ofItems, member?_ofItems, Table.find?_cons_of_ne hne]

/-! ## Changes that merge -/

/-- A change succeeds exactly if two drafts can be merged, and then merges them. -/
structure Merges (draft field : Draft) (done : Draft → Prop) : Prop where
  sound : ∀ after, done after → Mergeable draft field ∧ Merged draft field after
  complete : Mergeable draft field → ∃ after, done after

theorem Merges.congr {done done' : Draft → Prop} (h : Merges draft field done)
    (hdone : ∀ after, done after ↔ done' after) : Merges draft field done' where
  sound := fun after hafter => h.sound after ((hdone after).mpr hafter)
  complete := fun hmergeable => by
    obtain ⟨after, hafter⟩ := h.complete hmergeable
    exact ⟨after, (hdone after).mp hafter⟩

/-- Two changes one after another merge what can be merged on its own. -/
theorem Merges.andThen {done : Draft → Prop} {done' : Draft → Draft → Prop}
    (h : Merges draft field done) (h' : ∀ next, done next → Merges next other (done' next))
    (hboth : Mergeable field other ∧ Merged field other both) :
    Merges draft both fun after => ∃ next, done next ∧ done' next after := by
  constructor
  · rintro after ⟨next, hnext, hafter⟩
    obtain ⟨hfield, hmerged⟩ := h.sound next hnext
    obtain ⟨hother, hmerged'⟩ := (h' next hnext).sound after hafter
    refine ⟨(mergeable_merged_iff hboth.2).mpr ⟨hfield, ?_⟩, hmerged.trans hmerged' hboth.2⟩
    exact ((merged_mergeable_iff hmerged).mp hother).1
  · intro hmergeable
    obtain ⟨hfield, hother⟩ := (mergeable_merged_iff hboth.2).mp hmergeable
    obtain ⟨next, hnext⟩ := h.complete hfield
    have hmerged := (h.sound next hnext).2
    obtain ⟨after, hafter⟩ :=
      (h' next hnext).complete ((merged_mergeable_iff hmerged).mpr ⟨hother, hboth.1⟩)
    exact ⟨after, next, hnext, hafter⟩

theorem merges_container (hkind : draft.kind? = some isIndexGroup) {done : Draft → Prop}
    (hdone : ∀ after, done after ↔ after = draft) : Merges draft (container isIndexGroup) done := by
  constructor
  · intro after hafter
    rw [(hdone after).mp hafter]
    refine ⟨fun path v w hv hw => ?_, merged_container hkind⟩
    cases path with
    | nil => exact view_of_kind? hkind (kind?_container _) hv hw
    | cons step rest =>
      rw [view?_cons_of_none (member?_container _ _)] at hw
      cases hw
  · exact fun _ => ⟨draft, (hdone draft).mpr rfl⟩

/-- What merges with the member that is entered merges with the draft. -/
theorem merges_enter (hkind : draft.kind? = some step.isIndex) (hfield : field.kind? = some isIndexGroup)
    {done : Draft → Draft → Prop}
    (h : ∀ inner, draft.enter step isIndexGroup = .ok inner → Merges inner field (done inner)) :
    Merges draft (put field (container step.isIndex) step) fun after =>
      ∃ inner filled, draft.enter step isIndexGroup = .ok inner ∧ done inner filled ∧
        after = put filled draft step := by
  constructor
  · rintro after ⟨inner, filled, henter, hdone, rfl⟩
    obtain ⟨hmergeable, hmerged⟩ := (h inner henter).sound filled hdone
    exact ⟨mergeable_enter hkind henter hmergeable, merged_enter hkind henter hfield hmerged⟩
  · intro hmergeable
    obtain ⟨inner, henter, hinner⟩ := exists_enter hfield hmergeable
    obtain ⟨filled, hdone⟩ := (h inner henter).complete hinner
    exact ⟨_, inner, filled, henter, hdone, rfl⟩

/-! ## Placing a predicate -/

/-- Placing a predicate at a step merges its draft. -/
def PlaceMerges (p : Predicate) : Prop :=
  ∀ (draft : Draft) (step : Segment) (path : Path), draft.kind? = some step.isIndex →
    Merges draft (fieldDraft p [step]) fun after => place p draft step path = (after, none)

/-- A predicate that is no group can be placed where there is nothing, and nowhere else. -/
theorem merges_placeFinished (p : Predicate) (hkind : draft.kind? = some step.isIndex) (path : Path) :
    Merges draft (put (.finished p) (container step.isIndex) step) fun after =>
      placeFinished p draft step path = (after, none) := by
  constructor
  · intro after hafter
    obtain ⟨hnone, rfl⟩ := placeFinished_done hafter
    exact ⟨mergeable_put_new hkind hnone, merged_put_new hkind hnone⟩
  · intro hmergeable
    have hnone : draft.view? [step] = none := by
      rw [Option.eq_none_iff_forall_ne_some]
      intro v hv
      obtain ⟨rfl, hcontainer⟩ := hmergeable [step] v (.leaf p) hv (view?_put (kind?_container _) _ [])
      cases hcontainer
    exact ⟨_, placeFinished_of_none (member?_eq_none_of_view? hnone) p path⟩

theorem merges_placeFields {fields : List (String × Predicate)} (ih : ∀ f ∈ fields, PlaceMerges f.2)
    (hdistinct : Table.Distinct fields) (hkind : draft.kind? = some false) (path : Path) :
    Merges draft (.group (ofFields fields) []) fun after =>
      placeFields fields draft path = (after, none) := by
  induction fields generalizing draft with
  | nil => exact merges_container hkind fun after => by simp [placeFields, eq_comm]
  | cons f rest hrest =>
    obtain ⟨key, p⟩ := f
    rw [List.forall_mem_cons] at ih
    have hfirst := ih.1 draft (.key key) (path ++ [.key key]) hkind
    have hothers : ∀ next, place p draft (.key key) (path ++ [.key key]) = (next, none) →
        Merges next (.group (ofFields rest) []) fun after =>
          placeFields rest next path = (after, none) := fun next hnext =>
      hrest ih.2 (List.nodup_cons.mp hdistinct).2 ((adds_place p _ _ _ _ hkind hnext).kind.trans hkind)
    refine (hfirst.andThen hothers (merged_fields_cons hdistinct)).congr fun after => ⟨?_, ?_⟩
    · rintro ⟨next, hnext, hafter⟩
      rw [placeFields, hnext]
      exact hafter
    · exact placeFields_cons_done

theorem merges_placeItems {fields : List (Int × Predicate)} (ih : ∀ f ∈ fields, PlaceMerges f.2)
    (hdistinct : Table.Distinct fields) (hkind : draft.kind? = some true) (path : Path) :
    Merges draft (.indexGroup (ofItems fields)) fun after =>
      placeItems fields draft path = (after, none) := by
  induction fields generalizing draft with
  | nil => exact merges_container hkind fun after => by simp [placeItems, eq_comm]
  | cons f rest hrest =>
    obtain ⟨position, p⟩ := f
    rw [List.forall_mem_cons] at ih
    have hfirst := ih.1 draft (.index position) (path ++ [.index position]) hkind
    have hothers : ∀ next, place p draft (.index position) (path ++ [.index position]) = (next, none) →
        Merges next (.indexGroup (ofItems rest)) fun after =>
          placeItems rest next path = (after, none) := fun next hnext =>
      hrest ih.2 (List.nodup_cons.mp hdistinct).2 ((adds_place p _ _ _ _ hkind hnext).kind.trans hkind)
    refine (hfirst.andThen hothers (merged_items_cons hdistinct)).congr fun after => ⟨?_, ?_⟩
    · rintro ⟨next, hnext, hafter⟩
      rw [placeItems, hnext]
      exact hafter
    · exact placeItems_cons_done

/-- The negated fields of a group come after its fields. -/
theorem Merges.negateAll {members : List (String × Draft)} {done : Draft → Prop}
    (h : Merges draft (.group members []) done) (hdone : ∀ after, done after → after.kind? = some false)
    (negated : List (Path × Predicate)) :
    Merges draft (.group members negated) fun after =>
      ∃ filled, done filled ∧ after = Draft.negateAll negated filled := by
  have hfield : Draft.group members negated = Draft.negateAll negated (.group members []) := rfl
  have hview : ∀ path, (Draft.group members negated).view? path =
      (Draft.group members []).view? path := fun path => by rw [hfield, view?_negateAll]
  constructor
  · rintro after ⟨filled, hfilled, rfl⟩
    obtain ⟨hmergeable, hmerged⟩ := h.sound filled hfilled
    refine ⟨fun path v w hv hw => hmergeable path v w hv (hview path ▸ hw), fun path v => ?_,
      fun path => ?_⟩
    · rw [view?_negateAll, hview, hmerged.view]
    · rw [hfield, negatedAt_negateAll (hdone filled hfilled), negatedAt_negateAll rfl, hmerged.negated,
        List.append_assoc]
  · intro hmergeable
    obtain ⟨filled, hfilled⟩ :=
      h.complete fun path v w hv hw => hmergeable path v w hv ((hview path).trans hw)
    exact ⟨_, filled, hfilled, rfl⟩

theorem merges_place {p : Predicate} (h : p.WellFormed) : PlaceMerges p := by
  induction p with
  | group fields negated ih _ =>
    intro draft step path hkind
    obtain ⟨hdistinct, hfields, -⟩ := (wellFormed_group _ _).mp h
    have hinner : ∀ inner, draft.enter step false = .ok inner →
        Merges inner (ofPredicate (.group fields negated)) fun after =>
          ∃ filled, placeFields fields inner path = (filled, none) ∧
            after = Draft.negateAll negated filled := fun inner henter =>
      have hikind := (enter_eq_ok henter).1
      (merges_placeFields (fun f hf => ih f hf (hfields f hf)) hdistinct hikind path).negateAll
        (fun filled hfilled => (adds_placeFields (fun f _ => adds_place f.2) hikind hfilled).kind.trans
          hikind) negated
    refine (merges_enter hkind rfl hinner).congr fun after => ⟨?_, fun hplace => ?_⟩
    · rintro ⟨inner, -, henter, ⟨filled, hfilled, rfl⟩, rfl⟩
      rw [place, henter]
      dsimp only
      rw [hfilled]
    · obtain ⟨inner, filled, henter, hfilled, rfl⟩ := place_group_done hplace
      exact ⟨inner, _, henter, ⟨filled, hfilled, rfl⟩, rfl⟩
  | indexGroup fields ih =>
    intro draft step path hkind
    obtain ⟨hdistinct, hfields⟩ := (wellFormed_indexGroup _).mp h
    have hinner : ∀ inner, draft.enter step true = .ok inner →
        Merges inner (ofPredicate (.indexGroup fields)) fun after =>
          placeItems fields inner path = (after, none) := fun inner henter =>
      merges_placeItems (fun f hf => ih f hf (hfields f hf)) hdistinct (enter_eq_ok henter).1 path
    refine (merges_enter hkind rfl hinner).congr fun after => ⟨?_, place_indexGroup_done⟩
    rintro ⟨inner, filled, henter, hfilled, rfl⟩
    rw [place, henter]
    dsimp only
    rw [hfilled]
  | _ => exact fun _ _ path hkind => merges_placeFinished _ hkind path

/-- Adding a predicate at the end of a path merges the draft of the field. -/
theorem merges_follow {p : Predicate} (h : p.WellFormed) (hkind : draft.kind? = some step.isIndex)
    (before path : Path) :
    Merges draft (fieldDraft p (step :: path)) fun after =>
      follow p draft before (step :: path) = (after, none) := by
  induction path generalizing draft step before with
  | nil => exact merges_place h draft step (before ++ [step]) hkind
  | cons next rest ih =>
    have hinner : ∀ inner, draft.enter step next.isIndex = .ok inner →
        Merges inner (fieldDraft p (next :: rest)) fun after =>
          follow p inner (before ++ [step]) (next :: rest) = (after, none) :=
      fun inner henter => ih (enter_eq_ok henter).1 (before ++ [step])
    refine (merges_enter hkind (kind?_fieldDraft p next rest) hinner).congr fun after =>
      ⟨?_, follow_cons_done⟩
    rintro ⟨inner, filled, henter, hfilled, rfl⟩
    rw [follow, henter]
    dsimp only
    rw [hfilled]

end TreePredicate.Draft
