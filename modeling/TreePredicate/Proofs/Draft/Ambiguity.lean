import TreePredicate.Proofs.Draft.Entries
import TreePredicate.Proofs.Draft.Merge
import TreePredicate.Proofs.Draft.Rearranged

/-!
# Ambiguous fields

Fields are added one after another, and a conflict is found when the second of two fields comes. What
is found depends on the two fields and not on which of them came first.

* `Draft.items`, `Call.items` : what a predicate, and a field, puts at which path;
* `Draft.Ambiguous` : two items at one path that cannot stand together;
* `mem_items_iff` : the items of a field are what its draft shows;
* `exists_calls?_iff`, `calls?_sound` : calls succeed if their drafts can be merged pairwise, and then
  merge all of them;
* `calls?_fails_iff_ambiguous` : calls fail exactly if their fields are ambiguous, and in another order
  they build the same group up to order.
-/

set_option autoImplicit false

namespace TreePredicate.Draft

open Predicate

variable {draft : Draft} {p : Predicate}

/-! ## Items -/

mutual

/-- The items of a predicate at a path: a group is a compound with the items of its fields, an index
group a list with the items of its fields, and any other predicate a leaf. -/
def items : Path → Predicate → List (Path × View)
  | path, .group fields _ => (path, .compound) :: fieldItems path fields
  | path, .indexGroup fields => (path, .list) :: indexItems path fields
  | path, .number test => [(path, .leaf (.number test))]
  | path, .text value => [(path, .leaf (.text value))]
  | path, .pattern p => [(path, .leaf (.pattern p))]
  | path, .list quantifier elements => [(path, .leaf (.list quantifier elements))]

/-- The items of the fields of a group. -/
def fieldItems : Path → List (String × Predicate) → List (Path × View)
  | _, [] => []
  | path, (key, p) :: rest => items (path ++ [.key key]) p ++ fieldItems path rest

/-- The items of the fields of an index group. -/
def indexItems : Path → List (Int × Predicate) → List (Path × View)
  | _, [] => []
  | path, (position, p) :: rest => items (path ++ [.index position]) p ++ indexItems path rest

end

/-- What a step goes into: a compound if it is a key, and a list if it is a position. -/
def steppedInto : Segment → View
  | .key _ => .compound
  | .index _ => .list

/-- The items of a predicate at the end of a path, of which `before` has been followed: what the next
step goes into after each step, and then the items of the predicate. -/
def itemsAlong (p : Predicate) : Path → Path → List (Path × View)
  | _, [] => []
  | before, [step] => items (before ++ [step]) p
  | before, step :: next :: rest =>
    (before ++ [step], steppedInto next) :: itemsAlong p (before ++ [step]) (next :: rest)

namespace Call

/-- The items of a call; a negated field puts none. -/
def items : Call → List (Path × View)
  | .add path p => itemsAlong p [] path
  | .negate _ _ => []

/-- An added field starts with a key, and its predicate has no field twice. -/
def Proper : Call → Prop
  | .add path p => path.StartsWithKey ∧ p.WellFormed
  | .negate _ _ => True

/-- What a call adds to a draft. -/
def asDraft : Call → Draft
  | .add path p => fieldDraft p path
  | .negate path p => .group [] [(path, p)]

/-- What two calls add can be merged. -/
def Compatible (c d : Call) : Prop := Mergeable c.asDraft d.asDraft

instance : Std.Symm Compatible := ⟨fun _ _ => Mergeable.symm⟩

end Call

/-- Two different fields put a leaf at one path, or two fields a leaf and a container, or a compound
and a list. -/
inductive Ambiguous (calls : List Call) : Prop
  | leafTwice {i j : Nat} {c d : Call} {path : Path} {p q : Predicate} (hne : i ≠ j)
      (hi : calls[i]? = some c) (hj : calls[j]? = some d) (hp : (path, .leaf p) ∈ c.items)
      (hq : (path, .leaf q) ∈ d.items)
  | leafAndContainer {c d : Call} {path : Path} {p : Predicate} {v : View} (hc : c ∈ calls)
      (hd : d ∈ calls) (hp : (path, .leaf p) ∈ c.items) (hv : (path, v) ∈ d.items)
      (hcontainer : v.isContainer = true)
  | compoundAndList {c d : Call} {path : Path} (hc : c ∈ calls) (hd : d ∈ calls)
      (hcompound : (path, .compound) ∈ c.items) (hlist : (path, .list) ∈ d.items)

/-! ## Items are what a draft shows -/

theorem mem_fieldItems_iff (path : Path) (fields : List (String × Predicate)) (item : Path × View) :
    item ∈ fieldItems path fields ↔ ∃ f ∈ fields, item ∈ items (path ++ [.key f.1]) f.2 := by
  induction fields with
  | nil => simp [fieldItems]
  | cons f rest ih => rw [fieldItems, List.mem_append, ih]; simp

theorem mem_indexItems_iff (path : Path) (fields : List (Int × Predicate)) (item : Path × View) :
    item ∈ indexItems path fields ↔ ∃ f ∈ fields, item ∈ items (path ++ [.index f.1]) f.2 := by
  induction fields with
  | nil => simp [indexItems]
  | cons f rest ih => rw [indexItems, List.mem_append, ih]; simp

/-- A draft shows what its members show behind their steps, and itself. -/
theorem view?_eq_some_iff (draft : Draft) (path : Path) (v : View) :
    draft.view? path = some v ↔ path = [] ∧ v = draft.view ∨
      ∃ step member rest, path = step :: rest ∧ draft.member? step = some member ∧
        member.view? rest = some v := by
  cases path with
  | nil => simp [view?_nil, eq_comm]
  | cons step rest =>
    cases hmember : draft.member? step with
    | none => simp [view?_cons_of_none hmember, hmember]
    | some member => simp [view?_cons_of_some hmember, hmember]

/-- The items of a predicate are its entries without what is negated. -/
theorem mem_items_iff_shown (p : Predicate) (path whole : Path) (v : View) :
    (whole, v) ∈ items path p ↔ (whole, .shown v) ∈ entries path p := by
  induction p generalizing path with
  | group fields negated ih _ =>
    have hfields : (∃ f ∈ fields, (whole, v) ∈ items (path ++ [.key f.1]) f.2) ↔
        ∃ f ∈ fields, (whole, .shown v) ∈ entries (path ++ [.key f.1]) f.2 :=
      exists_congr fun f => and_congr_right fun hf => ih f hf _
    rw [items, entries, fieldEntries_eq, tableEntries, List.mem_append, List.mem_cons, List.mem_cons,
      mem_fieldItems_iff, List.mem_flatMap, hfields]
    simp
  | indexGroup fields ih =>
    have hfields : (∃ f ∈ fields, (whole, v) ∈ items (path ++ [.index f.1]) f.2) ↔
        ∃ f ∈ fields, (whole, .shown v) ∈ entries (path ++ [.index f.1]) f.2 :=
      exists_congr fun f => and_congr_right fun hf => ih f hf _
    rw [items, entries, indexEntries_eq, tableEntries, List.mem_cons, List.mem_cons,
      mem_indexItems_iff, List.mem_flatMap, hfields]
    simp
  | _ => simp [items, entries]

/-- A predicate has the items that its draft shows. -/
theorem mem_items_iff (h : p.WellFormed) (path whole : Path) (v : View) :
    (whole, v) ∈ items path p ↔ ∃ rest, whole = path ++ rest ∧ (ofPredicate p).view? rest = some v := by
  rw [mem_items_iff_shown, mem_entries_iff h]
  rfl

theorem view_fieldDraft (p : Predicate) (step : Segment) (rest : Path) :
    (fieldDraft p (step :: rest)).view = steppedInto step := by
  rw [fieldDraft, view_put]
  cases step <;> rfl

/-- The draft of a field shows its predicate, or the rest of the field, behind its first step. -/
theorem view?_fieldDraft_iff (p : Predicate) (step : Segment) (path whole : Path) (v : View) :
    whole ≠ [] ∧ (fieldDraft p (step :: path)).view? whole = some v ↔
      ∃ rest, whole = step :: rest ∧ (fieldDraft p path).view? rest = some v := by
  have hkind := kind?_container step.isIndex
  constructor
  · rintro ⟨hne, hview⟩
    rw [fieldDraft] at hview
    cases whole with
    | nil => exact absurd rfl hne
    | cons first rest =>
      by_cases h : first = step
      · subst h
        rw [view?_put hkind] at hview
        exact ⟨rest, rfl, hview⟩
      · rw [view?_put_of_ne h, view?_cons_of_none (member?_container _ _)] at hview
        cases hview
  · rintro ⟨rest, rfl, hview⟩
    exact ⟨List.cons_ne_nil _ _, by rw [fieldDraft, view?_put hkind, hview]⟩

/-- A field has the items that its draft shows. -/
theorem mem_itemsAlong_iff (h : p.WellFormed) (step : Segment) (before path whole : Path) (v : View) :
    (whole, v) ∈ itemsAlong p before (step :: path) ↔
      ∃ rest, whole = before ++ step :: rest ∧ (fieldDraft p path).view? rest = some v := by
  induction path generalizing step before with
  | nil =>
    rw [itemsAlong, mem_items_iff h]
    simp [fieldDraft]
  | cons next path ih =>
    rw [itemsAlong, List.mem_cons, ih, Prod.mk.injEq]
    constructor
    · rintro (⟨rfl, rfl⟩ | ⟨rest, rfl, hview⟩)
      · exact ⟨[], rfl, by rw [view?_nil, view_fieldDraft]⟩
      · exact ⟨next :: rest, List.append_assoc _ _ _,
          ((view?_fieldDraft_iff p next path _ v).mpr ⟨rest, rfl, hview⟩).2⟩
    · rintro ⟨rest, rfl, hview⟩
      cases rest with
      | nil =>
        rw [view?_nil, view_fieldDraft] at hview
        exact .inl ⟨rfl, (Option.some.inj hview).symm⟩
      | cons first rest =>
        obtain ⟨rest', heq, hview⟩ :=
          (view?_fieldDraft_iff p next path _ v).mp ⟨List.cons_ne_nil first rest, hview⟩
        rw [heq]
        exact .inr ⟨rest', List.append_cons _ _ _, hview⟩

/-- A call has the items that its draft shows below the root. -/
theorem Call.mem_items_iff {c : Call} (hc : c.Proper) (path : Path) (v : View) :
    (path, v) ∈ c.items ↔ path ≠ [] ∧ c.asDraft.view? path = some v := by
  cases c with
  | add path' p =>
    obtain ⟨⟨key, rest, rfl⟩, hp⟩ := hc
    rw [items, mem_itemsAlong_iff hp, Call.asDraft, view?_fieldDraft_iff]
    rfl
  | negate path' p =>
    constructor
    · intro hmem
      cases hmem
    · rintro ⟨hne, hview⟩
      rcases (view?_eq_some_iff _ _ _).mp hview with ⟨rfl, -⟩ | ⟨step, member, rest, -, hm, -⟩
      · exact absurd rfl hne
      · cases step <;> cases hm

/-! ## Calls that merge -/

theorem Call.kind?_asDraft {c : Call} (hc : c.Proper) : c.asDraft.kind? = some false := by
  cases c with
  | add path p =>
    obtain ⟨⟨key, rest, rfl⟩, -⟩ := hc
    exact kind?_fieldDraft p (.key key) rest
  | negate path p => rfl

/-- A call merges what it adds. -/
theorem merges_call {c : Call} (hc : c.Proper) (hkind : draft.kind? = some false) :
    Merges draft c.asDraft fun after => draft.call? c = some after := by
  cases c with
  | add path p =>
    obtain ⟨⟨key, rest, rfl⟩, hp⟩ := hc
    have hstep : draft.kind? = some (Segment.key key).isIndex := hkind
    refine (merges_follow hp hstep [] rest).congr fun after => ⟨fun h => ?_, call?_add_done⟩
    rw [call?, add, h]
  | negate path p =>
    have hnothing : Merges draft (.group [] []) fun after => after = draft :=
      merges_container hkind fun after => Iff.rfl
    refine (hnothing.negateAll (fun after h => h ▸ hkind) [(path, p)]).congr fun after => ⟨?_, ?_⟩
    · rintro ⟨filled, rfl, rfl⟩
      rfl
    · intro h
      cases h
      exact ⟨draft, rfl, rfl⟩

/-- Calls succeed exactly if what they add can be merged with a draft and pairwise. -/
theorem exists_calls?_iff {calls : List Call} (hcalls : ∀ c ∈ calls, c.Proper)
    (hkind : draft.kind? = some false) :
    (∃ final, draft.calls? calls = some final) ↔
      (∀ c ∈ calls, Mergeable draft c.asDraft) ∧
        calls.Pairwise Call.Compatible := by
  induction calls generalizing draft with
  | nil => exact ⟨fun _ => ⟨List.forall_mem_nil _, .nil⟩, fun _ => ⟨draft, rfl⟩⟩
  | cons c rest ih =>
    rw [List.forall_mem_cons] at hcalls
    have hmerges := merges_call hcalls.1 hkind
    rw [List.forall_mem_cons, List.pairwise_cons]
    constructor
    · rintro ⟨final, h⟩
      obtain ⟨next, hnext, hrest⟩ := Option.bind_eq_some_iff.mp h
      obtain ⟨hfirst, hmerged⟩ := hmerges.sound next hnext
      obtain ⟨hall, hpairwise⟩ := (ih hcalls.2 (hmerged.kind.trans hkind)).mp ⟨final, hrest⟩
      have hboth := fun d hd => (merged_mergeable_iff hmerged).mp (hall d hd)
      exact ⟨⟨hfirst, fun d hd => (hboth d hd).1⟩, fun d hd => (hboth d hd).2, hpairwise⟩
    · rintro ⟨⟨hfirst, hall⟩, hpairs, hpairwise⟩
      obtain ⟨next, hnext⟩ := hmerges.complete hfirst
      have hmerged := (hmerges.sound next hnext).2
      obtain ⟨final, hfinal⟩ := (ih hcalls.2 (hmerged.kind.trans hkind)).mpr
        ⟨fun d hd => (merged_mergeable_iff hmerged).mpr ⟨hall d hd, hpairs d hd⟩, hpairwise⟩
      exact ⟨final, Option.bind_eq_some_iff.mpr ⟨next, hnext, hfinal⟩⟩

/-- Calls that succeed merge what they add. -/
theorem calls?_sound {calls : List Call} (hcalls : ∀ c ∈ calls, c.Proper)
    (hkind : draft.kind? = some false) {final : Draft} (h : draft.calls? calls = some final) :
    (∀ path v, final.view? path = some v ↔
      draft.view? path = some v ∨ ∃ c ∈ calls, c.asDraft.view? path = some v) ∧
    ∀ path, final.negatedAt path =
      draft.negatedAt path ++ calls.flatMap fun c => c.asDraft.negatedAt path := by
  induction calls generalizing draft with
  | nil =>
    cases h
    exact ⟨fun path v => by simp, fun path => by simp⟩
  | cons c rest ih =>
    rw [List.forall_mem_cons] at hcalls
    obtain ⟨next, hnext, hrest⟩ := Option.bind_eq_some_iff.mp h
    have hmerged := ((merges_call hcalls.1 hkind).sound next hnext).2
    obtain ⟨hview, hnegated⟩ := ih hcalls.2 (hmerged.kind.trans hkind) hrest
    refine ⟨fun path v => ?_, fun path => ?_⟩
    · rw [hview, hmerged.view, or_assoc]
      simp
    · rw [hnegated, hmerged.negated, List.append_assoc, List.flatMap_cons]

/-- What is added first can be merged with an empty group. -/
theorem mergeable_empty {field : Draft} (hkind : field.kind? = some false) :
    Mergeable empty field := by
  have hempty : empty = container false := rfl
  rw [hempty]
  exact ((merges_container hkind fun after => Iff.rfl).sound field rfl).1.symm

/-! ## Ambiguity -/

theorem Call.compatible_iff {c d : Call} (hc : c.Proper) (hd : d.Proper) :
    c.Compatible d ↔
      ∀ path v w, (path, v) ∈ c.items → (path, w) ∈ d.items → v = w ∧ v.isContainer = true := by
  constructor
  · intro h path v w hv hw
    exact h path v w ((mem_items_iff hc path v).mp hv).2 ((mem_items_iff hd path w).mp hw).2
  · intro h path v w hv hw
    cases path with
    | nil => exact view_of_kind? (kind?_asDraft hc) (kind?_asDraft hd) hv hw
    | cons step rest =>
      have hne := List.cons_ne_nil step rest
      exact h _ v w ((mem_items_iff hc _ v).mpr ⟨hne, hv⟩) ((mem_items_iff hd _ w).mpr ⟨hne, hw⟩)

/-- A field has one item at a path. -/
theorem Call.item_unique {c : Call} (hc : c.Proper) {path : Path} {v w : View}
    (hv : (path, v) ∈ c.items) (hw : (path, w) ∈ c.items) : v = w := by
  have hv := ((mem_items_iff hc path v).mp hv).2
  rw [((mem_items_iff hc path w).mp hw).2] at hv
  exact (Option.some.inj hv).symm

/-- Two items of fields that can be merged pairwise. -/
theorem eq_of_pairwise {calls : List Call} (hcalls : ∀ c ∈ calls, c.Proper)
    (h : calls.Pairwise Call.Compatible) {c d : Call} (hc : c ∈ calls)
    (hd : d ∈ calls) {path : Path} {v w : View} (hv : (path, v) ∈ c.items)
    (hw : (path, w) ∈ d.items) : v = w := by
  by_cases heq : c = d
  · subst heq
    exact Call.item_unique (hcalls c hc) hv hw
  · have hcompatible := h.forall hc hd heq
    exact ((Call.compatible_iff (hcalls c hc) (hcalls d hd)).mp hcompatible path v w hv hw).1

/-- Fields are ambiguous unless they can be merged pairwise. -/
theorem ambiguous_iff {calls : List Call} (hcalls : ∀ c ∈ calls, c.Proper) :
    Ambiguous calls ↔ ¬ calls.Pairwise Call.Compatible := by
  constructor
  · intro hambiguous h
    cases hambiguous with
    | @leafTwice i j c d path p q hne hi hj hp hq =>
      have hcompatible : c.Compatible d := by
        obtain ⟨hi', rfl⟩ := List.getElem?_eq_some_iff.mp hi
        obtain ⟨hj', rfl⟩ := List.getElem?_eq_some_iff.mp hj
        rcases Nat.lt_or_gt_of_ne hne with hlt | hlt
        · exact List.pairwise_iff_getElem.mp h i j hi' hj' hlt
        · exact Mergeable.symm (List.pairwise_iff_getElem.mp h j i hj' hi' hlt)
      have hc := hcalls c (List.mem_of_getElem? hi)
      have hd := hcalls d (List.mem_of_getElem? hj)
      cases ((Call.compatible_iff hc hd).mp hcompatible path _ _ hp hq).2
    | leafAndContainer hc hd hp hv hcontainer =>
      cases eq_of_pairwise hcalls h hc hd hp hv
      cases hcontainer
    | compoundAndList hc hd hcompound hlist =>
      cases eq_of_pairwise hcalls h hc hd hcompound hlist
  · intro h
    by_contra hnot
    refine h (List.pairwise_iff_getElem.mpr fun i j hi hj hlt => ?_)
    have hc := List.getElem_mem hi
    have hd := List.getElem_mem hj
    refine (Call.compatible_iff (hcalls _ hc) (hcalls _ hd)).mpr fun path v w hv hw => ?_
    -- each pair of items is the same container, or one of the three ways to be ambiguous
    cases v with
    | leaf p =>
      cases w with
      | leaf q =>
        exact absurd (.leafTwice (Nat.ne_of_lt hlt) (List.getElem?_eq_getElem hi)
          (List.getElem?_eq_getElem hj) hv hw) hnot
      | compound => exact absurd (.leafAndContainer hc hd hv hw rfl) hnot
      | list => exact absurd (.leafAndContainer hc hd hv hw rfl) hnot
    | compound =>
      cases w with
      | leaf q => exact absurd (.leafAndContainer hd hc hw hv rfl) hnot
      | compound => exact ⟨rfl, rfl⟩
      | list => exact absurd (.compoundAndList hc hd hv hw) hnot
    | list =>
      cases w with
      | leaf q => exact absurd (.leafAndContainer hd hc hw hv rfl) hnot
      | compound => exact absurd (.compoundAndList hd hc hw hv) hnot
      | list => exact ⟨rfl, rfl⟩

theorem exists_calls?_empty_iff {calls : List Call} (hcalls : ∀ c ∈ calls, c.Proper) :
    (∃ final, empty.calls? calls = some final) ↔
      calls.Pairwise Call.Compatible := by
  rw [exists_calls?_iff hcalls rfl]
  exact and_iff_right fun c hc => mergeable_empty (Call.kind?_asDraft (hcalls c hc))

/-- The same calls in another order lead to alike drafts. -/
theorem alike_of_perm {calls others : List Call} (hcalls : ∀ c ∈ calls, c.Proper)
    (hperm : calls.Perm others) {final final' : Draft} (h : empty.calls? calls = some final)
    (h' : empty.calls? others = some final') : Alike final final' := by
  have hothers : ∀ c ∈ others, c.Proper := fun c hc => hcalls c (hperm.mem_iff.mpr hc)
  obtain ⟨hview, hnegated⟩ := calls?_sound hcalls rfl h
  obtain ⟨hview', hnegated'⟩ := calls?_sound hothers rfl h'
  constructor
  · intro path
    refine Option.ext fun v => ?_
    rw [hview, hview']
    simp only [hperm.mem_iff]
  · intro path
    rw [hnegated, hnegated']
    exact (hperm.flatMap_right _).append_left _

/-- Calls fail exactly if their fields are ambiguous, and so the order of the calls does not matter:
in any two orders they fail both, or build groups that differ only in the order of fields and of
negated fields. -/
theorem calls?_fails_iff_ambiguous :
    (∀ calls : List Call, (∀ c ∈ calls, c.Proper) →
      (empty.calls? calls = none ↔ Ambiguous calls)) ∧
    ∀ calls others : List Call, (∀ c ∈ calls, c.Proper) → calls.Perm others →
      (empty.calls? calls = none ∧ empty.calls? others = none) ∨
      ∃ draft draft', empty.calls? calls = some draft ∧ empty.calls? others = some draft' ∧
        Rearranged draft.build draft'.build := by
  have hnone : ∀ calls : List Call, (∀ c ∈ calls, c.Proper) → (empty.calls? calls = none ↔
      ¬ calls.Pairwise Call.Compatible) := fun calls hcalls => by
    rw [← exists_calls?_empty_iff hcalls, ← Option.isSome_iff_exists, Option.not_isSome_iff_eq_none]
  refine ⟨fun calls hcalls => by rw [hnone calls hcalls, ambiguous_iff hcalls],
    fun calls others hcalls hperm => ?_⟩
  have hothers : ∀ c ∈ others, c.Proper := fun c hc => hcalls c (hperm.mem_iff.mpr hc)
  have hpairs : calls.Pairwise Call.Compatible ↔ others.Pairwise Call.Compatible :=
    hperm.pairwise_iff Mergeable.symm
  by_cases hpairwise : calls.Pairwise Call.Compatible
  · obtain ⟨final, hfinal⟩ := (exists_calls?_empty_iff hcalls).mpr hpairwise
    obtain ⟨final', hfinal'⟩ := (exists_calls?_empty_iff hothers).mpr (hpairs.mp hpairwise)
    have hempty : NoneTwice empty := kept_noneTwice.container false
    exact .inr ⟨final, final', hfinal, hfinal', rearranged_build (kept_noneTwice.calls hempty hfinal)
      (kept_noneTwice.calls hempty hfinal') (alike_of_perm hcalls hperm hfinal hfinal')⟩
  · refine .inl ⟨(hnone calls hcalls).mpr hpairwise, (hnone others hothers).mpr ?_⟩
    rwa [← hpairs]

/-- A compound and a list at one path: one comes from a longer path and the other from a predicate. -/
def clashingCalls : List Call :=
  [.add [.key "chest", .key "lid"] (.text "oak"), .negate [.key "chest"] (.text "open"),
   .add [.key "chest"] (.indexGroup [])]

/-- A group at a path, a longer path, and negated fields here and inside the group. -/
def nestedCalls : List Call :=
  [.add [.key "chest"] (.group [("lid", .text "oak")] [([.key "lock"], .text "rusty")]),
   .negate [.key "chest"] (.text "open"),
   .add [.key "chest", .key "items", .index (-1)] (.text "map")]

theorem calls?_fails_iff_ambiguous_chest :
    Ambiguous clashingCalls ∧
    ∃ draft draft', empty.calls? nestedCalls = some draft ∧
      empty.calls? nestedCalls.reverse = some draft' ∧ Rearranged draft.build draft'.build := by
  have hclashing : ∀ c ∈ clashingCalls, c.Proper := by
    simp [clashingCalls, Call.Proper, Path.StartsWithKey, WellFormed, ItemsWellFormed,
      Table.distinct_nil]
  have hnested : ∀ c ∈ nestedCalls, c.Proper := by
    simp [nestedCalls, Call.Proper, Path.StartsWithKey, WellFormed, FieldsWellFormed,
      NegatedWellFormed, Table.Distinct]
  constructor
  · exact (calls?_fails_iff_ambiguous.1 clashingCalls hclashing).mp rfl
  · rcases calls?_fails_iff_ambiguous.2 nestedCalls nestedCalls.reverse hnested
      (List.reverse_perm nestedCalls).symm with ⟨h, -⟩ | h
    · cases h
    · exact h

end TreePredicate.Draft
