import TreePredicate.Draft
import TreePredicate.Proofs.Path
import TreePredicate.Proofs.Predicate.Evaluate
import TreePredicate.Proofs.Table

/-!
# What drafts mean

Positive fields are merged into nested groups and negated ones are kept with their paths, and yet
both say the same of the node at the end of their path.

* `Draft.kind?` : whether a draft is a group or an index group, which no call changes;
* `holds_put`, `holds_enter` : what a changed member adds to the meaning of a draft;
* `adds_place`, `adds_follow` : a field adds that its path leads to a node that satisfies its
  predicate;
* `Draft.Call`, `Draft.calls?` : calls one after another, as long as none fails;
* `evaluate_build_iff` : a built group holds of a compound that meets every call.
-/

set_option autoImplicit false

namespace TreePredicate.Draft

/-! ## Kinds -/

/-- Whether a draft is an index group or a group; a finished predicate is neither. -/
def kind? : Draft → Option Bool
  | .finished _ => none
  | .group _ _ => some false
  | .indexGroup _ => some true

theorem kind?_container (isIndexGroup : Bool) : (container isIndexGroup).kind? = some isIndexGroup := by
  cases isIndexGroup <;> rfl

theorem kind?_put (member draft : Draft) (step : Segment) :
    (put member draft step).kind? = draft.kind? := by
  cases draft <;> cases step <;> rfl

theorem kind?_negateAll (negated : List (Path × Predicate)) (draft : Draft) :
    (negateAll negated draft).kind? = draft.kind? := by
  cases draft <;> rfl

/-- The ways into a member: there is none yet, or it is of the right kind. -/
theorem enter_eq_ok {draft inner : Draft} {step : Segment} {isIndexGroup : Bool}
    (h : draft.enter step isIndexGroup = .ok inner) :
    inner.kind? = some isIndexGroup ∧
      (draft.member? step = none ∧ inner = container isIndexGroup ∨
        draft.member? step = some inner) := by
  unfold enter at h
  split at h
  · next hnone =>
    cases h
    exact ⟨kind?_container isIndexGroup, .inl ⟨hnone, rfl⟩⟩
  · cases h
  · next members negated hsome =>
    cases isIndexGroup <;> cases h
    exact ⟨rfl, .inr hsome⟩
  · next members hsome =>
    cases isIndexGroup <;> cases h
    exact ⟨rfl, .inr hsome⟩

/-! ## Members -/

theorem buildMembers_eq_map (members : List (String × Draft)) :
    buildMembers members = members.map fun m => (m.1, m.2.build) := by
  induction members with
  | nil => rfl
  | cons m rest ih => rw [buildMembers, ih, List.map_cons]

theorem buildItems_eq_map (members : List (Int × Draft)) :
    buildItems members = members.map fun m => (m.1, m.2.build) := by
  induction members with
  | nil => rfl
  | cons m rest ih => rw [buildItems, ih, List.map_cons]

theorem distinct_map_build {κ : Type} (members : List (κ × Draft)) :
    Table.Distinct (members.map fun m => (m.1, m.2.build)) ↔ Table.Distinct members := by
  unfold Table.Distinct
  rw [List.map_map]
  rfl

/-- A node has a node at a step, and a draft holds of it. -/
def HoldsAt (draft : Draft) (step : Segment) (node : Node) : Prop :=
  ∃ inner, node.step? step = some inner ∧ draft.build.holds inner = true

theorem holds_build_group (members : List (String × Draft)) (negated : List (Path × Predicate))
    (node : Node) :
    (Draft.group members negated).build.holds node = true ↔
      (∃ entries, node = .compound entries) ∧
      (∀ m ∈ members, m.2.HoldsAt (.key m.1) node) ∧
      ∀ f ∈ negated, ∀ target, node.resolve? f.1 = some target → f.2.holds target = false := by
  rw [build, Predicate.holds_group, buildMembers_eq_map, List.forall_mem_map]
  rfl

theorem holds_build_indexGroup (members : List (Int × Draft)) (node : Node) :
    (Draft.indexGroup members).build.holds node = true ↔
      (∃ items, node = .list items) ∧ ∀ m ∈ members, m.2.HoldsAt (.index m.1) node := by
  rw [build, Predicate.holds_indexGroup, buildItems_eq_map, List.forall_mem_map]
  rfl

theorem holdsAt_of_member? {draft member : Draft} {step : Segment} {node : Node}
    (hmember : draft.member? step = some member) (h : draft.build.holds node = true) :
    member.HoldsAt step node := by
  cases draft with
  | finished p => cases hmember
  | group members negated =>
    cases step with
    | key key => exact ((holds_build_group _ _ _).mp h).2.1 _ (Table.mem_of_find? hmember)
    | index position => cases hmember
  | indexGroup members =>
    cases step with
    | key key => cases hmember
    | index position => exact ((holds_build_indexGroup _ _).mp h).2 _ (Table.mem_of_find? hmember)

/-- A new member that demands what the old one demanded adds its demands to those of a draft. -/
theorem holds_put {draft member : Draft} {step : Segment}
    (hkind : draft.kind? = some step.isIndex)
    (hold : ∀ old, draft.member? step = some old →
      ∀ node, member.build.holds node = true → old.build.holds node = true) (node : Node) :
    (put member draft step).build.holds node = true ↔
      draft.build.holds node = true ∧ member.HoldsAt step node := by
  have hat : ∀ old, draft.member? step = some old →
      member.HoldsAt step node → old.HoldsAt step node := by
    rintro old hmember ⟨inner, hinner, h⟩
    exact ⟨inner, hinner, hold old hmember inner h⟩
  cases draft with
  | finished p => cases hkind
  | group members negated =>
    cases step with
    | key key =>
      rw [put, holds_build_group, holds_build_group,
        Table.forall_mem_insert (P := fun k d => HoldsAt d (.key k) node) hat]
      constructor
      · rintro ⟨hcompound, ⟨hmembers, hmember⟩, hnegated⟩
        exact ⟨⟨hcompound, hmembers, hnegated⟩, hmember⟩
      · rintro ⟨⟨hcompound, hmembers, hnegated⟩, hmember⟩
        exact ⟨hcompound, ⟨hmembers, hmember⟩, hnegated⟩
    | index position => cases hkind
  | indexGroup members =>
    cases step with
    | key key => cases hkind
    | index position =>
      rw [put, holds_build_indexGroup, holds_build_indexGroup,
        Table.forall_mem_insert (P := fun i d => HoldsAt d (.index i) node) hat, and_assoc]

theorem holds_container (isIndexGroup : Bool) {draft : Draft} {node : Node}
    (hkind : draft.kind? = some isIndexGroup) (h : draft.build.holds node = true) :
    (container isIndexGroup).build.holds node = true := by
  cases draft with
  | finished p => cases hkind
  | group members negated =>
    cases hkind
    exact (holds_build_group [] [] node).mpr
      ⟨((holds_build_group _ _ _).mp h).1, by simp, by simp⟩
  | indexGroup members =>
    cases hkind
    exact (holds_build_indexGroup [] node).mpr ⟨((holds_build_indexGroup _ _).mp h).1, by simp⟩

/-- A member that was entered and then changed adds to a draft what the change adds to it. -/
theorem holds_enter {draft inner member : Draft} {step : Segment} {isIndexGroup : Bool}
    (hkind : draft.kind? = some step.isIndex) (henter : draft.enter step isIndexGroup = .ok inner)
    {Q : Node → Prop}
    (hmember : ∀ node, member.build.holds node = true ↔ inner.build.holds node = true ∧ Q node)
    (hQ : ∀ node, Q node → (container isIndexGroup).build.holds node = true) (node : Node) :
    (put member draft step).build.holds node = true ↔
      draft.build.holds node = true ∧ ∃ x, node.step? step = some x ∧ Q x := by
  obtain ⟨-, hway⟩ := enter_eq_ok henter
  rw [holds_put hkind]
  · apply and_congr_right
    intro hdraft
    constructor
    · rintro ⟨x, hx, h⟩
      exact ⟨x, hx, ((hmember x).mp h).2⟩
    · rintro ⟨x, hx, hq⟩
      refine ⟨x, hx, (hmember x).mpr ⟨?_, hq⟩⟩
      rcases hway with ⟨-, rfl⟩ | hsome
      · exact hQ x hq
      · obtain ⟨y, hy, hinner⟩ := holdsAt_of_member? hsome hdraft
        rw [hx] at hy
        cases hy
        exact hinner
  · intro old hold x hx
    rcases hway with ⟨hnone, -⟩ | hsome
    · rw [hnone] at hold
      cases hold
    · rw [hsome] at hold
      cases hold
      exact ((hmember x).mp hx).1

theorem holds_negateAll {draft : Draft} (hkind : draft.kind? = some false)
    (negated : List (Path × Predicate)) (node : Node) :
    (negateAll negated draft).build.holds node = true ↔
      draft.build.holds node = true ∧
      ∀ f ∈ negated, ∀ target, node.resolve? f.1 = some target → f.2.holds target = false := by
  cases draft with
  | finished p => cases hkind
  | indexGroup members => cases hkind
  | group members earlier =>
    rw [negateAll, holds_build_group, holds_build_group, List.forall_mem_append, and_assoc,
      and_assoc]

/-! ## Changes without a conflict -/

theorem placeFinished_done {p : Predicate} {draft after : Draft} {step : Segment} {path : Path}
    (h : placeFinished p draft step path = (after, none)) :
    draft.member? step = none ∧ after = put (.finished p) draft step := by
  unfold placeFinished finish at h
  cases hmember : draft.member? step with
  | none =>
    rw [hmember] at h
    cases h
    exact ⟨rfl, rfl⟩
  | some member =>
    rw [hmember] at h
    cases member <;> cases h

theorem place_group_done {fields : List (String × Predicate)} {negated : List (Path × Predicate)}
    {draft after : Draft} {step : Segment} {path : Path}
    (h : place (.group fields negated) draft step path = (after, none)) :
    ∃ inner filled, draft.enter step false = .ok inner ∧
      placeFields fields inner path = (filled, none) ∧
      after = put (negateAll negated filled) draft step := by
  rw [place] at h
  cases henter : draft.enter step false with
  | error clash =>
    rw [henter] at h
    cases h
  | ok inner =>
    rw [henter] at h
    dsimp only at h
    cases hfields : placeFields fields inner path with
    | mk filled conflict? =>
      rw [hfields] at h
      cases conflict? with
      | some conflict => cases h
      | none =>
        cases h
        exact ⟨inner, filled, rfl, hfields, rfl⟩

theorem place_indexGroup_done {fields : List (Int × Predicate)} {draft after : Draft}
    {step : Segment} {path : Path}
    (h : place (.indexGroup fields) draft step path = (after, none)) :
    ∃ inner filled, draft.enter step true = .ok inner ∧
      placeItems fields inner path = (filled, none) ∧ after = put filled draft step := by
  rw [place] at h
  cases henter : draft.enter step true with
  | error clash =>
    rw [henter] at h
    cases h
  | ok inner =>
    rw [henter] at h
    dsimp only at h
    cases hfields : placeItems fields inner path with
    | mk filled conflict? =>
      rw [hfields] at h
      cases h
      exact ⟨inner, filled, rfl, hfields, rfl⟩

theorem placeFields_cons_done {key : String} {p : Predicate} {rest : List (String × Predicate)}
    {draft after : Draft} {path : Path}
    (h : placeFields ((key, p) :: rest) draft path = (after, none)) :
    ∃ next, place p draft (.key key) (path ++ [.key key]) = (next, none) ∧
      placeFields rest next path = (after, none) := by
  rw [placeFields] at h
  cases hplace : place p draft (.key key) (path ++ [.key key]) with
  | mk next conflict? =>
    rw [hplace] at h
    cases conflict? with
    | some conflict => cases h
    | none => exact ⟨next, rfl, h⟩

theorem placeItems_cons_done {position : Int} {p : Predicate} {rest : List (Int × Predicate)}
    {draft after : Draft} {path : Path}
    (h : placeItems ((position, p) :: rest) draft path = (after, none)) :
    ∃ next, place p draft (.index position) (path ++ [.index position]) = (next, none) ∧
      placeItems rest next path = (after, none) := by
  rw [placeItems] at h
  cases hplace : place p draft (.index position) (path ++ [.index position]) with
  | mk next conflict? =>
    rw [hplace] at h
    cases conflict? with
    | some conflict => cases h
    | none => exact ⟨next, rfl, h⟩

theorem follow_cons_done {p : Predicate} {draft after : Draft} {before rest : Path}
    {step next : Segment} (h : follow p draft before (step :: next :: rest) = (after, none)) :
    ∃ inner filled, draft.enter step next.isIndex = .ok inner ∧
      follow p inner (before ++ [step]) (next :: rest) = (filled, none) ∧
      after = put filled draft step := by
  rw [follow] at h
  cases henter : draft.enter step next.isIndex with
  | error clash =>
    rw [henter] at h
    cases h
  | ok inner =>
    rw [henter] at h
    dsimp only at h
    cases hfollow : follow p inner (before ++ [step]) (next :: rest) with
    | mk filled conflict? =>
      rw [hfollow] at h
      cases h
      exact ⟨inner, filled, rfl, hfollow, rfl⟩

/-! ## Fields -/

/-- What a change adds to the meaning of a draft, which stays of its kind. -/
structure Adds (draft after : Draft) (Q : Node → Prop) : Prop where
  kind : after.kind? = draft.kind?
  meaning : ∀ node, after.build.holds node = true ↔ draft.build.holds node = true ∧ Q node

theorem Adds.nothing (draft : Draft) {Q : Node → Prop} (h : ∀ node, Q node) : Adds draft draft Q :=
  ⟨rfl, fun node => (and_iff_left (h node)).symm⟩

theorem Adds.trans {draft next after : Draft} {Q R S : Node → Prop} (h : Adds draft next Q)
    (h' : Adds next after R) (hS : ∀ node, S node ↔ Q node ∧ R node) : Adds draft after S :=
  ⟨h'.kind.trans h.kind, fun node => by rw [h'.meaning, h.meaning, hS, and_assoc]⟩

/-- A step leads to a node that satisfies a predicate. -/
def Satisfied (p : Predicate) (step : Segment) (node : Node) : Prop :=
  ∃ x, node.step? step = some x ∧ p.holds x = true

theorem adds_placeFinished {p : Predicate} {draft after : Draft} {step : Segment} {path : Path}
    (hkind : draft.kind? = some step.isIndex)
    (h : placeFinished p draft step path = (after, none)) :
    Adds draft after (Satisfied p step) := by
  obtain ⟨hmember, rfl⟩ := placeFinished_done h
  refine ⟨kind?_put _ _ _, fun node => ?_⟩
  rw [holds_put hkind]
  · rfl
  · intro old hold
    rw [hmember] at hold
    cases hold

/-- Placing a predicate adds that its step leads to a node that satisfies it. -/
def PlaceAdds (p : Predicate) : Prop :=
  ∀ draft after step path, draft.kind? = some step.isIndex →
    place p draft step path = (after, none) → Adds draft after (Satisfied p step)

theorem adds_placeFields {fields : List (String × Predicate)} (ih : ∀ f ∈ fields, PlaceAdds f.2)
    {draft after : Draft} {path : Path} (hkind : draft.kind? = some false)
    (h : placeFields fields draft path = (after, none)) :
    Adds draft after fun node => ∀ f ∈ fields, Satisfied f.2 (.key f.1) node := by
  induction fields generalizing draft with
  | nil =>
    cases h
    exact Adds.nothing _ fun node f hf => absurd hf List.not_mem_nil
  | cons f rest hrest =>
    obtain ⟨key, p⟩ := f
    obtain ⟨next, hplace, h⟩ := placeFields_cons_done h
    have hnext := ih _ List.mem_cons_self _ _ _ _ hkind hplace
    have hothers := hrest (fun f hf => ih f (List.mem_cons_of_mem _ hf)) (hnext.kind.trans hkind) h
    exact hnext.trans hothers fun node => List.forall_mem_cons

theorem adds_placeItems {fields : List (Int × Predicate)} (ih : ∀ f ∈ fields, PlaceAdds f.2)
    {draft after : Draft} {path : Path} (hkind : draft.kind? = some true)
    (h : placeItems fields draft path = (after, none)) :
    Adds draft after fun node => ∀ f ∈ fields, Satisfied f.2 (.index f.1) node := by
  induction fields generalizing draft with
  | nil =>
    cases h
    exact Adds.nothing _ fun node f hf => absurd hf List.not_mem_nil
  | cons f rest hrest =>
    obtain ⟨position, p⟩ := f
    obtain ⟨next, hplace, h⟩ := placeItems_cons_done h
    have hnext := ih _ List.mem_cons_self _ _ _ _ hkind hplace
    have hothers := hrest (fun f hf => ih f (List.mem_cons_of_mem _ hf)) (hnext.kind.trans hkind) h
    exact hnext.trans hothers fun node => List.forall_mem_cons

theorem adds_place (p : Predicate) : PlaceAdds p := by
  induction p with
  | group fields negated ihf _ =>
    intro draft after step path hkind h
    obtain ⟨inner, filled, henter, hplace, rfl⟩ := place_group_done h
    obtain ⟨hikind, -⟩ := enter_eq_ok henter
    have hfilled := adds_placeFields ihf hikind hplace
    refine ⟨kind?_put _ _ _, holds_enter hkind henter (fun x => ?_) fun x hx => ?_⟩
    · rw [holds_negateAll (hfilled.kind.trans hikind), hfilled.meaning, Predicate.holds_group,
        and_assoc]
      apply and_congr_right
      intro hinner
      have hcompound := ((holds_build_group [] [] x).mp (holds_container false hikind hinner)).1
      simp only [hcompound, true_and, Satisfied]
    · have hcompound := ((Predicate.holds_group _ _ _).mp hx).1
      exact (holds_build_group [] [] x).mpr ⟨hcompound, by simp, by simp⟩
  | indexGroup fields ihf =>
    intro draft after step path hkind h
    obtain ⟨inner, filled, henter, hplace, rfl⟩ := place_indexGroup_done h
    obtain ⟨hikind, -⟩ := enter_eq_ok henter
    have hfilled := adds_placeItems ihf hikind hplace
    refine ⟨kind?_put _ _ _, holds_enter hkind henter (fun x => ?_) fun x hx => ?_⟩
    · rw [hfilled.meaning, Predicate.holds_indexGroup]
      apply and_congr_right
      intro hinner
      have hlist := ((holds_build_indexGroup [] x).mp (holds_container true hikind hinner)).1
      simp only [hlist, true_and, Satisfied]
    · have hlist := ((Predicate.holds_indexGroup _ _).mp hx).1
      exact (holds_build_indexGroup [] x).mpr ⟨hlist, by simp⟩
  | _ => exact fun _ _ _ _ hkind h => adds_placeFinished hkind h

/-- Only a node of the right kind has a node at a step. -/
theorem holds_container_of_step {node inner : Node} {step : Segment}
    (h : node.step? step = some inner) : (container step.isIndex).build.holds node = true := by
  cases step with
  | key key =>
    cases node with
    | compound entries => exact (holds_build_group [] [] _).mpr ⟨⟨_, rfl⟩, by simp, by simp⟩
    | list items => cases h
    | number quantity => cases h
    | text value => cases h
  | index position =>
    cases node with
    | list items => exact (holds_build_indexGroup [] _).mpr ⟨⟨_, rfl⟩, by simp⟩
    | compound entries => cases h
    | number quantity => cases h
    | text value => cases h

/-- Adding a field adds that its path leads to a node that satisfies its predicate. -/
theorem adds_follow (p : Predicate) {draft after : Draft} {before path : Path} {step : Segment}
    (hkind : draft.kind? = some step.isIndex)
    (h : follow p draft before (step :: path) = (after, none)) :
    Adds draft after fun node =>
      ∃ x, node.resolve? (step :: path) = some x ∧ p.holds x = true := by
  induction path generalizing draft after before step with
  | nil =>
    have hplaced := adds_place p draft after step _ hkind h
    refine ⟨hplaced.kind, fun node => ?_⟩
    rw [hplaced.meaning]
    simp [Satisfied, Node.resolve?]
  | cons next rest ih =>
    obtain ⟨inner, filled, henter, hfollow, rfl⟩ := follow_cons_done h
    obtain ⟨hikind, -⟩ := enter_eq_ok henter
    have hfilled := ih hikind hfollow
    refine ⟨kind?_put _ _ _, fun node => ?_⟩
    rw [holds_enter hkind henter hfilled.meaning]
    · apply and_congr_right
      intro _
      constructor
      · rintro ⟨x, hx, y, hy, hp⟩
        exact ⟨y, (Node.resolve?_cons node step _ y).mpr ⟨x, hx, hy⟩, hp⟩
      · rintro ⟨y, hy, hp⟩
        obtain ⟨x, hx, hxy⟩ := (Node.resolve?_cons node step _ y).mp hy
        exact ⟨x, hx, y, hxy, hp⟩
    · rintro x ⟨y, hy, -⟩
      obtain ⟨z, hz, -⟩ := (Node.resolve?_cons x next rest y).mp hy
      exact holds_container_of_step hz

/-! ## Calls -/

/-- A call on a draft of a group: a field, or a negated field. -/
inductive Call where
  | add (path : Path) (p : Predicate)
  | negate (path : Path) (p : Predicate)

namespace Call

/-- The path of a call. -/
def path : Call → Path
  | .add path _ => path
  | .negate path _ => path

/-- A node meets a field if the path leads to a node that satisfies the predicate, and a negated
field if the path leads nowhere or to a node that does not. -/
def Met (node : Node) : Call → Prop
  | .add path p => ∃ x, node.resolve? path = some x ∧ p.evaluate x = .ok true
  | .negate path p => ∀ x, node.resolve? path = some x → p.evaluate x = .ok false

end Call

/-- A draft after a call, unless it fails. -/
def call? (draft : Draft) : Call → Option Draft
  | .add path p =>
    match draft.add path p with
    | (after, none) => some after
    | (_, some _) => none
  | .negate path p => some (draft.negate path p)

/-- A draft after calls, unless one of them fails. That a call fails is all that `none` says: if the
path of a conflict holds an index of more than 4300 digits, the path cannot be written out for the
message and another kind of error takes the place of the conflict, which is not told apart here. -/
def calls? (draft : Draft) : List Call → Option Draft
  | [] => some draft
  | c :: rest => (draft.call? c).bind fun next => next.calls? rest

theorem met_add (node : Node) (path : Path) (p : Predicate) :
    Call.Met node (.add path p) ↔ ∃ x, node.resolve? path = some x ∧ p.holds x = true := by
  simp only [Call.Met, Predicate.evaluate_eq, Except.ok.injEq]

theorem met_negate (node : Node) (path : Path) (p : Predicate) :
    Call.Met node (.negate path p) ↔
      ∀ x, node.resolve? path = some x → p.holds x = false := by
  simp only [Call.Met, Predicate.evaluate_eq, Except.ok.injEq]

theorem call?_add_done {draft after : Draft} {path : Path} {p : Predicate}
    (h : draft.call? (.add path p) = some after) : draft.add path p = (after, none) := by
  rw [call?] at h
  cases hadd : draft.add path p with
  | mk next conflict? =>
    rw [hadd] at h
    cases conflict? with
    | some conflict => cases h
    | none =>
      cases h
      rfl

/-- One call adds to a draft that the call is met. -/
theorem adds_call {draft after : Draft} {c : Call} (hpath : c.path.StartsWithKey)
    (hkind : draft.kind? = some false) (h : draft.call? c = some after) :
    Adds draft after fun node => c.Met node := by
  cases c with
  | add path p =>
    obtain ⟨key, rest, rfl⟩ : path.StartsWithKey := hpath
    have hadds := adds_follow p hkind (call?_add_done h)
    refine ⟨hadds.kind, fun node => ?_⟩
    rw [hadds.meaning, met_add]
  | negate path p =>
    cases h
    refine ⟨kind?_negateAll _ _, fun node => ?_⟩
    rw [negate, holds_negateAll hkind, met_negate]
    simp

/-- Calls add to a draft that each of them is met. -/
theorem adds_calls {draft after : Draft} {calls : List Call}
    (hpaths : ∀ c ∈ calls, c.path.StartsWithKey) (hkind : draft.kind? = some false)
    (h : draft.calls? calls = some after) :
    Adds draft after fun node => ∀ c ∈ calls, c.Met node := by
  induction calls generalizing draft with
  | nil =>
    cases h
    exact Adds.nothing _ fun node c hc => absurd hc List.not_mem_nil
  | cons c rest ih =>
    rw [calls?] at h
    obtain ⟨next, hcall, hrest⟩ := Option.bind_eq_some_iff.mp h
    have hnext := adds_call (hpaths c List.mem_cons_self) hkind hcall
    exact hnext.trans (ih (fun d hd => hpaths d (List.mem_cons_of_mem c hd))
      (hnext.kind.trans hkind) hrest) fun node => List.forall_mem_cons

theorem holds_build_empty (node : Node) :
    empty.build.holds node = true ↔ ∃ entries, node = .compound entries := by
  rw [empty, holds_build_group]
  simp

/-- A group built by calls none of which fails holds of a node if and only if it is a compound that
meets every call; and so a single negated field is the complement of the field among compounds. -/
theorem evaluate_build_iff :
    (∀ (calls : List Call) (draft : Draft), (∀ c ∈ calls, c.path.StartsWithKey) →
      empty.calls? calls = some draft →
      ∀ node, draft.build.evaluate node = .ok true ↔
        (∃ entries, node = .compound entries) ∧ ∀ c ∈ calls, c.Met node) ∧
    ∀ (path : Path) (p : Predicate) (draft negated : Draft), path.StartsWithKey →
      empty.calls? [.add path p] = some draft → empty.calls? [.negate path p] = some negated →
      ∀ entries, negated.build.evaluate (.compound entries) = .ok true ↔
        draft.build.evaluate (.compound entries) = .ok false := by
  have hmeaning : ∀ (calls : List Call) (draft : Draft), (∀ c ∈ calls, c.path.StartsWithKey) →
      empty.calls? calls = some draft → ∀ node, draft.build.holds node = true ↔
        (∃ entries, node = .compound entries) ∧ ∀ c ∈ calls, c.Met node := by
    intro calls draft hpaths h node
    rw [(adds_calls hpaths rfl h).meaning, holds_build_empty]
  refine ⟨fun calls draft hpaths h node => ?_, fun path p draft negated hpath h h' entries => ?_⟩
  · rw [Predicate.evaluate_eq, Except.ok.injEq]
    exact hmeaning calls draft hpaths h node
  · have hadd := hmeaning [.add path p] draft (List.forall_mem_singleton.mpr hpath) h
      (.compound entries)
    have hnegate := hmeaning [.negate path p] negated (List.forall_mem_singleton.mpr hpath) h'
      (.compound entries)
    rw [Predicate.evaluate_eq, Predicate.evaluate_eq, Except.ok.injEq, Except.ok.injEq, hnegate,
      ← Bool.not_eq_true, hadd]
    simp only [List.forall_mem_singleton, met_add, met_negate]
    simp

/-- Calls that meet in one item of a list: a field, a negated field and an index group. -/
def sharedCalls : List Call :=
  [.add [.key "items", .index 0, .key "id"] (.text "map"),
   .negate [.key "items", .index (-1), .key "lock"] (.text "key"),
   .add [.key "items"] (.indexGroup [(0, .group [("mark", .text "x")] [([.key "id"], .text "egg")])])]

/-- The group that the shared calls build. -/
def sharedGroup : Draft :=
  .group [("items", .indexGroup [(0, .group
      [("id", .finished (.text "map")), ("mark", .finished (.text "x"))] [([.key "id"], .text "egg")])])]
    [([.key "items", .index (-1), .key "lock"], .text "key")]

theorem evaluate_build_sharedCalls :
    sharedGroup.build.evaluate
        (.compound [("items", .list [.compound [("id", .text "map"), ("mark", .text "x")]])]) =
      .ok true ∧
    (sharedGroup.build.evaluate (.compound [("items", .list [.text "map"])]) ≠ .ok true) ∧
    ((Draft.group [] [([.key "id"], .text "egg")]).build.evaluate (.compound []) = .ok true ↔
      (Draft.group [("id", .finished (.text "egg"))] []).build.evaluate (.compound []) =
        .ok false) := by
  have hpaths : ∀ c ∈ sharedCalls, c.path.StartsWithKey := by
    intro c hc
    simp only [sharedCalls, List.mem_cons, List.not_mem_nil, or_false] at hc
    rcases hc with rfl | rfl | rfl <;> exact ⟨_, _, rfl⟩
  refine ⟨?_, ?_, ?_⟩
  · refine (evaluate_build_iff.1 sharedCalls sharedGroup hpaths rfl _).mpr ⟨⟨_, rfl⟩, ?_⟩
    simp [sharedCalls, Call.Met, Predicate.evaluate_eq, Node.resolve?, Node.step?, Table.find?,
      atPosition?, Predicate.holds, Predicate.itemsHold, Predicate.fieldsHold, Predicate.noneHolds]
  · intro h
    have hmet := ((evaluate_build_iff.1 sharedCalls sharedGroup hpaths rfl _).mp h).2 _
      List.mem_cons_self
    obtain ⟨x, hx, -⟩ := hmet
    cases hx
  · exact evaluate_build_iff.2 [.key "id"] (.text "egg") _ _ ⟨_, _, rfl⟩ rfl rfl []

end TreePredicate.Draft
