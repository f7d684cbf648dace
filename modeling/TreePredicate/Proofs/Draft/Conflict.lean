import TreePredicate.Proofs.Draft.Ambiguity
import TreePredicate.Proofs.Draft.Stop

/-!
# What a conflict leaves behind

A field that is in conflict with earlier ones adds its part before the conflict, and nothing else. No
group is left empty on the way: what leads to a conflict stood in the draft.

* `Draft.Grows` : nothing is lost, and nothing becomes something else;
* `has_fieldDraft_iff`, `Merged.has_entries_iff` : what a field adds are the entries of its predicate,
  where its path leads to something already;
* `add_stops`, `add_conflict` : how a field fails;
* `attempts_grows` : so no call loses anything, whichever calls fail.
-/

set_option autoImplicit false

namespace TreePredicate.Draft

open Predicate

variable {draft after : Draft} {path : Path} {conflict : Conflict}

/-! ## Nothing is lost -/

/-- What a draft shows is shown afterwards, and what it has negated stays negated. -/
structure Grows (draft after : Draft) : Prop where
  view : ∀ path v, draft.view? path = some v → after.view? path = some v
  negated : ∀ path, draft.negatedAt path <+: after.negatedAt path

theorem Grows.refl (draft : Draft) : Grows draft draft := ⟨fun _ _ h => h, fun _ => List.prefix_rfl⟩

theorem Grows.trans {next : Draft} (h : Grows draft next) (h' : Grows next after) :
    Grows draft after :=
  ⟨fun path v hv => h'.view path v (h.view path v hv),
    fun path => (h.negated path).trans (h'.negated path)⟩

theorem Merged.grows {field : Draft} (h : Merged draft field after) : Grows draft after where
  view := fun path v hv => (h.view path v).mpr (.inl hv)
  negated := fun path => by
    rw [h.negated]
    exact List.prefix_append _ _

/-! ## What a field has -/

theorem Merged.has_iff {field : Draft} (h : Merged draft field after) (path : Path) (e : Entry) :
    after.Has path e ↔ draft.Has path e ∨ field.Has path e := by
  cases e with
  | shown v => exact h.view path v
  | negated f => rw [Has, Has, Has, h.negated, List.mem_append]

/-- On the way to something that a draft shows, it shows what the steps go into. -/
theorem view?_of_append {before after : Path} {next : Segment} {v : View}
    (h : draft.view? (before ++ next :: after) = some v) :
    draft.view? before = some (steppedInto next) := by
  induction before generalizing draft with
  | nil =>
    cases hmember : draft.member? next with
    | none =>
      rw [List.nil_append, view?_cons_of_none hmember] at h
      cases h
    | some member =>
      rw [view?_nil]
      cases draft <;> cases next <;> first | rfl | cases hmember
  | cons step rest ih =>
    cases hmember : draft.member? step with
    | none =>
      rw [List.cons_append, view?_cons_of_none hmember] at h
      cases h
    | some member =>
      rw [List.cons_append, view?_cons_of_some hmember] at h
      rw [view?_cons_of_some hmember, ih h]

/-- A field has what its steps go into, and behind its path the entries of its predicate. -/
theorem has_fieldDraft_iff (p : Predicate) (path whole : Path) (e : Entry) :
    (fieldDraft p path).Has whole e ↔
      (∃ next rest, path = whole ++ next :: rest ∧ e = .shown (steppedInto next)) ∨
        ∃ rest, whole = path ++ rest ∧ (ofPredicate p).Has rest e := by
  induction path generalizing whole with
  | nil => simp [fieldDraft]
  | cons step path ih =>
    have hkind := kind?_container step.isIndex
    cases whole with
    | nil =>
      have hnegated : (fieldDraft p (step :: path)).negatedFields = [] := by
        rw [fieldDraft, negatedFields_put, ← negatedAt_nil, negatedAt_container]
      rw [has_nil_iff, hnegated, view_fieldDraft]
      simp
    | cons first rest =>
      by_cases h : first = step
      · subst h
        rw [fieldDraft, has_cons_of_some (member?_put hkind _), ih]
        simp
      · have hnone : (fieldDraft p (step :: path)).member? first = none := by
          rw [fieldDraft, member?_put_of_ne h, member?_container]
        refine iff_of_false (not_has_cons_of_none hnone rest e) ?_
        rintro (⟨next, rest', heq, -⟩ | ⟨rest', heq, -⟩)
        · exact h (List.cons.inj heq).1.symm
        · exact h (List.cons.inj heq).1

/-- Merging a field with a draft that shows something behind the path of the field adds the entries of
the predicate, and nothing else: what the steps go into is there. -/
theorem Merged.has_entries_iff {p : Predicate} (h : p.WellFormed) {more : Path} {v : View}
    (hview : draft.view? (path ++ more) = some v) (hmerged : Merged draft (fieldDraft p path) after)
    (whole : Path) (e : Entry) :
    after.Has whole e ↔ draft.Has whole e ∨ (whole, e) ∈ entries path p := by
  rw [hmerged.has_iff, has_fieldDraft_iff, mem_entries_iff h]
  constructor
  · rintro (hdraft | ⟨next, rest, rfl, rfl⟩ | hentry)
    · exact .inl hdraft
    · rw [List.append_assoc] at hview
      exact .inl (view?_of_append hview)
    · exact .inr hentry
  · rintro (hdraft | hentry)
    · exact .inl hdraft
    · exact .inr (.inr hentry)

/-! ## Fields that fail -/

/-- A conflict on the path of a field, or at its end, leaves the draft as it was, and one inside the
predicate leaves the draft after the part before the conflict. -/
theorem add_stops {p : Predicate} (h : p.WellFormed)
    (hadd : draft.add path p = (after, some conflict)) :
    (∃ v, draft.view? conflict.path = some v) ∧
      (conflict.path <+: path ∧ after = draft ∨
        ∃ inside, inside ≠ [] ∧ conflict.path = path ++ inside ∧
          CutAt (entries path (p.before inside)) (entries path p) conflict.path ∧
          draft.add path (p.before inside) = (after, none) ∧
          Merged draft (fieldDraft (p.before inside) path) after) := by
  cases path with
  | nil => cases hadd
  | cons step rest =>
    obtain ⟨onward, hpath, ⟨v, hview⟩, hends⟩ := follow_stops h hadd
    rw [List.nil_append] at hpath
    rw [hpath]
    refine ⟨⟨v, hview⟩, ?_⟩
    rcases hends with ⟨halong, rfl⟩ | ⟨inside, hinside, rfl, hadded, hcut⟩
    · exact .inl ⟨List.cons_prefix_cons.mpr ⟨rfl, halong⟩, rfl⟩
    · have hmerges := merges_follow (h.before inside) (kind?_of_view? hview) [] rest
      exact .inr ⟨inside, hinside, rfl, hpath ▸ hcut, hadded, (hmerges.sound after hadded).2⟩

theorem grows_of_conflict {p : Predicate} (h : p.WellFormed)
    (hadd : draft.add path p = (after, some conflict)) : Grows draft after := by
  obtain ⟨-, ⟨-, rfl⟩ | ⟨inside, -, -, -, -, hmerged⟩⟩ := add_stops h hadd
  · exact .refl _
  · exact hmerged.grows

/-- A field that is in conflict with what stands in a draft, whatever fields led to it, loses nothing
of that. A conflict on its path or at the end of it leaves the draft as it was; so does any conflict of
a predicate that is no group. A conflict inside the predicate leaves what comes before it there, and
that alone: the entries of the predicate, depth first, up to the one in conflict. -/
theorem add_conflict {p : Predicate} (h : p.WellFormed)
    (hadd : draft.add path p = (after, some conflict)) :
    Grows draft after ∧ (∃ v, draft.view? conflict.path = some v) ∧
    ((∀ fields negated, p ≠ .group fields negated) → (∀ fields, p ≠ .indexGroup fields) →
      after = draft) ∧
    (conflict.path <+: path ∧ after = draft ∨
      ∃ inside, inside ≠ [] ∧ conflict.path = path ++ inside ∧
        CutAt (entries path (p.before inside)) (entries path p) conflict.path ∧
        draft.add path (p.before inside) = (after, none) ∧
        ∀ whole e, after.Has whole e ↔
          draft.Has whole e ∨ (whole, e) ∈ entries path (p.before inside)) := by
  obtain ⟨⟨v, hview⟩, hends⟩ := add_stops h hadd
  refine ⟨grows_of_conflict h hadd, ⟨v, hview⟩, fun hgroup hindexGroup => ?_, ?_⟩
  · rcases hends with ⟨-, heq⟩ | ⟨inside, -, -, -, hadded, -⟩
    · exact heq
    · -- such a predicate would have been added as a whole
      rw [before_of_finished hgroup hindexGroup, hadd] at hadded
      cases hadded
  · rcases hends with hhere | ⟨inside, hinside, hpath, hcut, hadded, hmerged⟩
    · exact .inl hhere
    · rw [hpath] at hview
      exact .inr ⟨inside, hinside, hpath, hcut, hadded,
        hmerged.has_entries_iff (h.before inside) hview⟩

/-- A chest with a lock. -/
def locked : Draft := (empty.attempts [(.add [.key "chest", .key "lock"] (.text "oak"), 1)]).1

/-- What a chest holds, with another lock after the first field. -/
def relocked : Predicate :=
  .group [("id", .text "map"), ("lock", .text "key"), ("mark", .text "x")]
    [([.key "id"], .text "egg")]

theorem add_conflict_relocked :
    ∃ after, locked.add [.key "chest"] relocked =
        (after, some ⟨[.key "chest", .key "lock"], .twice⟩) ∧
      Grows locked after ∧
      locked.add [.key "chest"] (.group [("id", .text "map")] []) = (after, none) := by
  have hwell : relocked.WellFormed := by
    simp [relocked, WellFormed, FieldsWellFormed, NegatedWellFormed, Table.Distinct]
  have hadd : locked.add [.key "chest"] relocked =
      ((locked.add [.key "chest"] relocked).1, some ⟨[.key "chest", .key "lock"], .twice⟩) := by rfl
  obtain ⟨hgrows, -, -, ⟨halong, -⟩ | ⟨inside, -, hpath, -, hadded, -⟩⟩ := add_conflict hwell hadd
  · exact absurd halong (by decide)
  · obtain rfl : inside = [.key "lock"] := (List.cons.inj hpath).2.symm
    exact ⟨_, hadd, hgrows, hadded⟩

/-! ## Calls that may fail -/

theorem Grows.kind?_eq (h : Grows draft after) : after.kind? = draft.kind? := by
  have hview := h.view [] draft.view rfl
  cases draft <;> cases after <;> first | rfl | cases hview

theorem attempt_grows {c : Call} (hc : c.Proper) (hkind : draft.kind? = some false) (offset : Nat) :
    Grows draft (draft.attempt c offset).1 := by
  cases c with
  | add path p =>
    obtain ⟨⟨key, rest, rfl⟩, hp⟩ := hc
    rw [attempt]
    rcases hadd : draft.add (.key key :: rest) p with ⟨after, _ | conflict⟩
    · exact ((merges_follow hp hkind [] rest).sound after hadd).2.grows
    · exact grows_of_conflict hp hadd
  | negate path p =>
    refine ⟨fun whole v hv => ?_, fun whole => ?_⟩
    · rwa [attempt, negate, view?_negateAll]
    · rw [attempt, negate, negatedAt_negateAll hkind]
      exact List.prefix_append _ _

/-- Whichever of some calls fail, nothing is lost. -/
theorem attempts_grows {calls : List (Call × Nat)} (hcalls : ∀ c ∈ calls, c.1.Proper)
    (hkind : draft.kind? = some false) : Grows draft (draft.attempts calls).1 := by
  induction calls generalizing draft with
  | nil => exact .refl draft
  | cons call rest ih =>
    rw [List.forall_mem_cons] at hcalls
    have hfirst := attempt_grows hcalls.1 hkind call.2
    exact hfirst.trans (ih hcalls.2 (hfirst.kind?_eq.trans hkind))

end TreePredicate.Draft
