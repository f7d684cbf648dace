import TreePredicate.Proofs.Notation.Parser

/-!
# Reading with more room

A text that is read without running out of room is read in the same way where there is more room,
and in particular where there is room for all patterns: it stands for the same predicate or is
refused for the same failure.

* `Room.Widens` : another room has room for each pattern that a room has room for;
* `OutOfRoom`, `Kept` : a reading runs out of room; another one comes to the same end unless it does;
* `KeptAt`, `kept_parseTokens` : the parser does, by induction on the number of tokens;
* `parse_eq_of_widens`, `parse_ample` : so a text that is read without running out of room is read the
  same way.
-/

set_option autoImplicit false

namespace TreePredicate

/-- There is room in another room for each pattern that can be read in this one. -/
def Room.Widens (room wider : Room) : Prop :=
  ∀ source offset, room.reads source offset = true → wider.reads source offset = true

theorem Room.widens_ample (room : Room) : room.Widens .ample := fun _ _ _ => rfl

namespace Notation

/-- A reading runs out of room. -/
def OutOfRoom {α : Type} (r : Except Failure α) : Prop :=
  ∃ source offset, r = .error (.pattern source .tooDeep offset)

/-- Another reading comes to the same end, unless this one runs out of room. -/
def Kept {α : Type} (r other : Except Failure α) : Prop := OutOfRoom r ∨ other = r

section Kept

variable {α β : Type} {r other : Except Failure α}

theorem kept_rfl : Kept r r := .inr rfl

theorem kept_bind {f g : α → Except Failure β} (h : Kept r other) (hfg : ∀ a, Kept (f a) (g a)) :
    Kept (r >>= f) (other >>= g) := by
  rcases h with ⟨source, offset, rfl⟩ | rfl
  · exact .inl ⟨source, offset, rfl⟩
  · cases other with
    | error failure => exact kept_rfl
    | ok a => exact hfg a

theorem kept_map (f : α → β) (h : Kept r other) : Kept (r.map f) (other.map f) := by
  rcases h with ⟨source, offset, rfl⟩ | rfl
  · exact .inl ⟨source, offset, rfl⟩
  · exact kept_rfl

end Kept

section Parser

variable {room wider : Room} {levels : Nat} {ts : List Token}

theorem kept_patternOf (h : room.Widens wider) (source : String) (offset : Nat) :
    Kept (@patternOf room source offset) (@patternOf wider source offset) := by
  unfold patternOf Pattern.compileAt
  cases hroom : room.reads source offset with
  | false => exact .inl ⟨source, offset, rfl⟩
  | true =>
    rw [h source offset hroom]
    exact kept_rfl

/-- Where the parser does not run out of room, it comes to the same end with more room. -/
structure KeptAt (room wider : Room) (ts : List Token) : Prop where
  predicate : ∀ levels, Kept (@predicate room levels ts) (@predicate wider levels ts)
  fields : ∀ levels draft, Kept (@moreFields room levels draft ts) (@moreFields wider levels draft ts)
  elements : ∀ levels, Kept (@moreElements room levels ts) (@moreElements wider levels ts)

theorem kept_fields (h : KeptAt room wider ts) :
    Kept (@fields room levels ts) (@fields wider levels ts) := by
  cases levels with
  | zero =>
    unfold fields
    exact kept_rfl
  | succ inner =>
    unfold fields
    exact h.fields inner .empty

theorem kept_elements (h : KeptAt room wider ts) :
    Kept (@elements room levels ts) (@elements wider levels ts) := by
  cases levels with
  | zero =>
    unfold elements
    exact kept_rfl
  | succ inner =>
    unfold elements
    exact h.elements inner

theorem kept_predicate (hwider : room.Widens wider)
    (ih : ∀ us : List Token, us.length < ts.length → KeptAt room wider us) :
    Kept (@predicate room levels ts) (@predicate wider levels ts) := by
  cases ts with
  | nil =>
    unfold predicate
    exact kept_rfl
  | cons token tail =>
    have ihtail := ih tail (Nat.lt_succ_self _)
    unfold predicate
    split
    · exact kept_rfl
    · exact kept_rfl
    · split
      · exact kept_bind (kept_fields ihtail) fun _ => kept_rfl
      · exact kept_rfl
      · exact kept_bind (kept_patternOf hwider _ _) fun _ => kept_rfl
      · exact kept_rfl
      · exact kept_bind (kept_elements ihtail) fun _ => kept_rfl
      · refine kept_bind kept_rfl fun taken => ?_
        obtain ⟨opening, inside, hlt⟩ := taken
        exact kept_bind (kept_elements (ih inside (Nat.lt_succ_of_lt hlt))) fun _ => kept_rfl
      · exact kept_rfl
    · exact kept_rfl

theorem kept_readField {draft : Draft}
    (ih : ∀ us : List Token, us.length < ts.length → KeptAt room wider us) :
    Kept (@readField room levels draft ts) (@readField wider levels draft ts) := by
  unfold readField
  obtain ⟨negated, afterBang, le₁⟩ := skipSign .bang ts
  refine kept_bind kept_rfl fun parsed => ?_
  obtain ⟨steps, afterPath, lt₂⟩ := parsed
  dsimp only
  obtain ⟨colon, afterColon, le₃⟩ := skipSign .colon afterPath
  dsimp only
  have hp : ∀ inner, Kept (@predicate room inner afterColon) (@predicate wider inner afterColon) :=
    (ih afterColon (by omega)).predicate
  split
  · exact kept_bind kept_rfl fun _ => kept_bind (hp _) fun _ => kept_rfl
  · exact kept_bind (hp _) fun _ => kept_rfl

theorem kept_behindField {draft : Draft} {rest : Rest ts}
    (ih : ∀ us : List Token, us.length < ts.length → KeptAt room wider us) :
    Kept (@behindField room levels draft ts rest) (@behindField wider levels draft ts rest) := by
  obtain ⟨rest, hlt⟩ := rest
  cases rest with
  | nil => exact kept_rfl
  | cons separator others =>
    have hmore := (ih others (Nat.lt_of_succ_lt hlt)).fields levels draft
    simp only [behindField]
    split
    · exact kept_map _ hmore
    · exact kept_rfl

theorem kept_moreFields {draft : Draft}
    (ih : ∀ us : List Token, us.length < ts.length → KeptAt room wider us) :
    Kept (@moreFields room levels draft ts) (@moreFields wider levels draft ts) := by
  cases ts with
  | nil =>
    unfold moreFields
    exact kept_rfl
  | cons token rest =>
    by_cases hclosing : token.isSign .closeBrace = true
    · unfold moreFields
      rw [if_pos hclosing, if_pos hclosing]
      exact kept_rfl
    · rw [@moreFields_eq room _ _ _ _ hclosing, @moreFields_eq wider _ _ _ _ hclosing]
      exact kept_bind (kept_readField ih) fun _ => kept_behindField ih

theorem kept_moreElements (hwider : room.Widens wider)
    (ih : ∀ us : List Token, us.length < ts.length → KeptAt room wider us) :
    Kept (@moreElements room levels ts) (@moreElements wider levels ts) := by
  cases ts with
  | nil =>
    unfold moreElements
    exact kept_rfl
  | cons token rest =>
    unfold moreElements
    split
    · exact kept_rfl
    · refine kept_bind (kept_predicate hwider ih) fun parsed => ?_
      obtain ⟨p, left, hlt⟩ := parsed
      cases left with
      | nil => exact kept_rfl
      | cons separator others =>
        dsimp only
        split
        · have hothers := ih others (Nat.lt_of_succ_lt hlt)
          exact kept_bind (hothers.elements levels) fun _ => kept_rfl
        · exact kept_rfl

theorem keptAt (hwider : room.Widens wider) (ts : List Token) : KeptAt room wider ts := by
  induction hn : ts.length using Nat.strongRecOn generalizing ts with
  | ind n ih =>
    have ih' : ∀ us : List Token, us.length < ts.length → KeptAt room wider us :=
      fun us hus => ih us.length (hn ▸ hus) us rfl
    exact ⟨fun _ => kept_predicate hwider ih', fun _ _ => kept_moreFields ih',
      fun _ => kept_moreElements hwider ih'⟩

theorem kept_parseTokens (hwider : room.Widens wider) (ts : List Token) :
    Kept (@parseTokens room ts) (@parseTokens wider ts) := by
  unfold parseTokens
  refine kept_bind kept_rfl fun taken => ?_
  exact kept_bind (kept_fields (keptAt hwider _)) fun _ => kept_rfl

end Parser

/-- A text that is read without running out of room is read in the same way with more room. -/
theorem parse_eq_of_widens {room wider : Room} (hwider : room.Widens wider) {text : String}
    (h : ¬ OutOfRoom (@parse room text)) : @parse wider text = @parse room text := by
  have hkept : Kept (@parse room text) (@parse wider text) :=
    kept_bind kept_rfl fun ts => kept_parseTokens hwider ts
  exact hkept.resolve_left h

/-- It is read in the same way with room for all patterns. -/
theorem parse_ample {room : Room} {text : String} (h : ¬ OutOfRoom (@parse room text)) :
    @parse .ample text = @parse room text := parse_eq_of_widens room.widens_ample h

end Notation

end TreePredicate
