import TreePredicate.Proofs.Generation.Refused

/-!
# Inverted ranges

The bounds of a range may be in the wrong order, or be the same without both being included. Between
such bounds there is nothing, but a bound declared as a single precision number also admits the number
that single precision makes of it. Two bounds between which there is no other single precision number
are brought together that way, and then there is something inside.

* `Interval.max_lt_min_of_ne` : bounds that are not brought together stay apart;
* `Interval.Bridged` : inverted bounds that are brought together;
* `isEmpty_iff_not_bridged` : an inverted range is empty unless its bounds are;
* `isWritten_range` : and it can be written if its bounds can;
* `Predicate.inverted_range` : what comes of it for the evaluation and the generation of a range.
-/

set_option autoImplicit false

namespace TreePredicate

-- Unfolded, these are powers that no step may write out.
attribute [local irreducible] unitsPerOne unitsBound greatestInteger lastPlace integerLimit
  leastSingle Width.greatestUnits

open Rounding Double

namespace Interval

/-! ## Bounds in order -/

section Order

variable {f : Int → Int} (hmono : ∀ x y, x ≤ y → f x ≤ f y) (hid : ∀ x, f (f x) = f x) {p q : Int}
include hmono hid

/-- Two bounds that a monotone change does not bring together stay apart, also from each other's
changed place. -/
theorem max_lt_min_of_ne (hle : q ≤ p) (hne : f p ≠ f q) : max q (f q) < min p (f p) := by
  have hheld := hmono q p hle
  have hq : q < f p := by
    by_contra hnot
    have hback := hmono _ _ (Int.not_lt.mp hnot)
    rw [hid] at hback
    omega
  have hp : f q < p := by
    by_contra hnot
    have hback := hmono _ _ (Int.not_lt.mp hnot)
    rw [hid] at hback
    omega
  have hlt : q < p := by
    by_contra hnot
    exact hne (congrArg f (Int.le_antisymm (Int.not_lt.mp hnot) hle))
  omega

end Order

/-! ## Inverted ranges -/

/-- Inverted bounds that a node of the declared width holds at one place, and with that place or
something next to it inside. -/
structure Bridged (low high : Number) (lowIncluded highIncluded : Bool) (width? : Option Width) :
    Prop where
  together : (held low width?).same (held high width?) = true
  inside : lowIncluded = true ∧ highIncluded = true ∨ low.lt (held low width?) = true ∨
    (held high width?).lt high = true

/-- The bounds are in the wrong order, or the same without both being included. -/
def Inverted (low high : Number) (lowIncluded highIncluded : Bool) : Prop :=
  high.lt low = true ∨ low.same high = true ∧ ¬ (lowIncluded = true ∧ highIncluded = true)

instance (low high : Number) (lowIncluded highIncluded : Bool) :
    Decidable (Inverted low high lowIncluded highIncluded) :=
  inferInstanceAs (Decidable (high.lt low = true ∨
    low.same high = true ∧ ¬ (lowIncluded = true ∧ highIncluded = true)))

section Range

variable {low high : Number} {lowIncluded highIncluded : Bool} {width? : Option Width} {p q : Int}
  (hlow : low.point? = some (.at p)) (hhigh : high.point? = some (.at q))
include hlow hhigh

theorem inverted_iff : Inverted low high lowIncluded highIncluded ↔
    q < p ∨ p = q ∧ ¬ (lowIncluded = true ∧ highIncluded = true) := by
  rw [Inverted, Number.lt_of_points hhigh hlow, Number.same_of_points hlow hhigh,
    decide_eq_true_eq, decide_eq_true_eq]

theorem bridged_iff : Bridged low high lowIncluded highIncluded width? ↔
    heldPlace width? p = heldPlace width? q ∧ (lowIncluded = true ∧ highIncluded = true ∨
      p < heldPlace width? p ∨ heldPlace width? q < q) := by
  have hheldLow := point?_held hlow width?
  have hheldHigh := point?_held hhigh width?
  have hsame := Number.same_of_points hheldLow hheldHigh
  have hbelow := Number.lt_of_points hlow hheldLow
  have habove := Number.lt_of_points hheldHigh hhigh
  constructor
  · rintro ⟨htogether, hinside⟩
    rw [hsame, decide_eq_true_eq] at htogether
    rw [hbelow, habove, decide_eq_true_eq, decide_eq_true_eq] at hinside
    exact ⟨htogether, hinside⟩
  · rintro ⟨htogether, hinside⟩
    refine ⟨by rw [hsame, decide_eq_true htogether], ?_⟩
    rwa [hbelow, habove, decide_eq_true_eq, decide_eq_true_eq]

theorem isEmpty_iff : (ofTest (.range (some low) (some high) lowIncluded highIncluded width?)).isEmpty
      = true ↔
    max q (heldPlace width? q) < min p (heldPlace width? p) ∨
      min p (heldPlace width? p) = max q (heldPlace width? q) ∧
        ¬ (lowIncluded = true ∧ highIncluded = true) := by
  have hleft := Number.point?_min hlow (point?_held hlow width?)
  have hright := Number.point?_max hhigh (point?_held hhigh width?)
  show (between low (held low width?) high (held high width?) lowIncluded highIncluded
    width?).isEmpty = true ↔ _
  have hflags : (!(lowIncluded && highIncluded)) = true ↔
      ¬ (lowIncluded = true ∧ highIncluded = true) := by
    rw [Bool.not_eq_true', ← Bool.not_eq_true, Bool.and_eq_true]
  rw [isEmpty, between, Number.lt_of_points hright hleft, Number.same_of_points hleft hright,
    Bool.or_eq_true, Bool.and_eq_true, hflags, decide_eq_true_eq, decide_eq_true_eq]

/-- A range with inverted bounds is empty, unless the bounds are brought together. -/
theorem isEmpty_iff_not_bridged (hinverted : Inverted low high lowIncluded highIncluded) :
    (ofTest (.range (some low) (some high) lowIncluded highIncluded width?)).isEmpty = true ↔
      ¬ Bridged low high lowIncluded highIncluded width? := by
  rw [inverted_iff hlow hhigh] at hinverted
  rw [isEmpty_iff hlow hhigh, bridged_iff hlow hhigh]
  have hle : q ≤ p := by omega
  by_cases htogether : heldPlace width? p = heldPlace width? q
  · by_cases hboth : lowIncluded = true ∧ highIncluded = true
    · refine iff_of_false ?_ (not_not.mpr ⟨htogether, .inl hboth⟩)
      rw [not_or, not_and_not_right]
      exact ⟨by omega, fun _ => hboth⟩
    · simp only [htogether, hboth, not_false_eq_true, and_true, true_and, false_or]
      omega
  · have happart := max_lt_min_of_ne (fun _ _ => heldPlace_le width?) (heldPlace_heldPlace width?) hle
      htogether
    exact iff_of_true (.inl happart) fun h => htogether h.1

/-- Only single precision brings bounds together. -/
theorem float_of_bridged (hinverted : Inverted low high lowIncluded highIncluded)
    (h : Bridged low high lowIncluded highIncluded width?) :
    width? = some .float ∧ Width.float.holds low = true ∧ Width.float.holds high = true := by
  rw [inverted_iff hlow hhigh] at hinverted
  obtain ⟨htogether, hinside⟩ := (bridged_iff hlow hhigh).mp h
  rw [float_holds_iff hlow, float_holds_iff hhigh]
  rcases heldPlace_cases width? p with ⟨-, hwidth, hlowRoom, hheldLow⟩ | ⟨hp, hlowBeyond⟩
  · rcases heldPlace_cases width? q with ⟨-, -, hhighRoom, -⟩ | ⟨hq, hhighBeyond⟩
    · exact ⟨hwidth, hlowRoom, hhighRoom⟩
    · have := hhighBeyond hwidth
      omega
  · rcases heldPlace_cases width? q with ⟨-, hwidth, hhighRoom, hheldHigh⟩ | ⟨hq, -⟩
    · have := hlowBeyond hwidth
      omega
    · -- Neither bound is moved: they are the same, and not both included.
      rw [hp, hq] at htogether hinside
      have hboth := hinverted.resolve_left (by omega)
      have hmoved := hinside.resolve_left hboth.2
      omega

end Range

/-- The place at which a node holds both bounds is inside if each end is included or behind it. -/
theorem holds_held {low high : Number} {lowIncluded highIncluded : Bool} {width? : Option Width}
    {p q : Int} (hlow : low.point? = some (.at p)) (hhigh : high.point? = some (.at q))
    (h : Bridged low high lowIncluded highIncluded width?) :
    (ofTest (.range (some low) (some high) lowIncluded highIncluded width?)).holds
        (held low width?) =
      ((lowIncluded || low.lt (held low width?)) &&
        (highIncluded || (held high width?).lt high)) := by
  have hheldLow := point?_held hlow width?
  have hheldHigh := point?_held hhigh width?
  have hleft := Number.point?_min hlow hheldLow
  have hright := Number.point?_max hhigh hheldHigh
  obtain ⟨htogether, -⟩ := (bridged_iff hlow hhigh).mp h
  show (between low (held low width?) high (held high width?) lowIncluded highIncluded
    width?).holds _ = _
  rw [holds, between, Number.le_of_points hleft hheldLow, Number.lt_of_points hleft hheldLow,
    Number.le_of_points hheldLow hright, Number.lt_of_points hheldLow hright,
    Number.lt_of_points hlow hheldLow, Number.lt_of_points hheldHigh hhigh]
  have hbelow : min p (heldPlace width? p) ≤ heldPlace width? p := min_le_right _ _
  have habove : heldPlace width? p ≤ max q (heldPlace width? q) := htogether ▸ le_max_right _ _
  have hleftIff : min p (heldPlace width? p) < heldPlace width? p ↔ p < heldPlace width? p := by
    omega
  have hrightIff : heldPlace width? p < max q (heldPlace width? q) ↔ heldPlace width? q < q := by
    omega
  rw [decide_eq_true hbelow, decide_eq_true habove, decide_eq_decide.mpr hleftIff,
    decide_eq_decide.mpr hrightIff]
  cases lowIncluded <;> cases highIncluded <;> rfl

/-! ## Ranges that can be written -/

theorem isWritten_of_holds {v : Number} (h : Width.float.holds v = true) : v.isWritten = true := by
  cases v with
  | double d => exact Number.isWritten_double d
  | int n =>
    have hbound : Width.float.greatestUnits < 10 ^ Pattern.Fault.digitsAllowed * unitsPerOne := by
      decide +kernel
    have hplace := (float_holds_iff (v := .int n) rfl).mp h
    rw [Int.natAbs_mul, Int.natAbs_natCast] at hplace
    have hlt : n.natAbs < 10 ^ Pattern.Fault.digitsAllowed :=
      Nat.lt_of_mul_lt_mul_right (Nat.lt_of_le_of_lt hplace hbound)
    exact Number.isWritten_of_readable ((Decimal.length_le_iff (by decide)).mpr hlt)

/-- Only a bound that can be written is made a single precision number. -/
theorem isWritten_held (v : Number) (width? : Option Width) :
    (held v width?).isWritten = v.isWritten := by
  by_cases hwidth : width? = some .float
  · subst hwidth
    rcases held_cases v with ⟨heq, hholds⟩ | ⟨heq, -⟩
    · rw [heq, isWritten_of_holds hholds]
      rfl
    · rw [heq]
  · rw [held_eq_self hwidth]

theorem isWritten_min {a b : Number} (h : b.isWritten = a.isWritten) :
    (a.min b).isWritten = a.isWritten := by
  unfold Number.min
  split
  · exact h
  · rfl

theorem isWritten_max {a b : Number} (h : b.isWritten = a.isWritten) :
    (a.max b).isWritten = a.isWritten := by
  unfold Number.max
  split
  · exact h
  · rfl

/-- The interval of a range can be written exactly if its bounds can. -/
theorem isWritten_range (low high : Number) (lowIncluded highIncluded : Bool)
    (width? : Option Width) :
    (ofTest (.range (some low) (some high) lowIncluded highIncluded width?)).isWritten =
      (low.isWritten && high.isWritten) := by
  show ((low.min (held low width?)).isWritten && (high.max (held high width?)).isWritten) = _
  rw [isWritten_min (isWritten_held low width?), isWritten_max (isWritten_held high width?)]

end Interval

theorem Quantity.width_of_make {width : Width} {given : Number} {q : Quantity}
    (h : Quantity.make width given = .ok q) : q.width = width := by
  unfold Quantity.make at h
  split at h
  · cases h
    rfl
  · cases h

namespace Predicate

/-- A range whose finite bounds are inverted is empty exactly if the bounds are not brought together.
Then no tree satisfies it, and whatever texts there are, a generation of it is refused as unsatisfiable
if its bounds have no more digits than are written, and else breaks off while the refusal is written.
Only single precision brings bounds together, where it has room for both; then a single precision
number is held for both of them, and it satisfies the range if each end is included or behind it. -/
theorem inverted_range {test : NumberTest} {low high : Number} {lowIncluded highIncluded : Bool}
    {width? : Option Width}
    (htest : test = .range (some low) (some high) lowIncluded highIncluded width?)
    (hlow : low.isFinite = true) (hhigh : high.isFinite = true)
    (hinverted : Interval.Inverted low high lowIncluded highIncluded) :
    ((Interval.ofTest test).isEmpty = true ↔
      ¬ Interval.Bridged low high lowIncluded highIncluded width?) ∧
    (¬ Interval.Bridged low high lowIncluded highIncluded width? →
      (∀ node, (Predicate.number test).evaluate node = .ok false) ∧
      ∀ {σ : Type} (supply : TextSupply σ) (s : σ),
        ((low.isWritten && high.isWritten) = true → ∃ cause,
          (((Predicate.number test).generate supply).run s).1 = .error (.unsatisfiable cause)) ∧
        ((low.isWritten && high.isWritten) = false →
          (((Predicate.number test).generate supply).run s).1 = .error (.broken .unwritable))) ∧
    (Interval.Bridged low high lowIncluded highIncluded width? →
      width? = some .float ∧ Width.float.holds low = true ∧ Width.float.holds high = true ∧
      ∃ q : Quantity, q.width = .float ∧ q.value = Interval.held low width? ∧
        (Predicate.number test).evaluate (.number q) =
          .ok ((lowIncluded || low.lt (Interval.held low width?)) &&
            (highIncluded || (Interval.held high width?).lt high))) := by
  subst htest
  obtain ⟨p, hp⟩ := Number.exists_point_of_isFinite hlow
  obtain ⟨q, hq⟩ := Number.exists_point_of_isFinite hhigh
  have hempty : (Interval.ofTest (.range (some low) (some high) lowIncluded highIncluded
      width?)).isEmpty = true ↔ ¬ Interval.Bridged low high lowIncluded highIncluded width? :=
    Interval.isEmpty_iff_not_bridged hp hq hinverted
  refine ⟨hempty, fun hnot => ⟨fun node => ?_, fun supply s => ?_⟩, fun hbridged => ?_⟩
  · rw [evaluate_eq, Except.ok.injEq]
    cases node with
    | number quantity =>
      exact Interval.holds_eq_false_of_isEmpty (hempty.mpr hnot) quantity.value
    | _ => rfl
  · rw [← Interval.isWritten_range low high lowIncluded highIncluded width?]
    refine ⟨fun hwritten => refused_number_iff.mpr ⟨.inl (hempty.mpr hnot), hwritten⟩, fun hwritten => ?_⟩
    rw [generate, Generation.run_bind, Generation.quantity, if_pos (hempty.mpr hnot),
      Generation.run_giveUp, hwritten]
    rfl
  · obtain ⟨hwidth, hlowRoom, hhighRoom⟩ := Interval.float_of_bridged hp hq hinverted hbridged
    obtain ⟨made, hmake, hvalue⟩ := Quantity.exists_make hlowRoom
    have hheld : made.value = Interval.held low width? := by
      rcases Interval.held_cases low with ⟨heq, -⟩ | ⟨-, hnone⟩
      · rw [hvalue, hwidth, heq]
      · rw [hlowRoom] at hnone
        cases hnone
    refine ⟨hwidth, hlowRoom, hhighRoom, made, Quantity.width_of_make hmake, hheld, ?_⟩
    rw [evaluate, evaluateNumber_eq, hheld, Interval.holds_held hp hq hbridged]

/-- A range with its bounds in the wrong order. -/
def fiveToOne : NumberTest := .range (some (.int 5)) (some (.int 1)) true true none

/-- The double next to one fifth. -/
def fifth : Number := .double (.ofRatio false 2 10)

/-- The double before it. -/
def belowFifth : Number := .double (.ofRatio false 19999999999999998 (10 ^ 17))

/-- A range from the one down to the other, between which there is no other single precision
number. -/
def aroundFifth : NumberTest := .range (some fifth) (some belowFifth) true true (some .float)

theorem inverted_fiveToOne : Interval.Inverted (.int 5) (.int 1) true true := by decide +kernel

theorem inverted_aroundFifth : Interval.Inverted fifth belowFifth true true := by decide +kernel

theorem bridged_aroundFifth : Interval.Bridged fifth belowFifth true true (some .float) :=
  ⟨by decide +kernel, .inl ⟨rfl, rfl⟩⟩

theorem inverted_range_fiveToOne :
    (∀ node, (Predicate.number fiveToOne).evaluate node = .ok false) ∧
      (∃ cause, TreePredicate.generate (.number fiveToOne) = .error (.unsatisfiable cause)) ∧
      ∃ q : Quantity, q.width = .float ∧
        (Predicate.number aroundFifth).evaluate (.number q) = .ok true := by
  obtain ⟨-, hrefused, -⟩ := inverted_range (rfl : fiveToOne = _) rfl rfl inverted_fiveToOne
  obtain ⟨-, -, hinside⟩ := inverted_range (rfl : aroundFifth = _) (by decide +kernel)
    (by decide +kernel) inverted_aroundFifth
  obtain ⟨hfalse, hgenerate⟩ :=
    hrefused fun h => absurd h.together (by decide +kernel)
  obtain ⟨-, -, -, q, hwidth, -, hholds⟩ := hinside bridged_aroundFifth
  obtain ⟨hwritten, -⟩ := hgenerate (Settings.supply {}) (Settings.dice {})
  exact ⟨hfalse, hwritten (by decide), q, hwidth, hholds⟩

/-- Inverted bounds, as they stand in a text, with something between them. -/
theorem not_isEmpty_aroundFifth :
    Notation.parse "\x7bx: [0.2~0.19999999999999998]f\x7d" = .ok (inField aroundFifth) ∧
      Interval.Inverted fifth belowFifth true true ∧
      (Interval.ofTest aroundFifth).isEmpty = false ∧
      (∃ q : Quantity, (Predicate.number aroundFifth).evaluate (.number q) = .ok true) ∧
      ¬ ∃ cause, TreePredicate.generate (.number aroundFifth) = .error (.unsatisfiable cause) := by
  have htext : Notation.printed (inField aroundFifth) =
      "\x7bx: [0.2~0.19999999999999998]f\x7d" := by decide +kernel
  have hempty : (Interval.ofTest aroundFifth).isEmpty = false := by decide +kernel
  have hfound : (Interval.ofTest aroundFifth).choose? ≠ .ok none := by decide +kernel
  refine ⟨htext ▸ parse_inField (by decide +kernel), inverted_aroundFifth, hempty, ?_, fun h => ?_⟩
  · refine ⟨⟨.double, fifth, fifth, by decide +kernel⟩, ?_⟩
    rw [evaluate, evaluateNumber_eq, Except.ok.injEq]
    decide +kernel
  · rcases (refused_number_iff.mp h).1 with h | h
    · rw [hempty] at h
      cases h
    · exact hfound h

end Predicate

end TreePredicate
