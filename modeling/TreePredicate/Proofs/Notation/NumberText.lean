import Mathlib.Data.List.TakeWhile
import TreePredicate.Notation.Canonical
import TreePredicate.Proofs.Notation.Numeral
import TreePredicate.Proofs.Number.Decimal

/-!
# Written numbers are read back

* `Decimal.Lays` : a literal without a sign lays out digits around a point; `lays_layout` has one
  case for each of the forms a double is written in;
* `Number.Readable` : the numbers that can be read at all: finite doubles, and integers whose digits
  are not too many;
* `Numeral.Spells` : a proper literal with given characters and a given meaning;
* `spells_numberText` : the written form of a readable number, with its width, is such a literal.
-/

set_option autoImplicit false

namespace TreePredicate

open Notation

/-! ## Digits of the canonical form -/

theorem isDigit_of_mem_toDigits {n : Nat} {c : Char} (h : c ∈ Nat.toDigits 10 n) :
    c.isDigit = true :=
  Nat.isDigit_of_mem_toDigits (by decide) (by decide) h

theorem isDigit_of_mem_replicate {n : Nat} {c : Char} (h : c ∈ List.replicate n '0') :
    c.isDigit = true := by
  rw [List.eq_of_mem_replicate h]
  rfl

theorem digitsValue_toDigits (n : Nat) : Numeral.digitsValue (Nat.toDigits 10 n) = n := by
  rw [Numeral.digitsValue_ascii fun c hc => isDigit_of_mem_toDigits hc, Nat.ofDigitChars_ten_toDigits]

namespace Decimal

/-- Digits are those without the zeros at their end, and these zeros. -/
theorem trim_spec (digits : List Char) :
    digits = (trim digits).1 ++ List.replicate (trim digits).2 '0' := by
  have hsplit := List.takeWhile_append_dropWhile (p := (· == '0')) (l := digits.reverse)
  have hzeros : digits.reverse.takeWhile (· == '0') =
      List.replicate (digits.reverse.takeWhile (· == '0')).length '0' :=
    List.eq_replicate_of_mem fun c hc =>
      eq_of_beq (List.mem_takeWhile_imp (p := (· == '0')) hc)
  have hdropped : (trim digits).2 = (digits.reverse.takeWhile (· == '0')).length := by
    have hlength := congrArg List.length hsplit
    rw [List.length_append, List.length_reverse] at hlength
    unfold trim
    dsimp only
    omega
  calc digits
      = (digits.reverse.takeWhile (· == '0') ++ digits.reverse.dropWhile (· == '0')).reverse := by
        rw [hsplit, List.reverse_reverse]
    _ = (trim digits).1 ++ (digits.reverse.takeWhile (· == '0')).reverse := List.reverse_append
    _ = (trim digits).1 ++ List.replicate (trim digits).2 '0' := by
        rw [hzeros, List.reverse_replicate, hdropped, ← hzeros]

/-! ## Layouts -/

theorem proper_of_ascii {whole fraction : List Char} {exponent : Option (Char × List Char × List Char)}
    (hne : whole ≠ []) (hwhole : ∀ c ∈ whole, c.isDigit = true)
    (hfraction : ∀ c ∈ fraction, c.isDigit = true)
    (hexponent : ∀ letter sign digits, exponent = some (letter, sign, digits) →
      Numeral.IsExponent letter sign digits) :
    Numeral.Proper ⟨[], whole, fraction, exponent, []⟩ where
  sign := .inl rfl
  whole_ne := hne
  whole := fun c hc => Text.isDigit_ascii (hwhole c hc)
  fraction := fun c hc => Text.isDigit_ascii (hfraction c hc)
  exponent := hexponent
  tail := List.forall_mem_nil _
  stops := starts_nil _

theorem not_exponent {letter : Char} {sign digits : List Char}
    (h : (none : Option (Char × List Char × List Char)) = some (letter, sign, digits)) :
    Numeral.IsExponent letter sign digits := by
  cases h

theorem chars_fraction {fraction : List Char} (hne : fraction.isEmpty = false) (whole : List Char) :
    Numeral.chars ⟨[], whole, fraction, none, []⟩ = whole ++ '.' :: fraction := by
  unfold Numeral.chars Numeral.fractionChars Numeral.exponentChars
  rw [hne, if_neg Bool.false_ne_true, List.append_nil, List.append_nil]
  rfl

/-- A literal without a sign lays out digits: it is proper and decimal, and its digits are the given
ones with as many zeros at their end as its exponent lacks. -/
structure Lays (n : Numeral) (digits : List Char) (point : Int) : Prop where
  proper : n.Proper
  sign : n.sign = []
  tail : n.tail = []
  chars : n.chars = layout digits point
  isDecimal : n.isDecimal = true
  value : ∃ k : Nat,
    Numeral.digitsValue (n.whole ++ n.fraction) = Nat.ofDigitChars 10 digits 0 * 10 ^ k ∧
    n.exponentValue - n.fraction.length = point - digits.length - k

theorem lays_small {digits : List Char} (h : ∀ c ∈ digits, c.isDigit = true) (hne : digits ≠ [])
    {point : Int} (hlow : -4 < point) (hhigh : point ≤ 0) :
    Lays ⟨[], ['0'], List.replicate (-point).toNat '0' ++ digits, none, []⟩ digits point := by
  have hfraction : ∀ c ∈ List.replicate (-point).toNat '0' ++ digits, c.isDigit = true := by
    intro c hc
    rcases List.mem_append.mp hc with hc | hc
    · exact isDigit_of_mem_replicate hc
    · exact h c hc
  have hempty : (List.replicate (-point).toNat '0' ++ digits).isEmpty = false :=
    Numeral.isEmpty_eq_false (List.append_ne_nil_of_right_ne_nil _ hne)
  refine ⟨proper_of_ascii (List.cons_ne_nil _ _) (List.forall_mem_singleton.mpr rfl) hfraction
    fun _ _ _ => not_exponent, rfl, rfl, ?_, ?_, 0, ?_, ?_⟩
  · unfold layout
    rw [chars_fraction hempty, if_pos ⟨hlow, by omega⟩, if_pos hhigh]
    rfl
  · unfold Numeral.isDecimal
    rw [hempty]
    rfl
  · rw [Numeral.digitsValue_ascii, List.singleton_append, Nat.ofDigitChars_cons,
      Nat.ofDigitChars_append, Nat.ofDigitChars_replicate_zero]
    · simp
    · exact fun c hc => (List.mem_append.mp hc).elim
        (fun hc => List.mem_singleton.mp hc ▸ rfl) (hfraction c)
  · simp only [Numeral.exponentValue, List.length_append, List.length_replicate]
    omega

theorem lays_middle {digits : List Char} (h : ∀ c ∈ digits, c.isDigit = true)
    {point : Nat} (hpos : 0 < point) (hle : point ≤ 16) (hlt : point < digits.length) :
    Lays ⟨[], digits.take point, digits.drop point, none, []⟩ digits point := by
  have hempty : (digits.drop point).isEmpty = false := by
    refine Numeral.isEmpty_eq_false (List.ne_nil_of_length_pos ?_)
    rw [List.length_drop]
    omega
  have hwhole : digits.take point ≠ [] := by
    apply List.ne_nil_of_length_pos
    rw [List.length_take]
    omega
  refine ⟨proper_of_ascii hwhole (fun c hc => h c (List.mem_of_mem_take hc))
    (fun c hc => h c (List.mem_of_mem_drop hc)) fun _ _ _ => not_exponent, rfl, rfl, ?_, ?_, 0, ?_,
    ?_⟩
  · unfold layout
    rw [chars_fraction hempty, if_pos ⟨by omega, by omega⟩, if_neg (by omega), Int.toNat_natCast,
      if_pos hlt]
  · unfold Numeral.isDecimal
    rw [hempty]
    rfl
  · rw [List.take_append_drop, Numeral.digitsValue_ascii h, Nat.pow_zero, Nat.mul_one]
  · simp only [Numeral.exponentValue, List.length_drop]
    omega

theorem lays_large {digits : List Char} (h : ∀ c ∈ digits, c.isDigit = true) (hne : digits ≠ [])
    {point : Nat} (hle : point ≤ 16) (hge : digits.length ≤ point) :
    Lays ⟨[], digits ++ List.replicate (point - digits.length) '0', ['0'], none, []⟩ digits
      point := by
  have hwhole : ∀ c ∈ digits ++ List.replicate (point - digits.length) '0', c.isDigit = true := by
    intro c hc
    rcases List.mem_append.mp hc with hc | hc
    · exact h c hc
    · exact isDigit_of_mem_replicate hc
  have hpos := List.length_pos_iff.mpr hne
  refine ⟨proper_of_ascii (List.append_ne_nil_of_left_ne_nil hne _) hwhole
    (List.forall_mem_singleton.mpr rfl) fun _ _ _ => not_exponent, rfl, rfl, ?_, rfl,
    point - digits.length + 1, ?_, ?_⟩
  · unfold layout
    rw [chars_fraction rfl, if_pos ⟨by omega, by omega⟩, if_neg (by omega), Int.toNat_natCast,
      if_neg (by omega)]
  · rw [Numeral.digitsValue_ascii, Nat.ofDigitChars_append, Nat.ofDigitChars_append,
      Nat.ofDigitChars_replicate_zero, Nat.ofDigitChars_cons, Nat.ofDigitChars_nil, Nat.pow_succ]
    · simp only [Nat.sub_self, Nat.add_zero]
      rw [Nat.mul_comm, Nat.mul_comm (10 ^ _), Nat.mul_assoc]
    · exact fun c hc => (List.mem_append.mp hc).elim (hwhole c)
        fun hc => List.mem_singleton.mp hc ▸ rfl
  · simp only [Numeral.exponentValue, List.length_singleton]
    omega

theorem exponentText_spec (exponent : Int) :
    ∃ c digits, exponentText exponent = c :: digits ∧
      (c = '+' ∨ c = '-') ∧ digits ≠ [] ∧ (∀ d ∈ digits, d.isDigit = true) ∧
      signed ([c] == ['-']) (Numeral.digitsValue digits) = exponent := by
  refine ⟨_, _, rfl, ?_, ?_, ?_, ?_⟩
  · split
    · exact .inr rfl
    · exact .inl rfl
  · exact List.append_ne_nil_of_right_ne_nil _ Nat.toDigits_ne_nil
  · intro d hd
    rcases List.mem_append.mp hd with hd | hd
    · exact isDigit_of_mem_replicate hd
    · exact isDigit_of_mem_toDigits hd
  · rw [Numeral.digitsValue_ascii, Nat.ofDigitChars_append, Nat.ofDigitChars_replicate_zero,
      Nat.mul_zero, Nat.ofDigitChars_ten_toDigits]
    · unfold signed
      by_cases hneg : exponent < 0
      · rw [if_pos hneg, if_pos (by decide)]
        omega
      · rw [if_neg hneg, if_neg (by decide)]
        omega
    · intro d hd
      rcases List.mem_append.mp hd with hd | hd
      · exact isDigit_of_mem_replicate hd
      · exact isDigit_of_mem_toDigits hd

theorem lays_exponent {digits : List Char} (h : ∀ c ∈ digits, c.isDigit = true) (hne : digits ≠ [])
    {point : Int} (hfar : ¬ (-4 < point ∧ point ≤ 16)) : ∃ n, Lays n digits point := by
  obtain ⟨c, exponent, htext, hc, hexponent_ne, hexponent, hvalue⟩ := exponentText_spec (point - 1)
  obtain ⟨first, rest, rfl⟩ := List.exists_cons_of_ne_nil hne
  refine ⟨⟨[], [first], rest, some ('e', [c], exponent), []⟩,
    ⟨proper_of_ascii (List.cons_ne_nil _ _) (List.forall_mem_singleton.mpr (h first List.mem_cons_self))
      (fun d hd => h d (List.mem_cons_of_mem first hd)) ?_, rfl, rfl, ?_, ?_, 0, ?_, ?_⟩⟩
  · intro letter sign digits heq
    cases heq
    exact ⟨.inl rfl, .inr ⟨c, rfl, hc⟩, hexponent_ne, fun d hd => Text.isDigit_ascii (hexponent d hd)⟩
  · unfold layout
    rw [if_neg hfar, htext]
    simp [Numeral.chars, Numeral.fractionChars, Numeral.exponentChars]
  · unfold Numeral.isDecimal
    exact Bool.or_true _
  · rw [List.singleton_append, Numeral.digitsValue_ascii h, Nat.pow_zero, Nat.mul_one]
  · simp only [Numeral.exponentValue, hvalue, List.length_cons]
    omega

/-- Digits around a point are laid out as a literal. -/
theorem lays_layout {digits : List Char} (h : ∀ c ∈ digits, c.isDigit = true) (hne : digits ≠ [])
    (point : Int) : ∃ n, Lays n digits point := by
  by_cases hfar : -4 < point ∧ point ≤ 16
  · obtain ⟨hlow, hhigh⟩ := hfar
    by_cases hsmall : point ≤ 0
    · exact ⟨_, lays_small h hne hlow hsmall⟩
    · have hpos : 0 < point := by omega
      obtain ⟨place, rfl⟩ := Int.eq_ofNat_of_zero_le (Int.le_of_lt hpos)
      rcases Nat.lt_or_ge place digits.length with hlt | hge
      · exact ⟨_, lays_middle h (by omega) (by omega) hlt⟩
      · exact ⟨_, lays_large h hne (by omega) hge⟩
  · exact lays_exponent h hne hfar

end Decimal

/-! ## Written numbers -/

namespace Notation.Numeral

/-- A proper literal without a tail, with given characters and a given value. -/
structure Reads (n : Numeral) (text : List Char) (value : Number) : Prop where
  proper : n.Proper
  tail : n.tail = []
  chars : n.chars = text
  value : ∀ offset, n.value offset = .ok value

/-- A proper literal with given characters and a given meaning. -/
structure Spells (n : Numeral) (text : List Char) (content : Content) : Prop where
  proper : n.Proper
  chars : n.chars = text
  content : ∀ offset, n.content text offset = .ok content

end Notation.Numeral

/-- The literal that digits other than zero are written as. -/
theorem exists_literal_spread {digits : Nat} (h : digits ≠ 0) (exponent : Int) :
    ∃ n : Numeral, n.Proper ∧ n.sign = [] ∧ n.tail = [] ∧ n.chars = Decimal.spread digits exponent ∧
      n.isDecimal = true ∧ ∀ negative,
        (Decimal.mk negative (Numeral.digitsValue (n.whole ++ n.fraction))
          (n.exponentValue - n.fraction.length)).toDouble =
        (Decimal.mk negative digits exponent).toDouble := by
  have htrim := Decimal.trim_spec (Nat.toDigits 10 digits)
  unfold Decimal.spread
  generalize Decimal.trim (Nat.toDigits 10 digits) = trimmed at htrim ⊢
  obtain ⟨kept, dropped⟩ := trimmed
  dsimp only at htrim ⊢
  have hkept : ∀ c ∈ kept, c.isDigit = true := by
    intro c hc
    apply isDigit_of_mem_toDigits (n := digits)
    rw [htrim]
    exact List.mem_append_left _ hc
  have hdigits : digits = Nat.ofDigitChars 10 kept 0 * 10 ^ dropped := by
    have hvalue := congrArg (fun chars => Nat.ofDigitChars 10 chars 0) htrim
    rwa [Nat.ofDigitChars_ten_toDigits, Nat.ofDigitChars_append, Nat.ofDigitChars_replicate_zero,
      Nat.mul_comm] at hvalue
  have hne : kept ≠ [] := by
    rintro rfl
    rw [Nat.ofDigitChars_nil, Nat.zero_mul] at hdigits
    exact h hdigits
  obtain ⟨n, hn⟩ := Decimal.lays_layout hkept hne (kept.length + exponent + dropped)
  obtain ⟨k, hvalue, hexponent⟩ := hn.value
  refine ⟨n, hn.proper, hn.sign, hn.tail, hn.chars, hn.isDecimal, fun negative => ?_⟩
  have hplace : n.exponentValue - n.fraction.length + k = exponent + dropped := by omega
  rw [hvalue, Decimal.toDouble_shift, hplace, hdigits, Decimal.toDouble_shift]

/-- The literal that a magnitude is written as. -/
theorem exists_literal (m : Magnitude) :
    ∃ n : Numeral, n.Proper ∧ n.sign = [] ∧ n.tail = [] ∧ n.chars = Double.magnitudeText m ∧
      n.isDecimal = true ∧ ∀ negative,
        (Decimal.mk negative (Numeral.digitsValue (n.whole ++ n.fraction))
          (n.exponentValue - n.fraction.length)).toDouble = .finite negative m := by
  have hzero : ∀ negative, m.units = 0 → Double.zero negative = .finite negative m := by
    intro negative hunits
    rw [← ofUnits_units, hunits]
    rfl
  unfold Double.magnitudeText
  by_cases hunits : m.units = 0
  · rw [if_pos hunits]
    refine ⟨⟨[], ['0'], ['0'], none, []⟩, Decimal.proper_of_ascii (List.cons_ne_nil _ _)
      (List.forall_mem_singleton.mpr rfl) (List.forall_mem_singleton.mpr rfl)
      fun _ _ _ => Decimal.not_exponent, rfl, rfl, rfl, rfl, fun negative => ?_⟩
    have hdigits : Numeral.digitsValue ['0', '0'] = 0 := by decide +kernel
    unfold Decimal.toDouble
    exact (if_pos hdigits).trans (hzero negative hunits)
  · have hread := m.toDouble_shortest hunits
    have hdigits : m.shortest.1 ≠ 0 := by
      intro hdigits
      rw [hdigits, Decimal.toDouble, if_pos rfl] at hread
      obtain ⟨z, hz, hz0⟩ := ofUnits_finite false (by decide +kernel :
        Rounding.significant 53 0 1 < unitsBound)
      rw [Double.zero, hz] at hread
      cases hread
      exact hunits hz0
    rw [if_neg hunits]
    obtain ⟨n, hproper, hsign, htail, hchars, hdecimal, hvalue⟩ :=
      exists_literal_spread hdigits m.shortest.2
    refine ⟨n, hproper, hsign, htail, hchars, hdecimal, fun negative => ?_⟩
    rw [hvalue]
    exact Decimal.toDouble_negative hread negative

/-- The characters of a sign. -/
def signChars (negative : Bool) : List Char := if negative then ['-'] else []

theorem isSign_signChars (negative : Bool) : Numeral.IsSign (signChars negative) := by
  cases negative
  · exact .inl rfl
  · exact .inr ⟨'-', rfl, .inr rfl⟩

theorem signChars_beq (negative : Bool) : (signChars negative == ['-']) = negative := by
  cases negative <;> decide

theorem Notation.Numeral.Proper.withSign {n : Numeral} (h : n.Proper) (negative : Bool) :
    Numeral.Proper { n with sign := signChars negative } :=
  ⟨isSign_signChars negative, h.whole_ne, h.whole, h.fraction, h.exponent, h.tail, h.stops⟩

theorem reads_double (negative : Bool) (m : Magnitude) :
    ∃ n : Numeral, n.Reads (Double.text (.finite negative m)) (.double (.finite negative m)) := by
  obtain ⟨n, hproper, hsign, htail, hchars, hdecimal, hvalue⟩ := exists_literal m
  refine ⟨{ n with sign := signChars negative }, hproper.withSign negative, htail, ?_, fun offset => ?_⟩
  · show signChars negative ++ _ = signChars negative ++ Double.magnitudeText m
    rw [← hchars, Numeral.chars, hsign]
    rfl
  · have hdouble : Decimal.toDouble (Numeral.decimal { n with sign := signChars negative }) =
        .finite negative m := by
      unfold Numeral.decimal Numeral.isNegative
      rw [signChars_beq]
      exact hvalue negative
    unfold Numeral.value
    rw [if_pos (show Numeral.isDecimal { n with sign := signChars negative } = true from hdecimal),
      hdouble]

/-- The numbers whose written form can be read: finite doubles, and integers of no more digits than
are read at all. -/
def Number.Readable : Number → Prop
  | .int n => Decimal.length n.natAbs ≤ Pattern.Fault.digitsAllowed
  | .double d => d.isFinite = true

/-- Whether a number can be read is decided. -/
instance (value : Number) : Decidable value.Readable :=
  match value with
  | .int n => inferInstanceAs (Decidable (Decimal.length n.natAbs ≤ _))
  | .double d => inferInstanceAs (Decidable (d.isFinite = true))

theorem reads_int {value : Int} (h : (Number.int value).Readable) :
    ∃ n : Numeral, n.Reads (Number.intText value) (.int value) := by
  have hdigits : ∀ c ∈ Nat.toDigits 10 value.natAbs, c.isDigit = true :=
    fun c hc => isDigit_of_mem_toDigits hc
  have hproper : Numeral.Proper ⟨[], Nat.toDigits 10 value.natAbs, [], none, []⟩ :=
    Decimal.proper_of_ascii Nat.toDigits_ne_nil hdigits (List.forall_mem_nil _)
      fun _ _ _ => Decimal.not_exponent
  refine ⟨⟨signChars (value < 0), Nat.toDigits 10 value.natAbs, [], none, []⟩,
    hproper.withSign (value < 0), rfl, ?_, fun offset => ?_⟩
  · unfold Numeral.chars Number.intText signChars Numeral.fractionChars Numeral.exponentChars
    simp
  · unfold Numeral.value Numeral.isNegative
    have hlength : ¬ Pattern.Fault.digitsAllowed < (Nat.toDigits 10 value.natAbs).length :=
      Nat.not_lt.mpr h
    rw [if_neg (show ¬ Numeral.isDecimal ⟨_, _, [], none, _⟩ = true from Bool.false_ne_true),
      if_neg hlength, signChars_beq, digitsValue_toDigits]
    unfold signed
    by_cases hneg : value < 0
    · rw [decide_eq_true hneg, if_pos rfl]
      congr 2
      omega
    · rw [decide_eq_false hneg, if_neg Bool.false_ne_true]
      congr 2
      omega

theorem reads_number {value : Number} (h : value.Readable) :
    ∃ n : Numeral, n.Reads value.text.toList value := by
  cases value with
  | int value =>
    obtain ⟨n, hn⟩ := reads_int h
    exact ⟨n, by rwa [Number.text.eq_def, String.toList_ofList]⟩
  | double d =>
    cases d with
    | nan => cases h
    | infinite negative => cases h
    | finite negative m =>
      obtain ⟨n, hn⟩ := reads_double negative m
      exact ⟨n, by rwa [Number.text.eq_def, String.toList_ofList]⟩

/-- A number that can be read is read back from its written form, with its width. -/
theorem spells_numberText {value : Number} (h : value.Readable) (width? : Option Width) :
    ∃ n : Numeral, n.Spells (numberText value width?).toList (.number value width?) := by
  obtain ⟨n, hn⟩ := reads_number h
  cases width? with
  | none =>
    refine ⟨n, hn.proper, ?_, fun offset => ?_⟩
    · rw [hn.chars, numberText, suffixText, String.append_empty]
    · rw [Numeral.content, hn.tail, hn.value]
      rfl
  | some width =>
    have hsuffix : Width.ofSuffix (String.ofList [width.suffix]) = .ok width := by
      cases width <;> decide +kernel
    have hword : Text.isWord width.suffix = true := by cases width <;> decide +kernel
    have hstops : Numeral.Stops width.suffix := by
      cases width <;> exact ⟨by decide +kernel, by decide, by decide, by decide⟩
    have hvalue : ∀ offset, Numeral.value { n with tail := [width.suffix] } offset = .ok value := hn.value
    refine ⟨{ n with tail := [width.suffix] }, ⟨hn.proper.sign, hn.proper.whole_ne, hn.proper.whole,
      hn.proper.fraction, hn.proper.exponent, List.forall_mem_singleton.mpr hword,
      starts_cons.mpr hstops⟩, ?_, fun offset => ?_⟩
    · have hchars := hn.chars
      rw [Numeral.chars, hn.tail, List.append_nil] at hchars
      rw [numberText, suffixText, String.toList_append, ← hchars]
      simp [Numeral.chars, Numeral.fractionChars, Numeral.exponentChars]
    · rw [Numeral.content]
      dsimp only
      rw [hsuffix]
      dsimp only
      rw [hvalue]
      rfl

end TreePredicate
