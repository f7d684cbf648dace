import TreePredicate.Notation.Lexeme
import TreePredicate.Proofs.Text.Classes

/-!
# Numeric literals are read back

* `Starts` : what is known of the first character of a text, if it has one;
* `Numeral.chars` : the characters of a literal;
* `Numeral.Proper` : the literals that stand for what their characters say: digits where digits
  belong, and a tail that continues neither the digits nor an exponent;
* `read?_chars` : a proper literal is read back, whatever follows, unless it continues the literal;
* `digitsValue_ascii` : the value of digits of the canonical form.
-/

set_option autoImplicit false

namespace TreePredicate.Notation

/-! ## The start of a text -/

/-- The first character of a text, if there is one, is as demanded. -/
def Starts (P : Char → Prop) (chars : List Char) : Prop := ∀ c ∈ chars.head?, P c

theorem starts_nil (P : Char → Prop) : Starts P [] := by
  intro c hc
  cases hc

theorem starts_cons {P : Char → Prop} {c : Char} {rest : List Char} :
    Starts P (c :: rest) ↔ P c := by
  simp [Starts]

theorem Starts.imp {P Q : Char → Prop} {chars : List Char} (h : Starts P chars)
    (himp : ∀ c, P c → Q c) : Starts Q chars := fun c hc => himp c (h c hc)

theorem Starts.append {P : Char → Prop} {chars rest : List Char} (h : Starts P chars)
    (hrest : Starts P rest) : Starts P (chars ++ rest) := by
  cases chars with
  | nil => exact hrest
  | cons c chars => exact starts_cons.mpr (starts_cons.mp h)

theorem takeWhile_append_stop {p : Char → Bool} {chars rest : List Char}
    (h : ∀ c ∈ chars, p c = true) (hrest : Starts (fun c => p c = false) rest) :
    (chars ++ rest).takeWhile p = chars := by
  rw [List.takeWhile_append_of_pos h]
  cases rest with
  | nil => exact List.append_nil chars
  | cons c rest =>
    rw [List.takeWhile_cons_of_neg (by rw [starts_cons.mp hrest]; exact Bool.false_ne_true),
      List.append_nil]

theorem dropWhile_append_stop {p : Char → Bool} {chars rest : List Char}
    (h : ∀ c ∈ chars, p c = true) (hrest : Starts (fun c => p c = false) rest) :
    (chars ++ rest).dropWhile p = rest := by
  rw [List.dropWhile_append_of_pos h]
  cases rest with
  | nil => rfl
  | cons c rest =>
    rw [List.dropWhile_cons_of_neg (by rw [starts_cons.mp hrest]; exact Bool.false_ne_true)]

theorem ne_of_class {p : Char → Bool} {c d : Char} (h : p c = true) (hd : p d = false) : c ≠ d := by
  rintro rfl
  rw [h] at hd
  cases hd

namespace Numeral

/-! ## Characters of a literal -/

/-- The characters of a fraction. -/
def fractionChars (n : Numeral) : List Char := if n.fraction.isEmpty then [] else '.' :: n.fraction

/-- The characters of an exponent. -/
def exponentChars (n : Numeral) : List Char :=
  match n.exponent with
  | none => []
  | some (letter, sign, digits) => letter :: (sign ++ digits)

/-- The characters of a literal. -/
def chars (n : Numeral) : List Char :=
  n.sign ++ (n.whole ++ (n.fractionChars ++ (n.exponentChars ++ n.tail)))

theorem length_chars (n : Numeral) : n.chars.length = n.length := by
  obtain ⟨sign, whole, fraction, exponent, tail⟩ := n
  have hfraction : (fractionChars ⟨sign, whole, fraction, exponent, tail⟩).length =
      if fraction.isEmpty then 0 else 1 + fraction.length := by
    unfold fractionChars
    dsimp only
    split
    · rfl
    · rw [List.length_cons, Nat.add_comm]
  have hexponent : (exponentChars ⟨sign, whole, fraction, exponent, tail⟩).length =
      exponentLength ⟨sign, whole, fraction, exponent, tail⟩ := by
    cases exponent with
    | none => rfl
    | some e =>
      obtain ⟨letter, sign', digits⟩ := e
      show (letter :: (sign' ++ digits)).length = 1 + sign'.length + digits.length
      rw [List.length_cons, List.length_append]
      omega
  unfold chars length
  simp only [List.length_append, hfraction, hexponent]
  omega

/-- A sign, or nothing. -/
def IsSign (sign : List Char) : Prop := sign = [] ∨ ∃ c, sign = [c] ∧ (c = '+' ∨ c = '-')

/-- An exponent with a letter, a sign and digits. -/
structure IsExponent (letter : Char) (sign digits : List Char) : Prop where
  letter : letter = 'e' ∨ letter = 'E'
  sign : IsSign sign
  digits_ne : digits ≠ []
  digits : ∀ c ∈ digits, Text.isDigit c = true

/-- A character that continues neither digits nor a fraction nor an exponent. -/
def Stops (c : Char) : Prop := Text.isDigit c = false ∧ c ≠ '.' ∧ c ≠ 'e' ∧ c ≠ 'E'

/-- A literal with digits where digits belong and a tail that continues nothing before it. -/
structure Proper (n : Numeral) : Prop where
  sign : IsSign n.sign
  whole_ne : n.whole ≠ []
  whole : ∀ c ∈ n.whole, Text.isDigit c = true
  fraction : ∀ c ∈ n.fraction, Text.isDigit c = true
  exponent : ∀ letter sign digits, n.exponent = some (letter, sign, digits) →
    IsExponent letter sign digits
  tail : ∀ c ∈ n.tail, Text.isWord c = true
  stops : Starts Stops n.tail

theorem stops_of_not_word {c : Char} (hword : Text.isWord c = false) (hpoint : c ≠ '.') : Stops c := by
  refine ⟨?_, hpoint, ?_, ?_⟩
  · rw [← Bool.not_eq_true]
    intro hdigit
    rw [Text.isWord_of_isDigit hdigit] at hword
    cases hword
  · rintro rfl
    exact absurd hword (by decide +kernel)
  · rintro rfl
    exact absurd hword (by decide +kernel)

/-! ## Reading -/

theorem splitSign_append {sign chars : List Char} (hsign : IsSign sign)
    (hchars : Starts (fun c => c ≠ '+' ∧ c ≠ '-') chars) :
    splitSign (sign ++ chars) = (sign, chars) := by
  rcases hsign with rfl | ⟨c, rfl, hc⟩
  · cases chars with
    | nil => rfl
    | cons d rest =>
      obtain ⟨hplus, hminus⟩ := starts_cons.mp hchars
      show splitSign (d :: rest) = _
      rw [splitSign, if_neg]
      rintro (h | h)
      · exact hplus h
      · exact hminus h
  · show splitSign (c :: chars) = _
    rw [splitSign, if_pos hc]

theorem starts_digits {digits rest : List Char} (hne : digits ≠ [])
    (h : ∀ c ∈ digits, Text.isDigit c = true) :
    Starts (fun c => c ≠ '+' ∧ c ≠ '-') (digits ++ rest) := by
  cases digits with
  | nil => exact absurd rfl hne
  | cons c digits =>
    have hc := h c List.mem_cons_self
    exact starts_cons.mpr ⟨ne_of_class hc (by decide +kernel), ne_of_class hc (by decide +kernel)⟩

theorem isEmpty_eq_false {chars : List Char} (h : chars ≠ []) : chars.isEmpty = false :=
  List.isEmpty_eq_false_iff.mpr h

/-- No fraction comes first: no point, or no digit behind it. -/
def NoFraction (chars : List Char) : Prop :=
  ∀ rest, chars = '.' :: rest → Starts (fun c => Text.isDigit c = false) rest

/-- No exponent comes first: no letter for one, or no digit behind the letter and a sign. -/
def NoExponent (chars : List Char) : Prop :=
  ∀ c rest, chars = c :: rest → c = 'e' ∨ c = 'E' →
    Starts (fun c => Text.isDigit c = false) (splitSign rest).2

theorem takeWhile_eq_nil_iff {p : Char → Bool} {chars : List Char} :
    chars.takeWhile p = [] ↔ Starts (fun c => p c = false) chars := by
  cases chars with
  | nil => exact iff_of_true rfl (starts_nil _)
  | cons c chars =>
    rw [starts_cons, List.takeWhile_cons]
    cases p c <;> simp

theorem splitFraction_of_none {chars : List Char} (h : NoFraction chars) :
    splitFraction chars = ([], chars) := by
  unfold splitFraction
  split
  · next rest =>
    rw [takeWhile_eq_nil_iff.mpr (h rest rfl)]
    rfl
  · rfl

theorem splitFraction_digits {digits rest : List Char} (hne : digits ≠ [])
    (hdigits : ∀ c ∈ digits, Text.isDigit c = true)
    (hrest : Starts (fun c => Text.isDigit c = false) rest) :
    splitFraction ('.' :: (digits ++ rest)) = (digits, rest) := by
  rw [splitFraction]
  rw [takeWhile_append_stop hdigits hrest, dropWhile_append_stop hdigits hrest,
    isEmpty_eq_false hne, if_neg Bool.false_ne_true]

theorem splitExponent_of_none {chars : List Char} (h : NoExponent chars) :
    splitExponent chars = (none, chars) := by
  cases chars with
  | nil => rfl
  | cons c rest =>
    rw [splitExponent]
    split
    · next hletter =>
      dsimp only
      rw [takeWhile_eq_nil_iff.mpr (h c rest rfl hletter)]
      rfl
    · rfl

theorem splitExponent_digits {letter : Char} {sign digits rest : List Char}
    (h : IsExponent letter sign digits) (hrest : Starts (fun c => Text.isDigit c = false) rest) :
    splitExponent (letter :: (sign ++ (digits ++ rest))) = (some (letter, sign, digits), rest) := by
  rw [splitExponent, if_pos h.letter, splitSign_append h.sign (starts_digits h.digits_ne h.digits)]
  dsimp only
  rw [takeWhile_append_stop h.digits hrest, dropWhile_append_stop h.digits hrest,
    isEmpty_eq_false h.digits_ne, if_neg Bool.false_ne_true]

theorem splitExponent_append {n : Numeral} (h : n.Proper) {rest : List Char}
    (hrest : Starts Stops rest) :
    splitExponent (n.exponentChars ++ rest) = (n.exponent, rest) := by
  unfold exponentChars
  cases hexp : n.exponent with
  | none =>
    refine splitExponent_of_none ?_
    rintro c rest' rfl hletter
    obtain ⟨-, -, he, hE⟩ := starts_cons.mp hrest
    exact absurd hletter (by simp [he, hE])
  | some exponent =>
    obtain ⟨letter, sign, digits⟩ := exponent
    have hstop : Starts (fun c => Text.isDigit c = false) rest := hrest.imp fun c hc => hc.1
    show splitExponent (letter :: (sign ++ digits ++ rest)) = _
    rw [List.append_assoc]
    exact splitExponent_digits (h.exponent letter sign digits hexp) hstop

theorem splitFraction_append {n : Numeral} (h : n.Proper) {rest : List Char}
    (hrest : Starts (fun c => Text.isDigit c = false ∧ c ≠ '.') rest) :
    splitFraction (n.fractionChars ++ rest) = (n.fraction, rest) := by
  unfold fractionChars
  by_cases hempty : n.fraction = []
  · rw [hempty]
    refine splitFraction_of_none ?_
    rintro digits rfl
    exact absurd rfl (starts_cons.mp hrest).2
  · rw [isEmpty_eq_false hempty, if_neg Bool.false_ne_true]
    exact splitFraction_digits hempty h.fraction (hrest.imp fun c hc => hc.1)

theorem starts_exponentChars {n : Numeral} (h : n.Proper) {rest : List Char}
    (hrest : Starts Stops rest) :
    Starts (fun c => Text.isDigit c = false ∧ c ≠ '.') (n.exponentChars ++ rest) := by
  unfold exponentChars
  cases hexp : n.exponent with
  | none => exact hrest.imp fun c hc => ⟨hc.1, hc.2.1⟩
  | some exponent =>
    obtain ⟨letter, sign, digits⟩ := exponent
    refine starts_cons.mpr ?_
    rcases (h.exponent letter sign digits hexp).letter with rfl | rfl
    · exact ⟨by decide +kernel, by decide⟩
    · exact ⟨by decide +kernel, by decide⟩

theorem starts_fractionChars {n : Numeral} {rest : List Char}
    (hrest : Starts (fun c => Text.isDigit c = false ∧ c ≠ '.') rest) :
    Starts (fun c => Text.isDigit c = false) (n.fractionChars ++ rest) := by
  unfold fractionChars
  split
  · exact hrest.imp fun c hc => hc.1
  · exact starts_cons.mpr (by decide +kernel)

/-- A proper literal is read back, unless what follows continues it. -/
theorem read?_chars {n : Numeral} (h : n.Proper) {rest : List Char}
    (hrest : Starts (fun c => Text.isWord c = false ∧ c ≠ '.') rest) :
    read? (n.chars ++ rest) = some n := by
  have htail : Starts Stops (n.tail ++ rest) :=
    h.stops.append (hrest.imp fun c hc => stops_of_not_word hc.1 hc.2)
  have hexponent := starts_exponentChars h htail
  have hfraction := starts_fractionChars (n := n) hexponent
  have hword : Starts (fun c => Text.isWord c = false) rest := hrest.imp fun c hc => hc.1
  have hsplit : n.chars ++ rest =
      n.sign ++ (n.whole ++ (n.fractionChars ++ (n.exponentChars ++ (n.tail ++ rest)))) := by
    simp only [chars, List.append_assoc]
  unfold read?
  rw [hsplit, splitSign_append h.sign (starts_digits h.whole_ne h.whole)]
  dsimp only
  rw [takeWhile_append_stop h.whole hfraction, dropWhile_append_stop h.whole hfraction,
    isEmpty_eq_false h.whole_ne, if_neg Bool.false_ne_true, splitFraction_append h hexponent]
  dsimp only
  rw [splitExponent_append h htail]
  dsimp only
  rw [takeWhile_append_stop h.tail hword]

/-! ## Values -/

/-- The value of digits of the canonical form. -/
theorem digitsValue_ascii {digits : List Char} (h : ∀ c ∈ digits, c.isDigit = true) :
    digitsValue digits = Nat.ofDigitChars 10 digits 0 := by
  have hfold : ∀ start : Nat, (digits.map fun c => (Text.digitValue? c).getD 0).foldl
      (fun n d => 10 * n + d) start = Nat.ofDigitChars 10 digits start := by
    induction digits with
    | nil => exact fun start => Nat.ofDigitChars_nil.symm
    | cons c digits ih =>
      intro start
      rw [List.map_cons, List.foldl_cons, ih fun d hd => h d (List.mem_cons_of_mem c hd),
        Text.digitValue?_ascii (h c List.mem_cons_self), Option.getD_some, Nat.ofDigitChars_cons]
  exact hfold 0

end Numeral

end TreePredicate.Notation
