import TreePredicate.Notation.Lexeme
import TreePredicate.Text.Quoted

/-!
# Quoted texts are read back

* `encodeChar_cases` : a character is written as it is, behind a backslash, or as four digits in base
  sixteen;
* `decode_encode` : the text between the quotes of a quoted form is decoded to what was encoded;
* `quotedBody?_encode` : it ends at its closing quote, whatever follows.
-/

set_option autoImplicit false

namespace TreePredicate.Text.Quoted

/-! ## Single characters -/

/-- Four digits in base sixteen that give a code unit. -/
structure UnitDigits (digits : List Char) (unit : Nat) : Prop where
  gives : ∃ a b c d, digits = [a, b, c, d] ∧ unit? a b c d = some unit
  plain : ∀ c ∈ digits, c ≠ '"' ∧ c ≠ '\\'

theorem hexValue?_digitChar : ∀ d < 0x10, hexValue? (Nat.digitChar d) = some d := by
  decide +kernel

theorem digitChar_plain : ∀ d < 0x10, Nat.digitChar d ≠ '"' ∧ Nat.digitChar d ≠ '\\' := by
  decide +kernel

theorem hex_control : ∀ n < 0x20,
    hex 4 n = ['0', '0', Nat.digitChar (n / 16), Nat.digitChar (n % 16)] := by
  decide +kernel

theorem unitDigits_hex {n : Nat} (h : n < 0x20) : UnitDigits (hex 4 n) n := by
  have hhigh : n / 16 < 0x10 := by omega
  have hlow : n % 16 < 0x10 := by omega
  rw [hex_control n h]
  constructor
  · refine ⟨_, _, _, _, rfl, ?_⟩
    unfold unit?
    rw [hexValue?_digitChar _ hhigh, hexValue?_digitChar _ hlow]
    show some (((0 * 16 + 0) * 16 + n / 16) * 16 + n % 16) = some n
    congr 1
    omega
  · intro c hc
    rcases List.mem_cons.mp hc with rfl | hc
    · decide
    rcases List.mem_cons.mp hc with rfl | hc
    · decide
    rcases List.mem_cons.mp hc with rfl | hc
    · exact digitChar_plain _ hhigh
    · rw [List.mem_singleton.mp hc]
      exact digitChar_plain _ hlow

/-- The three ways to write a character. -/
theorem encodeChar_cases (c : Char) :
    (∃ e, encodeChar c = ['\\', e] ∧ e ≠ 'u' ∧ e ≠ '\n' ∧ escape? e = some c) ∨
    (∃ digits, encodeChar c = '\\' :: 'u' :: digits ∧ UnitDigits digits c.toNat) ∨
    (encodeChar c = [c] ∧ c ≠ '"' ∧ c ≠ '\\') := by
  unfold encodeChar
  by_cases hquote : c = '"'
  · exact .inl ⟨'"', by rw [if_pos hquote], by decide, by decide, by rw [hquote]; rfl⟩
  rw [if_neg hquote]
  by_cases hbackslash : c = '\\'
  · exact .inl ⟨'\\', by rw [if_pos hbackslash], by decide, by decide, by rw [hbackslash]; rfl⟩
  rw [if_neg hbackslash]
  split
  · next h => exact .inl ⟨'n', rfl, by decide, by decide, h ▸ rfl⟩
  split
  · next h => exact .inl ⟨'r', rfl, by decide, by decide, h ▸ rfl⟩
  split
  · next h => exact .inl ⟨'t', rfl, by decide, by decide, h ▸ rfl⟩
  split
  · next h => exact .inl ⟨'f', rfl, by decide, by decide, h ▸ rfl⟩
  split
  · next h => exact .inl ⟨'b', rfl, by decide, by decide, h ▸ rfl⟩
  split
  · next h => exact .inr (.inl ⟨hex 4 c.toNat, rfl, unitDigits_hex h⟩)
  · exact .inr (.inr ⟨rfl, hquote, hbackslash⟩)

/-! ## Decoding -/

theorem units_encodeChar (offset : Nat) (c : Char) (rest : List Char) :
    ∃ next, units offset (encodeChar c ++ rest) = (units next rest).map (c.toNat :: ·) := by
  rcases encodeChar_cases c with ⟨e, henc, hu, -, hescape⟩ | ⟨digits, henc, hdigits⟩ |
    ⟨henc, -, hbackslash⟩
  · refine ⟨offset + 2, ?_⟩
    rw [henc]
    show units offset ('\\' :: e :: rest) = _
    rw [units, if_neg hu, hescape]
    intro a b c d rest' h
    exact absurd h hu
  · obtain ⟨⟨a, b, d, f, rfl, hunit⟩, -⟩ := hdigits
    refine ⟨offset + 6, ?_⟩
    rw [henc]
    show units offset ('\\' :: 'u' :: a :: b :: d :: f :: rest) = _
    rw [units, hunit]
  · refine ⟨offset + 1, ?_⟩
    rw [henc]
    show units offset (c :: rest) = _
    rw [units]
    · intro a b c d rest' h
      exact absurd h hbackslash
    · intro d rest' h
      exact absurd h hbackslash

theorem units_encode (offset : Nat) (chars : List Char) :
    units offset (chars.flatMap encodeChar) = .ok (chars.map Char.toNat) := by
  induction chars generalizing offset with
  | nil => rfl
  | cons c rest ih =>
    obtain ⟨next, hnext⟩ := units_encodeChar offset c (rest.flatMap encodeChar)
    rw [List.flatMap_cons, hnext, ih, List.map_cons]
    rfl

theorem not_surrogate (c : Char) :
    isHighSurrogate c.toNat = false ∧ isLowSurrogate c.toNat = false := by
  have hvalid : c.toNat < 0xd800 ∨ 0xdfff < c.toNat ∧ c.toNat < 0x110000 := c.valid
  unfold isHighSurrogate isLowSurrogate
  simp only [Bool.and_eq_false_iff, decide_eq_false_iff_not]
  omega

theorem joinPairs_map_toNat (chars : List Char) : joinPairs (chars.map Char.toNat) = chars := by
  induction chars with
  | nil => rfl
  | cons c rest ih =>
    obtain ⟨hhigh, hlow⟩ := not_surrogate c
    cases rest with
    | nil =>
      rw [List.map_cons, List.map_nil, joinPairs, hhigh, hlow]
      simp
    | cons d rest =>
      rw [List.map_cons, List.map_cons, joinPairs, hhigh, hlow, ← List.map_cons, ih]
      simp

theorem decode_encode (offset : Nat) (chars : List Char) :
    decode offset (chars.flatMap encodeChar) = .ok chars := by
  unfold decode
  rw [units_encode]
  exact congrArg Except.ok (joinPairs_map_toNat chars)

/-! ## The closing quote -/

theorem quotedBody?_plain {digits : List Char} (h : ∀ c ∈ digits, c ≠ '"' ∧ c ≠ '\\')
    (rest : List Char) :
    Notation.quotedBody? (digits ++ rest) = (Notation.quotedBody? rest).map (digits ++ ·) := by
  induction digits with
  | nil => simp
  | cons c digits ih =>
    obtain ⟨hquote, hbackslash⟩ := h c List.mem_cons_self
    rw [List.cons_append, Notation.quotedBody?, if_neg hbackslash,
      ih fun d hd => h d (List.mem_cons_of_mem c hd), Option.map_map]
    · rfl
    · exact fun h => hquote h
    · exact fun _ _ h _ => hbackslash h

theorem quotedBody?_encodeChar (c : Char) (rest : List Char) :
    Notation.quotedBody? (encodeChar c ++ rest) =
      (Notation.quotedBody? rest).map (encodeChar c ++ ·) := by
  rcases encodeChar_cases c with ⟨e, henc, -, hline, -⟩ | ⟨digits, henc, -, hplain⟩ |
    ⟨henc, hquote, hbackslash⟩
  · rw [henc]
    show Notation.quotedBody? ('\\' :: e :: rest) = _
    rw [Notation.quotedBody?, if_neg hline]
    rfl
  · rw [henc]
    show Notation.quotedBody? ('\\' :: 'u' :: (digits ++ rest)) = _
    rw [Notation.quotedBody?, if_neg (by decide), quotedBody?_plain hplain, Option.map_map]
    rfl
  · rw [henc]
    have hplain : ∀ d ∈ [c], d ≠ '"' ∧ d ≠ '\\' := List.forall_mem_singleton.mpr
      ⟨hquote, hbackslash⟩
    exact quotedBody?_plain hplain rest

theorem quotedBody?_encode (chars rest : List Char) :
    Notation.quotedBody? (chars.flatMap encodeChar ++ '"' :: rest) =
      some (chars.flatMap encodeChar) := by
  induction chars with
  | nil => rfl
  | cons c chars ih =>
    rw [List.flatMap_cons, List.append_assoc, quotedBody?_encodeChar, ih, Option.map_some]

end TreePredicate.Text.Quoted
