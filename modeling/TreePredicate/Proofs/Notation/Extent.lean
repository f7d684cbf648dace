import TreePredicate.Proofs.Notation.Parsed
import TreePredicate.Proofs.Notation.Piece

/-!
# Where tokens end

Some tokens are found by looking behind them: half an exponent is a word because no digit follows, and
a sign of one character is one because no second one follows. If the text is cut off behind a token
and a blank or nothing is put there, the token is the same.

* `Cut` : a text is cut off somewhere, with a blank or nothing behind;
* `Numeral.read?_cut` : a literal ends where it ended, and its parts are the same;
* `quotedBody?_eq_some` : a quoted text ends at its closing quote, whatever follows;
* `Lexes`, `lexes_of_lexeme` : the characters of a token mean the same, wherever they stand.
-/

set_option autoImplicit false

namespace TreePredicate.Notation

/-! ## Texts that are cut off -/

/-- Nothing or a blank comes first. -/
def StartsBlank (chars : List Char) : Prop := Starts (fun c => Text.isBlank c = true) chars

/-- One text is the other one, cut off somewhere, with a blank or nothing behind. -/
inductive Cut : List Char → List Char → Prop
  | here {chars after : List Char} : StartsBlank after → Cut chars after
  | later {c : Char} {chars after : List Char} : Cut chars after → Cut (c :: chars) (c :: after)

theorem Cut.append {chars after : List Char} (h : Cut chars after) (before : List Char) :
    Cut (before ++ chars) (before ++ after) := by
  induction before with
  | nil => exact h
  | cons c before ih => exact .later ih

/-- What is known of the first character is still known, if blanks are so. -/
theorem Cut.starts {P : Char → Prop} {chars after : List Char} (h : Cut chars after)
    (hblank : ∀ c, Text.isBlank c = true → P c) (hchars : Starts P chars) : Starts P after := by
  cases h with
  | here h => exact h.imp hblank
  | later _ => exact starts_cons.mpr (starts_cons.mp hchars)

theorem starts_dropWhile (p : Char → Bool) (chars : List Char) :
    Starts (fun c => p c = false) (chars.dropWhile p) := by
  intro c hc
  have hhead := List.head?_dropWhile_not p chars
  rw [Option.mem_def.mp hc] at hhead
  exact hhead

theorem not_word_of_blank {c : Char} (h : Text.isBlank c = true) : Text.isWord c = false := by
  rw [← Bool.not_eq_true]
  intro hword
  rw [Text.isBlank_of_isWord hword] at h
  cases h

theorem not_digit_of_blank {c : Char} (h : Text.isBlank c = true) : Text.isDigit c = false :=
  isDigit_of_not_word (not_word_of_blank h)

/-! ## Literals -/

namespace Numeral

variable {chars after rest : List Char} {n : Numeral}

theorem splitSign_cases (chars : List Char) :
    ∃ sign rest, splitSign chars = (sign, rest) ∧ IsSign sign ∧ chars = sign ++ rest := by
  cases chars with
  | nil => exact ⟨[], [], rfl, .inl rfl, rfl⟩
  | cons c rest =>
    rw [splitSign]
    split
    · next h => exact ⟨[c], rest, rfl, .inr ⟨c, rfl, h⟩, rfl⟩
    · exact ⟨[], c :: rest, rfl, .inl rfl, rfl⟩

/-- A fraction that is split off, or why there is none. -/
theorem splitFraction_cases (h : splitFraction chars = (n.fraction, rest)) :
    n.fraction = [] ∧ chars = rest ∧ NoFraction rest ∨
      n.fraction ≠ [] ∧ (∀ c ∈ n.fraction, Text.isDigit c = true) ∧
        Starts (fun c => Text.isDigit c = false) rest ∧ chars = '.' :: (n.fraction ++ rest) := by
  unfold splitFraction at h
  split at h
  · next digits =>
    dsimp only at h
    split at h
    · next hnone =>
      obtain ⟨hfraction, rfl⟩ := Prod.mk.inj h
      refine .inl ⟨hfraction.symm, rfl, fun rest heq => ?_⟩
      obtain ⟨-, rfl⟩ := List.cons.inj heq
      exact takeWhile_eq_nil_iff.mp (List.isEmpty_iff.mp hnone)
    · next hsome =>
      obtain ⟨hfraction, rfl⟩ := Prod.mk.inj h
      rw [← hfraction, List.takeWhile_append_dropWhile]
      exact .inr ⟨fun hnil => hsome (List.isEmpty_iff.mpr hnil),
        fun c hc => List.mem_takeWhile_imp hc, starts_dropWhile _ _, rfl⟩
  · next hpoint =>
    obtain ⟨hfraction, rfl⟩ := Prod.mk.inj h
    exact .inl ⟨hfraction.symm, rfl, fun rest heq => absurd heq (hpoint rest)⟩

/-- An exponent that is split off, or why there is none. -/
theorem splitExponent_cases (h : splitExponent chars = (n.exponent, rest)) :
    n.exponent = none ∧ chars = rest ∧ NoExponent rest ∨
      ∃ letter sign digits, n.exponent = some (letter, sign, digits) ∧
        IsExponent letter sign digits ∧ Starts (fun c => Text.isDigit c = false) rest ∧
        chars = letter :: (sign ++ (digits ++ rest)) := by
  cases chars with
  | nil =>
    obtain ⟨hexponent, rfl⟩ := Prod.mk.inj h
    exact .inl ⟨hexponent.symm, rfl, fun _ _ heq => by cases heq⟩
  | cons c chars =>
    rw [splitExponent] at h
    split at h
    · next hletter =>
      obtain ⟨sign, left, hsplit, hsign, rfl⟩ := splitSign_cases chars
      rw [hsplit] at h
      dsimp only at h
      split at h
      · next hnone =>
        obtain ⟨hexponent, rfl⟩ := Prod.mk.inj h
        refine .inl ⟨hexponent.symm, rfl, fun d rest heq _ => ?_⟩
        obtain ⟨-, rfl⟩ := List.cons.inj heq
        rw [hsplit]
        exact takeWhile_eq_nil_iff.mp (List.isEmpty_iff.mp hnone)
      · next hsome =>
        obtain ⟨hexponent, rfl⟩ := Prod.mk.inj h
        rw [← hexponent]
        refine .inr ⟨c, sign, left.takeWhile Text.isDigit, rfl,
          ⟨hletter, hsign, fun hnil => hsome (List.isEmpty_iff.mpr hnil),
            fun d hd => List.mem_takeWhile_imp hd⟩, starts_dropWhile _ _, ?_⟩
        rw [List.takeWhile_append_dropWhile]
    · next hletter =>
      obtain ⟨hexponent, rfl⟩ := Prod.mk.inj h
      refine .inl ⟨hexponent.symm, rfl, fun d rest heq hd => ?_⟩
      obtain ⟨rfl, -⟩ := List.cons.inj heq
      exact absurd hd hletter

/-! ### Cuts behind literals -/

theorem noFraction_cut (h : NoFraction chars) (hcut : Cut chars after) : NoFraction after := by
  rintro rest rfl
  cases hcut with
  | here hblank => exact absurd (starts_cons.mp hblank) (by decide +kernel)
  | later hcut => exact hcut.starts (fun c => not_digit_of_blank) (h _ rfl)

theorem splitSign_of_blank (h : StartsBlank chars) : splitSign chars = ([], chars) := by
  refine splitSign_append (.inl rfl) (h.imp fun c hc => ⟨?_, ?_⟩) <;>
    exact ne_of_class hc (by decide +kernel)

/-- If no digit follows a sign, none does after a cut. -/
theorem splitSign_cut (hcut : Cut chars after)
    (h : Starts (fun c => Text.isDigit c = false) (splitSign chars).2) :
    Starts (fun c => Text.isDigit c = false) (splitSign after).2 := by
  cases hcut with
  | here hblank =>
    rw [splitSign_of_blank hblank]
    exact hblank.imp fun c => not_digit_of_blank
  | @later c _ _ hcut =>
    rw [splitSign] at h ⊢
    split
    · next hsign =>
      rw [if_pos hsign] at h
      exact hcut.starts (fun c => not_digit_of_blank) h
    · next hsign =>
      rw [if_neg hsign] at h
      exact starts_cons.mpr (starts_cons.mp h)

theorem noExponent_cut (h : NoExponent chars) (hcut : Cut chars after) : NoExponent after := by
  rintro c rest rfl hletter
  cases hcut with
  | here hblank =>
    have hc := starts_cons.mp hblank
    rcases hletter with rfl | rfl <;> exact absurd hc (by decide +kernel)
  | later hcut => exact splitSign_cut hcut (h _ _ rfl hletter)

theorem splitFraction_cut (h : splitFraction chars = (n.fraction, rest)) :
    chars = n.fractionChars ++ rest ∧
      ∀ after, Cut rest after → splitFraction (n.fractionChars ++ after) = (n.fraction, after) := by
  unfold fractionChars
  rcases splitFraction_cases h with ⟨hnone, rfl, hrest⟩ | ⟨hne, hdigits, hrest, rfl⟩
  · rw [hnone]
    exact ⟨rfl, fun after hcut => splitFraction_of_none (noFraction_cut hrest hcut)⟩
  · rw [isEmpty_eq_false hne, if_neg Bool.false_ne_true]
    exact ⟨rfl, fun after hcut => splitFraction_digits hne hdigits
      (hcut.starts (fun c => not_digit_of_blank) hrest)⟩

theorem splitExponent_cut (h : splitExponent chars = (n.exponent, rest)) :
    chars = n.exponentChars ++ rest ∧
      ∀ after, Cut rest after → splitExponent (n.exponentChars ++ after) = (n.exponent, after) := by
  unfold exponentChars
  rcases splitExponent_cases h with ⟨hnone, rfl, hrest⟩ |
    ⟨letter, sign, digits, hsome, hexponent, hrest, rfl⟩
  · rw [hnone]
    exact ⟨rfl, fun after hcut => splitExponent_of_none (noExponent_cut hrest hcut)⟩
  · rw [hsome]
    refine ⟨by simp, fun after hcut => ?_⟩
    show splitExponent (letter :: (sign ++ digits ++ after)) = _
    rw [List.append_assoc]
    exact splitExponent_digits hexponent (hcut.starts (fun c => not_digit_of_blank) hrest)

/-- The steps in which a literal is read. -/
theorem read?_eq_some (h : read? chars = some n) :
    ∃ unsigned behind left, chars = n.sign ++ unsigned ∧ IsSign n.sign ∧
      n.whole = unsigned.takeWhile Text.isDigit ∧ n.whole ≠ [] ∧
      splitFraction (unsigned.dropWhile Text.isDigit) = (n.fraction, behind) ∧
      splitExponent behind = (n.exponent, left) ∧ n.tail = left.takeWhile Text.isWord := by
  obtain ⟨sign, unsigned, hsplit, hsign, rfl⟩ := splitSign_cases chars
  unfold read? at h
  rw [hsplit] at h
  dsimp only at h
  split at h
  · cases h
  · next hwhole =>
    obtain rfl := Option.some.inj h
    exact ⟨unsigned, _, _, rfl, hsign, rfl, fun hnil => hwhole (List.isEmpty_iff.mpr hnil), rfl,
      rfl, rfl⟩

/-- A text starts with the literal that is read from it, and the same literal is read if the text is
cut off behind it. -/
theorem read?_cut (h : read? chars = some n) :
    n.chars ≠ [] ∧ (∃ left, chars = n.chars ++ left) ∧
      ∀ after, StartsBlank after → read? (n.chars ++ after) = some n := by
  obtain ⟨unsigned, behind, left, rfl, hsign, hwhole, hne, hfraction, hexponent, htail⟩ :=
    read?_eq_some h
  obtain ⟨hdrop, hfractionCut⟩ := splitFraction_cut hfraction
  obtain ⟨rfl, hexponentCut⟩ := splitExponent_cut hexponent
  have hdigits : ∀ c ∈ n.whole, Text.isDigit c = true :=
    hwhole ▸ fun c hc => List.mem_takeWhile_imp hc
  have hword : ∀ c ∈ n.tail, Text.isWord c = true := htail ▸ fun c hc => List.mem_takeWhile_imp hc
  obtain ⟨remaining, hleft⟩ : ∃ remaining, left = n.tail ++ remaining :=
    ⟨left.dropWhile Text.isWord, by rw [htail, List.takeWhile_append_dropWhile]⟩
  refine ⟨List.append_ne_nil_of_right_ne_nil _ (List.append_ne_nil_of_left_ne_nil hne _),
    ⟨remaining, ?_⟩, fun after hafter => ?_⟩
  · have hunsigned : unsigned = n.whole ++ (n.fractionChars ++ (n.exponentChars ++ left)) := by
      rw [hwhole, ← hdrop, List.takeWhile_append_dropWhile]
    rw [hunsigned, hleft]
    simp only [chars, List.append_assoc]
  · have hcut : Cut left (n.tail ++ after) := by
      rw [hleft]
      exact (Cut.here hafter).append n.tail
    have hstop : Starts (fun c => Text.isDigit c = false)
        (n.fractionChars ++ (n.exponentChars ++ (n.tail ++ after))) := by
      have hbehind := (hcut.append n.exponentChars).append n.fractionChars
      refine hbehind.starts (fun c => not_digit_of_blank) ?_
      rw [← hdrop]
      exact starts_dropWhile _ _
    have hsplit : n.chars ++ after =
        n.sign ++ (n.whole ++ (n.fractionChars ++ (n.exponentChars ++ (n.tail ++ after)))) := by
      simp only [chars, List.append_assoc]
    unfold read?
    rw [hsplit, splitSign_append hsign (starts_digits hne hdigits)]
    dsimp only
    rw [takeWhile_append_stop hdigits hstop, dropWhile_append_stop hdigits hstop,
      isEmpty_eq_false hne, if_neg Bool.false_ne_true,
      hfractionCut _ (hcut.append n.exponentChars)]
    dsimp only
    rw [hexponentCut _ hcut]
    dsimp only
    rw [takeWhile_append_stop hword (hafter.imp fun c => not_word_of_blank)]

/-! ### Meanings -/

theorem value_offset {offset : Nat} {number : Number} (h : n.value offset = .ok number)
    (other : Nat) : n.value other = .ok number := by
  unfold value at h ⊢
  split at h
  · next hdecimal =>
    rw [if_pos hdecimal]
    split at h
    · cases h
    · exact h
  · next hdecimal =>
    rw [if_neg hdecimal]
    exact h

/-- What a literal means does not depend on its place. -/
theorem content_offset {text : List Char} {offset : Nat} {content : Content}
    (h : n.content text offset = .ok content) (other : Nat) :
    n.content text other = .ok content := by
  unfold Numeral.content at h ⊢
  split at h
  · obtain ⟨value, hvalue, h⟩ := ok_of_bind h
    rw [value_offset hvalue other]
    exact h
  · split at h
    · obtain ⟨value, hvalue, h⟩ := ok_of_bind h
      rw [value_offset hvalue other]
      exact h
    · next hfault =>
      split at h
      · next hplain =>
        rw [if_pos hplain]
        exact h
      · cases h

end Numeral

/-! ## Quoted texts -/

/-- A text starts with the quoted text that is read from it, and that ends at its closing quote,
whatever follows. -/
theorem quotedBody?_eq_some {chars body : List Char} (h : quotedBody? chars = some body) :
    (∃ left, chars = body ++ '"' :: left) ∧
      ∀ after, quotedBody? (body ++ '"' :: after) = some body := by
  fun_induction quotedBody? chars generalizing body with
  | case1 => cases h
  | case2 left =>
    cases h
    exact ⟨⟨left, rfl⟩, fun after => rfl⟩
  | case3 => cases h
  | case4 c rest hline ih =>
    obtain ⟨inner, hinner, rfl⟩ := Option.map_eq_some_iff.mp h
    obtain ⟨⟨left, rfl⟩, hagain⟩ := ih hinner
    refine ⟨⟨left, rfl⟩, fun after => ?_⟩
    show quotedBody? ('\\' :: c :: (inner ++ '"' :: after)) = _
    rw [quotedBody?, if_neg hline, hagain, Option.map_some]
  | case5 => cases h
  | case6 c rest hquote hescape hbackslash ih =>
    obtain ⟨inner, hinner, rfl⟩ := Option.map_eq_some_iff.mp h
    obtain ⟨⟨left, rfl⟩, hagain⟩ := ih hinner
    refine ⟨⟨left, rfl⟩, fun after => ?_⟩
    have hplain : ∀ d ∈ [c], d ≠ '"' ∧ d ≠ '\\' :=
      List.forall_mem_singleton.mpr ⟨fun h => hquote h, hbackslash⟩
    show quotedBody? ([c] ++ (inner ++ '"' :: after)) = _
    rw [Text.Quoted.quotedBody?_plain hplain, hagain]
    rfl

theorem ok_of_map {ε α β : Type} {f : α → β} {x : Except ε α} {b : β} (h : x.map f = .ok b) :
    ∃ a, x = .ok a ∧ f a = b := by
  cases x with
  | error e => cases h
  | ok a => exact ⟨a, rfl, Except.ok.inj h⟩

/-- What is quoted does not depend on its place. -/
theorem units_offset {offset : Nat} {chars : List Char} {units : List Nat}
    (h : Text.Quoted.units offset chars = .ok units) (other : Nat) :
    Text.Quoted.units other chars = .ok units := by
  fun_induction Text.Quoted.units offset chars generalizing units other with
  | case1 => exact h
  | case2 offset a b c d rest unit hunit ih =>
    obtain ⟨inner, hinner, rfl⟩ := ok_of_map h
    rw [Text.Quoted.units, hunit]
    dsimp only
    rw [ih hinner (other + 6)]
    rfl
  | case5 offset c rest hlong hletter meant hmeant ih =>
    obtain ⟨inner, hinner, rfl⟩ := ok_of_map h
    rw [Text.Quoted.units, if_neg hletter, hmeant]
    · dsimp only
      rw [ih hinner (other + 2)]
      rfl
    · exact hlong
  | case7 offset c rest hlong hescape ih =>
    obtain ⟨inner, hinner, rfl⟩ := ok_of_map h
    rw [Text.Quoted.units, ih hinner (other + 1)]
    · rfl
    · exact hlong
    · exact hescape
  | case3 | case4 | case6 => cases h

theorem decode_offset {offset : Nat} {chars value : List Char}
    (h : Text.Quoted.decode offset chars = .ok value) (other : Nat) :
    Text.Quoted.decode other chars = .ok value := by
  obtain ⟨units, hunits, rfl⟩ := ok_of_map h
  rw [Text.Quoted.decode, units_offset hunits other]
  rfl

/-! ## Signs -/

namespace Sign

theorem opens_of_pair {c d : Char} {sign : Sign} (h : ofPair? c d = some sign) : Opens c := by
  have hfound := List.find?_some h
  have hchars : sign.chars = [c, d] := eq_of_beq hfound
  rcases sign.chars_cases with ⟨_, hsingle, -⟩ | ⟨_, _, hpair, hopens, -⟩
  · rw [hsingle] at hchars
    cases hchars
  · rw [hpair] at hchars
    cases hchars
    exact hopens

theorem opens_of_single {c : Char} {sign : Sign} (h : ofChar? c = some sign) : Opens c := by
  have hfound := List.find?_some h
  have hchars : sign.chars = [c] := eq_of_beq hfound
  rcases sign.chars_cases with ⟨_, hsingle, hopens, -⟩ | ⟨_, _, hpair, -⟩
  · rw [hsingle] at hchars
    cases hchars
    exact hopens
  · rw [hpair] at hchars
    cases hchars

/-- A blank is no second character of a sign. -/
theorem ofPair?_blank (c : Char) {after : List Char} (h : StartsBlank after) :
    after.head?.bind (ofPair? c) = none := by
  cases after with
  | nil => rfl
  | cons d after =>
    have hd := starts_cons.mp h
    exact ofPair?_eq_none_of_right c (ne_of_class hd (by decide +kernel))
      (ne_of_class hd (by decide +kernel)) (ne_of_class hd (by decide +kernel))

end Sign

/-! ## Tokens -/

/-- Some characters are read as one token with a meaning, wherever they stand, if a blank or nothing
follows. -/
def Lexes (chars : List Char) (content : Content) : Prop :=
  ∃ c tail, chars = c :: tail ∧ ∀ offset after, StartsBlank after →
    lexeme offset c (tail ++ after) = .ok (some content, tail.length)

section Lexeme

variable {offset more : Nat} {c : Char} {rest : List Char} {content : Content}

theorem lexes_quoted {body value : List Char} (hbody : quotedBody? rest = some body)
    (hvalue : Text.Quoted.decode (offset + 1) body = .ok value) :
    body.length + 1 ≤ rest.length ∧
      Lexes ('"' :: rest.take (body.length + 1)) (.quoted (String.ofList value)) := by
  obtain ⟨⟨left, rfl⟩, hagain⟩ := quotedBody?_eq_some hbody
  have htake : (body ++ '"' :: left).take (body.length + 1) = body ++ ['"'] := by
    rw [List.take_append]
    simp
  refine ⟨by simp, '"', _, rfl, fun other after hafter => ?_⟩
  have hblank : Text.isBlank '"' = false := by decide +kernel
  rw [htake, List.append_assoc, lexeme, hblank, if_neg Bool.false_ne_true, if_pos rfl,
    List.singleton_append, hagain]
  dsimp only
  rw [decode_offset hvalue, List.length_append]
  rfl

theorem lexes_numeral {n : Numeral} (hread : Numeral.read? (c :: rest) = some n)
    (hcontent : n.content (c :: rest.take (n.length - 1)) offset = .ok content) :
    n.length - 1 ≤ rest.length ∧ Lexes (c :: rest.take (n.length - 1)) content := by
  obtain ⟨hne, ⟨left, hleft⟩, hagain⟩ := Numeral.read?_cut hread
  obtain ⟨d, tail, hchars⟩ := List.exists_cons_of_ne_nil hne
  rw [hchars, List.cons_append] at hleft
  obtain ⟨rfl, rfl⟩ := List.cons.inj hleft
  have hlength : n.length - 1 = tail.length := by
    rw [← Numeral.length_chars, hchars]
    rfl
  rw [hlength, List.take_left] at hcontent ⊢
  refine ⟨by simp, c, tail, rfl, fun other after hafter => ?_⟩
  have hread := hagain after hafter
  rw [hchars] at hread
  rw [lexeme_of_read? other hchars hread, Numeral.content_offset hcontent other]
  rfl

theorem not_digit_of_read? (h : Numeral.read? (c :: rest) = none) (hword : Text.isWord c = true) :
    Text.isDigit c = false := by
  rw [← Bool.not_eq_true]
  intro hdigit
  have hsign : ¬ (c = '+' ∨ c = '-') := by
    rintro (rfl | rfl) <;> exact absurd hword (by decide +kernel)
  unfold Numeral.read? at h
  rw [Numeral.splitSign, if_neg hsign] at h
  dsimp only at h
  rw [List.takeWhile_cons_of_pos hdigit] at h
  cases h

theorem lexes_word (hread : Numeral.read? (c :: rest) = none) (hword : Text.isWord c = true) :
    (rest.takeWhile Text.isWord).length ≤ rest.length ∧
      Lexes (c :: rest.take (rest.takeWhile Text.isWord).length)
        (.word (String.ofList (c :: rest.takeWhile Text.isWord))) := by
  have htail : rest.take (rest.takeWhile Text.isWord).length = rest.takeWhile Text.isWord :=
    (List.prefix_iff_eq_take.mp (List.takeWhile_prefix _)).symm
  have hall : ∀ d ∈ c :: rest.takeWhile Text.isWord, Text.isWord d = true :=
    List.forall_mem_cons.mpr ⟨hword, fun d hd => List.mem_takeWhile_imp hd⟩
  rw [htail]
  refine ⟨(List.takeWhile_prefix _).length_le, c, _, rfl, fun other after hafter => ?_⟩
  exact lexeme_word other (not_digit_of_read? hread hword) hall
    (hafter.imp fun d => not_word_of_blank)

theorem lexes_pair {sign : Sign} (hpair : rest.head?.bind (Sign.ofPair? c) = some sign) :
    1 ≤ rest.length ∧ Lexes (c :: rest.take 1) (.sign sign) := by
  cases rest with
  | nil => cases hpair
  | cons d rest =>
    exact ⟨by simp, c, [d], by simp, fun other after _ =>
      lexeme_pair other (Sign.opens_of_pair hpair) hpair⟩

theorem lexes_single {sign : Sign} (hsingle : Sign.ofChar? c = some sign) :
    Lexes [c] (.sign sign) :=
  ⟨c, [], rfl, fun other _ hafter =>
    lexeme_single other (Sign.opens_of_single hsingle) (Sign.ofPair?_blank c hafter) hsingle⟩

/-- The characters of a token mean the same, wherever they stand, if a blank or nothing follows. -/
theorem lexes_of_lexeme (h : lexeme offset c rest = .ok (some content, more)) :
    more ≤ rest.length ∧ Lexes (c :: rest.take more) content := by
  cases recognized_of_lexeme h with
  | quoted hquote hbody hvalue => exact hquote ▸ lexes_quoted hbody hvalue
  | numeral hread hcontent => exact lexes_numeral hread hcontent
  | word hread hword => exact lexes_word hread hword
  | pair hpair => exact lexes_pair hpair
  | single hsingle => exact ⟨Nat.zero_le _, lexes_single hsingle⟩

end Lexeme

end TreePredicate.Notation
