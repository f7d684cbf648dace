import TreePredicate.Proofs.Notation.NumberText
import TreePredicate.Proofs.Text.Quoted

/-!
# Texts made of pieces

The canonical form is a row of pieces, each of which is read as one token or as blanks. A piece ends
where it should if the next character does not continue it.

* `Piece`, `Piece.text`, `Piece.content?` : the pieces, how they are written and what they mean;
* `Piece.Valid`, `Piece.Short` : a piece that can be read, but for digits past what is read at all;
* `Piece.Ends` : a character before which a piece ends;
* `lexeme_piece` : a valid piece is read as it is meant, or refused for its many digits;
* `FlowsTo` : each of some pieces ends where the next one starts;
* `tokensFrom_pieces`, `tokensFrom_long` : so the pieces are read one after another.
-/

set_option autoImplicit false

namespace TreePredicate.Notation

/-! ## Signs -/

namespace Sign

theorem ofPair?_eq_none_of_left {c : Char} (d : Char) (hless : c ≠ '<') (hgreater : c ≠ '>') :
    ofPair? c d = none := by
  unfold ofPair?
  rw [List.find?_eq_none]
  intro sign _
  cases sign <;> simp [chars, hless.symm, hgreater.symm]

theorem ofPair?_eq_none_of_right (c : Char) {d : Char} (hless : d ≠ '<') (hgreater : d ≠ '>')
    (hequal : d ≠ '=') : ofPair? c d = none := by
  unfold ofPair?
  rw [List.find?_eq_none]
  intro sign _
  cases sign <;> simp [chars, hless.symm, hgreater.symm, hequal.symm]

/-- A character that starts a sign starts no other token. -/
structure Opens (c : Char) : Prop where
  blank : Text.isBlank c = false
  word : Text.isWord c = false
  quote : c ≠ '"'
  plus : c ≠ '+'
  minus : c ≠ '-'

theorem chars_cases (sign : Sign) :
    (∃ c, sign.chars = [c] ∧ Opens c ∧ ofChar? c = some sign) ∨
    ∃ c d, sign.chars = [c, d] ∧ Opens c ∧ ofPair? c d = some sign := by
  cases sign
  case starts | ends | sequence | atMost | atLeast =>
    exact .inr ⟨_, _, rfl, ⟨by decide +kernel, by decide +kernel, by decide, by decide, by decide⟩,
      by decide +kernel⟩
  all_goals
    exact .inl ⟨_, rfl, ⟨by decide +kernel, by decide +kernel, by decide, by decide, by decide⟩,
      by decide +kernel⟩

end Sign

/-! ## Pieces -/

/-- A part of the canonical form: a blank or a token. -/
inductive Piece where
  | blank
  | sign (sign : Sign)
  | quoted (value : String)
  | word (value : String)
  | digits (key : String)
  | number (value : Number) (width? : Option Width)

namespace Piece

/-- How a piece is written. -/
def text : Piece → String
  | .blank => " "
  | .sign s => String.ofList s.chars
  | .quoted value => Text.Quoted.encode value
  | .word value => value
  | .digits key => key
  | .number value width? => numberText value width?

/-- What a piece means; a blank means nothing. -/
def content? : Piece → Option Content
  | .blank => none
  | .sign s => some (.sign s)
  | .quoted value => some (.quoted value)
  | .word value => some (.word value)
  | .digits key => some (.number (.int (Numeral.digitsValue key.toList)) none)
  | .number value width? => some (.number value width?)

/-- A word of word characters that does not start with a digit. -/
structure IsWord (value : String) : Prop where
  start : ∃ c rest, value.toList = c :: rest ∧ Text.isDigit c = false
  word : ∀ c ∈ value.toList, Text.isWord c = true

/-- A piece whose text is that of a token or a blank. -/
def Valid : Piece → Prop
  | .word value => IsWord value
  | .digits key => isDigits key = true
  | .number value _ => value.Readable
  | _ => True

/-- A piece that has no more digits than are read at all. -/
def Short : Piece → Prop
  | .digits key => key.toList.length ≤ Pattern.Fault.digitsAllowed
  | _ => True

/-- A character before which a piece ends. -/
def Ends : Piece → Char → Prop
  | .blank, c => Text.isBlank c = false
  | .sign s, c => ∀ d, s.chars = [d] → Sign.ofPair? d c = none
  | .quoted _, _ => True
  | .word _, c => Text.isWord c = false
  | .digits _, c => Text.isWord c = false ∧ c ≠ '.'
  | .number .., c => Text.isWord c = false ∧ c ≠ '.'

/-- What a piece is read as. -/
def read (piece : Piece) : Except Failure (Option Content) :=
  match piece with
  | .digits key =>
    if Pattern.Fault.digitsAllowed < key.toList.length then .error (.tooManyDigits key.toList.length)
    else .ok (Piece.digits key).content?
  | _ => .ok piece.content?

theorem read_of_short {piece : Piece} (h : piece.Short) : piece.read = .ok piece.content? := by
  cases piece with
  | digits key =>
    show (if Pattern.Fault.digitsAllowed < key.toList.length then _ else _) = _
    rw [if_neg (Nat.not_lt.mpr h)]
  | _ => rfl

theorem read_of_not_short {piece : Piece} (h : ¬ piece.Short) :
    ∃ n, piece.read = .error (.tooManyDigits n) := by
  cases piece with
  | digits key =>
    refine ⟨key.toList.length, ?_⟩
    show (if Pattern.Fault.digitsAllowed < key.toList.length then _ else _) = _
    rw [if_pos (Nat.not_le.mp h)]
  | _ => exact absurd trivial h

end Piece

/-! ## Reading one piece -/

theorem read?_eq_none {c : Char} (rest : List Char) (hdigit : Text.isDigit c = false)
    (hplus : c ≠ '+') (hminus : c ≠ '-') : Numeral.read? (c :: rest) = none := by
  unfold Numeral.read?
  rw [Numeral.splitSign, if_neg (by rintro (h | h); exact hplus h; exact hminus h)]
  dsimp only
  rw [List.takeWhile_cons_of_neg (by rw [hdigit]; exact Bool.false_ne_true)]
  rfl

theorem isDigit_of_not_word {c : Char} (h : Text.isWord c = false) : Text.isDigit c = false := by
  rw [← Bool.not_eq_true] at h ⊢
  exact fun hdigit => h (Text.isWord_of_isDigit hdigit)

theorem lexeme_blank (offset : Nat) {rest : List Char}
    (hrest : Starts (fun c => Text.isBlank c = false) rest) :
    lexeme offset ' ' rest = .ok (none, 0) := by
  have hblank : Text.isBlank ' ' = true := by decide +kernel
  have hnil : ∀ c ∈ ([] : List Char), Text.isBlank c = true := List.forall_mem_nil _
  have htake : rest.takeWhile Text.isBlank = [] := takeWhile_append_stop hnil hrest
  rw [lexeme, if_pos hblank, htake]
  rfl

theorem lexeme_quoted (offset : Nat) (value : String) (rest : List Char) :
    lexeme offset '"' (value.toList.flatMap Text.Quoted.encodeChar ++ '"' :: rest) =
      .ok (some (.quoted value), (value.toList.flatMap Text.Quoted.encodeChar).length + 1) := by
  have hblank : Text.isBlank '"' = false := by decide +kernel
  rw [lexeme, hblank, if_neg Bool.false_ne_true, if_pos rfl, Text.Quoted.quotedBody?_encode]
  dsimp only
  rw [Text.Quoted.decode_encode]
  dsimp only
  rw [String.ofList_toList]

theorem lexeme_word (offset : Nat) {c : Char} {tail rest : List Char}
    (hdigit : Text.isDigit c = false) (hword : ∀ d ∈ c :: tail, Text.isWord d = true)
    (hrest : Starts (fun d => Text.isWord d = false) rest) :
    lexeme offset c (tail ++ rest) = .ok (some (.word (String.ofList (c :: tail))), tail.length) := by
  have hc := hword c List.mem_cons_self
  have hquote : c ≠ '"' := ne_of_class hc (by decide +kernel)
  have hplus : c ≠ '+' := ne_of_class hc (by decide +kernel)
  have hminus : c ≠ '-' := ne_of_class hc (by decide +kernel)
  rw [lexeme, Text.isBlank_of_isWord hc, if_neg Bool.false_ne_true, if_neg hquote]
  dsimp only
  rw [read?_eq_none _ hdigit hplus hminus]
  dsimp only
  rw [if_pos hc, takeWhile_append_stop (fun d hd => hword d (List.mem_cons_of_mem c hd)) hrest]

theorem Numeral.Proper.chars_ne_nil {n : Numeral} (h : n.Proper) : n.chars ≠ [] :=
  List.append_ne_nil_of_right_ne_nil _ (List.append_ne_nil_of_left_ne_nil h.whole_ne _)

/-- A literal starts with a sign or a digit. -/
theorem start_of_read? {n : Numeral} {c : Char} {rest : List Char}
    (h : Numeral.read? (c :: rest) = some n) : Text.isBlank c = false ∧ c ≠ '"' := by
  by_cases hdigit : Text.isDigit c = true
  · have hword := Text.isWord_of_isDigit hdigit
    exact ⟨Text.isBlank_of_isWord hword, ne_of_class hword (by decide +kernel)⟩
  · by_cases hplus : c = '+'
    · subst hplus
      exact ⟨by decide +kernel, by decide⟩
    · by_cases hminus : c = '-'
      · subst hminus
        exact ⟨by decide +kernel, by decide⟩
      · rw [read?_eq_none rest (by simpa using hdigit) hplus hminus] at h
        cases h

theorem starts_numeral {n : Numeral} (h : n.Proper) {c : Char} {tail : List Char}
    (hchars : n.chars = c :: tail) : Text.isBlank c = false ∧ c ≠ '"' := by
  have hread := Numeral.read?_chars h (starts_nil _)
  rw [List.append_nil, hchars] at hread
  exact start_of_read? hread

/-- A literal that is read makes a token. -/
theorem lexeme_of_read? (offset : Nat) {n : Numeral} {c : Char} {tail rest : List Char}
    (hchars : n.chars = c :: tail) (h : Numeral.read? (c :: (tail ++ rest)) = some n) :
    lexeme offset c (tail ++ rest) =
      (n.content (c :: tail) offset).map fun content => (some content, tail.length) := by
  obtain ⟨hblank, hquote⟩ := start_of_read? h
  have hlength : n.length - 1 = tail.length := by
    rw [← Numeral.length_chars, hchars]
    rfl
  rw [lexeme, hblank, if_neg Bool.false_ne_true, if_neg hquote]
  dsimp only
  rw [h]
  dsimp only
  rw [hlength, List.take_left]
  cases n.content (c :: tail) offset <;> rfl

theorem lexeme_numeral (offset : Nat) {n : Numeral} (h : n.Proper) {c : Char} {tail rest : List Char}
    (hchars : n.chars = c :: tail)
    (hrest : Starts (fun d => Text.isWord d = false ∧ d ≠ '.') rest) :
    lexeme offset c (tail ++ rest) =
      (n.content (c :: tail) offset).map fun content => (some content, tail.length) := by
  have hread := Numeral.read?_chars h hrest
  rw [hchars] at hread
  exact lexeme_of_read? offset hchars hread

theorem lexeme_pair (offset : Nat) {c : Char} (h : Sign.Opens c) {rest : List Char} {sign : Sign}
    (hpair : rest.head?.bind (Sign.ofPair? c) = some sign) :
    lexeme offset c rest = .ok (some (.sign sign), 1) := by
  rw [lexeme, h.blank, if_neg Bool.false_ne_true, if_neg h.quote]
  dsimp only
  rw [read?_eq_none _ (isDigit_of_not_word h.word) h.plus h.minus]
  dsimp only
  rw [h.word, if_neg Bool.false_ne_true, hpair]

theorem lexeme_single (offset : Nat) {c : Char} (h : Sign.Opens c) {rest : List Char} {sign : Sign}
    (hpair : rest.head?.bind (Sign.ofPair? c) = none) (hsingle : Sign.ofChar? c = some sign) :
    lexeme offset c rest = .ok (some (.sign sign), 0) := by
  rw [lexeme, h.blank, if_neg Bool.false_ne_true, if_neg h.quote]
  dsimp only
  rw [read?_eq_none _ (isDigit_of_not_word h.word) h.plus h.minus]
  dsimp only
  rw [h.word, if_neg Bool.false_ne_true, hpair]
  dsimp only
  rw [hsingle]

theorem lexeme_sign (offset : Nat) {sign : Sign} {c : Char} {tail rest : List Char}
    (hchars : sign.chars = c :: tail) (hrest : Starts (Piece.sign sign).Ends rest) :
    lexeme offset c (tail ++ rest) = .ok (some (.sign sign), tail.length) := by
  rcases sign.chars_cases with ⟨d, hsign, hd, hfound⟩ | ⟨d, e, hsign, hd, hfound⟩
  · rw [hchars] at hsign
    obtain ⟨rfl, rfl⟩ := List.cons.inj hsign
    refine lexeme_single offset hd ?_ hfound
    cases hhead : rest.head? with
    | none =>
      rw [List.nil_append, hhead]
      rfl
    | some e =>
      rw [List.nil_append, hhead]
      exact hrest e hhead c hchars
  · rw [hchars] at hsign
    obtain ⟨rfl, rfl⟩ := List.cons.inj hsign
    exact lexeme_pair offset hd hfound

theorem isDigits_iff {key : String} :
    isDigits key = true ↔ key.toList ≠ [] ∧ ∀ c ∈ key.toList, Text.isDigit c = true := by
  unfold isDigits
  rw [Bool.and_eq_true, Bool.not_eq_true', List.isEmpty_eq_false_iff, List.all_eq_true]

theorem lexeme_digits (offset : Nat) {key : String} (hkey : isDigits key = true) {c : Char}
    {tail rest : List Char} (hchars : key.toList = c :: tail)
    (hrest : Starts (Piece.digits key).Ends rest) :
    lexeme offset c (tail ++ rest) =
      (Piece.digits key).read.map fun content? => (content?, tail.length) := by
  obtain ⟨hne, hdigits⟩ := isDigits_iff.mp hkey
  have hproper : Numeral.Proper ⟨[], key.toList, [], none, []⟩ :=
    ⟨.inl rfl, hne, hdigits, List.forall_mem_nil _, by simp,
      List.forall_mem_nil _, starts_nil _⟩
  have hall : Numeral.chars ⟨[], key.toList, [], none, []⟩ = c :: tail := by
    simp [Numeral.chars, Numeral.fractionChars, Numeral.exponentChars, hchars]
  rw [lexeme_numeral offset hproper hall hrest]
  unfold Numeral.content Numeral.value Piece.read
  dsimp only
  rw [if_neg (show ¬ Numeral.isDecimal ⟨_, _, [], none, _⟩ = true from Bool.false_ne_true)]
  split <;> rfl

/-- A valid piece is read as it is meant, unless what follows continues it. -/
theorem lexeme_piece {piece : Piece} (h : piece.Valid) :
    ∃ c tail, piece.text.toList = c :: tail ∧ ∀ (offset : Nat) (rest : List Char),
      Starts piece.Ends rest →
      lexeme offset c (tail ++ rest) = piece.read.map fun content? => (content?, tail.length) := by
  cases piece with
  | blank => exact ⟨' ', [], rfl, fun offset rest hrest => lexeme_blank offset hrest⟩
  | sign s =>
    have hne : s.chars ≠ [] := by cases s <;> decide
    obtain ⟨c, tail, hchars⟩ := List.exists_cons_of_ne_nil hne
    refine ⟨c, tail, ?_, fun offset rest hrest => lexeme_sign offset hchars hrest⟩
    rw [Piece.text, String.toList_ofList, hchars]
  | quoted value =>
    refine ⟨'"', value.toList.flatMap Text.Quoted.encodeChar ++ ['"'], ?_, fun offset rest _ => ?_⟩
    · rw [Piece.text, Text.Quoted.encode, String.toList_ofList]
    · rw [List.append_assoc, List.length_append]
      exact lexeme_quoted offset value rest
  | word value =>
    obtain ⟨c, tail, hchars, hdigit⟩ := h.start
    have hword := h.word
    rw [hchars] at hword
    refine ⟨c, tail, hchars, fun offset rest hrest => ?_⟩
    rw [lexeme_word offset hdigit hword hrest, ← hchars, String.ofList_toList]
    rfl
  | digits key =>
    have hkey : isDigits key = true := h
    obtain ⟨c, tail, hchars⟩ := List.exists_cons_of_ne_nil (isDigits_iff.mp hkey).1
    exact ⟨c, tail, hchars, fun offset rest hrest => lexeme_digits offset hkey hchars hrest⟩
  | number value width? =>
    obtain ⟨n, hn⟩ := spells_numberText h width?
    obtain ⟨c, tail, hchars⟩ := List.exists_cons_of_ne_nil hn.proper.chars_ne_nil
    refine ⟨c, tail, ?_, fun offset rest hrest => ?_⟩
    · rw [Piece.text, ← hn.chars, hchars]
    · rw [lexeme_numeral offset hn.proper hchars hrest, ← hchars, hn.chars, hn.content]
      rfl

/-! ## Reading pieces one after another -/

/-- The characters of pieces. -/
def charsOf (pieces : List Piece) : List Char := pieces.flatMap fun piece => piece.text.toList

theorem charsOf_cons (piece : Piece) (pieces : List Piece) :
    charsOf (piece :: pieces) = piece.text.toList ++ charsOf pieces := List.flatMap_cons

theorem charsOf_append (pieces others : List Piece) :
    charsOf (pieces ++ others) = charsOf pieces ++ charsOf others := List.flatMap_append

theorem add_length_charsOf (offset : Nat) (piece : Piece) (pieces : List Piece) :
    offset + (charsOf (piece :: pieces)).length =
      offset + piece.text.length + (charsOf pieces).length := by
  rw [charsOf_cons, List.length_append, String.length_toList, Nat.add_assoc]

/-- The tokens of pieces that start at a place. -/
def place (offset : Nat) : List Piece → List Token
  | [] => []
  | piece :: rest =>
    match piece.content? with
    | some content =>
      ⟨content, piece.text, offset⟩ :: place (offset + piece.text.length) rest
    | none => place (offset + piece.text.length) rest

theorem place_append (offset : Nat) (pieces others : List Piece) :
    place offset (pieces ++ others) =
      place offset pieces ++ place (offset + (charsOf pieces).length) others := by
  induction pieces generalizing offset with
  | nil => rfl
  | cons piece pieces ih =>
    rw [List.cons_append, place, place, ih, add_length_charsOf]
    cases piece.content? <;> rfl

/-- Each of some pieces ends where the next one starts, and the last one where the rest does. -/
def FlowsTo : List Piece → List Char → Prop
  | [], _ => True
  | piece :: pieces, rest => Starts piece.Ends (charsOf pieces ++ rest) ∧ FlowsTo pieces rest

theorem flowsTo_append (pieces others : List Piece) (rest : List Char) :
    FlowsTo (pieces ++ others) rest ↔
      FlowsTo pieces (charsOf others ++ rest) ∧ FlowsTo others rest := by
  induction pieces with
  | nil => simp [FlowsTo]
  | cons piece pieces ih =>
    rw [List.cons_append, FlowsTo, FlowsTo, ih, charsOf_append, List.append_assoc, and_assoc]

theorem tokensFrom_nil (offset : Nat) : tokensFrom offset [] = .ok [⟨.stop, "", offset⟩] := by
  rw [tokensFrom]

/-- The first of some pieces is read, and then the others. -/
theorem tokensFrom_cons (offset : Nat) {piece : Piece} (h : piece.Valid) {rest : List Char}
    (hrest : Starts piece.Ends rest) :
    tokensFrom offset (piece.text.toList ++ rest) =
      piece.read.bind fun content? =>
        (tokensFrom (offset + piece.text.length) rest).map fun later =>
          match content? with
          | some content => ⟨content, piece.text, offset⟩ :: later
          | none => later := by
  obtain ⟨c, tail, hchars, hlexeme⟩ := lexeme_piece h
  have hlength : offset + 1 + tail.length = offset + piece.text.length := by
    rw [← String.length_toList, hchars, List.length_cons]
    omega
  rw [hchars, List.cons_append, tokensFrom, hlexeme offset rest hrest]
  cases piece.read with
  | error failure => rfl
  | ok content? =>
    show ((tokensFrom (offset + 1 + tail.length) ((tail ++ rest).drop tail.length)).bind _) = _
    have htext : String.ofList (c :: (tail ++ rest).take tail.length) = piece.text := by
      rw [List.take_left, ← hchars, String.ofList_toList]
    rw [List.drop_left, hlength, htext]
    cases tokensFrom (offset + piece.text.length) rest with
    | error failure => rfl
    | ok later => cases content? <;> rfl

/-- Pieces that end where they should are read one after another. -/
theorem tokensFrom_pieces (offset : Nat) {pieces : List Piece} (hvalid : ∀ p ∈ pieces, p.Valid)
    (hshort : ∀ p ∈ pieces, p.Short) (hflows : FlowsTo pieces []) :
    tokensFrom offset (charsOf pieces) =
      .ok (place offset pieces ++ [⟨.stop, "", offset + (charsOf pieces).length⟩]) := by
  induction pieces generalizing offset with
  | nil => exact tokensFrom_nil offset
  | cons piece pieces ih =>
    obtain ⟨hends, hflows⟩ := hflows
    rw [List.append_nil] at hends
    have hrest := ih (offset + piece.text.length) (fun p hp => hvalid p (List.mem_cons_of_mem _ hp))
      (fun p hp => hshort p (List.mem_cons_of_mem _ hp)) hflows
    rw [add_length_charsOf, charsOf_cons, tokensFrom_cons offset (hvalid piece List.mem_cons_self) hends,
      Piece.read_of_short (hshort piece List.mem_cons_self), hrest, place]
    cases piece.content? <;> rfl

/-- Reading ends at the first piece with too many digits. -/
theorem tokensFrom_long (offset : Nat) {pieces : List Piece} (hvalid : ∀ p ∈ pieces, p.Valid)
    {long : Piece} (hlong : long ∈ pieces) (hshort : ¬ long.Short) (hflows : FlowsTo pieces []) :
    ∃ n, tokensFrom offset (charsOf pieces) = .error (.tooManyDigits n) := by
  induction pieces generalizing offset with
  | nil => cases hlong
  | cons piece pieces ih =>
    obtain ⟨hends, hflows⟩ := hflows
    rw [List.append_nil] at hends
    rw [charsOf_cons, tokensFrom_cons offset (hvalid piece List.mem_cons_self) hends]
    by_cases hpiece : piece.Short
    · have hrest : long ∈ pieces := by
        rcases List.mem_cons.mp hlong with rfl | hrest
        · exact absurd hpiece hshort
        · exact hrest
      obtain ⟨n, hn⟩ := ih (offset + piece.text.length)
        (fun p hp => hvalid p (List.mem_cons_of_mem _ hp)) hrest hflows
      refine ⟨n, ?_⟩
      rw [Piece.read_of_short hpiece, hn]
      rfl
    · obtain ⟨n, hn⟩ := Piece.read_of_not_short hpiece
      refine ⟨n, ?_⟩
      rw [hn]
      rfl

end TreePredicate.Notation
