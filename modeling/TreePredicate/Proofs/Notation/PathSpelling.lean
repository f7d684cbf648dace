import TreePredicate.Proofs.Notation.Piece
import TreePredicate.Proofs.Predicate.Regular

/-!
# The pieces of paths and of tests of numbers

* `pathPieces`, `testPieces` : how paths and tests of numbers are written, piece by piece;
* `charsOf_pathPieces`, `charsOf_testPieces` : the pieces make up the canonical form;
* `valid_pathPieces`, `valid_testPieces` : each of them can be read, apart from the digits of keys;
* `short_pathPieces` : no piece of a path has too many digits, exactly if no bare key has;
* `Breaks`, `flowsTo_pathPieces`, `flowsTo_testPieces` : each piece ends where the next one starts, if
  something breaks off behind the last one.
-/

set_option autoImplicit false

namespace TreePredicate.Notation

open Predicate

/-! ## Paths -/

/-- How a key is written. -/
def keyPiece (key : String) : Piece :=
  if isDigits key then .digits key else if isPlainKey key then .word key else .quoted key

/-- How a key is written, given what follows it on its path. -/
def keyPieceBefore (key : String) (following : Path) : Piece :=
  match following with
  | .key _ :: _ => if isDigits key then .quoted key else keyPiece key
  | _ => keyPiece key

/-- How a position is written. -/
def positionPieces (position : Int) : List Piece :=
  [.sign .openBracket, .number (.int position) none, .sign .closeBracket]

/-- How what follows the first step of a path is written. -/
def restPieces : Path → List Piece
  | [] => []
  | .index position :: rest => positionPieces position ++ restPieces rest
  | .key key :: rest => .sign .point :: keyPieceBefore key rest :: restPieces rest

/-- How a path is written. -/
def pathPieces : Path → List Piece
  | .key key :: rest => keyPieceBefore key rest :: restPieces rest
  | path => restPieces path

theorem isPlainKey_of_isDigits {key : String} (h : isDigits key = true) : isPlainKey key = true := by
  unfold isPlainKey
  split
  · next hnil =>
    exact absurd hnil (isDigits_iff.mp h).1
  · rw [h, Bool.or_true]

theorem text_keyPiece (key : String) : (keyPiece key).text = keyText key := by
  unfold keyPiece keyText
  split
  · next hdigits => rw [isPlainKey_of_isDigits hdigits]; rfl
  · split <;> rfl

/-- Either a key follows, before which digits are quoted, or not. -/
theorem followed_cases (key : String) (following : Path) :
    (∃ next rest, following = .key next :: rest ∧
      keyPieceBefore key following = if isDigits key then .quoted key else keyPiece key) ∨
    (∀ next rest, following ≠ .key next :: rest) ∧ keyPieceBefore key following = keyPiece key := by
  cases following with
  | nil => exact .inr ⟨by simp, rfl⟩
  | cons step rest =>
    cases step with
    | key next => exact .inl ⟨next, rest, rfl, rfl⟩
    | index position => exact .inr ⟨by simp, rfl⟩

theorem text_keyPieceBefore (key : String) (following : Path) :
    (keyPieceBefore key following).text = keyTextBefore key following := by
  cases following with
  | nil => exact text_keyPiece key
  | cons step rest =>
    cases step with
    | index position => exact text_keyPiece key
    | key next =>
      rw [keyPieceBefore, keyTextBefore]
      split
      · rfl
      · exact text_keyPiece key

theorem charsOf_positionPieces (position : Int) :
    charsOf (positionPieces position) = (positionText position).toList := by
  unfold positionPieces positionText charsOf
  simp [Piece.text, Sign.chars, numberText, Number.text, suffixText]

theorem charsOf_restPieces (path : Path) : charsOf (restPieces path) = (restText path).toList := by
  induction path using restPieces.induct with
  | case1 => rfl
  | case2 position rest ih =>
    rw [restPieces, charsOf_append, charsOf_positionPieces, ih, restText, String.toList_append]
  | case3 key rest ih =>
    rw [restPieces, charsOf_cons, charsOf_cons, ih, text_keyPieceBefore, restText,
      String.toList_append, String.toList_append, List.append_assoc]
    rfl

theorem charsOf_pathPieces (path : Path) : charsOf (pathPieces path) = (pathText path).toList := by
  cases path with
  | nil => rfl
  | cons step rest =>
    cases step with
    | index position => exact charsOf_restPieces (.index position :: rest)
    | key key =>
      rw [pathPieces, pathText, charsOf_cons, charsOf_restPieces, text_keyPieceBefore,
        String.toList_append]

theorem valid_keyPiece (key : String) : (keyPiece key).Valid := by
  unfold keyPiece
  split
  · next hdigits => exact hdigits
  · next hdigits =>
    split
    · next hplain =>
      unfold isPlainKey at hplain
      split at hplain
      · cases hplain
      · next c rest hchars =>
        rw [Bool.or_eq_true, or_iff_left hdigits, Bool.and_eq_true, Bool.and_eq_true,
          Bool.not_eq_true', List.all_eq_true] at hplain
        obtain ⟨⟨hword, hdigit⟩, hrest⟩ := hplain
        refine ⟨⟨c, rest, hchars, hdigit⟩, ?_⟩
        rw [hchars, List.forall_mem_cons]
        exact ⟨hword, hrest⟩
    · trivial

theorem valid_keyPieceBefore (key : String) (following : Path) :
    (keyPieceBefore key following).Valid := by
  rcases followed_cases key following with ⟨_, _, _, h⟩ | ⟨_, h⟩
  · rw [h]
    split
    · trivial
    · exact valid_keyPiece key
  · rw [h]
    exact valid_keyPiece key

theorem valid_restPieces {path : Path} (h : ReadablePositions path) :
    ∀ piece ∈ restPieces path, piece.Valid := by
  induction path using restPieces.induct with
  | case1 => exact List.forall_mem_nil _
  | case2 position rest ih =>
    rw [restPieces, List.forall_mem_append]
    refine ⟨?_, ih fun i hi => h i (List.mem_cons_of_mem _ hi)⟩
    rw [positionPieces, List.forall_mem_cons, List.forall_mem_cons, List.forall_mem_singleton]
    exact ⟨trivial, h position List.mem_cons_self, trivial⟩
  | case3 key rest ih =>
    rw [restPieces, List.forall_mem_cons, List.forall_mem_cons]
    exact ⟨trivial, valid_keyPieceBefore key rest, ih fun i hi => h i (List.mem_cons_of_mem _ hi)⟩

theorem valid_pathPieces {path : Path} (h : ReadablePositions path) :
    ∀ piece ∈ pathPieces path, piece.Valid := by
  cases path with
  | nil => exact List.forall_mem_nil _
  | cons step rest =>
    cases step with
    | index position => exact valid_restPieces h
    | key key =>
      rw [pathPieces, List.forall_mem_cons]
      exact ⟨valid_keyPieceBefore key rest,
        valid_restPieces fun i hi => h i (List.mem_cons_of_mem _ hi)⟩

/-! ## Keys with many digits -/

theorem short_keyPiece (key : String) : (keyPiece key).Short ↔ ShortKey key := by
  unfold keyPiece ShortKey
  split
  · next hdigits => exact ⟨fun h _ => h, fun h => h hdigits⟩
  · next hdigits =>
    refine iff_of_true ?_ fun h => absurd h hdigits
    split <;> trivial

theorem short_bareKeys_cons (key : String) (rest : Path) :
    ((keyPieceBefore key rest).Short ∧ ∀ other ∈ bareKeysOf rest, ShortKey other) ↔
      ∀ other ∈ bareKeysOf (.key key :: rest), ShortKey other := by
  cases rest with
  | nil =>
    rw [show bareKeysOf [.key key] = key :: bareKeysOf [] from rfl, List.forall_mem_cons]
    exact and_congr (short_keyPiece key) Iff.rfl
  | cons step rest =>
    cases step with
    | index position =>
      rw [show bareKeysOf (.key key :: .index position :: rest) =
        key :: bareKeysOf (.index position :: rest) from rfl, List.forall_mem_cons]
      exact and_congr (short_keyPiece key) Iff.rfl
    | key next =>
      rw [bareKeysOf, keyPieceBefore]
      apply and_iff_right
      split
      · trivial
      · next hdigits => exact (short_keyPiece key).mpr fun h => absurd h hdigits

theorem short_restPieces (path : Path) :
    (∀ piece ∈ restPieces path, piece.Short) ↔ ∀ key ∈ bareKeysOf path, ShortKey key := by
  induction path with
  | nil => exact iff_of_true (List.forall_mem_nil _) (List.forall_mem_nil _)
  | cons step rest ih =>
    cases step with
    | index position =>
      rw [restPieces, List.forall_mem_append, positionPieces, List.forall_mem_cons,
        List.forall_mem_cons, List.forall_mem_singleton, ih, bareKeysOf]
      exact and_iff_right ⟨trivial, trivial, trivial⟩
    | key key =>
      rw [restPieces, List.forall_mem_cons, List.forall_mem_cons, ih, short_bareKeys_cons]
      exact and_iff_right trivial

/-- No piece of a path has too many digits, exactly if no bare key has. -/
theorem short_pathPieces (path : Path) :
    (∀ piece ∈ pathPieces path, piece.Short) ↔ ∀ key ∈ bareKeysOf path, ShortKey key := by
  cases path with
  | nil => exact short_restPieces []
  | cons step rest =>
    cases step with
    | index position => exact short_restPieces (.index position :: rest)
    | key key => rw [pathPieces, List.forall_mem_cons, short_restPieces, short_bareKeys_cons]

/-! ## Where the pieces of a path end -/

/-- A character that continues neither a word nor a number. -/
def Breaks (c : Char) : Prop := Text.isWord c = false ∧ c ≠ '.'

theorem ends_sign {s : Sign} (hless : s.chars ≠ ['<']) (hgreater : s.chars ≠ ['>']) (c : Char) :
    (Piece.sign s).Ends c := by
  intro d hd
  apply Sign.ofPair?_eq_none_of_left
  · rintro rfl
    exact hless hd
  · rintro rfl
    exact hgreater hd

theorem ends_sign_before {c : Char} (hless : c ≠ '<') (hgreater : c ≠ '>') (hequal : c ≠ '=')
    (s : Sign) : (Piece.sign s).Ends c :=
  fun d _ => Sign.ofPair?_eq_none_of_right d hless hgreater hequal

theorem starts_sign {P : Char → Prop} {s : Sign} {c : Char} {tail : List Char}
    (hchars : s.chars = c :: tail) (h : P c) (pieces : List Piece) (rest : List Char) :
    Starts P (charsOf (.sign s :: pieces) ++ rest) := by
  rw [charsOf_cons, Piece.text, String.toList_ofList, hchars]
  exact starts_cons.mpr h

theorem flowsTo_sign {s : Sign} (hless : s.chars ≠ ['<']) (hgreater : s.chars ≠ ['>'])
    (pieces : List Piece) (rest : List Char) :
    FlowsTo (.sign s :: pieces) rest ↔ FlowsTo pieces rest := by
  rw [FlowsTo]
  apply and_iff_right
  intro c _
  exact ends_sign hless hgreater c

theorem breaks_sign {s : Sign} (hs : s ≠ .point) (pieces : List Piece) (rest : List Char) :
    Starts Breaks (charsOf (.sign s :: pieces) ++ rest) := by
  cases s
  case point => exact absurd rfl hs
  all_goals exact starts_sign rfl ⟨by decide +kernel, by decide⟩ _ _

theorem ends_keyPiece {c : Char} (h : Breaks c) (key : String) : (keyPiece key).Ends c := by
  unfold keyPiece
  split
  · exact h
  · split
    · exact h.1
    · trivial

theorem ends_keyPieceBefore_point (key next : String) (rest : Path) :
    (keyPieceBefore key (.key next :: rest)).Ends '.' := by
  rw [keyPieceBefore]
  split
  · trivial
  · next hdigits =>
    rw [keyPiece, if_neg hdigits]
    split
    · show Text.isWord '.' = false
      decide +kernel
    · trivial

/-- The pieces of a path end where they should, and the key before them does. -/
theorem flowsTo_restPieces (path : Path) (key : String) {rest : List Char}
    (h : Starts Breaks rest) :
    Starts (keyPieceBefore key path).Ends (charsOf (restPieces path) ++ rest) ∧
      FlowsTo (restPieces path) rest := by
  induction path generalizing key with
  | nil => exact ⟨h.imp fun c hc => ends_keyPiece hc key, trivial⟩
  | cons step path ih =>
    cases step with
    | index position =>
      rw [restPieces, positionPieces, List.cons_append, List.cons_append, List.cons_append,
        List.nil_append]
      constructor
      · exact (breaks_sign (by decide) _ _).imp fun c hc => ends_keyPiece hc key
      · rw [flowsTo_sign (by decide) (by decide), FlowsTo, flowsTo_sign (by decide) (by decide)]
        exact ⟨breaks_sign (by decide) _ _, (ih key).2⟩
    | key next =>
      rw [restPieces]
      constructor
      · exact starts_sign rfl (ends_keyPieceBefore_point key next path) _ _
      · rw [flowsTo_sign (by decide) (by decide)]
        exact ih next

theorem flowsTo_pathPieces {path : Path} (hpath : path.StartsWithKey) {rest : List Char}
    (h : Starts Breaks rest) : FlowsTo (pathPieces path) rest := by
  obtain ⟨key, path, rfl⟩ := hpath
  exact flowsTo_restPieces path key h

/-! ## Tests of numbers -/

/-- The sign of a comparison. -/
def comparisonSign : Comparison → Sign
  | .atLeast => .atLeast
  | .atMost => .atMost
  | .above => .greater
  | .below => .less

/-- How a bound is written. -/
def boundPieces (bound? : Option Number) : List Piece :=
  match bound? with
  | none => []
  | some value => [.number value none]

/-- How a width is written behind a bracket. -/
def widthPieces (width? : Option Width) : List Piece :=
  match width? with
  | none => []
  | some width => [.word width.suffix.toString]

/-- The bracket that opens a range. -/
def openingOf (included : Bool) : Sign := if included then .openBracket else .openParenthesis

/-- The bracket that closes a range. -/
def closingOf (included : Bool) : Sign := if included then .closeBracket else .closeParenthesis

/-- How a range is written after its tilde. -/
def rangeEndPieces (upper? : Option Number) (upperIncluded : Bool) (width? : Option Width) :
    List Piece :=
  boundPieces upper? ++ .sign (closingOf upperIncluded) :: widthPieces width?

/-- How a test of a number is written. -/
def testPieces : NumberTest → List Piece
  | .equals value width? => [.number value width?]
  | .compare comparison value width? =>
    [.sign (comparisonSign comparison), .blank, .number value width?]
  | .range lower? upper? lowerIncluded upperIncluded width? =>
    .sign (openingOf lowerIncluded) ::
      (boundPieces lower? ++ .sign .tilde :: rangeEndPieces upper? upperIncluded width?)

theorem charsOf_boundPieces (bound? : Option Number) :
    charsOf (boundPieces bound?) = (boundText bound?).toList := by
  cases bound? with
  | none => rfl
  | some value => simp [boundPieces, boundText, charsOf, Piece.text, numberText, suffixText]

theorem charsOf_widthPieces (width? : Option Width) :
    charsOf (widthPieces width?) = (suffixText width?).toList := by
  cases width? with
  | none => rfl
  | some width => simp [widthPieces, suffixText, charsOf, Piece.text]

theorem charsOf_testPieces (test : NumberTest) :
    charsOf (testPieces test) = (numberTestText test).toList := by
  cases test with
  | equals value width? => simp [testPieces, numberTestText, charsOf, Piece.text]
  | compare comparison value width? =>
    have hsign : (Piece.sign (comparisonSign comparison)).text = comparison.symbol := by
      cases comparison <;> rfl
    rw [testPieces, charsOf_cons, hsign, numberTestText, String.toList_append,
      String.toList_append, List.append_assoc]
    simp [charsOf, Piece.text]
  | range lower? upper? lowerIncluded upperIncluded width? =>
    have hopening : (Piece.sign (openingOf lowerIncluded)).text =
        if lowerIncluded then "[" else "(" := by cases lowerIncluded <;> rfl
    have hclosing : (Piece.sign (closingOf upperIncluded)).text =
        if upperIncluded then "]" else ")" := by cases upperIncluded <;> rfl
    rw [testPieces, rangeEndPieces, charsOf_cons, charsOf_append, charsOf_cons, charsOf_append,
      charsOf_cons, charsOf_boundPieces, charsOf_boundPieces, charsOf_widthPieces, hopening, hclosing,
      numberTestText]
    simp only [String.toList_append, List.append_assoc]
    rfl

theorem isWord_suffix (width : Width) : Piece.IsWord width.suffix.toString := by
  cases width <;>
    exact ⟨⟨_, _, rfl, by decide +kernel⟩, List.forall_mem_singleton.mpr (by decide +kernel)⟩

theorem valid_widthPieces (width? : Option Width) : ∀ piece ∈ widthPieces width?, piece.Valid := by
  cases width? with
  | none => exact List.forall_mem_nil _
  | some width => exact List.forall_mem_singleton.mpr (isWord_suffix width)

theorem valid_boundPieces {bound? : Option Number} (h : ∀ value ∈ bound?.toList, value.Readable) :
    ∀ piece ∈ boundPieces bound?, piece.Valid := by
  cases bound? with
  | none => exact List.forall_mem_nil _
  | some value => exact List.forall_mem_singleton.mpr (h value List.mem_cons_self)

theorem valid_testPieces {test : NumberTest} (h : ∀ value ∈ testNumbers test, value.Readable) :
    ∀ piece ∈ testPieces test, piece.Valid := by
  cases test with
  | equals value width? => exact List.forall_mem_singleton.mpr (h value List.mem_cons_self)
  | compare comparison value width? =>
    rw [testPieces, List.forall_mem_cons, List.forall_mem_cons, List.forall_mem_singleton]
    exact ⟨trivial, trivial, h value List.mem_cons_self⟩
  | range lower? upper? lowerIncluded upperIncluded width? =>
    rw [testNumbers, List.forall_mem_append] at h
    rw [testPieces, rangeEndPieces, List.forall_mem_cons, List.forall_mem_append,
      List.forall_mem_cons, List.forall_mem_append, List.forall_mem_cons]
    exact ⟨trivial, valid_boundPieces h.1, trivial, valid_boundPieces h.2, trivial,
      valid_widthPieces width?⟩

theorem short_testPieces (test : NumberTest) : ∀ piece ∈ testPieces test, piece.Short := by
  have hbound : ∀ bound? : Option Number, ∀ piece ∈ boundPieces bound?, piece.Short := by
    intro bound?
    cases bound? with
    | none => exact List.forall_mem_nil _
    | some value => exact List.forall_mem_singleton.mpr trivial
  have hwidth : ∀ width? : Option Width, ∀ piece ∈ widthPieces width?, piece.Short := by
    intro width?
    cases width? with
    | none => exact List.forall_mem_nil _
    | some value => exact List.forall_mem_singleton.mpr trivial
  cases test with
  | equals value width? => exact List.forall_mem_singleton.mpr trivial
  | compare comparison value width? =>
    rw [testPieces, List.forall_mem_cons, List.forall_mem_cons, List.forall_mem_singleton]
    exact ⟨trivial, trivial, trivial⟩
  | range lower? upper? lowerIncluded upperIncluded width? =>
    rw [testPieces, rangeEndPieces, List.forall_mem_cons, List.forall_mem_append,
      List.forall_mem_cons, List.forall_mem_append, List.forall_mem_cons]
    exact ⟨trivial, hbound lower?, trivial, hbound upper?, trivial, hwidth width?⟩

/-- A piece that is no blank starts with no blank. -/
theorem starts_notBlank {piece : Piece} (h : piece.Valid) (hne : piece ≠ .blank)
    (rest : List Char) :
    Starts (fun c => Text.isBlank c = false) (piece.text.toList ++ rest) := by
  cases piece with
  | blank => exact absurd rfl hne
  | sign s =>
    rw [Piece.text, String.toList_ofList]
    rcases s.chars_cases with ⟨c, hchars, hc, -⟩ | ⟨c, d, hchars, hc, -⟩
    · rw [hchars]
      exact starts_cons.mpr hc.blank
    · rw [hchars]
      exact starts_cons.mpr hc.blank
  | quoted value =>
    rw [Piece.text, Text.Quoted.encode, String.toList_ofList]
    exact starts_cons.mpr (by decide +kernel)
  | word value =>
    obtain ⟨c, tail, hchars, -⟩ := h.start
    have hword := h.word
    rw [hchars, List.forall_mem_cons] at hword
    rw [Piece.text, hchars]
    exact starts_cons.mpr (Text.isBlank_of_isWord hword.1)
  | digits key =>
    obtain ⟨hne, hdigits⟩ := isDigits_iff.mp h
    obtain ⟨c, tail, hchars⟩ := List.exists_cons_of_ne_nil hne
    rw [hchars, List.forall_mem_cons] at hdigits
    rw [Piece.text, hchars]
    exact starts_cons.mpr (Text.isBlank_of_isWord (Text.isWord_of_isDigit hdigits.1))
  | number value width? =>
    obtain ⟨n, hn⟩ := spells_numberText h width?
    obtain ⟨c, tail, hchars⟩ := List.exists_cons_of_ne_nil hn.proper.chars_ne_nil
    rw [Piece.text, ← hn.chars, hchars]
    exact starts_cons.mpr (starts_numeral hn.proper hchars).1

theorem flowsTo_boundPieces (bound? : Option Number) {rest : List Char} (h : Starts Breaks rest) :
    FlowsTo (boundPieces bound?) rest := by
  cases bound? with
  | none => trivial
  | some value => exact ⟨h, trivial⟩

theorem flowsTo_testPieces {test : NumberTest} (hvalid : ∀ value ∈ testNumbers test, value.Readable)
    {rest : List Char} (h : Starts Breaks rest) : FlowsTo (testPieces test) rest := by
  cases test with
  | equals value width? => exact ⟨h, trivial⟩
  | compare comparison value width? =>
    refine ⟨starts_cons.mpr ?_, ?_, h, trivial⟩
    · exact ends_sign_before (by decide) (by decide) (by decide) _
    · rw [charsOf_cons, List.append_assoc]
      have hnumber : (Piece.number value width?).Valid := hvalid value List.mem_cons_self
      exact starts_notBlank hnumber (by simp) _
  | range lower? upper? lowerIncluded upperIncluded width? =>
    have hwidth : FlowsTo (widthPieces width?) rest := by
      cases width? with
      | none => trivial
      | some width => exact ⟨h.imp fun c hc => hc.1, trivial⟩
    have hclosing : FlowsTo (.sign (closingOf upperIncluded) :: widthPieces width?) rest := by
      cases upperIncluded <;> exact (flowsTo_sign (by decide) (by decide) _ _).mpr hwidth
    have hbreaks : Starts Breaks
        (charsOf (.sign (closingOf upperIncluded) :: widthPieces width?) ++ rest) := by
      cases upperIncluded <;> exact breaks_sign (by decide) _ _
    have hbounds : FlowsTo (boundPieces lower? ++
        .sign .tilde :: rangeEndPieces upper? upperIncluded width?) rest := by
      rw [flowsTo_append, flowsTo_sign (by decide) (by decide), rangeEndPieces, flowsTo_append]
      exact ⟨flowsTo_boundPieces lower? (breaks_sign (by decide) _ _),
        flowsTo_boundPieces upper? hbreaks, hclosing⟩
    cases lowerIncluded <;> exact (flowsTo_sign (by decide) (by decide) _ _).mpr hbounds

end TreePredicate.Notation
