import TreePredicate.Proofs.Notation.Lookahead
import TreePredicate.Proofs.Notation.Spelling

/-!
# Reading the canonical form

The tokens of the canonical form of a predicate derive the predicate, whatever comes after them but a
word, which would be taken for the suffix of a range.

* `pathOf_pathPieces`, `rangeOf_place`, `derives_test` : paths, ranges and tests of numbers;
* `derives_groupFields`, `derives_listElements` : fields and elements one after another;
* `derives_pieces` : predicates, if they are not nested deeper than is read.
-/

set_option autoImplicit false

namespace TreePredicate.Notation

open Predicate Draft

/-! ## Paths -/

theorem place_of_content {piece : Piece} {content : Content} (h : piece.content? = some content)
    (offset : Nat) (rest : List Piece) :
    place offset (piece :: rest) =
      ⟨content, piece.text, offset⟩ :: place (offset + piece.text.length) rest := by
  rw [place, h]

/-- The token of a sign. -/
def signToken (sign : Sign) (offset : Nat) : Token := ⟨.sign sign, (Piece.sign sign).text, offset⟩

theorem place_sign (sign : Sign) (offset : Nat) (rest : List Piece) :
    place offset (.sign sign :: rest) =
      signToken sign offset :: place (signToken sign offset).stop rest := rfl

theorem place_blank (offset : Nat) (rest : List Piece) :
    place offset (.blank :: rest) = place (offset + 1) rest := rfl

theorem isSign_signToken (sign : Sign) (offset : Nat) :
    (signToken sign offset).isSign sign = true := beq_self_eq_true _

theorem keyOf?_digits {key : String} (h : isDigits key = true) (value : Number)
    (width? : Option Width) (offset : Nat) :
    keyOf? ⟨.number value width?, key, offset⟩ = some key := by
  have hword : key.toList.all Text.isWord = true := by
    obtain ⟨-, hdigits⟩ := isDigits_iff.mp h
    rw [List.all_eq_true]
    intro c hc
    exact Text.isWord_of_isDigit (hdigits c hc)
  unfold keyOf?
  exact if_pos hword

/-- A key is read as it is written. -/
theorem keyOf?_keyPieceBefore (key : String) (following : Path) :
    ∃ content, (keyPieceBefore key following).content? = some content ∧
      ∀ offset, keyOf? ⟨content, (keyPieceBefore key following).text, offset⟩ = some key := by
  have hkey : ∃ content, (keyPiece key).content? = some content ∧
      ∀ offset, keyOf? ⟨content, (keyPiece key).text, offset⟩ = some key := by
    unfold keyPiece
    split
    · next hdigits => exact ⟨_, rfl, keyOf?_digits hdigits _ _⟩
    · split
      · exact ⟨_, rfl, fun _ => rfl⟩
      · exact ⟨_, rfl, fun _ => rfl⟩
  rcases followed_cases key following with ⟨_, _, _, h⟩ | ⟨_, h⟩
  · rw [h]
    split
    · exact ⟨_, rfl, fun _ => rfl⟩
    · exact hkey
  · rw [h]
    exact hkey

/-- A position behind the first key of a path. -/
theorem pathOf_position {token opening index closing : Token} {key : String} {position : Int}
    {ts left : List Token} {path : Path} (hkey : keyOf? token = some key)
    (hopening : opening.isSign .openBracket = true) (hstart : opening.start = token.stop)
    (hindex : index.content = .number (.int position) none)
    (hclosing : closing.isSign .closeBracket = true)
    (h : PathOf (⟨.word key, "", closing.stop⟩ :: ts) (.key key :: path) left) :
    PathOf (token :: opening :: index :: closing :: ts) (.key key :: .index position :: path) left := by
  cases h with
  | last _ hpositions hpoint =>
    exact .last hkey (.more hopening hstart hindex hclosing hpositions) hpoint
  | more _ hpositions hpoint hpath =>
    exact .more hkey (.more hopening hstart hindex hclosing hpositions) hpoint hpath

/-- What comes after a path does not continue it. -/
structure EndsPath (ts : List Token) : Prop where
  notOpen : ∀ stop, ¬ OpensAt stop ts
  notPoint : startsWithSign .point ts = false

theorem pathOf_restPieces (path : Path) {token : Token} {key : String}
    (hkey : keyOf? token = some key) {ts : List Token} (h : EndsPath ts) :
    PathOf (token :: (place token.stop (restPieces path) ++ ts)) (.key key :: path) ts := by
  induction path generalizing key token with
  | nil => exact .last hkey (.done (h.notOpen _)) h.notPoint
  | cons step path ih =>
    cases step with
    | index position =>
      rw [restPieces, positionPieces]
      apply pathOf_position hkey rfl rfl rfl rfl
      have hword : keyOf? ⟨.word key, "", token.stop + "[".length +
          (numberText (.int position) none).length + "]".length⟩ = some key := rfl
      exact ih hword
    | key next =>
      obtain ⟨content, hcontent, hnext⟩ := keyOf?_keyPieceBefore next path
      have hnone : Positions token.stop (place token.stop (restPieces (.key next :: path)) ++ ts) []
          (place token.stop (restPieces (.key next :: path)) ++ ts) := by
        refine .done fun hopens => ?_
        obtain ⟨opening, rest, heq, hopening, -⟩ := hopens
        cases heq
        cases hopening
      rw [restPieces, place_of_content rfl, place_of_content hcontent] at hnone ⊢
      exact .more hkey hnone rfl (ih (hnext _))

theorem pathOf_pathPieces {path : Path} (hpath : path.StartsWithKey) (offset : Nat)
    {ts : List Token} (h : EndsPath ts) : PathOf (place offset (pathPieces path) ++ ts) path ts := by
  obtain ⟨key, path, rfl⟩ := hpath
  obtain ⟨content, hcontent, hkey⟩ := keyOf?_keyPieceBefore key path
  rw [pathPieces, place_of_content hcontent]
  exact pathOf_restPieces path (hkey offset) h

/-! ## Tests of numbers -/

theorem boundTokens_place (bound? : Option Number) (offset : Nat) :
    BoundTokens (place offset (boundPieces bound?)) (bound?.map fun value => (value, none)) := by
  cases bound? with
  | none => exact .none
  | some value => exact .some rfl

theorem suffixTokens_place (closing : Token) (width? : Option Width) :
    SuffixTokens closing (place closing.stop (widthPieces width?)) width? := by
  cases width? with
  | none => exact .none
  | some width => exact .some rfl rfl (.inl rfl)

/-- The tokens of a range after its opening bracket. -/
theorem place_range (lower? upper? : Option Number) (upperIncluded : Bool) (width? : Option Width)
    (offset : Nat) (ts : List Token) :
    ∃ o o', place offset (boundPieces lower? ++
        .sign .tilde :: rangeEndPieces upper? upperIncluded width?) ++ ts =
      place offset (boundPieces lower?) ++ signToken .tilde o ::
        place (signToken .tilde o).stop (boundPieces upper?) ++
          signToken (closingOf upperIncluded) o' ::
            place (signToken (closingOf upperIncluded) o').stop (widthPieces width?) ++ ts := by
  rw [place_append, place_sign, rangeEndPieces, place_append, place_sign]
  simp only [List.append_assoc, List.cons_append]
  exact ⟨_, _, rfl⟩

theorem content_closingOf (included : Bool) (offset : Nat) :
    (signToken (closingOf included) offset).content =
      .sign (if included then .closeBracket else .closeParenthesis) := by
  cases included <;> rfl

theorem rangeOf_place (lower? upper? : Option Number) (lowerIncluded upperIncluded : Bool)
    (width? : Option Width) (offset : Nat) {ts : List Token} (h : NoWord ts) :
    RangeOf lowerIncluded
      (place offset (boundPieces lower? ++
        .sign .tilde :: rangeEndPieces upper? upperIncluded width?) ++ ts)
      (.range lower? upper? lowerIncluded upperIncluded width?) ts := by
  obtain ⟨o, o', htokens⟩ := place_range lower? upper? upperIncluded width? offset ts
  have htilde : (signToken .tilde o).content = .sign .tilde := rfl
  have hagree : ∀ width, width? = some width ↔
      some width ∈ [(lower?.map fun value => (value, (none : Option Width))).bind Prod.snd,
        (upper?.map fun value => (value, (none : Option Width))).bind Prod.snd, width?] := by
    cases lower? <;> cases upper? <;> simp [eq_comm]
  have hrange : RangeOf lowerIncluded _ _ ts :=
    rangeOf_of_tokens (boundTokens_place lower? offset) htilde
      (boundTokens_place upper? (signToken .tilde o).stop) (content_closingOf upperIncluded o')
      (suffixTokens_place _ width?) hagree h
  rw [htokens]
  simpa [Option.map_map, Function.comp_def] using hrange

/-- The tokens of a range open a range where a list could stand. -/
theorem opensRange_place (lower? upper? : Option Number) (upperIncluded : Bool)
    (width? : Option Width) (offset : Nat) (ts : List Token) :
    opensRange (place offset (boundPieces lower? ++
      .sign .tilde :: rangeEndPieces upper? upperIncluded width?) ++ ts) = true := by
  obtain ⟨o, o', htokens⟩ := place_range lower? upper? upperIncluded width? offset ts
  have htilde : (signToken .tilde o).content = .sign .tilde := rfl
  rw [htokens, List.append_assoc, List.cons_append]
  exact opensRange_of_tokens (boundTokens_place lower? offset) htilde
    (boundTokens_place upper? (signToken .tilde o).stop) (content_closingOf upperIncluded o') _

theorem derives_test (test : NumberTest) (levels offset : Nat) {ts : List Token} (h : NoWord ts) :
    Derives levels (.predicate (.number test)) (place offset (testPieces test) ++ ts) ts := by
  cases test with
  | equals value width? => exact .number rfl
  | compare comparison value width? =>
    have hsign : (signToken (comparisonSign comparison) offset).content =
        .sign (comparisonSign comparison) := rfl
    refine .comparison hsign ?_ rfl
    cases comparison <;> rfl
  | range lower? upper? lowerIncluded upperIncluded width? =>
    have hbegins : beginning (openingOf lowerIncluded) (place
        (signToken (openingOf lowerIncluded) offset).stop (boundPieces lower? ++
          .sign .tilde :: rangeEndPieces upper? upperIncluded width?) ++ ts) =
        .range lowerIncluded := by
      cases lowerIncluded with
      | false => rfl
      | true => exact if_pos (opensRange_place lower? upper? upperIncluded width? _ ts)
    exact .range rfl hbegins (rangeOf_place lower? upper? lowerIncluded upperIncluded width? _ h)

/-! ## Fields and elements -/

theorem compile_source_eq (p : Pattern) : Pattern.compile p.source = .ok p := by
  unfold Pattern.compile
  split
  · next program reads => exact congrArg _ (Pattern.eq_of_source_eq rfl)
  · next fault hfault =>
    have := p.reads
    rw [hfault] at this
    cases this

/-- A predicate is derived from its tokens, whatever comes after them but a word. -/
def DerivedFromPieces (p : Predicate) : Prop :=
  ∀ (levels offset : Nat) (ts : List Token), p.depth ≤ levels → NoWord ts →
    Derives levels (.predicate p) (place offset (pieces p) ++ ts) ts

theorem endsPath_colon (offset : Nat) (rest : List Token) :
    EndsPath (signToken .colon offset :: rest) := by
  refine ⟨fun stop hopens => ?_, rfl⟩
  obtain ⟨opening, others, heq, hopening, -⟩ := hopens
  cases heq
  cases hopening

/-- A field is derived from its tokens. -/
theorem derives_groupField {levels : Nat} {c : Call} (hplaced : WellPlaced (levels + 1) c)
    (ih : DerivedFromPieces c.predicate) {before after : Draft} (h : before.call? c = some after)
    (offset : Nat) {ts : List Token} (hts : NoWord ts) :
    Derives levels (.field before after)
      (place offset (callPieces (pieces c.predicate) c) ++ ts) ts := by
  have hdepth := hplaced.depth
  rw [Nat.add_sub_cancel] at hdepth
  have hlevels : c.path.length - 1 ≤ levels := Nat.le_trans (Nat.le_add_right _ _) hdepth
  have hpath : ∀ o, ∃ o', place o (fieldPieces c.path (pieces c.predicate)) ++ ts =
      place o (pathPieces c.path) ++
        signToken .colon o' :: (place ((signToken .colon o').stop + 1) (pieces c.predicate) ++ ts) := by
    intro o
    rw [fieldPieces, place_append, place_sign, place_blank, List.append_assoc, List.cons_append]
    exact ⟨_, rfl⟩
  have hp : ∀ o, Derives (levels - (c.path.length - 1)) (.predicate c.predicate)
      (place o (pieces c.predicate) ++ ts) ts := fun o => ih _ o ts (by omega) hts
  cases c with
  | add path p =>
    obtain ⟨o, htokens⟩ := hpath offset
    have hpathOf := pathOf_pathPieces hplaced.path offset (endsPath_colon o
      (place ((signToken .colon o).stop + 1) (pieces p) ++ ts))
    have hadd : addField before false path p offset = .ok after := by
      rw [addField, if_neg Bool.false_ne_true, call?_add_done h]
    rw [callPieces]
    rw [Call.path, Call.predicate] at htokens
    rw [Call.predicate, htokens]
    exact .field (.absent (startsWithSign_of_pathOf hpathOf .bang)) hpathOf (.present rfl) hlevels
      (hp _) hadd
  | negate path p =>
    obtain ⟨o, htokens⟩ := hpath (signToken .bang offset).stop
    have hpathOf := pathOf_pathPieces hplaced.path (signToken .bang offset).stop (endsPath_colon o
      (place ((signToken .colon o).stop + 1) (pieces p) ++ ts))
    have hadd : addField before true path p offset = .ok after := by
      cases h
      rfl
    rw [callPieces, place_sign, List.cons_append]
    rw [Call.path, Call.predicate] at htokens
    rw [Call.predicate, htokens]
    exact .field (.present rfl) hpathOf (.present rfl) hlevels (hp _) hadd

/-- Fields are derived from their tokens one after another. -/
theorem derives_groupFields {levels : Nat} {calls : List Call}
    (hplaced : ∀ c ∈ calls, WellPlaced (levels + 1) c)
    (ih : ∀ c ∈ calls, DerivedFromPieces c.predicate) {before after : Draft}
    (h : before.calls? calls = some after) (offset o : Nat) (ts : List Token) :
    Derives levels (.fields before after)
      (place offset (joined (calls.map fun c => callPieces (pieces c.predicate) c)) ++
        signToken .closeBrace o :: ts) ts := by
  induction calls generalizing before offset with
  | nil =>
    cases h
    exact .noFields rfl
  | cons c rest ihrest =>
    rw [List.forall_mem_cons] at hplaced ih
    rw [calls?] at h
    obtain ⟨next, hcall, h⟩ := Option.bind_eq_some_iff.mp h
    cases rest with
    | nil =>
      cases h
      rw [List.map_singleton, joined_singleton]
      exact .lastField (derives_groupField hplaced.1 ih.1 hcall offset
        (noWord_of_sign (isSign_signToken .closeBrace o) ts)) rfl
    | cons d others =>
      have hmore := ihrest hplaced.2 ih.2 h
      rw [List.map_cons] at hmore
      rw [List.map_cons, List.map_cons, joined_cons, place_append, place_sign, place_blank,
        List.append_assoc, List.cons_append]
      refine .moreFields (derives_groupField hplaced.1 ih.1 hcall offset ?_) rfl (hmore _)
      exact noWord_of_sign (isSign_signToken .comma _) _

theorem derives_listElements {levels : Nat} {elements : List Predicate}
    (hdepth : ∀ p ∈ elements, p.depth ≤ levels) (ih : ∀ p ∈ elements, DerivedFromPieces p)
    (offset o : Nat) (ts : List Token) :
    Derives levels (.elements elements)
      (place offset (joined (elements.map pieces)) ++ signToken .closeBracket o :: ts) ts := by
  induction elements generalizing offset with
  | nil => exact .noElements rfl
  | cons p rest ihrest =>
    rw [List.forall_mem_cons] at hdepth ih
    cases rest with
    | nil =>
      rw [List.map_singleton, joined_singleton]
      exact .lastElement (ih.1 levels offset _ hdepth.1
        (noWord_of_sign (isSign_signToken .closeBracket o) ts)) rfl
    | cons q others =>
      have hmore := ihrest hdepth.2 ih.2
      rw [List.map_cons] at hmore
      rw [List.map_cons, List.map_cons, joined_cons, place_append, place_sign, place_blank,
        List.append_assoc, List.cons_append]
      refine .moreElements (ih.1 levels offset _ hdepth.1 ?_) rfl (hmore _)
      exact noWord_of_sign (isSign_signToken .comma _) _

/-! ## Predicates -/

/-- The first element of a list, and what separates it from the next, do not open a range. -/
theorem opensRange_element {p : Predicate} (hnot : isIndexGroup p = false) (offset : Nat)
    {token : Token} (htilde : token.isSign .tilde = false) (rest : List Token) :
    opensRange (place offset (pieces p) ++ token :: rest) = false := by
  cases p with
  | group fields negated =>
    rw [pieces_group, place_sign]
    exact opensRange_other rfl rfl _
  | indexGroup fields => cases hnot
  | number test =>
    rw [pieces]
    cases test with
    | equals value width? => exact htilde
    | compare comparison value width? => cases comparison <;> rfl
    | range lower? upper? lowerIncluded upperIncluded width? =>
      rw [testPieces, place_sign]
      cases lowerIncluded <;> exact opensRange_other rfl rfl _
  | text value =>
    rw [pieces]
    rfl
  | pattern p =>
    rw [pieces]
    rfl
  | list quantifier elements =>
    rw [pieces_list]
    cases quantifier
    case any => rfl
    all_goals exact opensRange_other rfl rfl _

/-- The tokens of a list do not open a range. -/
theorem opensRange_elements {elements : List Predicate}
    (h : ∀ p ∈ elements, isIndexGroup p = false) (offset o : Nat) (ts : List Token) :
    opensRange (place offset (joined (elements.map pieces)) ++ signToken .closeBracket o :: ts) =
      false := by
  cases elements with
  | nil => exact opensRange_other rfl rfl _
  | cons p rest =>
    have hp := h p List.mem_cons_self
    cases rest with
    | nil =>
      rw [List.map_singleton, joined_singleton]
      exact opensRange_element hp offset rfl ts
    | cons q others =>
      rw [List.map_cons, List.map_cons, joined_cons, place_append, place_sign, List.append_assoc,
        List.cons_append]
      exact opensRange_element hp offset rfl _

/-- A predicate is derived from the tokens of its canonical form, unless it is nested too deep. -/
theorem derives_pieces {p : Predicate} (h : Everywhere Regular p) (hnot : isIndexGroup p = false) :
    DerivedFromPieces p := by
  refine spelledInduct (motive := DerivedFromPieces) ?group ?number ?text ?pattern ?list p h hnot
  case group =>
    intro fields negated hregular ih levels offset ts hdepth _
    cases levels with
    | zero => exact absurd (depth_group_le.mp hdepth).1 (Nat.lt_irrefl 0)
    | succ levels =>
      have hplaced : ∀ c ∈ callsOf fields negated, WellPlaced (levels + 1) c := by
        intro c hc
        have hplaced := wellPlaced_of_mem hregular hc
        exact { hplaced with depth := Nat.le_trans hplaced.depth (Nat.sub_le_sub_right hdepth 1) }
      have hfields := derives_groupFields hplaced ih (calls?_callsOf hregular)
      have hopening : (signToken .openBrace offset).content = .sign .openBrace := rfl
      rw [pieces_group, place_sign, place_append, place_sign, List.cons_append, List.append_assoc,
        ← build_ofPredicate (.group fields negated)]
      exact .group hopening rfl (hfields _ _ ts)
  case number =>
    intro test _ levels offset ts _ hts
    rw [pieces]
    exact derives_test test levels offset hts
  case text =>
    intro value levels offset ts _ _
    rw [pieces]
    exact .text rfl
  case pattern =>
    intro p levels offset ts _ _
    have hsign : (signToken .tilde offset).content = .sign .tilde := rfl
    rw [pieces]
    exact .pattern hsign rfl (compile_source_eq p)
  case list =>
    intro quantifier elements hregular ih levels offset ts hdepth _
    obtain ⟨hpos, helements⟩ := depth_list_le.mp hdepth
    cases levels with
    | zero => cases hpos
    | succ levels =>
      have hderives : ∀ start o, Derives levels (.elements elements) (place start
          (joined (elements.map pieces)) ++ signToken .closeBracket o :: ts) ts :=
        fun start o => derives_listElements helements ih start o ts
      have hopens := opensRange_elements hregular.here
      rw [pieces_list]
      cases quantifier
      case exact =>
        have hopening : (signToken .openBracket offset).content = .sign .openBracket := rfl
        rw [markerPieces, List.nil_append, place_sign, place_append, place_sign, List.cons_append,
          List.append_assoc]
        refine .list hopening (if_neg ?_) (hderives _ _)
        exact Bool.eq_false_iff.mp (hopens _ _ ts)
      all_goals
        rw [markerPieces, List.singleton_append, place_sign, place_sign, place_append, place_sign,
          List.cons_append, List.cons_append, List.append_assoc]
        exact .markedList rfl rfl rfl (hderives _ _)

end TreePredicate.Notation
