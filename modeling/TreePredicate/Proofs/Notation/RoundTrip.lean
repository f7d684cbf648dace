import TreePredicate.Proofs.Notation.Parsed
import TreePredicate.Proofs.Notation.Reading
import TreePredicate.Proofs.Predicate.Same

/-!
# Reading what was printed

* `print?_of_regular` : a regular predicate has a canonical form;
* `tokenize_printed`, `tokenize_printed_long` : which is cut into the tokens of its pieces, unless a
  bare key has too many digits;
* `parse_printed` : so it is read back exactly as it was, unless it is nested too deep;
* `parse_print?` : the same for every group whose keys are short;
* `roundTrips_iff` : what a text stands for is printed and read back, exactly if no bare key has too
  many digits.
-/

set_option autoImplicit false

namespace TreePredicate.Notation

open Predicate Draft

variable {p : Predicate}

/-! ## Canonical forms exist -/

theorem namedWritable_iff (fields : List (String × Predicate)) :
    namedWritable fields = true ↔ ∀ f ∈ fields, isWritableField f.2 = true := by
  induction fields with
  | nil => simp [namedWritable]
  | cons f rest ih => rw [namedWritable, Bool.and_eq_true, ih, List.forall_mem_cons]

theorem numberedWritable_iff (fields : List (Int × Predicate)) :
    numberedWritable fields = true ↔ ∀ f ∈ fields, isWritableField f.2 = true := by
  induction fields with
  | nil => simp [numberedWritable]
  | cons f rest ih => rw [numberedWritable, Bool.and_eq_true, ih, List.forall_mem_cons]

theorem negatedWritable_iff (negated : List (Path × Predicate)) :
    negatedWritable negated = true ↔
      ∀ f ∈ negated, isIndexGroup f.2 = false ∧ isWritableField f.2 = true := by
  induction negated with
  | nil => simp [negatedWritable]
  | cons f rest ih =>
    rw [negatedWritable, Bool.and_eq_true, Bool.and_eq_true, Bool.not_eq_true', ih,
      List.forall_mem_cons]

theorem elementsWritable_iff (elements : List Predicate) :
    elementsWritable elements = true ↔
      ∀ p ∈ elements, isIndexGroup p = false ∧ isWritableField p = true := by
  induction elements with
  | nil => simp [elementsWritable]
  | cons p rest ih =>
    rw [elementsWritable, Bool.and_eq_true, Bool.and_eq_true, Bool.not_eq_true', ih,
      List.forall_mem_cons]

theorem isWritableField_of_regular (h : Everywhere Regular p) : isWritableField p = true := by
  induction p with
  | group fields negated ihfields ihnegated =>
    obtain ⟨⟨-, hregular⟩, hfields, hnegated⟩ := everywhere_group.mp h
    rw [isWritableField, Bool.and_eq_true, namedWritable_iff, negatedWritable_iff]
    exact ⟨fun f hf => ihfields f hf (hfields f hf),
      fun f hf => ⟨(hregular f hf).notIndexGroup, ihnegated f hf (hnegated f hf)⟩⟩
  | indexGroup fields ih =>
    rw [isWritableField, numberedWritable_iff]
    exact fun f hf => ih f hf ((everywhere_indexGroup.mp h).2 f hf)
  | number test => rfl
  | text value => rfl
  | pattern p => rfl
  | list quantifier elements ih =>
    obtain ⟨hregular, helements⟩ := everywhere_list.mp h
    rw [isWritableField, elementsWritable_iff]
    exact fun p hp => ⟨hregular p hp, ih p hp (helements p hp)⟩

/-- A regular predicate has a canonical form, unless it is an index group. -/
theorem print?_of_regular (h : Everywhere Regular p) (hnot : isIndexGroup p = false) :
    print? p = some (printed p) := by
  rw [print?, isWritable, hnot, isWritableField_of_regular h]
  rfl

/-! ## Tokens of canonical forms -/

theorem tokenize_printed (h : Everywhere Regular p) (hnot : isIndexGroup p = false)
    (hshort : Everywhere ShortBareKeys p) :
    tokenize (printed p) =
      .ok (place 0 (pieces p) ++ [⟨.stop, "", 0 + (charsOf (pieces p)).length⟩]) := by
  have hflows := flows_pieces h hnot
  rw [tokenize, ← charsOf_pieces h hnot]
  exact tokensFrom_pieces 0 hflows.valid ((short_pieces h hnot).mpr hshort)
    (hflows.flows [] (starts_nil _))

theorem tokenize_printed_long (h : Everywhere Regular p) (hnot : isIndexGroup p = false)
    (hlong : ¬ Everywhere ShortBareKeys p) :
    ∃ n, tokenize (printed p) = .error (.tooManyDigits n) := by
  have hflows := flows_pieces h hnot
  rw [← short_pieces h hnot] at hlong
  obtain ⟨long, hmem, hlong⟩ : ∃ piece ∈ pieces p, ¬ piece.Short := by
    simpa only [not_forall, exists_prop] using hlong
  rw [tokenize, ← charsOf_pieces h hnot]
  exact tokensFrom_long 0 hflows.valid hmem hlong (hflows.flows [] (starts_nil _))

/-- The canonical form of a group is read back as the group. -/
theorem parse_printed {fields : List (String × Predicate)} {negated : List (Path × Predicate)}
    (h : Everywhere Regular (.group fields negated))
    (hdepth : (Predicate.group fields negated).depth ≤ nestingLimit)
    (hshort : Everywhere ShortBareKeys (.group fields negated)) :
    parse (printed (.group fields negated)) = .ok (.group fields negated) := by
  refine parse_eq_ok.mpr ⟨_, tokenize_printed h rfl hshort, parseTokens_eq_ok.mpr ?_⟩
  have hstop : NoWord [⟨.stop, "", 0 + (charsOf (pieces (.group fields negated))).length⟩] := by
    intro token htoken value hword
    cases htoken
    cases hword
  have hderives := derives_pieces h rfl nestingLimit 0 _ hdepth hstop
  have htokens : ∃ inside, place 0 (pieces (.group fields negated)) =
      signToken .openBrace 0 :: inside := by
    rw [pieces_group]
    exact ⟨_, rfl⟩
  obtain ⟨inside, hinside⟩ := htokens
  have hlast : ∀ last ∈ [Token.mk .stop "" (0 + (charsOf (pieces (.group fields negated))).length)].head?,
      last.content = .stop := by
    intro last hlast
    cases hlast
    rfl
  exact ⟨signToken .openBrace 0, inside ++ _, _, congrArg (· ++ _) hinside, rfl, hderives, hlast⟩

/-- No key of a group has too many digits. -/
def ShortKeys (p : Predicate) : Prop := ∀ key ∈ p.keys, ShortKey key

/-- Every regular group that is not nested too deep, and whose keys have not too many digits, is
printed, and read back exactly as it was. -/
theorem parse_print? (fields : List (String × Predicate)) (negated : List (Path × Predicate))
    (hdepth : (Predicate.group fields negated).depth ≤ 64)
    (hregular : Everywhere Regular (.group fields negated))
    (hshort : Everywhere ShortKeys (.group fields negated)) :
    ∃ text, print? (.group fields negated) = some text ∧
      parse text = .ok (.group fields negated) := by
  refine ⟨_, print?_of_regular hregular rfl, parse_printed hregular hdepth ?_⟩
  exact hshort.imp fun q hq key hkey => hq key (mem_keys_of_mem_bareKeys hkey)

/-- Fields of a group with an index group, a list and keys of digits. -/
def vaultFields : List (String × Predicate) :=
  [("items", .indexGroup
      [(0, .group [("id", .text "map")] []),
       (-1, .list .any
        [.number (.range (some (.int 1)) none true false (some .int)),
         .number (.compare .below (.int 7) none)])]),
   ("12", .number (.equals (.int (-3)) (some .byte)))]

/-- A negated field whose first key has to be quoted. -/
def vaultNegated : List (Path × Predicate) := [([.key "3", .key "a b", .index 2], .text "x")]

theorem parse_print?_vault :
    ∃ text, print? (.group vaultFields vaultNegated) = some text ∧
      parse text = .ok (.group vaultFields vaultNegated) := by
  have hint : ∀ n ∈ [1, 7, -3, 0, -1, (2 : Int)], (Number.int n).Readable := by
    unfold Number.Readable
    decide
  have hnegated : RegularNegated ([.key "3", .key "a b", .index 2], .text "x") := by
    refine ⟨⟨_, _, rfl⟩, fun i hi => ?_, rfl⟩
    simp only [List.mem_cons, reduceCtorEq, Segment.index.injEq, List.not_mem_nil, or_false,
      false_or] at hi
    exact hi ▸ hint 2 (by decide)
  have hleaf : ∀ (P : Predicate → Prop) (test : NumberTest),
      Everywhere P (.number test) ↔ P (.number test) := fun P test => everywhere_leaf rfl
  have htext : ∀ (P : Predicate → Prop) (value : String),
      Everywhere P (.text value) ↔ P (.text value) := fun P value => everywhere_leaf rfl
  refine parse_print? vaultFields vaultNegated (by decide) ?_ ?_
  · simp [vaultFields, vaultNegated, everywhere_group, everywhere_indexGroup, everywhere_list, hleaf,
      htext, Regular, Table.Distinct, testNumbers, isIndexGroup, hnegated, hint]
  · simp [vaultFields, vaultNegated, everywhere_group, everywhere_indexGroup, everywhere_list, hleaf,
      htext, ShortKeys, keys, keysOf, ShortKey]
    decide

/-! ## Texts -/

/-- The canonical form of a predicate is read back as an equal one, which has the same canonical
form. -/
def RoundTrips (p : Predicate) : Prop :=
  ∃ text q, print? p = some text ∧ parse text = .ok q ∧ q.same p = true ∧ print? q = some text

theorem parse_printed_long (h : Everywhere Regular p) (hnot : isIndexGroup p = false)
    (hlong : ¬ Everywhere ShortBareKeys p) :
    ∃ digits, parse (printed p) = .error (.tooManyDigits digits) := by
  obtain ⟨digits, htokens⟩ := tokenize_printed_long h hnot hlong
  refine ⟨digits, ?_⟩
  rw [parse, htokens]
  rfl

theorem not_roundTrips_of_long (h : Everywhere Regular p) (hnot : isIndexGroup p = false)
    (hlong : ¬ Everywhere ShortBareKeys p) : ¬ RoundTrips p := by
  rintro ⟨canonical, q, hcanonical, hparse, -⟩
  obtain ⟨digits, hfails⟩ := parse_printed_long h hnot hlong
  rw [print?_of_regular h hnot, Option.some.injEq] at hcanonical
  rw [← hcanonical, hfails] at hparse
  cases hparse

/-- A group with one field whose value is one. -/
def oneField (key : String) : Predicate := .group [(key, .number (.equals (.int 1) none))] []

/-- The pieces of a group with one field, whose key is quoted and whose value is one. -/
def quotedKeyPieces (key : String) : List Piece :=
  [.sign .openBrace, .quoted key, .sign .colon, .blank, .number (.int 1) none, .sign .closeBrace]

theorem tokens_quotedKey (key : String) :
    tokensFrom 0 (charsOf (quotedKeyPieces key)) = .ok (place 0 (quotedKeyPieces key) ++
      [⟨.stop, "", 0 + (charsOf (quotedKeyPieces key)).length⟩]) := by
  have hone : (Piece.number (.int 1) none).Valid := by
    show Decimal.length 1 ≤ Pattern.Fault.digitsAllowed
    decide
  refine tokensFrom_pieces 0 ?_ ?_ ?_
  · simp only [quotedKeyPieces, List.forall_mem_cons]
    exact ⟨trivial, trivial, trivial, trivial, hone, trivial, List.forall_mem_nil _⟩
  · simp only [quotedKeyPieces, List.forall_mem_cons]
    exact ⟨trivial, trivial, trivial, trivial, trivial, trivial, List.forall_mem_nil _⟩
  · rw [quotedKeyPieces, flowsTo_sign (by decide) (by decide), FlowsTo,
      flowsTo_sign (by decide) (by decide), FlowsTo, FlowsTo, flowsTo_sign (by decide) (by decide)]
    refine ⟨fun c _ => trivial, ?_, breaks_sign (by decide) [] [], trivial⟩
    exact starts_notBlank hone (by simp) _

theorem derives_quotedKey (key : String) (ts : List Token) :
    Derives nestingLimit (.predicate (oneField key)) (place 0 (quotedKeyPieces key) ++ ts) ts := by
  have htokens : ∃ o₁ o₂ o₃ o₄, place 0 (quotedKeyPieces key) ++ ts =
      signToken .openBrace 0 :: ⟨.quoted key, (Piece.quoted key).text, o₁⟩ :: signToken .colon o₂ ::
        ⟨.number (.int 1) none, numberText (.int 1) none, o₃⟩ :: signToken .closeBrace o₄ :: ts :=
    ⟨_, _, _, _, rfl⟩
  obtain ⟨o₁, o₂, o₃, o₄, htokens⟩ := htokens
  have hkey : keyOf? ⟨.quoted key, (Piece.quoted key).text, o₁⟩ = some key := rfl
  have hpath := pathOf_restPieces [] hkey (endsPath_colon o₂
    (⟨.number (.int 1) none, numberText (.int 1) none, o₃⟩ :: signToken .closeBrace o₄ :: ts))
  have hadd : addField .empty false [.key key] (.number (.equals (.int 1) none)) 0 =
      .ok (.group [(key, .finished (.number (.equals (.int 1) none)))] []) := rfl
  have hopening : (signToken .openBrace 0).content = .sign .openBrace := rfl
  rw [htokens]
  exact .group hopening rfl (.lastField (.field (.absent rfl) hpath (.present rfl) (Nat.zero_le _)
    (.number rfl) hadd) rfl)

/-- Whatever its key is, a group with one field is read from a text in which the key is quoted. -/
theorem parse_quotedKey (key : String) :
    parse ("\x7b" ++ Text.Quoted.encode key ++ ": 1\x7d") = .ok (oneField key) := by
  have hchars : ("\x7b" ++ Text.Quoted.encode key ++ ": 1\x7d").toList =
      charsOf (quotedKeyPieces key) := by
    simp only [quotedKeyPieces, charsOf_cons, String.toList_append, List.append_assoc]
    rfl
  have htokens := tokens_quotedKey key
  rw [← hchars] at htokens
  refine parse_eq_ok.mpr ⟨_, htokens, parseTokens_eq_ok.mpr ?_⟩
  have hderives := derives_quotedKey key
    [⟨.stop, "", 0 + ("\x7b" ++ Text.Quoted.encode key ++ ": 1\x7d").toList.length⟩]
  refine ⟨_, _, _, rfl, rfl, hderives, fun last hlast => ?_⟩
  cases hlast
  rfl

/-- What a text stands for is printed and read back, exactly if no bare key has more digits than are
read; otherwise its canonical form is refused for them. -/
theorem roundTrips_iff {text : String} (h : parse text = .ok p) :
    (RoundTrips p ↔ Everywhere ShortBareKeys p) ∧
      (¬ Everywhere ShortBareKeys p →
        ∃ canonical digits, print? p = some canonical ∧
          parse canonical = .error (.tooManyDigits digits)) := by
  obtain ⟨⟨fields, negated, rfl⟩, hregular, hdepth⟩ := fits_of_parse h
  have hprint := print?_of_regular hregular rfl
  refine ⟨⟨fun hround => ?_, fun hshort => ?_⟩, fun hlong => ?_⟩
  · by_contra hlong
    exact not_roundTrips_of_long hregular rfl hlong hround
  · exact ⟨_, _, hprint, parse_printed hregular hdepth hshort, same_self hregular, hprint⟩
  · obtain ⟨digits, hfails⟩ := parse_printed_long hregular rfl hlong
    exact ⟨_, digits, hprint, hfails⟩

theorem regular_oneField (key : String) : Everywhere Regular (oneField key) := by
  have hone : Regular (.number (.equals (.int 1) none)) := by
    refine List.forall_mem_singleton.mpr ?_
    show Decimal.length 1 ≤ Pattern.Fault.digitsAllowed
    decide
  refine everywhere_group.mpr ⟨⟨List.nodup_singleton key, List.forall_mem_nil _⟩, ?_,
    List.forall_mem_nil _⟩
  exact List.forall_mem_singleton.mpr ((everywhere_leaf rfl).mpr hone)

theorem shortBareKeys_oneField (key : String) :
    Everywhere ShortBareKeys (oneField key) ↔ ShortKey key := by
  constructor
  · exact fun h => h.here key List.mem_cons_self
  · intro h
    refine everywhere_group.mpr ⟨List.forall_mem_singleton.mpr h, ?_, List.forall_mem_nil _⟩
    exact List.forall_mem_singleton.mpr ((everywhere_leaf rfl).mpr (List.forall_mem_nil _))

theorem not_roundTrips_oneField {key : String} (h : ¬ ShortKey key) : ¬ RoundTrips (oneField key) :=
  not_roundTrips_of_long (regular_oneField key) rfl (mt (shortBareKeys_oneField key).mp h)

/-- A short key, which is read, printed and read back. -/
theorem roundTrips_oneField : RoundTrips (oneField "a") := by
  refine (roundTrips_iff (parse_quotedKey "a")).1.mpr ((shortBareKeys_oneField "a").mpr ?_)
  exact fun hdigits => absurd hdigits (by decide +kernel)

/-- A key of ones. -/
def ones (n : Nat) : String := String.ofList (List.replicate n '1')

theorem shortKey_ones {n : Nat} (h : 0 < n) : ShortKey (ones n) ↔ n ≤ Pattern.Fault.digitsAllowed := by
  have hdigits : isDigits (ones n) = true := by
    rw [isDigits_iff, ones, String.toList_ofList]
    refine ⟨List.ne_nil_of_length_pos (by rwa [List.length_replicate]), fun c hc => ?_⟩
    rw [List.eq_of_mem_replicate hc]
    decide +kernel
  unfold ShortKey
  rw [imp_iff_right hdigits, ones, String.toList_ofList, List.length_replicate]

/-- A long key of digits is read if it is quoted, and printed without quotes, as which it is not
read. -/
theorem not_roundTrips_ones :
    parse ("\x7b" ++ Text.Quoted.encode (ones 4301) ++ ": 1\x7d") = .ok (oneField (ones 4301)) ∧
      ¬ RoundTrips (oneField (ones 4301)) := by
  refine ⟨parse_quotedKey (ones 4301), not_roundTrips_oneField ?_⟩
  exact mt (shortKey_ones (by decide)).mp (by decide)

end TreePredicate.Notation
