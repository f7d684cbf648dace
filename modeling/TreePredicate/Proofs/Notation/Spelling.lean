import TreePredicate.Proofs.Draft.Rebuild
import TreePredicate.Proofs.Notation.PathSpelling

/-!
# The pieces of predicates

* `pieces` : how a predicate is written, piece by piece. The fields of a group are written as calls
  that rebuild it;
* `spelledInduct` : induction over the regular predicates that have a written form;
* `charsOf_pieces` : the pieces make up the canonical form;
* `flows_pieces` : each of them can be read, apart from the digits of keys, and ends where the next one
  starts;
* `short_pieces` : no piece has too many digits, exactly if no bare key has.
-/

set_option autoImplicit false

namespace TreePredicate.Notation

open Predicate Draft

/-! ## Predicates -/

/-- Rows of pieces with commas between them. -/
def joined (rows : List (List Piece)) : List Piece :=
  [Piece.sign .comma, .blank].intercalate rows

/-- How a field is written, given how its predicate is. -/
def fieldPieces (path : Path) (value : List Piece) : List Piece :=
  pathPieces path ++ .sign .colon :: .blank :: value

/-- How a call is written as a field, given how its predicate is. -/
def callPieces (value : List Piece) : Call → List Piece
  | .add path _ => fieldPieces path value
  | .negate path _ => .sign .bang :: fieldPieces path value

/-- How the marker of a quantifier is written. -/
def markerPieces : Quantifier → List Piece
  | .exact => []
  | .any => [.sign .tilde]
  | .subset => [.sign .less]
  | .superset => [.sign .greater]
  | .startsWith => [.sign .starts]
  | .endsWith => [.sign .ends]
  | .containsSequence => [.sign .sequence]

/-- How a predicate is written; an index group alone has no written form. -/
def pieces : Predicate → List Piece
  | .group fields negated =>
    .sign .openBrace :: (joined ((callsOf fields negated).attach.map fun c =>
      have := sizeOf_lt_of_mem_callsOf c.property
      callPieces (pieces c.val.predicate) c.val) ++ [.sign .closeBrace])
  | .indexGroup _ => []
  | .number test => testPieces test
  | .text value => [.quoted value]
  | .pattern p => [.sign .tilde, .quoted p.source]
  | .list quantifier elements =>
    markerPieces quantifier ++ .sign .openBracket :: (joined (elements.attach.map fun (p : { p // p ∈ elements }) =>
      have : sizeOf p.val < sizeOf (Predicate.list quantifier elements) :=
        sizeOf_lt_of_mem_elements p.property
      pieces p.val) ++ [.sign .closeBracket])
termination_by p => sizeOf p
decreasing_by all_goals assumption

theorem pieces_group (fields : List (String × Predicate)) (negated : List (Path × Predicate)) :
    pieces (.group fields negated) = .sign .openBrace ::
      (joined ((callsOf fields negated).map fun c => callPieces (pieces c.predicate) c) ++
        [.sign .closeBrace]) := by
  rw [pieces, List.attach_map_val (f := fun c => callPieces (pieces c.predicate) c)]

theorem pieces_list (quantifier : Quantifier) (elements : List Predicate) :
    pieces (.list quantifier elements) = markerPieces quantifier ++ .sign .openBracket ::
      (joined (elements.map pieces) ++ [.sign .closeBracket]) := by
  rw [pieces, List.attach_map_val (f := pieces)]

/-! ## The canonical form -/

theorem joined_cons (row next : List Piece) (rows : List (List Piece)) :
    joined (row :: next :: rows) = row ++ .sign .comma :: .blank :: joined (next :: rows) := by
  rw [joined, List.intercalate_cons_cons, List.append_assoc]
  rfl

theorem joined_singleton (row : List Piece) : joined [row] = row := List.intercalate_singleton

theorem charsOf_joined (rows : List (List Piece)) :
    charsOf (joined rows) = ", ".toList.intercalate (rows.map charsOf) := by
  induction rows with
  | nil => rfl
  | cons row rows ih =>
    cases rows with
    | nil => rw [joined_singleton, List.map_singleton, List.intercalate_singleton]
    | cons next rows =>
      show _ = ", ".toList.intercalate (charsOf row :: charsOf next :: rows.map charsOf)
      rw [joined_cons, charsOf_append, charsOf_cons, charsOf_cons, ih, List.intercalate_cons_cons,
        List.append_assoc]
      rfl

theorem printed_of_written {p : Predicate} {path : Path} {text : String}
    (h : written [] p = [(path, text)]) : printed p = text := by
  rw [printed, h, List.map_singleton, String.join_cons, String.join_nil, String.append_empty]

/-- What is no index group is written in one field. -/
theorem written_eq {p : Predicate} (h : isIndexGroup p = false) (path : Path) :
    written path p = [(path, printed p)] := by
  cases p with
  | indexGroup fields => cases h
  | _ => rw [printed_of_written (by rw [written]), written]

theorem writtenItems_eq (path : Path) (fields : List (Int × Predicate)) :
    writtenItems path fields = fields.flatMap fun f => written (path ++ [.index f.1]) f.2 := by
  induction fields with
  | nil => rw [writtenItems, List.flatMap_nil]
  | cons f rest ih => rw [writtenItems, ih, List.flatMap_cons]

theorem written_eq_map (path : Path) (p : Predicate) :
    written path p = (parts path p).map fun f => (f.1, printed f.2) := by
  induction p generalizing path with
  | indexGroup fields ih =>
    rw [written, writtenItems_eq, parts, itemParts_eq, List.map_flatMap]
    exact List.flatMap_congr fun f hf => ih f hf _
  | _ => rw [written_eq rfl, parts_of_not_indexGroup rfl, List.map_singleton]

theorem writtenFields_eq (fields : List (String × Predicate)) :
    writtenFields fields = (fieldParts fields).map fun f => (f.1, printed f.2) := by
  induction fields with
  | nil => rfl
  | cons f rest ih =>
    rw [writtenFields, ih, written_eq_map, fieldParts, fieldParts, List.flatMap_cons,
      List.map_append]

theorem writtenNegated_eq {negated : List (Path × Predicate)}
    (h : ∀ f ∈ negated, isIndexGroup f.2 = false) :
    writtenNegated negated = negated.map fun f => (f.1, printed f.2) := by
  induction negated with
  | nil => rfl
  | cons f rest ih =>
    rw [List.forall_mem_cons] at h
    rw [writtenNegated, ih h.2, written_eq h.1, List.map_cons, List.singleton_append]

theorem writtenElements_eq {elements : List Predicate}
    (h : ∀ p ∈ elements, isIndexGroup p = false) :
    writtenElements elements = elements.map fun p => ([], printed p) := by
  induction elements with
  | nil => rfl
  | cons p rest ih =>
    rw [List.forall_mem_cons] at h
    rw [writtenElements, ih h.2, written_eq h.1, List.map_cons, List.singleton_append]

/-- The written form of a call as a field. -/
def callText (value : String) : Call → String
  | .add path _ => fieldText (path, value)
  | .negate path _ => negatedText (path, value)

theorem printed_group {fields : List (String × Predicate)} {negated : List (Path × Predicate)}
    (h : ∀ f ∈ negated, isIndexGroup f.2 = false) :
    printed (.group fields negated) = "\x7b" ++ ", ".intercalate
      ((callsOf fields negated).map fun c => callText (printed c.predicate) c) ++ "\x7d" := by
  rw [printed_of_written (by rw [written]), groupText, writtenFields_eq, writtenNegated_eq h, callsOf,
    List.map_append, List.map_map, List.map_map, List.map_map, List.map_map]
  rfl

theorem printed_list {quantifier : Quantifier} {elements : List Predicate}
    (h : ∀ p ∈ elements, isIndexGroup p = false) :
    printed (.list quantifier elements) =
      quantifier.symbol ++ "[" ++ ", ".intercalate (elements.map printed) ++ "]" := by
  rw [printed_of_written (by rw [written]), listText, writtenElements_eq h, List.map_map]
  rfl

theorem charsOf_fieldPieces {value : List Piece} {text : String} (h : charsOf value = text.toList)
    (path : Path) : charsOf (fieldPieces path value) = (fieldText (path, text)).toList := by
  rw [fieldPieces, charsOf_append, charsOf_pathPieces, charsOf_cons, charsOf_cons, h, fieldText,
    String.toList_append, String.toList_append, List.append_assoc]
  rfl

theorem charsOf_callPieces {value : List Piece} {text : String} (h : charsOf value = text.toList)
    (c : Call) : charsOf (callPieces value c) = (callText text c).toList := by
  cases c with
  | add path p => exact charsOf_fieldPieces h path
  | negate path p =>
    rw [callPieces, charsOf_cons, charsOf_fieldPieces h, callText, negatedText, String.toList_append]
    rfl

theorem charsOf_markerPieces (quantifier : Quantifier) :
    charsOf (markerPieces quantifier) = quantifier.symbol.toList := by
  cases quantifier <;> rfl

theorem charsOf_rows {α : Type} {items : List α} {row : α → List Piece} {text : α → String}
    (h : ∀ a ∈ items, charsOf (row a) = (text a).toList) :
    charsOf (joined (items.map row)) = (", ".intercalate (items.map text)).toList := by
  rw [charsOf_joined, String.toList_intercalate, List.map_map, List.map_map]
  exact congrArg _ (List.map_congr_left h)

/-! ## Regular predicates -/

/-- A call that a field of a regular group is written as. -/
structure WellPlaced (depth : Nat) (c : Call) : Prop where
  path : c.path.StartsWithKey
  positions : ReadablePositions c.path
  depth : c.path.length - 1 + c.predicate.depth ≤ depth - 1
  regular : Everywhere Regular c.predicate
  notIndexGroup : isIndexGroup c.predicate = false

theorem wellPlaced_of_mem {fields : List (String × Predicate)} {negated : List (Path × Predicate)}
    (h : Everywhere Regular (.group fields negated)) {c : Call} (hc : c ∈ callsOf fields negated) :
    WellPlaced (Predicate.group fields negated).depth c := by
  obtain ⟨⟨-, hregular⟩, hfields, hnegated⟩ := everywhere_group.mp h
  obtain ⟨-, hfdepth, hndepth⟩ := depth_group_le.mp (Nat.le_refl (Predicate.group fields negated).depth)
  rcases List.mem_append.mp hc with hc | hc
  · obtain ⟨f, hf, rfl⟩ := List.mem_map.mp hc
    obtain ⟨g, hg, hpart⟩ := exists_part_of_mem_fieldParts hf
    obtain ⟨positions, hpath, hdepth, hreadable⟩ := hpart.path
    have hpath' : f.1 = .key g.1 :: positions.map .index := hpath
    refine ⟨⟨g.1, _, hpath'⟩, ?_, ?_, hpart.everywhere (hfields g hg), hpart.notIndexGroup⟩
    · intro i hi
      rw [Call.path, hpath', List.mem_cons] at hi
      rcases hi with hi | hi
      · cases hi
      · obtain ⟨j, hj, heq⟩ := List.mem_map.mp hi
        cases heq
        exact hreadable (hfields g hg) i hj
    · have hlength : f.1.length - 1 = positions.length := by
        rw [hpath', List.length_cons, List.length_map, Nat.add_sub_cancel]
      rw [Call.path, Call.predicate, hlength]
      exact Nat.le_trans hdepth (hfdepth g hg)
  · obtain ⟨f, hf, rfl⟩ := List.mem_map.mp hc
    exact ⟨(hregular f hf).path, (hregular f hf).positions, hndepth f hf, hnegated f hf,
      (hregular f hf).notIndexGroup⟩

/-- Induction over the regular predicates that have a written form, through the calls that the fields
of groups are written as. -/
theorem spelledInduct {motive : Predicate → Prop}
    (group : ∀ fields negated, Everywhere Regular (.group fields negated) →
      (∀ c ∈ callsOf fields negated, motive c.predicate) → motive (.group fields negated))
    (number : ∀ test, (∀ value ∈ testNumbers test, value.Readable) → motive (.number test))
    (text : ∀ value, motive (.text value))
    (pattern : ∀ p, motive (.pattern p))
    (list : ∀ quantifier elements, Everywhere Regular (.list quantifier elements) →
      (∀ p ∈ elements, motive p) → motive (.list quantifier elements))
    (p : Predicate) (regular : Everywhere Regular p) (notIndexGroup : isIndexGroup p = false) :
    motive p := by
  induction p using partsInduct with
  | group fields negated ihfields ihnegated =>
    apply group fields negated regular
    intro c hc
    have hplaced := wellPlaced_of_mem regular hc
    rcases List.mem_append.mp hc with hc | hc
    · obtain ⟨f, hf, rfl⟩ := List.mem_map.mp hc
      exact ihfields f hf hplaced.regular hplaced.notIndexGroup
    · obtain ⟨f, hf, rfl⟩ := List.mem_map.mp hc
      exact ihnegated f hf hplaced.regular hplaced.notIndexGroup
  | indexGroup fields => cases notIndexGroup
  | number test => exact number test regular.here
  | text value => exact text value
  | pattern p => exact pattern p
  | list quantifier elements ih =>
    obtain ⟨hlist, helements⟩ := everywhere_list.mp regular
    exact list quantifier elements regular fun p hp => ih p hp (helements p hp) (hlist p hp)

variable {p : Predicate}

/-- The pieces of a predicate make up its canonical form. -/
theorem charsOf_pieces (h : Everywhere Regular p) (hnot : isIndexGroup p = false) :
    charsOf (pieces p) = (printed p).toList := by
  refine spelledInduct (motive := fun p => charsOf (pieces p) = (printed p).toList)
    ?group ?number ?text ?pattern ?list p h hnot
  case group =>
    intro fields negated hregular ih
    have hrows := charsOf_rows fun c hc => charsOf_callPieces (ih c hc) c
    rw [pieces_group, charsOf_cons, charsOf_append, hrows,
      printed_group fun f hf => (hregular.here.2 f hf).notIndexGroup, String.toList_append,
      String.toList_append, List.append_assoc]
    rfl
  case number =>
    intro test _
    rw [pieces, charsOf_testPieces, printed_of_written (by rw [written])]
  case text =>
    intro value
    rw [pieces, printed_of_written (by rw [written])]
    exact List.append_nil _
  case pattern =>
    intro p
    rw [pieces, printed_of_written (by rw [written]), String.toList_append]
    exact congrArg _ (List.append_nil _)
  case list =>
    intro quantifier elements hregular ih
    rw [pieces_list, charsOf_append, charsOf_cons, charsOf_append, charsOf_rows ih,
      charsOf_markerPieces, printed_list hregular.here]
    simp only [String.toList_append, List.append_assoc]
    rfl

theorem forall_mem_joined {P : Piece → Prop} (hcomma : P (.sign .comma)) (hblank : P .blank)
    (rows : List (List Piece)) :
    (∀ piece ∈ joined rows, P piece) ↔ ∀ row ∈ rows, ∀ piece ∈ row, P piece := by
  induction rows with
  | nil => exact iff_of_true (List.forall_mem_nil _) (List.forall_mem_nil _)
  | cons row rows ih =>
    cases rows with
    | nil => rw [joined_singleton, List.forall_mem_singleton]
    | cons next rows =>
      rw [joined_cons, List.forall_mem_append, List.forall_mem_cons, List.forall_mem_cons, ih,
        List.forall_mem_cons (a := row)]
      exact and_congr_right fun _ => ⟨fun h => h.2.2, fun h => ⟨hcomma, hblank, h⟩⟩

theorem valid_callPieces {value : List Piece} (h : ∀ piece ∈ value, piece.Valid) {c : Call}
    (hpositions : ReadablePositions c.path) : ∀ piece ∈ callPieces value c, piece.Valid := by
  have hfield : ∀ piece ∈ fieldPieces c.path value, piece.Valid := by
    rw [fieldPieces, List.forall_mem_append, List.forall_mem_cons, List.forall_mem_cons]
    exact ⟨valid_pathPieces hpositions, trivial, trivial, h⟩
  cases c with
  | add path p => exact hfield
  | negate path p => exact List.forall_mem_cons.mpr ⟨trivial, hfield⟩

theorem valid_pieces (h : Everywhere Regular p) (hnot : isIndexGroup p = false) :
    ∀ piece ∈ pieces p, piece.Valid := by
  refine spelledInduct (motive := fun p => ∀ piece ∈ pieces p, piece.Valid)
    ?group ?number ?text ?pattern ?list p h hnot
  case group =>
    intro fields negated hregular ih
    rw [pieces_group, List.forall_mem_cons, List.forall_mem_append, List.forall_mem_singleton]
    refine ⟨trivial, (forall_mem_joined trivial trivial _).mpr (List.forall_mem_map.mpr fun c hc => ?_), trivial⟩
    exact valid_callPieces (ih c hc) (wellPlaced_of_mem hregular hc).positions
  case number =>
    intro test htest
    rw [pieces]
    exact valid_testPieces htest
  case text =>
    intro value
    rw [pieces, List.forall_mem_singleton]
    trivial
  case pattern =>
    intro p
    rw [pieces, List.forall_mem_cons, List.forall_mem_singleton]
    exact ⟨trivial, trivial⟩
  case list =>
    intro quantifier elements _ ih
    rw [pieces_list, List.forall_mem_append, List.forall_mem_cons, List.forall_mem_append,
      List.forall_mem_singleton]
    refine ⟨?_, trivial, (forall_mem_joined trivial trivial _).mpr (List.forall_mem_map.mpr ih), trivial⟩
    cases quantifier <;> simp [markerPieces, Piece.Valid]

/-! ## Where the pieces of a predicate end -/

/-- A row of pieces that can be read, that does not start with a blank, and whose pieces end where
they should wherever something breaks off behind them. -/
structure Flows (row : List Piece) : Prop where
  valid : ∀ piece ∈ row, piece.Valid
  start : ∃ first others, row = first :: others ∧ first ≠ .blank
  flows : ∀ rest, Starts Breaks rest → FlowsTo row rest

theorem starts_with_sign (s : Sign) (pieces : List Piece) :
    ∃ first others, Piece.sign s :: pieces = first :: others ∧ first ≠ .blank :=
  ⟨.sign s, pieces, rfl, by simp⟩

theorem Flows.starts {row : List Piece} (h : Flows row) (rest : List Char) :
    Starts (fun c => Text.isBlank c = false) (charsOf row ++ rest) := by
  obtain ⟨first, others, rfl, hne⟩ := h.start
  rw [charsOf_cons, List.append_assoc]
  exact starts_notBlank (h.valid first List.mem_cons_self) hne _

theorem flowsTo_blank {row : List Piece} (h : Flows row) {rest : List Char}
    (hrest : Starts Breaks rest) : FlowsTo (.blank :: row) rest :=
  ⟨h.starts rest, h.flows rest hrest⟩

theorem flows_joined_cons {row : List Piece} {rows : List (List Piece)}
    (h : ∀ r ∈ row :: rows, Flows r) : Flows (joined (row :: rows)) := by
  induction rows generalizing row with
  | nil =>
    rw [joined_singleton]
    exact h row List.mem_cons_self
  | cons next rows ih =>
    have hrow := h row List.mem_cons_self
    have hrows := ih fun r hr => h r (List.mem_cons_of_mem row hr)
    obtain ⟨first, others, hfirst, hne⟩ := hrow.start
    rw [joined_cons]
    refine ⟨?_, ⟨first, _, by rw [hfirst, List.cons_append], hne⟩, fun rest hrest => ?_⟩
    · rw [List.forall_mem_append, List.forall_mem_cons, List.forall_mem_cons]
      exact ⟨hrow.valid, trivial, trivial, hrows.valid⟩
    · rw [flowsTo_append, flowsTo_sign (by decide) (by decide)]
      exact ⟨hrow.flows _ (breaks_sign (by decide) _ _), flowsTo_blank hrows hrest⟩

theorem flowsTo_joined {rows : List (List Piece)} (h : ∀ row ∈ rows, Flows row) {rest : List Char}
    (hrest : Starts Breaks rest) : FlowsTo (joined rows) rest := by
  cases rows with
  | nil => trivial
  | cons row rows => exact (flows_joined_cons h).flows rest hrest

theorem keyPieceBefore_ne_blank (key : String) (following : Path) :
    keyPieceBefore key following ≠ .blank := by
  have hkey : keyPiece key ≠ .blank := by
    unfold keyPiece
    split
    · simp
    · split <;> simp
  rcases followed_cases key following with ⟨_, _, _, h⟩ | ⟨_, h⟩
  · rw [h]
    split
    · simp
    · exact hkey
  · rw [h]
    exact hkey

theorem flows_callPieces {value : List Piece} (h : Flows value) {c : Call}
    (hpath : c.path.StartsWithKey) (hpositions : ReadablePositions c.path) :
    Flows (callPieces value c) := by
  have hflows : ∀ rest, Starts Breaks rest → FlowsTo (fieldPieces c.path value) rest := by
    intro rest hrest
    rw [fieldPieces, flowsTo_append, flowsTo_sign (by decide) (by decide)]
    exact ⟨flowsTo_pathPieces hpath (breaks_sign (by decide) _ _), flowsTo_blank h hrest⟩
  have hvalid := valid_callPieces h.valid hpositions
  cases c with
  | add path p =>
    refine ⟨hvalid, ?_, hflows⟩
    obtain ⟨key, others, rfl⟩ : path.StartsWithKey := hpath
    exact ⟨keyPieceBefore key others, _, rfl, keyPieceBefore_ne_blank key others⟩
  | negate path p =>
    refine ⟨hvalid, starts_with_sign _ _, ?_⟩
    intro rest hrest
    rw [callPieces, flowsTo_sign (by decide) (by decide)]
    exact hflows rest hrest

theorem flowsTo_markerPieces (quantifier : Quantifier) (row : List Piece) (rest : List Char) :
    FlowsTo (markerPieces quantifier) (charsOf (.sign .openBracket :: row) ++ rest) := by
  have hends : ∀ s, Starts (Piece.sign s).Ends (charsOf (.sign .openBracket :: row) ++ rest) :=
    fun s => starts_sign rfl (ends_sign_before (by decide) (by decide) (by decide) s) _ _
  cases quantifier
  case exact => trivial
  all_goals exact ⟨hends _, trivial⟩

/-- Each piece of a predicate ends where the next one starts. -/
theorem flows_pieces (h : Everywhere Regular p) (hnot : isIndexGroup p = false) :
    Flows (pieces p) := by
  refine spelledInduct (motive := fun p => Flows (pieces p))
    ?group ?number ?text ?pattern ?list p h hnot
  case group =>
    intro fields negated hregular ih
    have hrows : ∀ row ∈ (callsOf fields negated).map
        (fun c => callPieces (pieces c.predicate) c), Flows row := by
      rw [List.forall_mem_map]
      intro c hc
      have hplaced := wellPlaced_of_mem hregular hc
      exact flows_callPieces (ih c hc) hplaced.path hplaced.positions
    refine ⟨valid_pieces hregular rfl, ?_, ?_⟩
    · rw [pieces_group]
      exact starts_with_sign _ _
    · intro rest hrest
      rw [pieces_group, flowsTo_sign (by decide) (by decide), flowsTo_append,
        flowsTo_sign (by decide) (by decide)]
      exact ⟨flowsTo_joined hrows (breaks_sign (by decide) _ _), trivial⟩
  case number =>
    intro test htest
    rw [pieces]
    refine ⟨valid_testPieces htest, ?_, fun rest hrest => flowsTo_testPieces htest hrest⟩
    cases test <;> exact ⟨_, _, rfl, by simp⟩
  case text =>
    intro value
    rw [pieces]
    exact ⟨List.forall_mem_singleton.mpr trivial, ⟨_, _, rfl, by simp⟩,
      fun rest _ => ⟨fun c _ => trivial, trivial⟩⟩
  case pattern =>
    intro p
    rw [pieces]
    refine ⟨List.forall_mem_cons.mpr ⟨trivial, List.forall_mem_singleton.mpr trivial⟩,
      starts_with_sign _ _, ?_⟩
    intro rest _
    rw [flowsTo_sign (by decide) (by decide)]
    exact ⟨fun c _ => trivial, trivial⟩
  case list =>
    intro quantifier elements hregular ih
    have hrows : ∀ row ∈ elements.map pieces, Flows row := List.forall_mem_map.mpr ih
    refine ⟨valid_pieces hregular rfl, ?_, ?_⟩
    · rw [pieces_list]
      cases quantifier <;> exact starts_with_sign _ _
    · intro rest hrest
      rw [pieces_list, flowsTo_append, flowsTo_sign (by decide) (by decide), flowsTo_append,
        flowsTo_sign (by decide) (by decide)]
      exact ⟨flowsTo_markerPieces quantifier _ rest,
        flowsTo_joined hrows (breaks_sign (by decide) _ _), trivial⟩

/-! ## Predicates with many digits -/

/-- No bare key of a group has too many digits. -/
def ShortBareKeys (p : Predicate) : Prop := ∀ key ∈ p.bareKeys, ShortKey key

theorem short_callPieces (value : List Piece) (c : Call) :
    (∀ piece ∈ callPieces value c, piece.Short) ↔
      (∀ key ∈ bareKeysOf c.path, ShortKey key) ∧ ∀ piece ∈ value, piece.Short := by
  have hfield : (∀ piece ∈ fieldPieces c.path value, piece.Short) ↔
      (∀ key ∈ bareKeysOf c.path, ShortKey key) ∧ ∀ piece ∈ value, piece.Short := by
    rw [fieldPieces, List.forall_mem_append, List.forall_mem_cons, List.forall_mem_cons,
      short_pathPieces]
    exact and_congr_right fun _ => ⟨fun h => h.2.2, fun h => ⟨trivial, trivial, h⟩⟩
  cases c with
  | add path p => exact hfield
  | negate path p =>
    rw [callPieces, List.forall_mem_cons]
    exact (and_iff_right trivial).trans hfield

theorem bareKeysOf_positions (key : String) (positions : List Int) :
    bareKeysOf (.key key :: positions.map .index) = [key] := by
  have hnone : bareKeysOf (positions.map .index) = [] := by
    induction positions with
    | nil => rfl
    | cons position rest ih => rw [List.map_cons, bareKeysOf, ih]
  cases positions with
  | nil => rfl
  | cons position rest =>
    rw [List.map_cons] at hnone ⊢
    rw [show bareKeysOf (.key key :: .index position :: rest.map .index) =
      key :: bareKeysOf (.index position :: rest.map .index) from rfl, hnone]

/-- What holds of all index groups holds everywhere in a predicate if it does so in the fields that
it is written as. -/
theorem everywhere_of_parts {P : Predicate → Prop} (hindex : ∀ fields, P (.indexGroup fields))
    (path : Path) (h : ∀ f ∈ parts path p, Everywhere P f.2) : Everywhere P p := by
  induction p generalizing path with
  | indexGroup fields ih =>
    refine everywhere_indexGroup.mpr ⟨hindex fields, fun f hf => ih f hf (path ++ [.index f.1])
      fun g hg => h g ?_⟩
    rw [parts, itemParts_eq]
    exact List.mem_flatMap.mpr ⟨f, hf, hg⟩
  | _ => exact h _ (by rw [parts]; exact List.mem_cons_self)

theorem mem_callsOf_of_part {fields : List (String × Predicate)}
    {negated : List (Path × Predicate)} {g : String × Predicate} (hg : g ∈ fields)
    {f : Path × Predicate} (hf : f ∈ parts [.key g.1] g.2) :
    .add f.1 f.2 ∈ callsOf fields negated :=
  List.mem_append_left _ (List.mem_map.mpr ⟨f, List.mem_flatMap.mpr ⟨g, hg, hf⟩, rfl⟩)

theorem bareKeysOf_part {path : Path} {key : String} {f : Path × Predicate}
    (hpart : Part [.key key] p f) (hpath : f.1 = path) : bareKeysOf path = [key] := by
  obtain ⟨positions, hpositions, -⟩ := hpart.path
  rw [← hpath, hpositions]
  exact bareKeysOf_positions key positions

/-- The calls of a group have no bare key with too many digits, exactly if the group has none. -/
theorem shortBareKeys_group {fields : List (String × Predicate)} {negated : List (Path × Predicate)}
    (h : Everywhere Regular (.group fields negated)) :
    (∀ c ∈ callsOf fields negated,
      (∀ key ∈ bareKeysOf c.path, ShortKey key) ∧ Everywhere ShortBareKeys c.predicate) ↔
      Everywhere ShortBareKeys (.group fields negated) := by
  have hregular := (everywhere_group.mp h).2.1
  constructor
  · intro hcalls
    refine everywhere_group.mpr ⟨fun key hkey => ?_, fun g hg => ?_, fun f hf => ?_⟩
    · rcases List.mem_append.mp hkey with hkey | hkey
      · obtain ⟨g, hg, rfl⟩ := List.mem_map.mp hkey
        obtain ⟨f, hf⟩ := List.exists_mem_of_ne_nil _ (parts_ne_nil (hregular g hg) [.key g.1])
        have hshort := (hcalls _ (mem_callsOf_of_part hg hf)).1
        rw [Call.path, bareKeysOf_part (part_of_mem hf) rfl, List.forall_mem_singleton] at hshort
        exact hshort
      · obtain ⟨f, hf, hkey⟩ := List.mem_flatMap.mp hkey
        exact (hcalls (.negate f.1 f.2) (List.mem_append_right _ (List.mem_map.mpr ⟨f, hf, rfl⟩))).1
          key hkey
    · apply everywhere_of_parts (fun _ => List.forall_mem_nil _) [.key g.1]
      intro f hf
      exact (hcalls _ (mem_callsOf_of_part hg hf)).2
    · exact (hcalls (.negate f.1 f.2) (List.mem_append_right _ (List.mem_map.mpr ⟨f, hf, rfl⟩))).2
  · intro hshort c hc
    obtain ⟨hhere, hfields, hnegated⟩ := everywhere_group.mp hshort
    rcases List.mem_append.mp hc with hc | hc
    · obtain ⟨f, hf, rfl⟩ := List.mem_map.mp hc
      obtain ⟨g, hg, hpart⟩ := exists_part_of_mem_fieldParts hf
      refine ⟨?_, hpart.everywhere (hfields g hg)⟩
      rw [Call.path, bareKeysOf_part hpart rfl, List.forall_mem_singleton]
      exact hhere g.1 (List.mem_append_left _ (List.mem_map.mpr ⟨g, hg, rfl⟩))
    · obtain ⟨f, hf, rfl⟩ := List.mem_map.mp hc
      refine ⟨fun key hkey => hhere key ?_, hnegated f hf⟩
      exact List.mem_append_right _ (List.mem_flatMap.mpr ⟨f, hf, hkey⟩)

/-- No piece has too many digits, exactly if no bare key in the predicate has. -/
theorem short_pieces (h : Everywhere Regular p) (hnot : isIndexGroup p = false) :
    (∀ piece ∈ pieces p, piece.Short) ↔ Everywhere ShortBareKeys p := by
  have hleaf : ∀ q : Predicate, q.members = [] → q.bareKeys = [] → Everywhere ShortBareKeys q := by
    intro q hmembers hkeys
    apply (everywhere_leaf hmembers).mpr
    intro key hkey
    rw [hkeys] at hkey
    cases hkey
  refine spelledInduct
    (motive := fun p => (∀ piece ∈ pieces p, piece.Short) ↔ Everywhere ShortBareKeys p)
    ?group ?number ?text ?pattern ?list p h hnot
  case group =>
    intro fields negated hregular ih
    rw [pieces_group, List.forall_mem_cons, List.forall_mem_append, List.forall_mem_singleton,
      forall_mem_joined trivial trivial, List.forall_mem_map, ← shortBareKeys_group hregular]
    apply ((and_iff_right trivial).trans (and_iff_left trivial)).trans
    apply forall₂_congr
    intro c hc
    rw [short_callPieces, ih c hc]
  case number =>
    intro test _
    rw [pieces]
    exact iff_of_true (short_testPieces test) (hleaf _ rfl rfl)
  case text =>
    intro value
    rw [pieces]
    exact iff_of_true (List.forall_mem_singleton.mpr trivial) (hleaf _ rfl rfl)
  case pattern =>
    intro p
    rw [pieces]
    exact iff_of_true (List.forall_mem_cons.mpr ⟨trivial, List.forall_mem_singleton.mpr trivial⟩)
      (hleaf _ rfl rfl)
  case list =>
    intro quantifier elements _ ih
    have hmarker : ∀ piece ∈ markerPieces quantifier, piece.Short := by
      cases quantifier <;> simp [markerPieces, Piece.Short]
    rw [pieces_list, List.forall_mem_append, List.forall_mem_cons, List.forall_mem_append,
      List.forall_mem_singleton, forall_mem_joined trivial trivial, List.forall_mem_map,
      everywhere_list]
    constructor
    · rintro ⟨-, -, helements, -⟩
      exact ⟨List.forall_mem_nil _, fun p hp => (ih p hp).mp (helements p hp)⟩
    · rintro ⟨-, helements⟩
      exact ⟨hmarker, trivial, fun p hp => (ih p hp).mpr (helements p hp), trivial⟩

end TreePredicate.Notation
