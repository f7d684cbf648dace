import Mathlib
import TreePredicate.Notation.Print
import TreePredicate.Proofs.Notation.RoundTrip

/-!
# Writing what was read

* `print_of_regular` : writing a regular predicate step by step comes to its canonical form;
* `print_parse` : so what a text stands for can be written. It is a group without stray or empty index
  groups, with finite numbers, and not nested too deep.
-/

set_option autoImplicit false

namespace TreePredicate.Notation

open Predicate

/-! ## Numbers and paths -/

theorem isWritten_of_readable {n : Int} (h : (Number.int n).Readable) : isWritten n = true :=
  decide_eq_true h

theorem printNumber_of_readable {value : Number} (h : value.Readable) :
    printNumber value = .ok value.text := by
  cases value with
  | int n => rw [printNumber, if_pos (isWritten_of_readable h)]
  | double d => rfl

theorem printBound_of_readable {bound? : Option Number} (h : ∀ value ∈ bound?.toList, value.Readable) :
    printBound bound? = .ok (boundText bound?) := by
  cases bound? with
  | none => rfl
  | some value => exact printNumber_of_readable (h value List.mem_cons_self)

theorem printTest_of_readable {test : NumberTest} (h : ∀ value ∈ testNumbers test, value.Readable) :
    printTest test = .ok (numberTestText test) := by
  cases test with
  | equals value width? =>
    rw [printTest, printNumber_of_readable (h value List.mem_cons_self)]
    rfl
  | compare comparison value width? =>
    rw [printTest, printNumber_of_readable (h value List.mem_cons_self)]
    rfl
  | range lower? upper? lowerIncluded upperIncluded width? =>
    rw [testNumbers, List.forall_mem_append] at h
    rw [printTest, printBound_of_readable h.1, printBound_of_readable h.2]
    rfl

theorem printPath_of_readable {path : Path} (h : ReadablePositions path) :
    printPath path = .ok (pathText path) := by
  refine if_pos (List.all_eq_true.mpr fun step hstep => ?_)
  cases step with
  | key key => rfl
  | index position => exact isWritten_of_readable (h position hstep)

theorem readablePositions_key (key : String) : ReadablePositions [.key key] := by
  intro i hi
  cases List.mem_singleton.mp hi

theorem readablePositions_append {path : Path} (h : ReadablePositions path) {position : Int}
    (hposition : (Number.int position).Readable) : ReadablePositions (path ++ [.index position]) := by
  intro i hi
  rcases List.mem_append.mp hi with hi | hi
  · exact h i hi
  · cases List.mem_singleton.mp hi
    exact hposition

/-! ## Predicates -/

/-- A predicate is written as its canonical form; an index group, as fields behind any path. -/
def Prints : Predicate → Prop
  | .indexGroup items => ∀ path, ReadablePositions path →
    printItems path items = .ok ((writtenItems path items).map fieldText)
  | p => print p = .ok (printed p)

theorem print_of_prints {p : Predicate} (hnot : isIndexGroup p = false) (h : Prints p) :
    print p = .ok (printed p) := by
  cases p with
  | indexGroup items => cases hnot
  | _ => exact h

theorem printItems_of_prints {fields : List (Int × Predicate)} (h : ∀ f ∈ fields, Prints f.2)
    (hreadable : ∀ f ∈ fields, (Number.int f.1).Readable) {path : Path}
    (hpath : ReadablePositions path) :
    printItems path fields = .ok ((writtenItems path fields).map fieldText) := by
  induction fields with
  | nil => rfl
  | cons f rest ih =>
    obtain ⟨position, p⟩ := f
    rw [List.forall_mem_cons] at h hreadable
    have hposition := readablePositions_append hpath hreadable.1
    have hrest := ih h.2 hreadable.2
    cases p with
    | indexGroup items =>
      rw [printItems, h.1 _ hposition, hrest, writtenItems, written, List.map_append]
      rfl
    | _ =>
      rw [printItems, printPath_of_readable hposition, print_of_prints rfl h.1, hrest, writtenItems,
        written_eq rfl]
      · rfl
      · exact fun items => Predicate.noConfusion

theorem printFields_of_prints {fields : List (String × Predicate)} (h : ∀ f ∈ fields, Prints f.2) :
    printFields fields = .ok ((writtenFields fields).map fieldText) := by
  induction fields with
  | nil => rfl
  | cons f rest ih =>
    obtain ⟨key, p⟩ := f
    rw [List.forall_mem_cons] at h
    have hkey := readablePositions_key key
    have hrest := ih h.2
    cases p with
    | indexGroup items =>
      rw [printFields, h.1 _ hkey, hrest, writtenFields, written, List.map_append]
      rfl
    | _ =>
      rw [printFields, printPath_of_readable hkey, print_of_prints rfl h.1, hrest, writtenFields,
        written_eq rfl]
      · rfl
      · exact fun items => Predicate.noConfusion

theorem printNegated_of_prints {negated : List (Path × Predicate)}
    (h : ∀ f ∈ negated, RegularNegated f ∧ Prints f.2) :
    printNegated negated = .ok ((writtenNegated negated).map negatedText) := by
  induction negated with
  | nil => rfl
  | cons f rest ih =>
    obtain ⟨path, p⟩ := f
    rw [List.forall_mem_cons] at h
    obtain ⟨⟨hregular, hp⟩, hrest⟩ := h
    rw [printNegated, printPath_of_readable hregular.positions,
      print_of_prints hregular.notIndexGroup hp, ih hrest, writtenNegated,
      written_eq hregular.notIndexGroup]
    rfl

theorem printElements_of_prints {elements : List Predicate}
    (h : ∀ p ∈ elements, isIndexGroup p = false ∧ Prints p) :
    printElements elements = .ok ((writtenElements elements).map Prod.snd) := by
  induction elements with
  | nil => rfl
  | cons p rest ih =>
    rw [List.forall_mem_cons] at h
    rw [printElements, print_of_prints h.1.1 h.1.2, ih h.2, writtenElements, written_eq h.1.1]
    rfl

theorem prints_of_regular {p : Predicate} (h : Everywhere Regular p) : Prints p := by
  induction p with
  | group fields negated ihfields ihnegated =>
    obtain ⟨⟨-, hregular⟩, hfields, hnegated⟩ := everywhere_group.mp h
    have hpfields := printFields_of_prints fun f hf => ihfields f hf (hfields f hf)
    have hpnegated := printNegated_of_prints fun f hf =>
      ⟨hregular f hf, ihnegated f hf (hnegated f hf)⟩
    show print _ = _
    rw [print, hpfields, hpnegated, printed_of_written (by rw [written])]
    rfl
  | indexGroup fields ih =>
    obtain ⟨⟨-, -, hpositions⟩, hfields⟩ := everywhere_indexGroup.mp h
    exact fun path hpath =>
      printItems_of_prints (fun f hf => ih f hf (hfields f hf)) hpositions hpath
  | number test =>
    show print _ = _
    rw [print, printTest_of_readable h.here, printed_of_written (by rw [written])]
  | text value =>
    show print _ = _
    rw [print, printed_of_written (by rw [written])]
  | pattern p =>
    show print _ = _
    rw [print, printed_of_written (by rw [written])]
  | list quantifier elements ih =>
    obtain ⟨hregular, helements⟩ := everywhere_list.mp h
    have hpelements := printElements_of_prints fun p hp => ⟨hregular p hp, ih p hp (helements p hp)⟩
    show print _ = _
    rw [print, hpelements, printed_of_written (by rw [written])]
    rfl

/-- Writing a regular predicate comes to its canonical form, unless it is an index group. -/
theorem print_of_regular {p : Predicate} (h : Everywhere Regular p) (hnot : isIndexGroup p = false) :
    print p = .ok (printed p) := print_of_prints hnot (prints_of_regular h)

/-! ## What was read -/

/-- The numbers of a test are finite. -/
def FiniteNumbers : Predicate → Prop
  | .number test => ∀ value ∈ testNumbers test, value.isFinite = true
  | _ => True

theorem finiteNumbers_of_regular {p : Predicate} (h : Regular p) : FiniteNumbers p := by
  cases p with
  | number test =>
    intro value hvalue
    have hreadable := h value hvalue
    cases value with
    | int n => rfl
    | double d => exact hreadable
  | _ => trivial

/-- What a text stands for is a group. Everywhere inside it names and positions come once in a group,
index groups have members and are fields of groups, and negated paths start with a key; its numbers
are finite, and it is nested no deeper than allowed. So it can be written. -/
theorem print_parse [Room] {text : String} {p : Predicate} (h : parse text = .ok p) :
    (∃ fields negated, p = .group fields negated) ∧ Everywhere Regular p ∧
      Everywhere FiniteNumbers p ∧ p.depth ≤ 64 ∧
      ∃ canonical, print p = .ok canonical ∧ print? p = some canonical := by
  obtain ⟨⟨fields, negated, rfl⟩, hregular, hdepth⟩ := fits_of_parse h
  have hfinite := hregular.imp fun q => finiteNumbers_of_regular
  exact ⟨⟨fields, negated, rfl⟩, hregular, hfinite, hdepth, _, print_of_regular hregular rfl,
    print?_of_regular hregular rfl⟩

/-- A group whose fields were given in three notations. -/
def drawer : Predicate :=
  .group
    [("l", .indexGroup [(0, .group
      [("a", .number (.equals (.int 1) none)),
       ("b", .list .any [.number (.range (some (.int 1)) none false false (some .int))])] [])])]
    [([.key "x", .key "y"], .text "t")]

theorem print_parse_drawer :
    parse "\x7bl[0].a: 1, l[0]: \x7bb: ~[(1~)i]\x7d, !x.y: \"t\"\x7d" = .ok drawer ∧
      Everywhere Regular drawer ∧ drawer.depth ≤ 64 ∧ ∃ canonical, print drawer = .ok canonical := by
  have hparse : parse "\x7bl[0].a: 1, l[0]: \x7bb: ~[(1~)i]\x7d, !x.y: \"t\"\x7d" = .ok drawer := by
    cbv
  obtain ⟨-, hregular, -, hdepth, canonical, hprint, -⟩ := print_parse hparse
  exact ⟨hparse, hregular, hdepth, canonical, hprint⟩

end TreePredicate.Notation
