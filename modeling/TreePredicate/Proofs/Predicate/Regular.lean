import TreePredicate.Draft
import TreePredicate.Notation.Canonical
import TreePredicate.Proofs.Notation.NumberText
import TreePredicate.Proofs.Path
import TreePredicate.Proofs.Predicate.Induction

/-!
# Depth and regularity of predicates

* `Predicate.depth` : how deep a predicate is nested. A step of a path after the first counts as much
  as a group;
* `Predicate.Everywhere` : something holds of a predicate and of all predicates inside it;
* `Predicate.Unnegated` : a predicate has no negated fields;
* `Predicate.Regular` : what holds of the predicates that have a canonical form, apart from the
  digits of their keys: index groups have members and are members of groups, negated paths start
  with a key, and numbers can be read;
* `Predicate.keys`, `Predicate.bareKeys` : the keys of a group, and those without a key right behind
  them on their path;
* `Predicate.parts` : the fields that a predicate at the end of a path is written as, and
  `Part`, what is known of each;
* `partsInduct` : induction over predicates through the fields they are written as.
-/

set_option autoImplicit false

namespace TreePredicate.Predicate

open Notation

/-! ## Depth -/

mutual

/-- How deep a predicate is nested: groups and lists in one another, and in a group the steps of a
negated path after the first. -/
def depth : Predicate → Nat
  | .group fields negated => 1 + max (fieldsDepth fields) (negatedDepth negated)
  | .indexGroup fields => 1 + itemsDepth fields
  | .list _ elements => 1 + elementsDepth elements
  | .number _ => 0
  | .text _ => 0
  | .pattern _ => 0

/-- How deep the deepest field of a group is nested. -/
def fieldsDepth : List (String × Predicate) → Nat
  | [] => 0
  | (_, p) :: rest => max (depth p) (fieldsDepth rest)

/-- How deep the deepest field of an index group is nested. -/
def itemsDepth : List (Int × Predicate) → Nat
  | [] => 0
  | (_, p) :: rest => max (depth p) (itemsDepth rest)

/-- How deep the deepest negated field is nested, with the steps of its path after the first. -/
def negatedDepth : List (Path × Predicate) → Nat
  | [] => 0
  | (path, p) :: rest => max (path.length - 1 + depth p) (negatedDepth rest)

/-- How deep the deepest element of a list predicate is nested. -/
def elementsDepth : List Predicate → Nat
  | [] => 0
  | p :: rest => max (depth p) (elementsDepth rest)

end

theorem fieldsDepth_le {fields : List (String × Predicate)} {n : Nat} :
    fieldsDepth fields ≤ n ↔ ∀ f ∈ fields, f.2.depth ≤ n := by
  induction fields with
  | nil => simp [fieldsDepth]
  | cons f rest ih => rw [fieldsDepth, Nat.max_le, ih, List.forall_mem_cons]

theorem itemsDepth_le {fields : List (Int × Predicate)} {n : Nat} :
    itemsDepth fields ≤ n ↔ ∀ f ∈ fields, f.2.depth ≤ n := by
  induction fields with
  | nil => simp [itemsDepth]
  | cons f rest ih => rw [itemsDepth, Nat.max_le, ih, List.forall_mem_cons]

theorem negatedDepth_le {negated : List (Path × Predicate)} {n : Nat} :
    negatedDepth negated ≤ n ↔ ∀ f ∈ negated, f.1.length - 1 + f.2.depth ≤ n := by
  induction negated with
  | nil => simp [negatedDepth]
  | cons f rest ih => rw [negatedDepth, Nat.max_le, ih, List.forall_mem_cons]

theorem elementsDepth_le {elements : List Predicate} {n : Nat} :
    elementsDepth elements ≤ n ↔ ∀ p ∈ elements, p.depth ≤ n := by
  induction elements with
  | nil => simp [elementsDepth]
  | cons p rest ih => rw [elementsDepth, Nat.max_le, ih, List.forall_mem_cons]

theorem depth_group_le {fields : List (String × Predicate)} {negated : List (Path × Predicate)}
    {n : Nat} :
    (Predicate.group fields negated).depth ≤ n ↔
      0 < n ∧ (∀ f ∈ fields, f.2.depth ≤ n - 1) ∧
        ∀ f ∈ negated, f.1.length - 1 + f.2.depth ≤ n - 1 := by
  rw [← fieldsDepth_le, ← negatedDepth_le, depth]
  omega

theorem depth_indexGroup_le {fields : List (Int × Predicate)} {n : Nat} :
    (Predicate.indexGroup fields).depth ≤ n ↔ 0 < n ∧ ∀ f ∈ fields, f.2.depth ≤ n - 1 := by
  rw [← itemsDepth_le, depth]
  omega

theorem depth_list_le {quantifier : Quantifier} {elements : List Predicate} {n : Nat} :
    (Predicate.list quantifier elements).depth ≤ n ↔
      0 < n ∧ ∀ p ∈ elements, p.depth ≤ n - 1 := by
  rw [← elementsDepth_le, depth]
  omega

/-! ## Everywhere inside a predicate -/

/-- The predicates right inside a predicate. -/
def members : Predicate → List Predicate
  | .group fields negated => fields.map Prod.snd ++ negated.map Prod.snd
  | .indexGroup fields => fields.map Prod.snd
  | .list _ elements => elements
  | _ => []

/-- Something holds of a predicate and of all predicates inside it. -/
inductive Everywhere (P : Predicate → Prop) : Predicate → Prop where
  | intro (p : Predicate) (here : P p) (inside : ∀ q ∈ p.members, Everywhere P q) : Everywhere P p

variable {P Q : Predicate → Prop} {p : Predicate}

theorem Everywhere.here (h : Everywhere P p) : P p := by
  cases h
  assumption

theorem Everywhere.inside (h : Everywhere P p) {q : Predicate} (hq : q ∈ p.members) :
    Everywhere P q := by
  cases h with
  | intro _ _ inside => exact inside q hq

theorem Everywhere.imp (h : Everywhere P p) (himp : ∀ q, P q → Q q) : Everywhere Q p := by
  induction h with
  | intro p here _ ih => exact .intro p (himp p here) ih

theorem Everywhere.and (hP : Everywhere P p) (hQ : Everywhere Q p) :
    Everywhere (fun q => P q ∧ Q q) p := by
  induction hP with
  | intro p here _ ih => exact .intro p ⟨here, hQ.here⟩ fun q hq => ih q hq (hQ.inside hq)

theorem mem_members_of_field {fields : List (String × Predicate)}
    {negated : List (Path × Predicate)} {f : String × Predicate} (hf : f ∈ fields) :
    f.2 ∈ (Predicate.group fields negated).members :=
  List.mem_append_left _ (List.mem_map.mpr ⟨f, hf, rfl⟩)

theorem mem_members_of_negated {fields : List (String × Predicate)}
    {negated : List (Path × Predicate)} {f : Path × Predicate} (hf : f ∈ negated) :
    f.2 ∈ (Predicate.group fields negated).members :=
  List.mem_append_right _ (List.mem_map.mpr ⟨f, hf, rfl⟩)

theorem mem_members_of_item {fields : List (Int × Predicate)} {f : Int × Predicate}
    (hf : f ∈ fields) : f.2 ∈ (Predicate.indexGroup fields).members :=
  List.mem_map.mpr ⟨f, hf, rfl⟩

theorem everywhere_group {fields : List (String × Predicate)} {negated : List (Path × Predicate)} :
    Everywhere P (.group fields negated) ↔ P (.group fields negated) ∧
      (∀ f ∈ fields, Everywhere P f.2) ∧ ∀ f ∈ negated, Everywhere P f.2 := by
  constructor
  · intro h
    exact ⟨h.here, fun f hf => h.inside (mem_members_of_field hf),
      fun f hf => h.inside (mem_members_of_negated hf)⟩
  · rintro ⟨here, hfields, hnegated⟩
    refine .intro _ here fun q hq => ?_
    rcases List.mem_append.mp hq with hq | hq
    · obtain ⟨f, hf, rfl⟩ := List.mem_map.mp hq
      exact hfields f hf
    · obtain ⟨f, hf, rfl⟩ := List.mem_map.mp hq
      exact hnegated f hf

theorem everywhere_indexGroup {fields : List (Int × Predicate)} :
    Everywhere P (.indexGroup fields) ↔ P (.indexGroup fields) ∧ ∀ f ∈ fields, Everywhere P f.2 := by
  constructor
  · intro h
    exact ⟨h.here, fun f hf => h.inside (mem_members_of_item hf)⟩
  · rintro ⟨here, hfields⟩
    refine .intro _ here fun q hq => ?_
    obtain ⟨f, hf, rfl⟩ := List.mem_map.mp hq
    exact hfields f hf

theorem everywhere_list {quantifier : Quantifier} {elements : List Predicate} :
    Everywhere P (.list quantifier elements) ↔
      P (.list quantifier elements) ∧ ∀ q ∈ elements, Everywhere P q :=
  ⟨fun h => ⟨h.here, fun _ hq => h.inside hq⟩, fun h => .intro _ h.1 h.2⟩

theorem everywhere_leaf (hmembers : p.members = []) : Everywhere P p ↔ P p := by
  refine ⟨fun h => h.here, fun h => .intro _ h fun q hq => ?_⟩
  rw [hmembers] at hq
  cases hq

theorem everywhere_number {test : NumberTest} :
    Everywhere P (.number test) ↔ P (.number test) := everywhere_leaf rfl

theorem everywhere_text {value : String} : Everywhere P (.text value) ↔ P (.text value) :=
  everywhere_leaf rfl

/-- A predicate without negated fields of its own. -/
def Unnegated : Predicate → Prop
  | .group _ negated => negated = []
  | _ => True

/-! ## Regular predicates -/

/-- The numbers of a test. -/
def testNumbers : NumberTest → List Number
  | .equals value _ => [value]
  | .range lower? upper? _ _ _ => lower?.toList ++ upper?.toList
  | .compare _ value _ => [value]

/-- The positions on a path can be read. -/
def ReadablePositions (path : Path) : Prop := ∀ i, .index i ∈ path → (Number.int i).Readable

/-- A negated field that has a canonical form. -/
structure RegularNegated (f : Path × Predicate) : Prop where
  path : f.1.StartsWithKey
  positions : ReadablePositions f.1
  notIndexGroup : isIndexGroup f.2 = false

/-- A predicate has a canonical form if those inside it have, apart from the digits of its keys. -/
def Regular : Predicate → Prop
  | .group fields negated => Table.Distinct fields ∧ ∀ f ∈ negated, RegularNegated f
  | .indexGroup fields =>
    Table.Distinct fields ∧ fields ≠ [] ∧ ∀ f ∈ fields, (Number.int f.1).Readable
  | .number test => ∀ value ∈ testNumbers test, value.Readable
  | .list _ elements => ∀ p ∈ elements, isIndexGroup p = false
  | .text _ => True
  | .pattern _ => True

/-- The keys on a path. -/
def keysOf (path : Path) : List String :=
  path.filterMap fun
    | .key key => some key
    | .index _ => none

/-- The keys on a path that no other key follows right away. -/
def bareKeysOf : Path → List String
  | [] => []
  | .index _ :: rest => bareKeysOf rest
  | .key _ :: .key next :: rest => bareKeysOf (.key next :: rest)
  | .key key :: rest => key :: bareKeysOf rest

/-- The keys of the fields of a group, and those on the paths of its negated fields. -/
def keys : Predicate → List String
  | .group fields negated => fields.map Prod.fst ++ negated.flatMap fun f => keysOf f.1
  | _ => []

/-- The keys of a group that are written without quotes if they are digits. -/
def bareKeys : Predicate → List String
  | .group fields negated => fields.map Prod.fst ++ negated.flatMap fun f => bareKeysOf f.1
  | _ => []

/-- A key has no more digits than are read at all, if it is digits only. -/
def ShortKey (key : String) : Prop :=
  isDigits key = true → key.toList.length ≤ Pattern.Fault.digitsAllowed

theorem mem_keysOf_of_mem_bareKeysOf {path : Path} {key : String} (h : key ∈ bareKeysOf path) :
    key ∈ keysOf path := by
  induction path using bareKeysOf.induct with
  | case1 => cases h
  | case2 position rest ih =>
    rw [bareKeysOf] at h
    simpa [keysOf] using ih h
  | case3 first next rest ih =>
    rw [bareKeysOf] at h
    exact List.mem_cons_of_mem _ (ih h)
  | case4 first rest hnext ih =>
    rw [bareKeysOf] at h
    · rcases List.mem_cons.mp h with rfl | h
      · exact List.mem_cons_self
      · exact List.mem_cons_of_mem _ (ih h)
    · exact hnext

theorem mem_keys_of_mem_bareKeys {p : Predicate} {key : String} (h : key ∈ p.bareKeys) :
    key ∈ p.keys := by
  cases p with
  | group fields negated =>
    rcases List.mem_append.mp h with h | h
    · exact List.mem_append_left _ h
    · obtain ⟨f, hf, hkey⟩ := List.mem_flatMap.mp h
      exact List.mem_append_right _ (List.mem_flatMap.mpr ⟨f, hf, mem_keysOf_of_mem_bareKeysOf hkey⟩)
  | _ => cases h

/-! ## The fields that a predicate is written as -/

mutual

/-- The fields that a predicate at the end of a path is written as: itself, or those of its members
if it is an index group. -/
def parts : Path → Predicate → List (Path × Predicate)
  | path, .indexGroup fields => itemParts path fields
  | path, .group fields negated => [(path, .group fields negated)]
  | path, .number test => [(path, .number test)]
  | path, .text value => [(path, .text value)]
  | path, .pattern p => [(path, .pattern p)]
  | path, .list quantifier elements => [(path, .list quantifier elements)]

/-- The fields that the fields of an index group at the end of a path are written as. -/
def itemParts : Path → List (Int × Predicate) → List (Path × Predicate)
  | _, [] => []
  | path, (position, p) :: rest => parts (path ++ [.index position]) p ++ itemParts path rest

end

theorem parts_of_not_indexGroup {p : Predicate} (h : isIndexGroup p = false) (path : Path) :
    parts path p = [(path, p)] := by
  cases p with
  | indexGroup fields => cases h
  | _ => rw [parts]

theorem itemParts_eq (path : Path) (fields : List (Int × Predicate)) :
    itemParts path fields = fields.flatMap fun f => parts (path ++ [.index f.1]) f.2 := by
  induction fields with
  | nil => rw [itemParts, List.flatMap_nil]
  | cons f rest ih => rw [itemParts, ih, List.flatMap_cons]

/-- The fields that the fields of a group are written as. -/
def fieldParts (fields : List (String × Predicate)) : List (Path × Predicate) :=
  fields.flatMap fun f => parts [.key f.1] f.2

/-- What is known of a field that a predicate at the end of a path is written as. -/
structure Part (path : Path) (p : Predicate) (f : Path × Predicate) : Prop where
  path : ∃ positions : List Int, f.1 = path ++ positions.map .index ∧
    positions.length + f.2.depth ≤ p.depth ∧
    (Everywhere Regular p → ∀ i ∈ positions, (Number.int i).Readable)
  notIndexGroup : isIndexGroup f.2 = false
  size : sizeOf f.2 ≤ sizeOf p
  everywhere : ∀ {P : Predicate → Prop}, Everywhere P p → Everywhere P f.2

theorem part_self {p : Predicate} (h : isIndexGroup p = false) (path : Path) :
    Part path p (path, p) where
  path := ⟨[], (List.append_nil path).symm, by simp, fun _ => List.forall_mem_nil _⟩
  notIndexGroup := h
  size := Nat.le_refl _
  everywhere := fun h => h

theorem part_of_mem {path : Path} {p : Predicate} {f : Path × Predicate} (h : f ∈ parts path p) :
    Part path p f := by
  induction p generalizing path with
  | indexGroup fields ih =>
    rw [parts, itemParts_eq] at h
    obtain ⟨g, hg, hf⟩ := List.mem_flatMap.mp h
    obtain ⟨⟨positions, hpath, hdepth, hreadable⟩, hnot, hsize, heverywhere⟩ := ih g hg hf
    have hmember := (depth_indexGroup_le.mp (Nat.le_refl (Predicate.indexGroup fields).depth))
    have hgdepth := hmember.2 g hg
    have hgsize := sizeOf_snd_lt hg
    refine ⟨⟨g.1 :: positions, ?_, ?_, ?_⟩, hnot, ?_, ?_⟩
    · rw [hpath, List.append_assoc]
      rfl
    · rw [List.length_cons]
      have := hmember.1
      omega
    · intro hregular i hi
      obtain ⟨⟨-, -, hpositions⟩, hinside⟩ := everywhere_indexGroup.mp hregular
      rcases List.mem_cons.mp hi with rfl | hi
      · exact hpositions g hg
      · exact hreadable (hinside g hg) i hi
    · rw [Predicate.indexGroup.sizeOf_spec]
      omega
    · intro P hP
      exact heverywhere ((everywhere_indexGroup.mp hP).2 g hg)
  | _ =>
    rw [parts_of_not_indexGroup rfl, List.mem_singleton] at h
    rw [h]
    exact part_self rfl path

theorem exists_part_of_mem_fieldParts {fields : List (String × Predicate)} {f : Path × Predicate}
    (h : f ∈ fieldParts fields) : ∃ g ∈ fields, Part [.key g.1] g.2 f := by
  obtain ⟨g, hg, hf⟩ := List.mem_flatMap.mp h
  exact ⟨g, hg, part_of_mem hf⟩

theorem sizeOf_lt_of_mem_fieldParts {fields : List (String × Predicate)}
    {negated : List (Path × Predicate)} {f : Path × Predicate} (h : f ∈ fieldParts fields) :
    sizeOf f.2 < sizeOf (Predicate.group fields negated) := by
  obtain ⟨g, hg, hf⟩ := exists_part_of_mem_fieldParts h
  have hgsize := sizeOf_snd_lt hg
  have := hf.size
  rw [Predicate.group.sizeOf_spec]
  omega

theorem sizeOf_lt_of_mem_negated {fields : List (String × Predicate)}
    {negated : List (Path × Predicate)} {f : Path × Predicate} (h : f ∈ negated) :
    sizeOf f.2 < sizeOf (Predicate.group fields negated) := by
  have := sizeOf_snd_lt h
  rw [Predicate.group.sizeOf_spec]
  omega

theorem sizeOf_lt_of_mem_elements {quantifier : Quantifier} {elements : List Predicate}
    {p : Predicate} (h : p ∈ elements) : sizeOf p < sizeOf (Predicate.list quantifier elements) := by
  have := List.sizeOf_lt_of_mem h
  rw [Predicate.list.sizeOf_spec]
  omega

/-- Induction over predicates through the fields they are written as. -/
theorem partsInduct {motive : Predicate → Prop}
    (group : ∀ fields negated, (∀ f ∈ fieldParts fields, motive f.2) →
      (∀ f ∈ negated, motive f.2) → motive (.group fields negated))
    (indexGroup : ∀ fields, motive (.indexGroup fields))
    (number : ∀ test, motive (.number test))
    (text : ∀ value, motive (.text value))
    (pattern : ∀ p, motive (.pattern p))
    (list : ∀ quantifier elements, (∀ p ∈ elements, motive p) →
      motive (.list quantifier elements)) :
    ∀ p, motive p
  | .group fields negated =>
    group fields negated
      (fun f hf => by
        have : sizeOf f.2 < sizeOf (Predicate.group fields negated) := sizeOf_lt_of_mem_fieldParts hf
        exact partsInduct group indexGroup number text pattern list f.2)
      (fun f hf => by
        have : sizeOf f.2 < sizeOf (Predicate.group fields negated) := sizeOf_lt_of_mem_negated hf
        exact partsInduct group indexGroup number text pattern list f.2)
  | .indexGroup fields => indexGroup fields
  | .number test => number test
  | .text value => text value
  | .pattern p => pattern p
  | .list quantifier elements =>
    list quantifier elements fun p hp => by
      have : sizeOf p < sizeOf (Predicate.list quantifier elements) := sizeOf_lt_of_mem_elements hp
      exact partsInduct group indexGroup number text pattern list p
termination_by p => sizeOf p
decreasing_by all_goals assumption

end TreePredicate.Predicate
