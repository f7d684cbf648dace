import TreePredicate.Table

/-!
# Stores with little room

A cache keeps its values in a store that has room for so many. What to forget is the business of the
store, and a cache relies on what `Store.Lawful` says of it and on nothing else.

* `Store` : what a cache asks of a store;
* `Store.Lawful` : reading a value is a use of it, asking for its name is none, and a new value takes
  the place of the least recently used one when there is no room;
* `Recent`, `Recent.store` : such a store, with its entries in the order of their last use;
* `Recent.lawful` : it does what a store should.
-/

set_option autoImplicit false

namespace TreePredicate

/-- What a cache asks of a store of named values. A request leaves a store for the requests to come. -/
structure Store (σ α : Type) where
  empty : σ
  get : σ → String → Option α × σ
  contains : σ → String → Bool × σ
  set : σ → String → α → σ
  clear : σ → σ
  size : σ → Nat

/-- The entries of a store, the most recently used one first, and what requests make of them. -/
structure Store.Lawful {σ α : Type} (store : Store σ α) (capacity : Nat)
    (entries : σ → List (String × α)) : Prop where
  entries_empty : entries store.empty = []
  get_of_some : ∀ (s : σ) (name : String) (value : α),
    Table.find? name (entries s) = some value → (store.get s name).1 = some value ∧
      entries (store.get s name).2 = (name, value) :: (entries s).filter fun e => e.1 ≠ name
  get_of_none : ∀ (s : σ) (name : String), Table.find? name (entries s) = none →
    (store.get s name).1 = none ∧ entries (store.get s name).2 = entries s
  contains : ∀ (s : σ) (name : String),
    (store.contains s name).1 = (Table.find? name (entries s)).isSome ∧
      entries (store.contains s name).2 = entries s
  set_of_none : ∀ (s : σ) (name : String) (value : α), Table.find? name (entries s) = none →
    entries (store.set s name value) =
      (name, value) :: if (entries s).length < capacity then entries s else (entries s).dropLast
  entries_clear : ∀ s : σ, entries (store.clear s) = []
  size : ∀ s : σ, store.size s = (entries s).length

/-! ## A store in the order of use -/

/-- The entries used last, the most recently used one first. -/
structure Recent (capacity : Nat) (α : Type) where
  entries : List (String × α)
  length_le : entries.length ≤ capacity
  distinct : Table.Distinct entries

namespace Recent

variable {capacity : Nat} {α : Type}

/-- The entries after a use of a name, before the least recently used one is forgotten. -/
def used (name : String) (value : α) (entries : List (String × α)) : List (String × α) :=
  (name, value) :: entries.filter fun e => e.1 ≠ name

theorem distinct_used {entries : List (String × α)} (distinct : Table.Distinct entries)
    (name : String) (value : α) : Table.Distinct (used name value entries) := by
  refine List.nodup_cons.mpr ⟨?_, ?_⟩
  · simp
  · exact distinct.sublist (List.filter_sublist.map Prod.fst)

/-- No entries. -/
def empty : Recent capacity α := ⟨[], Nat.zero_le _, Table.distinct_nil⟩

/-- The entries after a use of a name; the least recently used one is forgotten if there is no room. -/
def use (recent : Recent capacity α) (name : String) (value : α) : Recent capacity α where
  entries := (used name value recent.entries).take capacity
  length_le := List.length_take_le _ _
  distinct := (distinct_used recent.distinct name value).sublist ((List.take_sublist _ _).map _)

/-- The value of a name, which is a use of it. -/
def get (recent : Recent capacity α) (name : String) : Option α × Recent capacity α :=
  match Table.find? name recent.entries with
  | some value => (some value, recent.use name value)
  | none => (none, recent)

/-- A store that keeps the entries used last. -/
def store (capacity : Nat) (α : Type) : Store (Recent capacity α) α where
  empty := empty
  get := get
  contains recent name := ((Table.find? name recent.entries).isSome, recent)
  set := use
  clear _ := empty
  size recent := recent.entries.length

/-! ## What the store does -/

/-- A new entry takes the place of the last one if there is no room. -/
theorem take_cons_of_length_le {β : Type} {l : List β} {capacity : Nat} (pos : 0 < capacity)
    (h : l.length ≤ capacity) (x : β) :
    (x :: l).take capacity = x :: if l.length < capacity then l else l.dropLast := by
  obtain ⟨n, rfl⟩ := Nat.exists_eq_succ_of_ne_zero (Nat.ne_of_gt pos)
  rw [List.take_succ_cons]
  split
  · next hroom => rw [List.take_of_length_le (Nat.le_of_lt_succ hroom)]
  · next hfull =>
    have hlength : l.length = n + 1 := Nat.le_antisymm h (Nat.not_lt.mp hfull)
    rw [List.dropLast_eq_take, hlength]
    rfl

theorem length_filter_lt {entries : List (String × α)} {name : String} {value : α}
    (h : Table.find? name entries = some value) :
    (entries.filter fun e => e.1 ≠ name).length < entries.length := by
  rw [List.length_filter_lt_length_iff_exists]
  exact ⟨_, Table.mem_of_find? h, by simp⟩

theorem filter_eq_self {entries : List (String × α)} {name : String}
    (h : Table.find? name entries = none) : (entries.filter fun e => e.1 ≠ name) = entries := by
  rw [List.filter_eq_self]
  exact fun e he => decide_eq_true (Table.ne_of_find?_eq_none h e he)

theorem lawful (pos : 0 < capacity) (α : Type) :
    (store capacity α).Lawful capacity Recent.entries where
  entries_empty := rfl
  get_of_some := fun recent name value found => by
    have hroom := Nat.lt_of_lt_of_le (length_filter_lt found) recent.length_le
    have htake : (used name value recent.entries).take capacity = used name value recent.entries :=
      List.take_of_length_le hroom
    simp only [store, get, found, use, htake, true_and]
    rfl
  get_of_none := fun recent name missing => by
    simp only [store, get, missing, and_self]
  contains := fun _ _ => ⟨rfl, rfl⟩
  set_of_none := fun recent name value missing => by
    simp only [store, use, used, filter_eq_self missing]
    exact take_cons_of_length_le pos recent.length_le (name, value)
  entries_clear := fun _ => rfl
  size := fun _ => rfl

end Recent

end TreePredicate
