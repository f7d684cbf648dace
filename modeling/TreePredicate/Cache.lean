import TreePredicate.Cache.Store
import TreePredicate.Notation.Grammar

/-!
# Caches of predicates

A cache keeps the predicates that its last texts stand for, in a store that forgets the least recently
used one when there is no room for another. A text that stands for no predicate is not kept.

* `Store.parse` : the predicate of a text, read if it is not in the store, and the store afterwards;
* `Store.Lawful.parse_fst` : a store with nothing but what was read gives what reading gives;
* `Cache` : a store with nothing but what was read;
* `Cache.parse` : the predicate of a text, and the cache afterwards;
* `Cache.parse_fst` : a cache gives what reading gives.
-/

set_option autoImplicit false

namespace TreePredicate

namespace Store

variable {σ : Type} {store : Store σ Predicate} {capacity : Nat}
  {entries : σ → List (String × Predicate)} {s : σ} {text : String} {p : Predicate}

/-- The predicate of a text, and the store afterwards. -/
def parse (store : Store σ Predicate) (s : σ) (text : String) :
    Except Notation.Failure Predicate × σ :=
  match store.get s text with
  | (some p, s) => (.ok p, s)
  | (none, s) =>
    match Notation.parse text with
    | .ok p => (.ok p, store.set s text p)
    | .error failure => (.error failure, s)

/-! ## Texts that are kept, read and refused -/

namespace Lawful

theorem parse_of_some (h : store.Lawful capacity entries)
    (found : Table.find? text (entries s) = some p) :
    (store.parse s text).1 = .ok p ∧
      entries (store.parse s text).2 = (text, p) :: (entries s).filter fun e => e.1 ≠ text := by
  obtain ⟨hvalue, hentries⟩ := h.get_of_some s text p found
  unfold parse
  cases hget : store.get s text with
  | mk value s' =>
    rw [hget] at hvalue hentries
    cases hvalue
    exact ⟨rfl, hentries⟩

theorem parse_of_none (h : store.Lawful capacity entries)
    (missing : Table.find? text (entries s) = none) (reads : Notation.parse text = .ok p) :
    (store.parse s text).1 = .ok p ∧ entries (store.parse s text).2 =
      (text, p) :: if (entries s).length < capacity then entries s else (entries s).dropLast := by
  obtain ⟨hvalue, hentries⟩ := h.get_of_none s text missing
  unfold parse
  cases hget : store.get s text with
  | mk value s' =>
    rw [hget] at hvalue hentries
    cases hvalue
    dsimp only at hentries ⊢
    rw [reads]
    refine ⟨rfl, ?_⟩
    rw [← hentries] at missing ⊢
    exact h.set_of_none s' text p missing

theorem parse_of_error (h : store.Lawful capacity entries)
    (missing : Table.find? text (entries s) = none) {failure : Notation.Failure}
    (refuses : Notation.parse text = .error failure) :
    (store.parse s text).1 = .error failure ∧ entries (store.parse s text).2 = entries s := by
  obtain ⟨hvalue, hentries⟩ := h.get_of_none s text missing
  unfold parse
  cases hget : store.get s text with
  | mk value s' =>
    rw [hget] at hvalue hentries
    cases hvalue
    dsimp only at hentries ⊢
    rw [refuses]
    exact ⟨rfl, hentries⟩

/-- A store with nothing but what was read gives what reading gives. -/
theorem parse_fst (h : store.Lawful capacity entries)
    (read : ∀ e ∈ entries s, Notation.parse e.1 = .ok e.2) (text : String) :
    (store.parse s text).1 = Notation.parse text := by
  cases found : Table.find? text (entries s) with
  | some p => rw [(h.parse_of_some found).1, read _ (Table.mem_of_find? found)]
  | none =>
    cases reads : Notation.parse text with
    | ok p => exact (h.parse_of_none found reads).1
    | error failure => exact (h.parse_of_error found reads).1

/-- Nothing comes into the store but what was read. -/
theorem read_parse (h : store.Lawful capacity entries)
    (read : ∀ e ∈ entries s, Notation.parse e.1 = .ok e.2) (text : String) :
    ∀ e ∈ entries (store.parse s text).2, Notation.parse e.1 = .ok e.2 := by
  cases found : Table.find? text (entries s) with
  | some p =>
    rw [(h.parse_of_some found).2, List.forall_mem_cons]
    exact ⟨read _ (Table.mem_of_find? found), fun e he => read e (List.mem_filter.mp he).1⟩
  | none =>
    cases reads : Notation.parse text with
    | ok p =>
      rw [(h.parse_of_none found reads).2, List.forall_mem_cons]
      refine ⟨reads, ?_⟩
      split
      · exact read
      · exact fun e he => read e ((List.dropLast_sublist _).subset he)
    | error failure =>
      rw [(h.parse_of_error found reads).2]
      exact read

end Lawful

end Store

/-! ## Caches -/

/-- The predicates of the texts used last. -/
structure Cache where
  capacity : Nat
  kept : Recent capacity Predicate
  capacity_pos : 0 < capacity
  read : ∀ e ∈ kept.entries, Notation.parse e.1 = .ok e.2

namespace Cache

/-- How many predicates a cache keeps unless something else is asked for. -/
def defaultCapacity : Nat := 512

/-- A cache without entries. -/
def empty (capacity : Nat) (positive : 0 < capacity) : Cache :=
  ⟨capacity, (Recent.store capacity Predicate).empty, positive, fun _ h => nomatch h⟩

/-- A cache of the default capacity. -/
def default : Cache := empty defaultCapacity (by decide)

/-- A capacity that is not positive. -/
structure Fault where
  capacity : Int
deriving DecidableEq

/-- What is said of a capacity that is not positive. -/
def Fault.message (e : Fault) : String := "max_size must be >= 1, got " ++ toString e.capacity

/-- A cache of a given capacity. -/
def make (capacity : Int) : Except Fault Cache :=
  if positive : 0 < capacity then
    .ok (empty capacity.toNat (Int.pos_iff_toNat_pos.mp positive))
  else .error ⟨capacity⟩

/-- The store of a cache. -/
abbrev store (cache : Cache) : Store (Recent cache.capacity Predicate) Predicate :=
  Recent.store cache.capacity Predicate

theorem lawful (cache : Cache) : cache.store.Lawful cache.capacity Recent.entries :=
  Recent.lawful cache.capacity_pos Predicate

/-- The texts that are kept with their predicates, the most recently used first. -/
def entries (cache : Cache) : List (String × Predicate) := cache.kept.entries

/-- How many predicates are kept. -/
def size (cache : Cache) : Nat := cache.store.size cache.kept

/-- The predicate of a text is kept. Asking is no use of it. -/
def contains (cache : Cache) (text : String) : Bool := (cache.store.contains cache.kept text).1

/-- The cache without its entries. -/
def clear (cache : Cache) : Cache where
  capacity := cache.capacity
  kept := cache.store.clear cache.kept
  capacity_pos := cache.capacity_pos
  read := fun _ h => nomatch h

/-- The predicate of a text, and the cache after its use. -/
def parse (cache : Cache) (text : String) : Except Notation.Failure Predicate × Cache :=
  match result : cache.store.parse cache.kept text with
  | (answer, kept) =>
    (answer, ⟨cache.capacity, kept, cache.capacity_pos, by
      have read := cache.lawful.read_parse cache.read text
      rw [result] at read
      exact read⟩)

/-- A cache gives what reading gives. -/
theorem parse_fst (cache : Cache) (text : String) :
    (cache.parse text).1 = Notation.parse text := by
  have answer := cache.lawful.parse_fst cache.read text
  unfold parse
  split
  next result =>
  rw [result] at answer
  exact answer

end Cache

end TreePredicate
