/-!
# Tables

A table is a list of entries in the order in which their keys first came. Writing a key that is
there changes its value and keeps its place.

* `Table.find?` : the value of a key;
* `Table.insert` : writes one entry;
* `Table.ofList` : writes entries one after another;
* `Table.Distinct` : no key comes twice, which `insert` keeps and `ofList` brings about.
-/

set_option autoImplicit false

namespace TreePredicate

/-- Entries with their keys, in order. -/
abbrev Table (κ α : Type) := List (κ × α)

namespace Table

variable {κ α : Type} [DecidableEq κ]

/-- The value of a key. -/
def find? (key : κ) : Table κ α → Option α
  | [] => none
  | (k, a) :: rest => if k = key then some a else find? key rest

/-- Writes one entry: over the old value of its key, or at the end. -/
def insert (key : κ) (value : α) : Table κ α → Table κ α
  | [] => [(key, value)]
  | (k, a) :: rest => if k = key then (k, value) :: rest else (k, a) :: insert key value rest

/-- Writes entries one after another. -/
def ofList (entries : List (κ × α)) : Table κ α :=
  entries.foldl (fun table entry => insert entry.1 entry.2 table) []

/-- No key comes twice. -/
def Distinct (table : Table κ α) : Prop := (table.map Prod.fst).Nodup

/-! ## Finding what was written -/

@[simp]
theorem find?_nil (key : κ) : find? key ([] : Table κ α) = none := rfl

theorem find?_insert (key other : κ) (value : α) (table : Table κ α) :
    find? other (insert key value table) =
      if key = other then some value else find? other table := by
  induction table with
  | nil => simp [insert, find?]
  | cons entry rest ih =>
    obtain ⟨k, a⟩ := entry
    by_cases same : k = key
    · subst same
      by_cases h : k = other <;> simp [insert, find?, h]
    · by_cases h : k = other
      · subst h
        have : ¬ key = k := fun e => same e.symm
        simp [insert, find?, same, this]
      · simp [insert, find?, same, h, ih]

theorem mem_keys_insert (key other : κ) (value : α) (table : Table κ α) :
    other ∈ (insert key value table).map Prod.fst ↔
      other = key ∨ other ∈ table.map Prod.fst := by
  induction table with
  | nil => simp [insert]
  | cons entry rest ih =>
    obtain ⟨k, a⟩ := entry
    by_cases same : k = key
    · subst same
      simp [insert]
    · simp only [insert, same, if_false, List.map_cons, List.mem_cons, ih]
      constructor
      · rintro (h | h | h) <;> simp [h]
      · rintro (h | h | h) <;> simp [h]

theorem mem_of_find? {key : κ} {value : α} {table : Table κ α}
    (found : find? key table = some value) : (key, value) ∈ table := by
  induction table with
  | nil => simp at found
  | cons entry rest ih =>
    obtain ⟨k, a⟩ := entry
    by_cases same : k = key
    · simp only [find?, same, if_true, Option.some.injEq] at found
      simp [same, found]
    · simp only [find?, same, if_false] at found
      exact List.mem_cons_of_mem _ (ih found)

theorem ne_of_find?_eq_none {key : κ} {table : Table κ α} (missing : find? key table = none) :
    ∀ entry ∈ table, entry.1 ≠ key := by
  induction table with
  | nil => exact fun _ h => nomatch h
  | cons entry rest ih =>
    obtain ⟨k, a⟩ := entry
    by_cases same : k = key
    · simp [find?, same] at missing
    · simp only [find?, same, if_false] at missing
      intro e h
      rcases List.mem_cons.mp h with rfl | h
      · exact same
      · exact ih missing e h

theorem isSome_find? (key : κ) (table : Table κ α) :
    (find? key table).isSome = true ↔ key ∈ table.map Prod.fst := by
  cases found : find? key table with
  | some value =>
    refine iff_of_true rfl (List.mem_map.mpr ⟨_, mem_of_find? found, rfl⟩)
  | none =>
    refine iff_of_false (nomatch ·) fun h => ?_
    obtain ⟨entry, hentry, hkey⟩ := List.mem_map.mp h
    exact ne_of_find?_eq_none found entry hentry hkey

/-! ## Distinct keys -/

omit [DecidableEq κ] in
theorem distinct_nil : Distinct ([] : Table κ α) := List.nodup_nil

theorem Distinct.insert {table : Table κ α} (distinct : Distinct table) (key : κ) (value : α) :
    Distinct (insert key value table) := by
  induction table with
  | nil => simp [Table.insert, Distinct]
  | cons entry rest ih =>
    obtain ⟨k, a⟩ := entry
    have head : k ∉ rest.map Prod.fst := (List.nodup_cons.mp distinct).1
    have tail : Distinct rest := (List.nodup_cons.mp distinct).2
    by_cases same : k = key
    · simp only [Table.insert, same, if_true]
      subst same
      exact List.nodup_cons.mpr ⟨head, tail⟩
    · simp only [Table.insert, same, if_false]
      refine List.nodup_cons.mpr ⟨?_, ih tail⟩
      simp only [mem_keys_insert, not_or]
      exact ⟨same, head⟩

theorem distinct_ofList (entries : List (κ × α)) : Distinct (ofList entries) := by
  have step : ∀ (es : List (κ × α)) (table : Table κ α), Distinct table →
      Distinct (es.foldl (fun t entry => Table.insert entry.1 entry.2 t) table) := by
    intro es
    induction es with
    | nil => exact fun _ h => h
    | cons e rest ih => exact fun table h => ih _ (h.insert e.1 e.2)
  exact step entries [] distinct_nil

end Table

end TreePredicate
