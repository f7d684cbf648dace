import TreePredicate.Table

/-!
# Tables and what holds of their entries

* `find?_eq_of_mem` : where keys are distinct, every entry is found;
* `insert_of_find?_eq_none`, `insert_of_find?_eq_some`, `insert_insert` : writing a new key, writing
  what is there, and writing a key twice;
* `forall_mem_insert` : writing an entry that is at least as demanding as the one it replaces demands
  what was demanded before, and of the new entry.
-/

set_option autoImplicit false

namespace TreePredicate.Table

variable {κ α : Type}

theorem not_mem_of_nodup {before : Table κ α} {key : κ} {others : List κ}
    (h : (before.map Prod.fst ++ key :: others).Nodup) : key ∉ before.map Prod.fst := by
  intro hmem
  obtain ⟨-, -, hne⟩ := List.nodup_append.mp h
  exact hne key hmem key List.mem_cons_self rfl

theorem nodup_append_singleton {before : Table κ α} {key : κ} {others : List κ}
    (h : (before.map Prod.fst ++ key :: others).Nodup) (value : α) :
    ((before ++ [(key, value)]).map Prod.fst ++ others).Nodup := by
  rw [List.map_append, List.append_assoc]
  exact h

variable [DecidableEq κ]

theorem find?_cons_self (key : κ) (value : α) (rest : Table κ α) :
    find? key ((key, value) :: rest) = some value := by
  rw [find?, if_pos rfl]

theorem find?_cons_of_ne {key other : κ} (h : other ≠ key) (value : α) (rest : Table κ α) :
    find? key ((other, value) :: rest) = find? key rest := by
  rw [find?, if_neg h]

theorem insert_cons_self (key : κ) (value old : α) (rest : Table κ α) :
    insert key value ((key, old) :: rest) = (key, value) :: rest := by
  rw [insert, if_pos rfl]

theorem insert_cons_of_ne {key other : κ} (h : other ≠ key) (value old : α) (rest : Table κ α) :
    insert key value ((other, old) :: rest) = (other, old) :: insert key value rest := by
  rw [insert, if_neg h]

theorem find?_eq_of_mem {table : Table κ α} (h : Distinct table) {entry : κ × α}
    (hentry : entry ∈ table) : find? entry.1 table = some entry.2 := by
  induction table with
  | nil => cases hentry
  | cons first rest ih =>
    obtain ⟨hfirst, hrest⟩ := List.nodup_cons.mp h
    rcases List.mem_cons.mp hentry with rfl | hmem
    · exact find?_cons_self _ _ _
    · rw [find?_cons_of_ne, ih hrest hmem]
      rintro hkey
      exact hfirst (List.mem_map.mpr ⟨entry, hmem, hkey.symm⟩)

theorem find?_eq_none_of_not_mem {key : κ} {table : Table κ α} (h : key ∉ table.map Prod.fst) :
    find? key table = none := by
  induction table with
  | nil => rfl
  | cons entry rest ih =>
    obtain ⟨other, old⟩ := entry
    rw [List.map_cons, List.mem_cons, not_or] at h
    rw [find?_cons_of_ne (Ne.symm h.1), ih h.2]

theorem find?_map {β : Type} (g : α → β) (key : κ) (table : Table κ α) :
    find? key (table.map fun e => (e.1, g e.2)) = (find? key table).map g := by
  induction table with
  | nil => rfl
  | cons entry rest ih =>
    obtain ⟨other, value⟩ := entry
    rw [List.map_cons]
    by_cases h : other = key
    · subst h
      rw [find?_cons_self, find?_cons_self, Option.map_some]
    · rw [find?_cons_of_ne h, find?_cons_of_ne h, ih]

theorem insert_of_find?_eq_none {key : κ} {table : Table κ α} (h : find? key table = none)
    (value : α) : insert key value table = table ++ [(key, value)] := by
  induction table with
  | nil => rfl
  | cons entry rest ih =>
    obtain ⟨other, old⟩ := entry
    by_cases hk : other = key
    · subst hk
      rw [find?_cons_self] at h
      cases h
    · rw [find?_cons_of_ne hk] at h
      rw [insert_cons_of_ne hk, ih h, List.cons_append]

/-- Writing the value that is there changes nothing. -/
theorem insert_of_find?_eq_some {key : κ} {value : α} {table : Table κ α}
    (h : find? key table = some value) : insert key value table = table := by
  induction table with
  | nil => cases h
  | cons entry rest ih =>
    obtain ⟨other, old⟩ := entry
    by_cases hk : other = key
    · subst hk
      rw [find?_cons_self, Option.some.injEq] at h
      rw [insert_cons_self, h]
    · rw [find?_cons_of_ne hk] at h
      rw [insert_cons_of_ne hk, ih h]

theorem insert_insert (key : κ) (old new : α) (table : Table κ α) :
    insert key new (insert key old table) = insert key new table := by
  induction table with
  | nil => rw [insert, insert_cons_self, insert]
  | cons entry rest ih =>
    obtain ⟨other, value⟩ := entry
    by_cases hk : other = key
    · subst hk
      rw [insert_cons_self, insert_cons_self, insert_cons_self]
    · rw [insert_cons_of_ne hk, insert_cons_of_ne hk, insert_cons_of_ne hk, ih]

/-- Writing an entry that demands what the one it replaces demanded. -/
theorem forall_mem_insert {P : κ → α → Prop} {key : κ} {value : α} {table : Table κ α}
    (h : ∀ old, find? key table = some old → P key value → P key old) :
    (∀ e ∈ insert key value table, P e.1 e.2) ↔ (∀ e ∈ table, P e.1 e.2) ∧ P key value := by
  induction table with
  | nil => simp [insert]
  | cons entry rest ih =>
    obtain ⟨other, old⟩ := entry
    by_cases hk : other = key
    · subst hk
      rw [insert_cons_self, List.forall_mem_cons, List.forall_mem_cons]
      have hold := h old (find?_cons_self other old rest)
      constructor
      · rintro ⟨hnew, hrest⟩
        exact ⟨⟨hold hnew, hrest⟩, hnew⟩
      · rintro ⟨⟨-, hrest⟩, hnew⟩
        exact ⟨hnew, hrest⟩
    · rw [insert_cons_of_ne hk, List.forall_mem_cons, List.forall_mem_cons,
        ih fun o ho => h o ((find?_cons_of_ne hk old rest).trans ho), and_assoc]

theorem forall_mem_insert_of {P : κ → α → Prop} {key : κ} {value : α} {table : Table κ α}
    (h : ∀ e ∈ table, P e.1 e.2) (hnew : P key value) :
    ∀ e ∈ insert key value table, P e.1 e.2 :=
  (forall_mem_insert fun _ hold _ => h _ (mem_of_find? hold)).mpr ⟨h, hnew⟩

theorem insert_ne_nil (key : κ) (value : α) (table : Table κ α) : insert key value table ≠ [] := by
  cases table with
  | nil => exact List.cons_ne_nil _ _
  | cons entry rest =>
    rw [insert]
    split <;> exact List.cons_ne_nil _ _

end TreePredicate.Table
