import FieldGuard.Dict

/-!
# Dictionaries in key order

A `SortedDict` keeps its keys strictly increasing, so two of them with the same
entries are equal. Text compares character by character, which is also the order
of its bytes in UTF-8. Reading after writing is said by `get?_insert`.
-/

namespace FieldGuard

universe u

/-- Keys with their values, the keys strictly increasing. -/
structure SortedDict (α : Type u) where
  /-- The keys with their values, in key order. -/
  entries : List (String × α)
  /-- Each key is smaller than the keys after it. -/
  sorted : entries.Pairwise (·.1 < ·.1)
deriving DecidableEq

namespace SortedDict

variable {α : Type u}

/-- Writes into a list in key order, at the place of the key. -/
def insertEntry : List (String × α) → String → α → List (String × α)
  | [], key, value => [(key, value)]
  | (k, v) :: rest, key, value =>
    if k < key then (k, v) :: insertEntry rest key value
    else if k = key then (k, value) :: rest
    else (key, value) :: (k, v) :: rest

/-- A key that `insertEntry` leaves in the list was there or is the new one. -/
theorem fst_mem_insertEntry {entries : List (String × α)} {key : String} {value : α}
    {entry : String × α} (h : entry ∈ insertEntry entries key value) :
    entry.1 = key ∨ entry ∈ entries := by
  induction entries with
  | nil => simp_all [insertEntry]
  | cons first rest ih =>
    obtain ⟨k, v⟩ := first
    unfold insertEntry at h
    split at h
    · rcases List.mem_cons.1 h with h | h
      · exact .inr (h ▸ List.mem_cons_self)
      · exact (ih h).imp_right (List.mem_cons_of_mem _)
    · split at h
      · rename_i hk
        rcases List.mem_cons.1 h with h | h
        · exact .inl (by rw [h, hk])
        · exact .inr (List.mem_cons_of_mem _ h)
      · rcases List.mem_cons.1 h with h | h
        · exact .inl (by rw [h])
        · exact .inr h

/-- Writing keeps a list in key order. -/
theorem sorted_insertEntry {entries : List (String × α)} (h : entries.Pairwise (·.1 < ·.1))
    (key : String) (value : α) : (insertEntry entries key value).Pairwise (·.1 < ·.1) := by
  induction entries with
  | nil => simp [insertEntry]
  | cons first rest ih =>
    obtain ⟨k, v⟩ := first
    obtain ⟨hfirst, hrest⟩ := List.pairwise_cons.1 h
    unfold insertEntry
    split
    · rename_i hlt
      refine List.pairwise_cons.2 ⟨fun entry hentry => ?_, ih hrest⟩
      rcases fst_mem_insertEntry hentry with e | hmem
      · rw [e]; exact hlt
      · exact hfirst entry hmem
    · rename_i hnlt
      split
      · rename_i hk
        exact List.pairwise_cons.2 ⟨fun entry hentry => hfirst entry hentry, hrest⟩
      · rename_i hne
        have hlt : key < k := by
          rcases String.le_total k key with hle | hle
          · exact absurd (String.le_antisymm hle (String.not_lt.1 hnlt)) hne
          · exact String.not_le.1 fun hle' => hne (String.le_antisymm hle' hle)
        refine List.pairwise_cons.2 ⟨fun entry hentry => ?_, h⟩
        rcases List.mem_cons.1 hentry with e | hmem
        · rw [e]; exact hlt
        · exact String.lt_trans hlt (hfirst entry hmem)

/-- The dictionary without entries. -/
def empty : SortedDict α := ⟨[], .nil⟩

instance : Inhabited (SortedDict α) := ⟨empty⟩

/-- Writes `value` under `key`. -/
def insert (d : SortedDict α) (key : String) (value : α) : SortedDict α :=
  ⟨insertEntry d.entries key value, sorted_insertEntry d.sorted key value⟩

/-- Takes `key` out. -/
def erase (d : SortedDict α) (key : String) : SortedDict α :=
  ⟨d.entries.filter (·.1 ≠ key), d.sorted.filter _⟩

/-- The value under `key`. -/
def get? (d : SortedDict α) (key : String) : Option α :=
  Dict.get? d.entries key

/-- Whether `key` has a value. -/
def contains (d : SortedDict α) (key : String) : Bool :=
  (d.get? key).isSome

/-- The keys in order. -/
def keys (d : SortedDict α) : List String :=
  d.entries.map Prod.fst

/-- Writes `entries` one after the other, so that the last value of a key stays. -/
def insertMany (d : SortedDict α) (entries : List (String × α)) : SortedDict α :=
  entries.foldl (fun d entry => d.insert entry.1 entry.2) d

/-- The dictionary that results from writing `entries` one after the other. -/
def ofList (entries : List (String × α)) : SortedDict α :=
  empty.insertMany entries

/-- Reading sees what was written last. -/
theorem get?_insert (d : SortedDict α) (key : String) (value : α) (other : String) :
    (d.insert key value).get? other = if other = key then some value else d.get? other := by
  obtain ⟨entries, hsorted⟩ := d
  simp only [insert, get?]
  clear hsorted
  induction entries with
  | nil =>
    by_cases h : other = key
    · simp [insertEntry, Dict.get?, h]
    · simp [insertEntry, Dict.get?, h, Ne.symm h]
  | cons first rest ih =>
    obtain ⟨k, v⟩ := first
    unfold insertEntry
    split
    · rename_i hlt
      by_cases hk : k = other
      · subst hk
        have hne : k ≠ key := fun e => String.lt_irrefl key (e ▸ hlt)
        simp [Dict.get?, hne]
      · simp [Dict.get?, hk, ih]
    · split
      · rename_i hk
        subst hk
        by_cases ho : k = other
        · simp [Dict.get?, ho]
        · simp [Dict.get?, ho, Ne.symm ho]
      · by_cases ho : other = key
        · simp [Dict.get?, ho]
        · simp [Dict.get?, ho, Ne.symm ho]

end SortedDict

end FieldGuard
