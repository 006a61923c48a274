/-!
# Dictionaries in order of arrival

A `Dict` is a list of keys with their values. A key keeps the position it first
arrived at: writing it again replaces the value in place. What reading sees after
writing is said by `get?_insert_self` and `get?_insert_of_ne`, and what writing
does to the keys by `keys_insert`.
-/

namespace FieldGuard

universe u v

/-- Keys with their values, in the order in which the keys arrived. -/
abbrev Dict (α : Type u) := List (String × α)

namespace Dict

variable {α : Type u} {β : Type v}

/-- The value under `key`. -/
def get? : Dict α → String → Option α
  | [], _ => none
  | (k, v) :: rest, key => if k = key then some v else get? rest key

/-- Writes `value` under `key`, in place if the key is there and at the end if not. -/
def insert : Dict α → String → α → Dict α
  | [], key, value => [(key, value)]
  | (k, v) :: rest, key, value =>
    if k = key then (k, value) :: rest else (k, v) :: insert rest key value

/-- The keys, in order. -/
def keys (d : Dict α) : List String :=
  d.map Prod.fst

/-- Whether `key` has a value. -/
def contains (d : Dict α) (key : String) : Bool :=
  (get? d key).isSome

/-- The dictionary that results from writing `entries` one after the other. -/
def ofList (entries : List (String × α)) : Dict α :=
  entries.foldl (fun d entry => insert d entry.1 entry.2) []

/-- No key stands twice. -/
def HasDistinctKeys (d : Dict α) : Prop :=
  (keys d).Nodup

@[simp] theorem get?_nil (key : String) : get? ([] : Dict α) key = none := rfl

@[simp] theorem insert_nil (key : String) (value : α) :
    insert [] key value = [(key, value)] := rfl

theorem get?_cons (k : String) (v : α) (rest : Dict α) (key : String) :
    get? ((k, v) :: rest) key = if k = key then some v else get? rest key := rfl

/-- What was written under a key is read back. -/
@[simp] theorem get?_insert_self (d : Dict α) (key : String) (value : α) :
    get? (insert d key value) key = some value := by
  induction d with
  | nil => simp [insert, get?]
  | cons entry rest ih =>
    obtain ⟨k, v⟩ := entry
    by_cases h : k = key <;> simp [insert, get?, h, ih]

/-- Writing one key leaves the others alone. -/
theorem get?_insert_of_ne (d : Dict α) {key other : String} (value : α) (h : other ≠ key) :
    get? (insert d key value) other = get? d other := by
  induction d with
  | nil => simp [insert, get?, Ne.symm h]
  | cons entry rest ih =>
    obtain ⟨k, v⟩ := entry
    by_cases hk : k = key
    · subst hk
      simp [insert, get?, Ne.symm h]
    · simp [insert, get?, hk, ih]

/-- A key that is there keeps its place, and a new one comes last. -/
theorem keys_insert (d : Dict α) (key : String) (value : α) :
    keys (insert d key value) = if key ∈ keys d then keys d else keys d ++ [key] := by
  induction d with
  | nil => simp [keys, insert]
  | cons entry rest ih =>
    obtain ⟨k, v⟩ := entry
    by_cases h : k = key
    · subst h
      simp [keys, insert]
    · have h' : ¬ key = k := fun e => h e.symm
      simp only [keys, insert, h, if_false, List.map_cons, List.mem_cons, h', false_or] at ih ⊢
      rw [ih]
      split <;> simp_all

/-- Writing keeps the keys distinct. -/
theorem HasDistinctKeys.insert {d : Dict α} (h : HasDistinctKeys d) (key : String) (value : α) :
    HasDistinctKeys (d.insert key value) := by
  unfold HasDistinctKeys at h ⊢
  rw [keys_insert]
  split
  · exact h
  · rename_i hk
    rw [List.nodup_append]
    refine ⟨h, by simp, ?_⟩
    intro a ha b hb
    rw [List.mem_singleton] at hb
    subst hb
    intro e
    subst e
    exact hk ha

end Dict

end FieldGuard
