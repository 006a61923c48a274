import FieldGuard.Dict.Sorted

/-!
# Entries of dictionaries

What writing does to the entries of a dictionary, entry by entry:

* `get?_eq_some_iff_mem`: with distinct keys, reading a key finds its entry;
* `mem_insert`, `mem_insert_of_mem`: writing adds one entry and leaves those under other keys;
* `get?_insert_comm`, `keys_insert_comm`: two keys may be written in either order;
* `ofList_eq_self`: writing entries with distinct keys one after the other lists them;
* `mem_ofList`, `mem_ofList_append_cons`: of several entries under one key, the last one stays.
-/

namespace FieldGuard

universe u

variable {α : Type u}

namespace Dict

/-! ## Reading -/

theorem mem_of_get? {d : Dict α} {key : String} {value : α} (h : get? d key = some value) :
    (key, value) ∈ d := by
  induction d with
  | nil => simp at h
  | cons entry rest ih =>
    obtain ⟨k, v⟩ := entry
    rw [get?_cons] at h
    split at h
    · rename_i hk
      rw [hk, Option.some.inj h]
      exact List.mem_cons_self
    · exact List.mem_cons_of_mem _ (ih h)

theorem mem_keys {d : Dict α} {key : String} : key ∈ keys d ↔ ∃ value, (key, value) ∈ d := by
  simp [keys]

theorem mem_keys_of_mem {d : Dict α} {entry : String × α} (h : entry ∈ d) : entry.1 ∈ keys d :=
  List.mem_map_of_mem h

theorem get?_map (f : String → α → α) (d : Dict α) (key : String) :
    get? (d.map fun entry => (entry.1, f entry.1 entry.2)) key = (get? d key).map (f key) := by
  induction d with
  | nil => rfl
  | cons entry rest ih =>
    obtain ⟨k, v⟩ := entry
    rw [List.map_cons, get?_cons, get?_cons]
    by_cases hk : k = key
    · subst hk
      rw [if_pos rfl, if_pos rfl, Option.map_some]
    · rw [if_neg hk, if_neg hk, ih]

theorem get?_eq_none_iff {d : Dict α} {key : String} : get? d key = none ↔ key ∉ keys d := by
  induction d with
  | nil => simp [keys]
  | cons entry rest ih =>
    obtain ⟨k, v⟩ := entry
    rw [get?_cons]
    by_cases hk : k = key
    · simp [hk, keys]
    · have hk' : key ≠ k := fun e => hk e.symm
      rw [if_neg hk, ih]
      simp [keys, hk']

theorem mem_keys_iff_get? {d : Dict α} {key : String} :
    key ∈ keys d ↔ ∃ value, get? d key = some value := by
  rw [← Option.ne_none_iff_exists', Ne, get?_eq_none_iff, Decidable.not_not]

/-- With distinct keys, reading a key finds its entry. -/
theorem get?_eq_some_iff_mem {d : Dict α} (hd : HasDistinctKeys d) {key : String} {value : α} :
    get? d key = some value ↔ (key, value) ∈ d := by
  refine ⟨mem_of_get?, fun h => ?_⟩
  induction d with
  | nil => simp at h
  | cons entry rest ih =>
    obtain ⟨k, v⟩ := entry
    obtain ⟨hk, hrest⟩ := List.nodup_cons.1 hd
    rw [get?_cons]
    rcases List.mem_cons.1 h with h | h
    · rw [(Prod.mk.inj h).1, (Prod.mk.inj h).2, if_pos rfl]
    · have hmem : key ∈ keys rest := mem_keys.2 ⟨value, h⟩
      have hne : k ≠ key := fun e => hk (e.symm ▸ hmem)
      rw [if_neg hne, ih hrest h]

theorem HasDistinctKeys.value_eq {d : Dict α} (hd : HasDistinctKeys d) {key : String}
    {value other : α} (h : (key, value) ∈ d) (ho : (key, other) ∈ d) : value = other := by
  rw [← get?_eq_some_iff_mem hd] at h ho
  exact Option.some.inj (h.symm.trans ho)

/-- With distinct keys, reading does not see the order of the entries. -/
theorem get?_eq_of_perm {d e : Dict α} (hd : HasDistinctKeys d) (h : d.Perm e) (key : String) :
    get? d key = get? e key := by
  have he : HasDistinctKeys e := (h.map Prod.fst).nodup_iff.1 hd
  ext value
  rw [get?_eq_some_iff_mem hd, get?_eq_some_iff_mem he, h.mem_iff]

/-! ## Writing -/

theorem mem_insert {d : Dict α} {key : String} {value : α} {entry : String × α}
    (h : entry ∈ insert d key value) : entry = (key, value) ∨ entry ∈ d := by
  induction d with
  | nil => exact .inl (List.mem_singleton.1 h)
  | cons first rest ih =>
    unfold insert at h
    split at h
    · rename_i hk
      rcases List.mem_cons.1 h with h | h
      · exact .inl (h.trans (by rw [hk]))
      · exact .inr (List.mem_cons_of_mem _ h)
    · rcases List.mem_cons.1 h with h | h
      · exact .inr (h ▸ List.mem_cons_self)
      · exact (ih h).imp_right (List.mem_cons_of_mem _)

theorem mem_insert_self (d : Dict α) (key : String) (value : α) :
    (key, value) ∈ insert d key value :=
  mem_of_get? (get?_insert_self d key value)

theorem insert_cons_of_ne {k key : String} (h : k ≠ key) (v : α) (rest : Dict α) (value : α) :
    insert ((k, v) :: rest) key value = (k, v) :: insert rest key value := by
  rw [insert, if_neg h]

/-- An entry stays, unless it is the one that reading the written key found. -/
theorem mem_insert_of_mem {d : Dict α} (key : String) (value : α) {entry : String × α}
    (h : entry ∈ d) :
    entry ∈ insert d key value ∨ entry.1 = key ∧ get? d key = some entry.2 := by
  induction d with
  | nil => simp at h
  | cons first rest ih =>
    obtain ⟨k, v⟩ := first
    by_cases hk : k = key
    · rw [insert, if_pos hk, get?_cons, if_pos hk]
      rcases List.mem_cons.1 h with rfl | h
      · exact .inr ⟨hk, rfl⟩
      · exact .inl (List.mem_cons_of_mem _ h)
    · rw [insert_cons_of_ne hk, get?_cons, if_neg hk]
      rcases List.mem_cons.1 h with rfl | h
      · exact .inl List.mem_cons_self
      · exact (ih h).imp_left (List.mem_cons_of_mem _)

theorem mem_insert_of_ne {d : Dict α} {key : String} (value : α) {entry : String × α}
    (h : entry ∈ d) (hne : entry.1 ≠ key) : entry ∈ insert d key value :=
  (mem_insert_of_mem key value h).resolve_right fun he => hne he.1

/-- Writing the value that is read changes nothing. -/
theorem insert_eq_self {d : Dict α} {key : String} {value : α} (h : get? d key = some value) :
    insert d key value = d := by
  induction d with
  | nil => simp at h
  | cons first rest ih =>
    obtain ⟨k, v⟩ := first
    rw [get?_cons] at h
    by_cases hk : k = key
    · rw [if_pos hk] at h
      rw [insert, if_pos hk, Option.some.inj h]
    · rw [if_neg hk] at h
      rw [insert_cons_of_ne hk, ih h]

/-- Only what is written last under a key stays. -/
theorem insert_insert (d : Dict α) (key : String) (old value : α) :
    insert (insert d key old) key value = insert d key value := by
  induction d with
  | nil => simp [insert]
  | cons first rest ih =>
    obtain ⟨k, v⟩ := first
    by_cases hk : k = key
    · simp [insert, hk]
    · rw [insert_cons_of_ne hk, insert_cons_of_ne hk, insert_cons_of_ne hk, ih]

/-- A new key comes last. -/
theorem insert_of_not_mem {d : Dict α} {key : String} (h : key ∉ keys d) (value : α) :
    insert d key value = d ++ [(key, value)] := by
  induction d with
  | nil => rfl
  | cons first rest ih =>
    simp only [keys, List.map_cons, List.mem_cons, not_or] at h
    rw [insert_cons_of_ne (Ne.symm h.1), ih h.2, List.cons_append]

/-- With distinct keys, writing a key that is there changes its value only. -/
theorem insert_eq_map {d : Dict α} (hd : HasDistinctKeys d) {key : String} (h : key ∈ keys d)
    (value : α) :
    insert d key value =
      d.map fun entry => (entry.1, if entry.1 = key then value else entry.2) := by
  induction d with
  | nil => simp [keys] at h
  | cons first rest ih =>
    obtain ⟨k, v⟩ := first
    obtain ⟨hk, hrest⟩ := List.nodup_cons.1 hd
    by_cases hkey : k = key
    · subst hkey
      rw [insert, if_pos rfl, List.map_cons, if_pos rfl, List.cons.injEq]
      refine ⟨rfl, ((List.map_congr_left fun entry hentry => ?_).trans (List.map_id rest)).symm⟩
      have hmem := mem_keys_of_mem hentry
      have hne : entry.1 ≠ k := fun e => by
        rw [e] at hmem
        exact hk hmem
      rw [if_neg hne]
      rfl
    · have hmem : key ∈ keys rest := (List.mem_cons.1 h).resolve_left (Ne.symm hkey)
      rw [insert_cons_of_ne hkey, ih hrest hmem, List.map_cons, if_neg hkey]

theorem mem_keys_insert {d : Dict α} {key other : String} {value : α} :
    other ∈ keys (insert d key value) ↔ other = key ∨ other ∈ keys d := by
  rw [keys_insert]
  split
  · rename_i h
    exact ⟨.inr, fun ho => ho.elim (fun e => e ▸ h) id⟩
  · simp [or_comm]

theorem get?_insert (d : Dict α) (key : String) (value : α) (other : String) :
    get? (insert d key value) other = if other = key then some value else get? d other := by
  by_cases h : other = key
  · rw [if_pos h, h, get?_insert_self]
  · rw [if_neg h, get?_insert_of_ne d value h]

/-- Reading does not see which of two keys was written first. -/
theorem get?_insert_comm {key other : String} (h : key ≠ other) (d : Dict α) (value next : α)
    (name : String) :
    get? (insert (insert d key value) other next) name =
      get? (insert (insert d other next) key value) name := by
  simp only [get?_insert]
  by_cases hkey : name = key
  · have hother : name ≠ other := fun e => h (hkey.symm.trans e)
    rw [if_neg hother, if_pos hkey, if_pos hkey]
  · rw [if_neg hkey, if_neg hkey]

/-- It shows in the order of the keys, if both are new. -/
theorem keys_insert_comm {key other : String} (h : key ≠ other) (d : Dict α) (value next : α) :
    (keys (insert (insert d key value) other next)).Perm
      (keys (insert (insert d other next) key value)) := by
  simp only [keys_insert]
  by_cases hkey : key ∈ keys d <;> by_cases hother : other ∈ keys d <;>
    simp [hkey, hother, h, h.symm, List.perm_append_left_iff, List.Perm.swap]

/-! ## Writing a list of entries -/

theorem foldl_insert_eq_append {d : Dict α} {entries : List (String × α)}
    (h : HasDistinctKeys (d ++ entries)) :
    entries.foldl (fun d entry => insert d entry.1 entry.2) d = d ++ entries := by
  induction entries generalizing d with
  | nil => simp
  | cons entry rest ih =>
    have hkey : entry.1 ∉ keys d := by
      simp only [HasDistinctKeys, keys, List.map_append, List.map_cons, List.nodup_append] at h
      exact fun hmem => h.2.2 _ hmem _ List.mem_cons_self rfl
    rw [List.foldl_cons, insert_of_not_mem hkey, ih, List.append_assoc, List.singleton_append]
    rwa [List.append_assoc, List.singleton_append]

/-- Entries with distinct keys are listed as they are. -/
theorem ofList_eq_self {entries : List (String × α)} (h : HasDistinctKeys entries) :
    ofList entries = entries :=
  foldl_insert_eq_append (d := []) h

theorem hasDistinctKeys_ofList (entries : List (String × α)) :
    HasDistinctKeys (ofList entries) := by
  suffices h : ∀ d : Dict α, HasDistinctKeys d →
      HasDistinctKeys (entries.foldl (fun d entry => insert d entry.1 entry.2) d) from
    h [] List.nodup_nil
  induction entries with
  | nil => exact fun d hd => hd
  | cons entry rest ih => exact fun d hd => ih _ (hd.insert _ _)

theorem mem_ofList {entries : List (String × α)} {entry : String × α} (h : entry ∈ ofList entries) :
    entry ∈ entries := by
  suffices hf : ∀ d : Dict α, entry ∈ entries.foldl (fun d entry => insert d entry.1 entry.2) d →
      entry ∈ d ∨ entry ∈ entries from (hf [] h).resolve_left (by simp)
  clear h
  induction entries with
  | nil => exact fun d hd => .inl hd
  | cons first rest ih =>
    intro d hd
    rcases ih _ hd with hd | hd
    · rcases mem_insert hd with e | hd
      · exact .inr (e ▸ List.mem_cons_self)
      · exact .inl hd
    · exact .inr (List.mem_cons_of_mem _ hd)

theorem mem_keys_ofList {entries : List (String × α)} {key : String} :
    key ∈ keys (ofList entries) ↔ key ∈ entries.map Prod.fst := by
  suffices h : ∀ d : Dict α,
      key ∈ keys (entries.foldl (fun d entry => insert d entry.1 entry.2) d) ↔
        key ∈ keys d ∨ key ∈ entries.map Prod.fst by
    exact (h []).trans (by simp [keys])
  induction entries with
  | nil => simp
  | cons first rest ih =>
    intro d
    rw [List.foldl_cons, ih, mem_keys_insert, List.map_cons, List.mem_cons, or_assoc, or_left_comm]

/-- An entry stays if all entries under its key have its value. -/
theorem mem_ofList_of_forall {entries : List (String × α)} {key : String} {value : α}
    (h : (key, value) ∈ entries) (hall : ∀ other, (key, other) ∈ entries → other = value) :
    (key, value) ∈ ofList entries := by
  obtain ⟨other, hother⟩ := mem_keys.1 (mem_keys_ofList.2 (List.mem_map_of_mem h))
  rwa [hall other (mem_ofList hother)] at hother

/-- Of several entries under one key, the last one stays. -/
theorem mem_ofList_append_cons (front : List (String × α)) {key : String} (value : α)
    {back : List (String × α)} (h : key ∉ back.map Prod.fst) :
    (key, value) ∈ ofList (front ++ (key, value) :: back) := by
  have hkeep : ∀ (back : List (String × α)) (d : Dict α), (key, value) ∈ d →
      key ∉ back.map Prod.fst →
      (key, value) ∈ back.foldl (fun d entry => insert d entry.1 entry.2) d := by
    intro back
    induction back with
    | nil => exact fun d hd _ => hd
    | cons entry back ih =>
      intro d hd hback
      simp only [List.map_cons, List.mem_cons, not_or] at hback
      exact ih _ (mem_insert_of_ne _ hd hback.1) hback.2
  rw [ofList, List.foldl_append, List.foldl_cons]
  exact hkeep back _ (mem_insert_self _ _ _) h

end Dict

namespace SortedDict

theorem hasDistinctKeys (d : SortedDict α) : Dict.HasDistinctKeys d.entries := by
  rw [Dict.HasDistinctKeys, Dict.keys, List.Nodup, List.pairwise_map]
  refine d.sorted.imp fun hlt => ?_
  rintro e
  rw [e] at hlt
  exact String.lt_irrefl _ hlt

theorem mem_keys_iff_get? {d : SortedDict α} {key : String} :
    key ∈ d.keys ↔ ∃ value, d.get? key = some value :=
  Dict.mem_keys_iff_get?

/-- Writing the value that a key has changes nothing. -/
theorem insert_self {d : SortedDict α} {key : String} {value : α} (h : d.get? key = some value) :
    d.insert key value = d := by
  obtain ⟨entries, hsorted⟩ := d
  suffices he : insertEntry entries key value = entries by
    simp only [insert, he]
  replace h : Dict.get? entries key = some value := h
  induction entries with
  | nil => simp at h
  | cons first rest ih =>
    obtain ⟨k, v⟩ := first
    obtain ⟨hfirst, hrest⟩ := List.pairwise_cons.1 hsorted
    rw [Dict.get?_cons] at h
    unfold insertEntry
    by_cases hk : k = key
    · rw [if_pos hk] at h
      subst hk
      rw [if_neg (String.lt_irrefl k), if_pos rfl, Option.some.inj h]
    · rw [if_neg hk] at h
      rw [if_pos (hfirst _ (Dict.mem_of_get? h)), ih hrest h]

/-- Only what is written last under a key stays. -/
theorem insert_insert (d : SortedDict α) (key : String) (old value : α) :
    (d.insert key old).insert key value = d.insert key value := by
  obtain ⟨entries, hsorted⟩ := d
  suffices he : insertEntry (insertEntry entries key old) key value =
      insertEntry entries key value by
    simp only [insert, he]
  clear hsorted
  -- Writing at the head of a list that starts with the key replaces its value.
  have hhead : ∀ rest : List (String × α),
      insertEntry ((key, old) :: rest) key value = (key, value) :: rest := fun rest => by
    rw [insertEntry, if_neg (String.lt_irrefl key), if_pos rfl]
  induction entries with
  | nil => exact hhead []
  | cons first rest ih =>
    obtain ⟨k, v⟩ := first
    by_cases hlt : k < key
    · rw [insertEntry, if_pos hlt, insertEntry, if_pos hlt, insertEntry, if_pos hlt, ih]
    · by_cases hk : k = key
      · subst hk
        rw [insertEntry, if_neg hlt, if_pos rfl, hhead, insertEntry, if_neg hlt, if_pos rfl]
      · rw [insertEntry, if_neg hlt, if_neg hk, hhead, insertEntry, if_neg hlt, if_neg hk]

/-- Reading does not see what was taken out. -/
theorem get?_erase (d : SortedDict α) (key other : String) :
    (d.erase key).get? other = if other = key then none else d.get? other := by
  obtain ⟨entries, hsorted⟩ := d
  simp only [erase, get?]
  clear hsorted
  induction entries with
  | nil => simp
  | cons first rest ih =>
    obtain ⟨k, v⟩ := first
    by_cases hk : k = key
    · subst hk
      rw [List.filter_cons_of_neg (by simp), ih, Dict.get?_cons]
      by_cases ho : other = k
      · simp [ho]
      · simp [ho, Ne.symm ho]
    · rw [List.filter_cons_of_pos (by simpa using hk), Dict.get?_cons, Dict.get?_cons, ih]
      by_cases ho : k = other
      · subst ho
        simp [hk]
      · simp [ho]

theorem contains_iff_mem_keys {d : SortedDict α} {key : String} :
    d.contains key = true ↔ key ∈ d.keys := by
  rw [mem_keys_iff_get?, contains, Option.isSome_iff_exists]

theorem contains_insert (d : SortedDict α) (key : String) (value : α) (other : String) :
    (d.insert key value).contains other = (decide (other = key) || d.contains other) := by
  rw [contains, get?_insert]
  by_cases h : other = key <;> simp [h, contains]

theorem contains_erase (d : SortedDict α) (key other : String) :
    (d.erase key).contains other = (!decide (other = key) && d.contains other) := by
  rw [contains, get?_erase]
  by_cases h : other = key <;> simp [h, contains]

theorem pairwise_keys (d : SortedDict α) : d.keys.Pairwise (· < ·) :=
  List.pairwise_map.2 d.sorted

/-- Two sorted dictionaries with the same keys have them in the same order. -/
theorem keys_eq_of_contains {β : Type} {d : SortedDict α} {e : SortedDict β}
    (h : ∀ key, d.contains key = e.contains key) : d.keys = e.keys := by
  have hmem : ∀ key, key ∈ d.keys ↔ key ∈ e.keys := fun key => by
    rw [← contains_iff_mem_keys, ← contains_iff_mem_keys, h]
  have hperm : d.keys.Perm e.keys :=
    (List.perm_ext_iff_of_nodup d.hasDistinctKeys e.hasDistinctKeys).2 hmem
  exact hperm.eq_of_pairwise (fun _ _ _ _ hab hba => (String.lt_asymm hab hba).elim)
    d.pairwise_keys e.pairwise_keys

/-- A sorted dictionary is known by what reading it gives. -/
theorem eq_of_get? {d e : SortedDict α} (h : ∀ key, d.get? key = e.get? key) : d = e := by
  have hmem : ∀ entry, entry ∈ d.entries ↔ entry ∈ e.entries := fun entry => by
    rw [← Dict.get?_eq_some_iff_mem d.hasDistinctKeys,
      ← Dict.get?_eq_some_iff_mem e.hasDistinctKeys, ← get?, ← get?, h]
  have hnodup : ∀ d : SortedDict α, d.entries.Nodup := fun d => by
    rw [List.Nodup]
    refine d.sorted.imp fun hlt => ?_
    rintro rfl
    exact String.lt_irrefl _ hlt
  have hperm : d.entries.Perm e.entries :=
    (List.perm_ext_iff_of_nodup (hnodup d) (hnodup e)).2 hmem
  obtain ⟨entries, hsorted⟩ := d
  obtain ⟨others, hothers⟩ := e
  obtain rfl : entries = others :=
    hperm.eq_of_pairwise (fun _ _ _ _ hab hba => (String.lt_asymm hab hba).elim) hsorted hothers
  rfl

end SortedDict

end FieldGuard
