/-!
# Tables

A table is a finite map: a list of entries, each key once. `get?_insert`, `get?_erase` and
`get?_filter` say what the operations do to the map; the entries are in the order in which they
were last written.
-/

namespace HandleChallenge

/-- A finite map. -/
structure Table (κ α : Type) where
  entries : List (κ × α)
  /-- Each key comes once. -/
  distinct : (entries.map Prod.fst).Nodup

namespace Table

variable {κ α : Type}

/-- The table without entries. -/
def empty : Table κ α := ⟨[], .nil⟩

/-- The number of entries. -/
def size (table : Table κ α) : Nat := table.entries.length

/-- The keys. -/
def keys (table : Table κ α) : List κ := table.entries.map Prod.fst

/-- The entries that pass a test. -/
def filter (table : Table κ α) (keep : κ → α → Bool) : Table κ α where
  entries := table.entries.filter fun e => keep e.1 e.2
  distinct := table.distinct.sublist (List.filter_sublist.map _)

variable [DecidableEq κ]

/-- The value of a key. -/
def get? (table : Table κ α) (key : κ) : Option α := table.entries.lookup key

/-- Whether a key has a value. -/
def contains (table : Table κ α) (key : κ) : Bool := (table.get? key).isSome

/-- The table without a key. -/
def erase (table : Table κ α) (key : κ) : Table κ α := table.filter fun k _ => k != key

/-- The table with the value of a key set. -/
def insert (table : Table κ α) (key : κ) (value : α) : Table κ α where
  entries := (table.erase key).entries ++ [(key, value)]
  distinct := by
    simp only [List.map_append, List.map_cons, List.map_nil]
    refine List.nodup_append.2 ⟨(table.erase key).distinct, by simp, ?_⟩
    intro a ha b hb
    obtain ⟨e, he, rfl⟩ := List.mem_map.1 ha
    simp only [List.mem_singleton] at hb
    simpa [erase, filter, hb] using (List.mem_filter.1 he).2

theorem lookup_eq_some_iff {entries : List (κ × α)} (distinct : (entries.map Prod.fst).Nodup)
    {key : κ} {value : α} : entries.lookup key = some value ↔ (key, value) ∈ entries := by
  induction entries with
  | nil => simp
  | cons e rest ih =>
    obtain ⟨first, held⟩ := e
    obtain ⟨hnot, hrest⟩ := List.nodup_cons.1 distinct
    by_cases h : key = first
    · subst h
      have habsent : ∀ v, (key, v) ∉ rest := fun v hv =>
        hnot (List.mem_map.2 ⟨(key, v), hv, rfl⟩)
      simp [habsent, eq_comm]
    · simp [List.lookup_cons, beq_eq_false_iff_ne.2 h, ih hrest, h]

/-- A key has a value just when the pair is an entry. -/
theorem get?_eq_some_iff {table : Table κ α} {key : κ} {value : α} :
    table.get? key = some value ↔ (key, value) ∈ table.entries :=
  lookup_eq_some_iff table.distinct

theorem get?_filter (table : Table κ α) (keep : κ → α → Bool) (key : κ) :
    (table.filter keep).get? key = (table.get? key).filter (keep key) := by
  apply Option.ext
  intro value
  simp [get?_eq_some_iff, Option.filter_eq_some_iff, filter]

theorem get?_erase (table : Table κ α) (key other : κ) :
    (table.erase key).get? other = if other = key then none else table.get? other := by
  rw [erase, get?_filter]
  by_cases h : other = key
  · cases hget : table.get? other <;> simp [h]
  · cases hget : table.get? other <;> simp [h]

/-- What has a value without a key has it. -/
theorem get?_of_get?_erase {table : Table κ α} {key other : κ} {value : α}
    (h : (table.erase key).get? other = some value) : table.get? other = some value := by
  rw [get?_erase] at h
  split at h
  · cases h
  · exact h

theorem get?_insert (table : Table κ α) (key other : κ) (value : α) :
    (table.insert key value).get? other = if other = key then some value else table.get? other := by
  have happend : (table.insert key value).get? other =
      ((table.erase key).get? other).or (([(key, value)] : List (κ × α)).lookup other) := by
    simp [get?, insert, List.lookup_append]
  rw [happend, get?_erase]
  by_cases h : other = key
  · simp [h]
  · simp [h, List.lookup_cons, beq_eq_false_iff_ne.2 h]

theorem contains_iff {table : Table κ α} {key : κ} :
    table.contains key = true ↔ ∃ value, (key, value) ∈ table.entries := by
  simp [contains, Option.isSome_iff_exists, get?_eq_some_iff]

theorem erase_of_get?_eq_none {table : Table κ α} {key : κ} (h : table.get? key = none) :
    table.erase key = table := by
  cases table with
  | mk entries distinct =>
    simp only [erase, filter, mk.injEq, List.filter_eq_self]
    intro e he
    have habsent : ¬ (⟨entries, distinct⟩ : Table κ α).get? key = some e.2 := by simp [h]
    rw [get?_eq_some_iff] at habsent
    simp only [bne_iff_ne, ne_eq]
    intro hkey
    exact habsent (hkey ▸ he)

/-- Writing to a new key adds one entry, writing to an old one none. -/
theorem size_insert (table : Table κ α) (key : κ) (value : α) :
    (table.insert key value).size = (table.erase key).size + 1 := by
  simp [size, insert]

end Table

end HandleChallenge
