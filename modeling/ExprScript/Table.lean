/-!
# Keyed tables

Finitely many entries, at most one for each key, in the order in which the keys were first entered.
Writing to a key that is present keeps its place, so writes to different present keys commute.
-/

namespace ExprScript

variable {κ ν : Type} [DecidableEq κ]

structure Table (κ ν : Type) where
  entries : List (κ × ν)
  distinct : (entries.map Prod.fst).Nodup

namespace Table

def empty : Table κ ν := ⟨[], List.nodup_nil⟩

instance : Inhabited (Table κ ν) := ⟨empty⟩

def size (t : Table κ ν) : Nat := t.entries.length

def get? (t : Table κ ν) (key : κ) : Option ν := t.entries.lookup key

def contains (t : Table κ ν) (key : κ) : Bool := (t.get? key).isSome

/-- The entries with the value of `key` replaced, or with a new entry at the end. -/
def insertEntry (key : κ) (value : ν) : List (κ × ν) → List (κ × ν)
  | [] => [(key, value)]
  | entry :: rest =>
    if entry.1 = key then (key, value) :: rest else entry :: insertEntry key value rest

theorem keys_insertEntry (key : κ) (value : ν) (entries : List (κ × ν)) :
    (insertEntry key value entries).map Prod.fst =
      if key ∈ entries.map Prod.fst then entries.map Prod.fst
      else entries.map Prod.fst ++ [key] := by
  induction entries with
  | nil => simp [insertEntry]
  | cons entry rest ih => by_cases h : entry.1 = key <;> grind [insertEntry]

/-- The table with a value at a key. -/
def insert (t : Table κ ν) (key : κ) (value : ν) : Table κ ν where
  entries := insertEntry key value t.entries
  distinct := by
    have distinct := t.distinct
    rw [keys_insertEntry]
    split
    · exact distinct
    · rename_i h
      simpa [List.nodup_append, distinct] using fun a value member same => h (by
        rw [← same]
        exact List.mem_map.2 ⟨_, member, rfl⟩)

def erase (t : Table κ ν) (key : κ) : Table κ ν where
  entries := t.entries.filter fun entry => entry.1 ≠ key
  distinct := t.distinct.sublist (List.filter_sublist.map _)

/-- The table of a list of entries, later ones replacing earlier ones of the same key. -/
def ofList (entries : List (κ × ν)) : Table κ ν :=
  entries.foldl (fun t entry => t.insert entry.1 entry.2) empty

@[simp] theorem get?_empty (key : κ) : (empty : Table κ ν).get? key = none := rfl

theorem get?_insert (t : Table κ ν) (key other : κ) (value : ν) :
    (t.insert key value).get? other = if other = key then some value else t.get? other := by
  simp only [get?, insert]
  induction t.entries with
  | nil => grind [insertEntry]
  | cons entry rest ih =>
    by_cases present : entry.1 = key <;> grind [insertEntry]

theorem insertEntry_of_lookup {key : κ} {value : ν} {entries : List (κ × ν)}
    (h : entries.lookup key = some value) : insertEntry key value entries = entries := by
  induction entries with
  | nil => simp at h
  | cons entry rest ih => by_cases present : entry.1 = key <;> grind [insertEntry]

/-- Writing the value that a key has changes nothing. -/
theorem insert_of_get? {t : Table κ ν} {key : κ} {value : ν} (h : t.get? key = some value) :
    t.insert key value = t := by
  obtain ⟨entries, distinct⟩ := t
  have same : insertEntry key value entries = entries := insertEntry_of_lookup h
  simp only [insert, same]

/-- Of two values written to a key the second stays. -/
theorem insert_insert (t : Table κ ν) (key : κ) (value value' : ν) :
    (t.insert key value).insert key value' = t.insert key value' := by
  have same : insertEntry key value' (insertEntry key value t.entries) =
      insertEntry key value' t.entries := by
    induction t.entries with
    | nil => simp [insertEntry]
    | cons entry rest ih => by_cases present : entry.1 = key <;> grind [insertEntry]
  simp only [insert, same]

theorem get?_erase (t : Table κ ν) (key other : κ) :
    (t.erase key).get? other = if other = key then none else t.get? other := by
  simp only [get?, erase]
  induction t.entries with
  | nil => simp
  | cons entry rest ih => by_cases h : entry.1 = key <;> grind

end Table

end ExprScript
