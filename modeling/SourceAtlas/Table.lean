/-
Tables: finite maps from texts that remember the order in which their keys
first appeared. Every key has one entry, and assigning to a key that is there
keeps its place.

Consumed by the accumulators, the JSON and settings readers, and the
renderers, which list a table by key.
-/
import SourceAtlas.Ordered

namespace SourceAtlas

namespace Table

variable {α : Type}

-- =============================================================== entries

/-- Assigns a value to a key in a list of entries. -/
def putEntry (key : Text) (value : α) : List (Text × α) → List (Text × α)
  | [] => [(key, value)]
  | (k, v) :: rest =>
    if k = key then (k, value) :: rest else (k, v) :: putEntry key value rest

/-- A new key gets a place at the end. -/
theorem keys_putEntry (key : Text) (value : α) (entries : List (Text × α)) :
    (putEntry key value entries).map (·.1)
      = if key ∈ entries.map (·.1) then entries.map (·.1)
        else entries.map (·.1) ++ [key] := by
  induction entries with
  | nil => simp [putEntry]
  | cons entry rest ih =>
      obtain ⟨k, v⟩ := entry
      by_cases hk : k = key
      · subst hk
        simp [putEntry]
      · have hne : key ≠ k := fun h => hk h.symm
        simp only [putEntry, if_neg hk, List.map_cons, ih, List.mem_cons,
          hne, false_or]
        split
        · rfl
        · rfl

/-- So keys of one entry each stay so. -/
theorem nodup_putEntry {entries : List (Text × α)}
    (h : (entries.map (·.1)).Nodup) (key : Text) (value : α) :
    ((putEntry key value entries).map (·.1)).Nodup := by
  rw [keys_putEntry]
  split
  case isTrue => exact h
  case isFalse hnew =>
    refine List.nodup_append.mpr ⟨h, by simp, ?_⟩
    intro a ha b hb heq
    rw [List.mem_singleton.mp hb] at heq
    exact hnew (heq ▸ ha)

end Table

/-- A map from texts in the order in which its keys first appeared. -/
structure Table (α : Type) where
  entries : List (Text × α)
  distinct : (entries.map (·.1)).Nodup
  deriving DecidableEq, Repr

namespace Table

variable {α : Type}

-- ================================================================ tables

/-- No entries. -/
def empty : Table α := ⟨[], List.nodup_nil⟩

instance : Inhabited (Table α) := ⟨empty⟩

/-- Assigns a value to a key. -/
def put (t : Table α) (key : Text) (value : α) : Table α :=
  ⟨putEntry key value t.entries, nodup_putEntry t.distinct key value⟩

/-- The value assigned to a key. -/
def get? (t : Table α) (key : Text) : Option α := t.entries.lookup key

/-- Whether a key has a value. -/
def has (t : Table α) (key : Text) : Bool := (t.get? key).isSome

/-- The keys in the order in which they first appeared. -/
def keys (t : Table α) : List Text := t.entries.map (·.1)

/-- Assigns all entries of `u`, in order. -/
def merge (t u : Table α) : Table α :=
  u.entries.foldl (fun acc (k, v) => acc.put k v) t

/-- Assigns a list of entries, in order, to an empty table. -/
def ofList (entries : List (Text × α)) : Table α :=
  entries.foldl (fun acc (k, v) => acc.put k v) empty

/-- Keeps the entries that satisfy `p`. -/
def filter (t : Table α) (p : Text → α → Bool) : Table α :=
  ⟨t.entries.filter fun (k, v) => p k v,
    t.distinct.sublist (List.filter_sublist.map _)⟩

/-- The table with its values changed. -/
def map {β : Type} (f : α → β) (t : Table α) : Table β :=
  ⟨t.entries.map fun entry => (entry.1, f entry.2), by
    rw [List.map_map]
    exact t.distinct⟩

/-- How many keys have a value. -/
def size (t : Table α) : Nat := t.entries.length

/-- The entries in increasing order of their keys. -/
def sorted (t : Table α) : List (Text × α) :=
  Ordered.sortBy (fun a b => Text.le a.1 b.1) t.entries

end Table

end SourceAtlas
