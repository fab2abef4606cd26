/-! # Maps sorted by key

A finite map from texts, kept as its entries in strictly ascending key order. The order is that of
the UTF-8 bytes of the keys. Two maps with the same entries are equal, so a state that holds maps
can be compared as a value; `get?_insert` says all there is to say about writing.
-/

namespace ArtifactRegistry

/-- A finite map with entries in strictly ascending key order. -/
structure SortedMap (α : Type) where
  entries : List (String × α)
  ascending : entries.Pairwise fun a b => a.1 < b.1
deriving DecidableEq

namespace SortedMap

variable {α β : Type}

/-- Writes an entry into a sorted list, in place of the entry with that key if there is one. -/
def insertEntry (key : String) (value : α) : List (String × α) → List (String × α)
  | [] => [(key, value)]
  | (k, v) :: rest =>
    if key < k then (key, value) :: (k, v) :: rest
    else if key = k then (key, value) :: rest
    else (k, v) :: insertEntry key value rest

theorem mem_insertEntry {key : String} {value : α} {entry : String × α}
    {entries : List (String × α)} (member : entry ∈ insertEntry key value entries) :
    entry = (key, value) ∨ entry ∈ entries := by
  induction entries with
  | nil => simpa [insertEntry] using member
  | cons head rest ih =>
    obtain ⟨k, v⟩ := head
    simp only [insertEntry] at member
    split at member
    · simpa using member
    · split at member
      · exact (List.mem_cons.mp member).imp id (List.mem_cons_of_mem _)
      · rcases List.mem_cons.mp member with here | there
        · exact .inr (List.mem_cons.mpr (.inl here))
        · exact (ih there).imp id (List.mem_cons_of_mem _)

theorem ascending_insertEntry (key : String) (value : α) {entries : List (String × α)}
    (ascending : entries.Pairwise fun a b => a.1 < b.1) :
    (insertEntry key value entries).Pairwise fun a b => a.1 < b.1 := by
  induction entries with
  | nil => simp [insertEntry]
  | cons head rest ih =>
    obtain ⟨k, v⟩ := head
    rw [List.pairwise_cons] at ascending
    simp only [insertEntry]
    split
    · next before =>
      refine List.pairwise_cons.mpr ⟨?_, List.pairwise_cons.mpr ascending⟩
      intro entry member
      rcases List.mem_cons.mp member with rfl | member
      · exact before
      · exact String.lt_trans before (ascending.1 entry member)
    · split
      · next same => subst same; exact List.pairwise_cons.mpr ascending
      · next notBefore notSame =>
        refine List.pairwise_cons.mpr ⟨?_, ih ascending.2⟩
        intro entry member
        rcases mem_insertEntry member with rfl | member
        · apply String.not_le.mp
          intro le
          exact notSame (String.le_antisymm le (String.not_lt.mp notBefore))
        · exact ascending.1 entry member

/-- The map without entries. -/
def empty : SortedMap α := ⟨[], .nil⟩

instance : EmptyCollection (SortedMap α) := ⟨empty⟩
instance : Inhabited (SortedMap α) := ⟨empty⟩

/-- The map with one more entry; an equal key gives way. -/
def insert (map : SortedMap α) (key : String) (value : α) : SortedMap α :=
  ⟨insertEntry key value map.entries, ascending_insertEntry key value map.ascending⟩

/-- The value of a key. -/
def get? (map : SortedMap α) (key : String) : Option α := map.entries.lookup key

def contains (map : SortedMap α) (key : String) : Bool := (map.get? key).isSome

def keys (map : SortedMap α) : List String := map.entries.map Prod.fst

def size (map : SortedMap α) : Nat := map.entries.length

def isEmpty (map : SortedMap α) : Bool := map.entries.isEmpty

/-- Inserts the entries from left to right, so the last of equal keys stays. -/
def ofList (entries : List (String × α)) : SortedMap α :=
  entries.foldl (fun map entry => map.insert entry.1 entry.2) empty

@[simp] theorem get?_empty (key : String) : (empty : SortedMap α).get? key = none := rfl

theorem lookup_insertEntry (key other : String) (value : α) (entries : List (String × α)) :
    (insertEntry key value entries).lookup other =
      if other = key then some value else entries.lookup other := by
  have step (k : String) (v : α) (rest : List (String × α)) :
      ((k, v) :: rest).lookup other = if other = k then some v else rest.lookup other := by
    rw [List.lookup_cons]
    by_cases h : other = k <;> simp [h, beq_eq_false_iff_ne.mpr]
  induction entries with
  | nil => simp [insertEntry, step]
  | cons head rest ih =>
    obtain ⟨k, v⟩ := head
    simp only [insertEntry]
    split
    · simp only [step]
    · split
      · next same => subst same; simp only [step]; split <;> rfl
      · next notSame =>
        simp only [step, ih]
        by_cases isHead : other = k
        · subst isHead; simp [Ne.symm notSame]
        · simp [isHead]

/-- Writing changes the value of the written key and of no other. -/
theorem get?_insert (map : SortedMap α) (key other : String) (value : α) :
    (map.insert key value).get? other = if other = key then some value else map.get? other :=
  lookup_insertEntry key other value map.entries

end SortedMap

end ArtifactRegistry
