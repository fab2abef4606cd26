import Mathlib.Data.List.Sort
import ArtifactRegistry.SortedMap

/-! # Looking up in sorted maps

The values of a map are those of its entries, and in ascending order the entries are told by what
is found under each key.
-/

namespace ArtifactRegistry.SortedMap

variable {α : Type}

theorem lookup_isSome_iff {key : String} {entries : List (String × α)} :
    (entries.lookup key).isSome ↔ key ∈ entries.map Prod.fst := by
  induction entries with
  | nil => simp
  | cons entry rest ih =>
    obtain ⟨k, v⟩ := entry
    rw [List.lookup_cons]
    by_cases same : key = k
    · simp [same]
    · simp [same, beq_eq_false_iff_ne.mpr same, ih]

theorem mem_of_lookup_eq_some {key : String} {value : α} {entries : List (String × α)}
    (found : entries.lookup key = some value) : (key, value) ∈ entries := by
  induction entries with
  | nil => cases found
  | cons entry rest ih =>
    obtain ⟨k, v⟩ := entry
    rw [List.lookup_cons] at found
    by_cases same : key = k
    · subst same
      simp only [BEq.rfl] at found
      cases found
      exact List.mem_cons_self
    · rw [beq_eq_false_iff_ne.mpr same] at found
      exact List.mem_cons_of_mem _ (ih found)

/-- In ascending order, every entry is the one that is looked up. -/
theorem lookup_eq_some_of_mem {key : String} {value : α} {entries : List (String × α)}
    (ascending : entries.Pairwise fun a b => a.1 < b.1) (member : (key, value) ∈ entries) :
    entries.lookup key = some value := by
  induction entries with
  | nil => cases member
  | cons entry rest ih =>
    obtain ⟨k, v⟩ := entry
    obtain ⟨first, others⟩ := List.pairwise_cons.mp ascending
    rw [List.lookup_cons]
    rcases List.mem_cons.mp member with same | later
    · cases same
      simp only [BEq.rfl]
    · have differs : key ≠ k := by
        rintro rfl
        exact String.lt_irrefl key (first (key, value) later)
      rw [beq_eq_false_iff_ne.mpr differs]
      exact ih others later

/-- In ascending order, there are no other entries than those that are found. -/
theorem entries_eq_of_lookup {entries entries' : List (String × α)}
    (ascending : entries.Pairwise fun a b => a.1 < b.1)
    (ascending' : entries'.Pairwise fun a b => a.1 < b.1)
    (same : ∀ key, entries.lookup key = entries'.lookup key) : entries = entries' := by
  have : Std.Irrefl fun a b : String × α => a.1 < b.1 := ⟨fun _ => String.lt_irrefl _⟩
  have : Std.Antisymm fun a b : String × α => a.1 < b.1 :=
    ⟨fun _ _ before after => absurd (String.lt_trans before after) (String.lt_irrefl _)⟩
  apply ascending.eq_of_mem_iff ascending'
  intro entry
  constructor
  · intro member
    exact mem_of_lookup_eq_some ((same _).symm.trans (lookup_eq_some_of_mem ascending member))
  · intro member
    exact mem_of_lookup_eq_some ((same _).trans (lookup_eq_some_of_mem ascending' member))

/-- Writing an entry that is there changes nothing. -/
theorem insertEntry_of_lookup {key : String} {value : α} {entries : List (String × α)}
    (ascending : entries.Pairwise fun a b => a.1 < b.1) (there : entries.lookup key = some value) :
    insertEntry key value entries = entries := by
  induction entries with
  | nil => cases there
  | cons entry rest ih =>
    obtain ⟨first, old⟩ := entry
    obtain ⟨before, others⟩ := List.pairwise_cons.mp ascending
    by_cases same : key = first
    · subst same
      rw [List.lookup_cons_self, Option.some.injEq] at there
      rw [insertEntry, if_neg (String.lt_irrefl key), if_pos rfl, there]
    · have there : rest.lookup key = some value := by
        rwa [List.lookup_cons, beq_eq_false_iff_ne.mpr same] at there
      have behind : first < key := before _ (mem_of_lookup_eq_some there)
      have notBefore : ¬ key < first := fun ahead =>
        String.lt_irrefl key (String.lt_trans ahead behind)
      rw [insertEntry, if_neg notBefore, if_neg same, ih others there]

theorem mem_keys_iff {map : SortedMap α} {key : String} :
    key ∈ map.keys ↔ map.contains key = true :=
  lookup_isSome_iff.symm

theorem ascending_keys (map : SortedMap α) : map.keys.Pairwise (· < ·) :=
  List.pairwise_map.mpr map.ascending

theorem mem_entries_of_get? {map : SortedMap α} {key : String} {value : α}
    (found : map.get? key = some value) : (key, value) ∈ map.entries :=
  mem_of_lookup_eq_some found

theorem ext {map map' : SortedMap α} (same : map.entries = map'.entries) : map = map' := by
  cases map
  cases map'
  cases same
  rfl

theorem eq_empty_of_isEmpty {map : SortedMap α} (bare : map.isEmpty = true) : map = ∅ :=
  ext (List.isEmpty_iff.mp bare)

/-- A key behind all others is written behind them. -/
theorem insertEntry_of_lt {key : String} {value : α} {entries : List (String × α)}
    (last : ∀ earlier ∈ entries, earlier.1 < key) :
    insertEntry key value entries = entries ++ [(key, value)] := by
  induction entries with
  | nil => rfl
  | cons first rest ih =>
    obtain ⟨before, others⟩ := List.forall_mem_cons.mp last
    have notBefore : ¬ key < first.1 := by
      intro after
      exact String.lt_irrefl _ (String.lt_trans after before)
    have notSame : key ≠ first.1 := by
      intro same
      rw [same] at before
      exact String.lt_irrefl _ before
    rw [insertEntry, if_neg notBefore, if_neg notSame, ih others, List.cons_append]

theorem entries_insert_of_lt {map : SortedMap α} {entry : String × α}
    (last : ∀ earlier ∈ map.entries, earlier.1 < entry.1) :
    (map.insert entry.1 entry.2).entries = map.entries ++ [entry] :=
  insertEntry_of_lt last

end ArtifactRegistry.SortedMap
