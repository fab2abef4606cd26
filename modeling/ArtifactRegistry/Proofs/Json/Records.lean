import ArtifactRegistry.Json.Record
import ArtifactRegistry.Proofs.Outcome

/-! # What a record that was read says about its text

A record is read member by member, so what ends up in one field depends on the members of that name
alone: `readMembers_tracks` follows a single field through the run. With `read_eq_ok_iff` it turns a
successful read into facts about the object that was read.
-/

namespace ArtifactRegistry.Json

theorem ListEnd.read_eq_ok_iff {stop : ListEnd} : stop.read = .ok () ↔ stop = .closed := by
  cases stop <;> simp [ListEnd.read]

theorem ObjectEnd.read_eq_ok_iff {stop : ObjectEnd} : stop.read = .ok () ↔ stop = .closed := by
  cases stop <;> simp [ObjectEnd.read]

/-- A node is never what it is refused to be. -/
theorem Node.refuse_ne_ok {α : Type} (node : Node) (expected : String) (value : α) :
    node.refuse expected ≠ .ok value := by
  rw [Node.refuse]
  cases node.found <;> nofun

namespace Record

variable {δ α : Type} {fields : List (Field δ)} {depth : Nat} {name : String}

/-- Fields with a given name set what `get` gets to what `reader` reads, and no other field changes
it. -/
def Tracks (fields : List (Field δ)) (name : String) (reader : Reader α) (get : δ → α) : Prop :=
  ∀ field ∈ fields, ∀ depth node before after, field.store depth node before = .ok after →
    if field.name = name then reader depth node = .ok (get after) else get after = get before

/-- How a field can come out of a run over some members, by whether it was seen before. -/
inductive Tracked (reader : Reader α) (depth : Nat) (name : String) (before after : α)
    (members : List (StringToken × Node)) : (seen seenAfter : Prop) → Prop
  | kept {seen seenAfter : Prop} (same : seen ↔ seenAfter) (value_eq : after = before)
      (absent : ∀ member ∈ members, member.1.text ≠ .ok name) :
      Tracked reader depth name before after members seen seenAfter
  | read {seen seenAfter : Prop} {key : StringToken} {node : Node} (unseen : ¬ seen)
      (stored : seenAfter) (present : (key, node) ∈ members) (named : key.text = .ok name)
      (value_eq : reader depth node = .ok after)
      (unique : ∀ member ∈ members, member.1.text = .ok name → member = (key, node)) :
      Tracked reader depth name before after members seen seenAfter

/-- A member with another name changes nothing for a tracked field. -/
theorem Tracked.cons {reader : Reader α} {before after : α} {key : StringToken} {node : Node}
    {members : List (StringToken × Node)} {seen seenAfter : Prop} (other : key.text ≠ .ok name)
    (tracked : Tracked reader depth name before after members seen seenAfter) :
    Tracked reader depth name before after ((key, node) :: members) seen seenAfter := by
  cases tracked with
  | kept same value_eq absent =>
    exact .kept same value_eq (List.forall_mem_cons.mpr ⟨other, absent⟩)
  | read unseen stored present named value_eq unique =>
    apply Tracked.read unseen stored (List.mem_cons_of_mem _ present) named value_eq
    rw [List.forall_mem_cons]
    exact ⟨fun same => absurd same other, unique⟩

/-- The members decide what a tracked field is in the end. -/
theorem Tracked.unique {reader : Reader α} {before after after' : α}
    {members : List (StringToken × Node)} {seen seen' seenAfter seenAfter' : Prop}
    (one : Tracked reader depth name before after members seen seenAfter)
    (other : Tracked reader depth name before after' members seen' seenAfter') :
    after = after' := by
  cases one with
  | kept _ value_eq absent =>
    cases other with
    | kept _ value_eq' => exact value_eq.trans value_eq'.symm
    | read _ _ present named => exact absurd named (absent _ present)
  | read _ _ present named value_eq unique =>
    cases other with
    | kept _ _ absent => exact absurd named (absent _ present)
    | read _ _ present' named' value_eq' =>
      cases unique _ present' named'
      exact Except.ok.inj (value_eq.symm.trans value_eq')

/-- One step of the run: a member that nobody asked for is skipped, any other is stored. -/
theorem readMembers_cons_eq_ok {seen : List String} {before : δ} {key : StringToken} {node : Node}
    {rest : List (StringToken × Node)} {result : List String × δ}
    (ran : readMembers fields depth seen before ((key, node) :: rest) = .ok result) :
    ∃ found, key.text = .ok found ∧
      ((∀ field ∈ fields, field.name ≠ found) ∧ node.skip = .ok () ∧
          readMembers fields depth seen before rest = .ok result ∨
        ∃ field ∈ fields, field.name = found ∧ found ∉ seen ∧
          ∃ middle, field.store depth node before = .ok middle ∧
            readMembers fields depth (found :: seen) middle rest = .ok result) := by
  rw [readMembers] at ran
  obtain ⟨found, read, ran⟩ := bind_eq_ok_iff.mp ran
  refine ⟨found, read, ?_⟩
  cases asked : fields.find? fun field => field.name = found with
  | none =>
    simp only [asked] at ran
    obtain ⟨_, skips, ran⟩ := bind_eq_ok_iff.mp ran
    exact .inl ⟨fun field member => by simpa using List.find?_eq_none.mp asked field member, skips, ran⟩
  | some field =>
    simp only [asked] at ran
    split at ran
    · cases ran
    next fresh =>
    obtain ⟨middle, stored, ran⟩ := bind_eq_ok_iff.mp ran
    exact .inr ⟨field, List.mem_of_find?_eq_some asked, by simpa using List.find?_some asked, fresh,
      middle, stored, ran⟩

/-- A tracked field keeps its value while no member has its name; a member with its name is the
only one, and sets it. -/
theorem readMembers_tracks {reader : Reader α} {get : δ → α}
    (tracks : Tracks fields name reader get) (known : ∃ field ∈ fields, field.name = name)
    {members : List (StringToken × Node)} {seen seenAfter : List String} {before after : δ}
    (ran : readMembers fields depth seen before members = .ok (seenAfter, after)) :
    Tracked reader depth name (get before) (get after) members (name ∈ seen)
      (name ∈ seenAfter) := by
  induction members generalizing seen before with
  | nil =>
    cases ran
    exact .kept Iff.rfl rfl nofun
  | cons member rest ih =>
    obtain ⟨key, node⟩ := member
    obtain ⟨found, text, ⟨unknown, -, ran⟩ | ⟨field, member, named, fresh, middle, stored, ran⟩⟩ :=
      readMembers_cons_eq_ok ran
    · apply (ih ran).cons
      rw [text]
      intro same
      cases same
      obtain ⟨field, member, named⟩ := known
      exact unknown field member named
    · have tracked := tracks field member depth node before middle stored
      by_cases same : found = name
      · subst same
        rw [if_pos named] at tracked
        cases ih ran with
        | kept stays value_eq absent =>
          rw [← value_eq] at tracked
          have stored := stays.mp List.mem_cons_self
          have alone : ∀ member ∈ rest, member.1.text = .ok found → member = (key, node) := by
            intro other member same
            exact absurd same (absent other member)
          exact .read fresh stored List.mem_cons_self text tracked
            (List.forall_mem_cons.mpr ⟨fun _ => rfl, alone⟩)
        | read unseen => exact absurd List.mem_cons_self unseen
      · rw [if_neg (named ▸ same)] at tracked
        have before_iff : name ∈ found :: seen ↔ name ∈ seen := by
          simp [Ne.symm same]
        have went := ih ran
        rw [before_iff, tracked] at went
        apply went.cons
        rw [text]
        intro equal
        exact same (Except.ok.inj equal)

theorem requireFields_eq_ok_iff {seen : List String} :
    requireFields seen fields = .ok () ↔ ∀ field ∈ fields, field.required → field.name ∈ seen := by
  induction fields with
  | nil => simp [requireFields]
  | cons field rest ih =>
    rw [requireFields, List.forall_mem_cons]
    by_cases missing : field.required ∧ field.name ∉ seen
    · rw [if_pos missing]
      constructor
      · intro ran
        cases ran
      · rintro ⟨there, -⟩
        exact absurd (there missing.1) missing.2
    · rw [if_neg missing, ih]
      have there (required : field.required) : field.name ∈ seen :=
        Decidable.byContradiction fun absent => missing ⟨required, absent⟩
      constructor
      · intro others
        exact ⟨there, others⟩
      · rintro ⟨-, others⟩
        exact others

/-- What reading an object as a record comes down to. -/
theorem read_object_eq_ok_iff {record : Record δ} {members : List (StringToken × Node)}
    {stop : ObjectEnd} {value : δ} :
    record.read depth (.object members stop) = .ok value ↔ stop = .closed ∧
      ∃ inner seen, enter depth = .ok inner ∧
        readMembers record.fields inner [] record.empty members = .ok (seen, value) ∧
        ∀ field ∈ record.fields, field.required → field.name ∈ seen := by
  simp only [read, bind_eq_ok_iff, ← ObjectEnd.read_eq_ok_iff, ← requireFields_eq_ok_iff]
  constructor
  · rintro ⟨inner, entered, ⟨seen, _⟩, ran, ⟨⟩, closed, ⟨⟩, all, ended⟩
    cases ended
    exact ⟨closed, inner, seen, entered, ran, all⟩
  · rintro ⟨closed, inner, seen, entered, ran, all⟩
    exact ⟨inner, entered, (seen, value), ran, (), closed, (), all, rfl⟩

/-- Every member with the name of a tracked field gave the field its value. -/
theorem read_object_tracks {record : Record δ} {reader : Reader α} {get : δ → α}
    (tracks : Tracks record.fields name reader get)
    (known : ∃ field ∈ record.fields, field.name = name) {members : List (StringToken × Node)}
    {stop : ObjectEnd} {value : δ} (ran : record.read depth (.object members stop) = .ok value) :
    ∃ (inner : Nat) (seen : List String), enter depth = .ok inner ∧
      (∀ field ∈ record.fields, field.required → field.name ∈ seen) ∧
      Tracked reader inner name (get record.empty) (get value) members False (name ∈ seen) := by
  obtain ⟨-, inner, seen, entered, ran, all⟩ := read_object_eq_ok_iff.mp ran
  have tracked := readMembers_tracks tracks known ran
  rw [show (name ∈ ([] : List String)) = False from eq_false List.not_mem_nil] at tracked
  exact ⟨inner, seen, entered, all, tracked⟩

/-! ## Records written as lists -/

/-- Fields behind the last item are not required, and every item belongs to a field. -/
theorem readItems_eq_ok {record : Record δ} {stop : ListEnd} {position : Nat} {items : List Node}
    {before after : δ}
    (ran : readItems record depth stop position fields items before = .ok after) :
    items.length ≤ fields.length ∧
      ∀ field ∈ fields.drop items.length, field.required = false := by
  induction fields generalizing position items before with
  | nil =>
    cases items with
    | nil => exact ⟨Nat.le_refl 0, nofun⟩
    | cons node nodes => cases ran
  | cons field rest ih =>
    cases items with
    | nil =>
      rw [readItems] at ran
      obtain ⟨-, -, ran⟩ := bind_eq_ok_iff.mp ran
      split at ran
      · cases ran
      next optional =>
      obtain ⟨-, others⟩ := ih ran
      exact ⟨Nat.zero_le _, List.forall_mem_cons.mpr ⟨by simpa using optional, others⟩⟩
    | cons node nodes =>
      rw [readItems] at ran
      obtain ⟨middle, -, ran⟩ := bind_eq_ok_iff.mp ran
      obtain ⟨fewer, others⟩ := ih ran
      exact ⟨Nat.succ_le_succ fewer, others⟩

/-- Fields with other names do not change a tracked field. -/
theorem readItems_keeps {record : Record δ} {reader : Reader α} {get : δ → α}
    (tracks : Tracks fields name reader get) (others : ∀ field ∈ fields, field.name ≠ name)
    {stop : ListEnd} {position : Nat} {items : List Node} {before after : δ}
    (ran : readItems record depth stop position fields items before = .ok after) :
    get after = get before := by
  induction fields generalizing position items before with
  | nil =>
    cases items with
    | nil =>
      obtain ⟨_, -, rfl⟩ := map_eq_ok_iff.mp ran
      rfl
    | cons node nodes => cases ran
  | cons field rest ih =>
    obtain ⟨here, tracks⟩ := List.forall_mem_cons.mp tracks
    obtain ⟨differs, others⟩ := List.forall_mem_cons.mp others
    specialize @ih tracks others
    cases items with
    | nil =>
      rw [readItems] at ran
      obtain ⟨-, -, ran⟩ := bind_eq_ok_iff.mp ran
      split at ran
      · cases ran
      · exact ih ran
    | cons node nodes =>
      rw [readItems] at ran
      obtain ⟨middle, stored, ran⟩ := bind_eq_ok_iff.mp ran
      have tracked := here depth node before middle stored
      rw [if_neg differs] at tracked
      exact (ih ran).trans tracked

/-- Without items, a record stays as it is. -/
theorem readItems_nil_eq_ok {record : Record δ} {stop : ListEnd} {position : Nat} {before after : δ}
    (ran : readItems record depth stop position fields [] before = .ok after) :
    after = before := by
  induction fields generalizing position with
  | nil =>
    obtain ⟨_, -, same⟩ := map_eq_ok_iff.mp ran
    exact same.symm
  | cons field rest ih =>
    rw [readItems] at ran
    obtain ⟨-, -, ran⟩ := bind_eq_ok_iff.mp ran
    split at ran
    · cases ran
    · exact ih ran

/-- The first item belongs to the first field. -/
theorem read_list_first {record : Record δ} {field : Field δ} {rest : List (Field δ)}
    (fields_eq : record.fields = field :: rest) {reader : Reader α} {get : δ → α}
    (tracks : Tracks record.fields field.name reader get)
    (others : ∀ other ∈ rest, other.name ≠ field.name) {first : Node} {items : List Node}
    {stop : ListEnd} {value : δ} (ran : record.read depth (.list (first :: items) stop) = .ok value) :
    ∃ inner, reader inner first = .ok (get value) := by
  obtain ⟨inner, -, ran⟩ := bind_eq_ok_iff.mp ran
  rw [fields_eq] at ran tracks
  obtain ⟨middle, stored, ran⟩ := bind_eq_ok_iff.mp ran
  obtain ⟨here, there⟩ := List.forall_mem_cons.mp tracks
  have read := here inner first record.empty middle stored
  rw [if_pos rfl, ← readItems_keeps there others ran] at read
  exact ⟨inner, read⟩

/-- Null in the first place is no value of the first field, so nothing can follow it. -/
theorem read_list_of_null {record : Record δ} {field : Field δ} {rest : List (Field δ)}
    (fields_eq : record.fields = field :: rest)
    (refuses : ∀ depth before, ∃ error, field.store depth .null before = .error error)
    {items : List Node} (null : ∀ first ∈ items.head?, first = .null) {stop : ListEnd} {value : δ}
    (ran : record.read depth (.list items stop) = .ok value) : value = record.empty := by
  obtain ⟨inner, -, ran⟩ := bind_eq_ok_iff.mp ran
  cases items with
  | nil => exact readItems_nil_eq_ok ran
  | cons first items =>
    rw [null first rfl, fields_eq] at ran
    obtain ⟨middle, stored, -⟩ := bind_eq_ok_iff.mp ran
    obtain ⟨error, refused⟩ := refuses inner record.empty
    exact nomatch refused.symm.trans stored

end Record

/-! ## Reading a whole text -/

theorem Reader.run_eq_ok_iff {α : Type} {reader : Reader α} {text : Bytes} {value : α} :
    reader.run text = .ok value ↔ reader 0 (Document.ofBytes text).root = .ok value ∧
      (Document.ofBytes text).trailing = false := by
  rw [Reader.run, bind_eq_ok_iff]
  cases (Document.ofBytes text).trailing with
  | true =>
    constructor
    · rintro ⟨start, -, failed⟩
      cases failed
    · rintro ⟨-, trailing⟩
      cases trailing
  | false =>
    constructor
    · rintro ⟨start, ran, ⟨⟩⟩
      exact ⟨ran, rfl⟩
    · rintro ⟨ran, -⟩
      exact ⟨value, ran, rfl⟩

/-- Only null is read as nothing. -/
theorem Reader.optional_eq_none {α : Type} {value : Reader α} {depth : Nat} {node : Node}
    (ran : Reader.optional value depth node = .ok none) : node = .null := by
  cases node with
  | null => rfl
  | _ =>
    obtain ⟨_, -, other⟩ := map_eq_ok_iff.mp ran
    cases other

end ArtifactRegistry.Json
