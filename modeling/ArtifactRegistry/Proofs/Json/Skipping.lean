import ArtifactRegistry.Proofs.Json.Records

/-! # What was read can be skipped

A reader that succeeds has seen its whole value, and found nothing in it that skipping the value
would stumble over: strings and containers are closed, and nothing is missing. It has decoded the
strings that it read, and all it asks of other strings is that they end. So what was read does not
change when the strings without a text are emptied, `Node.mended`. `Reader.Thorough` says all this of
a reader, and passes from the readers of fields to records, `Record.read_thorough`. Hence one field of
a record can be read on its own: wherever the whole record is read, so is the record that has this
field only, and with the same value, `Record.read_alone`.
-/

namespace ArtifactRegistry.Json

theorem StringEnd.read_eq_ok_iff {stop : StringEnd} : stop.read = .ok () ↔ stop = .closed := by
  cases stop <;> simp [StringEnd.read]

/-- A string that has a text is closed. -/
theorem StringToken.closed_of_decode {stop : StringEnd} {pieces : List StringPiece} {bytes : Bytes}
    (decoded : decode stop pieces = .ok bytes) : stop = .closed := by
  fun_induction decode stop pieces generalizing bytes with
  | case1 =>
    obtain ⟨_, read, -⟩ := map_eq_ok_iff.mp decoded
    exact StringEnd.read_eq_ok_iff.mp read
  | case2 value rest ih | case3 value rest ih | case6 value _ _ low rest _ ih
  | case9 value rest _ _ ih =>
    obtain ⟨_, decoded, -⟩ := map_eq_ok_iff.mp decoded
    exact ih decoded
  | case4 | case5 | case7 | case8 => cases decoded

theorem StringToken.skips_of_text {token : StringToken} {text : String}
    (read : token.text = .ok text) : token.stop.read = .ok () := by
  obtain ⟨bytes, decoded, -⟩ := bind_eq_ok_iff.mp read
  exact StringEnd.read_eq_ok_iff.mpr (closed_of_decode decoded)

theorem Node.skip_list {items : List Node} (skips : skipItems items = .ok ()) :
    (Node.list items .closed).skip = .ok () :=
  bind_eq_ok_iff.mpr ⟨(), skips, rfl⟩

theorem Node.skip_object {members : List (StringToken × Node)}
    (skips : skipMembers members = .ok ()) :
    (Node.object members .closed).skip = .ok () :=
  bind_eq_ok_iff.mpr ⟨(), skips, rfl⟩

theorem skipItems_cons {item : Node} {rest : List Node} (first : item.skip = .ok ())
    (others : skipItems rest = .ok ()) : skipItems (item :: rest) = .ok () :=
  bind_eq_ok_iff.mpr ⟨(), first, others⟩

theorem skipMembers_cons {key : StringToken} {node : Node} {rest : List (StringToken × Node)}
    {name : String} (named : key.text = .ok name) (first : node.skip = .ok ())
    (others : skipMembers rest = .ok ()) : skipMembers ((key, node) :: rest) = .ok () :=
  bind_eq_ok_iff.mpr ⟨(), StringToken.skips_of_text named, bind_eq_ok_iff.mpr ⟨(), first, others⟩⟩

/-! ## Strings without a text -/

/-- The string itself if it has a text, and otherwise, where it holds bytes that are not UTF-8 or half
of a surrogate pair, an empty one with the same end. -/
def StringToken.mended (token : StringToken) : StringToken :=
  match token.text with
  | .ok _ => token
  | .error _ => ⟨[], token.stop⟩

theorem StringToken.mended_of_text {token : StringToken} {text : String}
    (read : token.text = .ok text) : token.mended = token := by
  rw [mended, read]

@[simp] theorem StringToken.stop_mended (token : StringToken) : token.mended.stop = token.stop := by
  rw [mended]
  split <;> rfl

mutual

/-- The same tree, with the strings emptied that have no text. -/
def Node.mended : Node → Node
  | .string token => .string token.mended
  | .list items stop => .list (mendedItems items) stop
  | .object members stop => .object (mendedMembers members) stop
  | node => node

def mendedItems : List Node → List Node
  | [] => []
  | item :: rest => item.mended :: mendedItems rest

def mendedMembers : List (StringToken × Node) → List (StringToken × Node)
  | [] => []
  | (key, value) :: rest => (key.mended, value.mended) :: mendedMembers rest

end

mutual

/-- To skip a tree, its strings need no text. -/
theorem Node.skip_mended (node : Node) : node.mended.skip = node.skip := by
  cases node with
  | string token => rw [Node.mended, Node.skip, Node.skip, StringToken.stop_mended]
  | list items stop => rw [Node.mended, Node.skip, Node.skip, skipItems_mended items]
  | object members stop => rw [Node.mended, Node.skip, Node.skip, skipMembers_mended members]
  | _ => rfl

theorem skipItems_mended (items : List Node) : skipItems (mendedItems items) = skipItems items := by
  cases items with
  | nil => rfl
  | cons item rest => rw [mendedItems, skipItems, skipItems, item.skip_mended, skipItems_mended rest]

theorem skipMembers_mended (members : List (StringToken × Node)) :
    skipMembers (mendedMembers members) = skipMembers members := by
  match members with
  | [] => rfl
  | (key, value) :: rest =>
    rw [mendedMembers, skipMembers, skipMembers, StringToken.stop_mended, value.skip_mended,
      skipMembers_mended rest]

end

/-! ## Readers -/

namespace Reader

variable {α : Type} {reader : Reader α}

/-- What the reader reads can be skipped, and strings without a text are not part of it. -/
structure Thorough (reader : Reader α) : Prop where
  skips {depth : Nat} {node : Node} {value : α} (ran : reader depth node = .ok value) :
    node.skip = .ok ()
  mended {depth : Nat} {node : Node} {value : α} (ran : reader depth node = .ok value) :
    reader depth node.mended = .ok value

theorem text_thorough : Thorough text where
  skips {depth node value} ran := by
    cases node with
    | string token => exact StringToken.skips_of_text ran
    | _ => exact absurd ran (Node.refuse_ne_ok _ _ _)
  mended {depth node value} ran := by
    cases node with
    | string token =>
      rw [Node.mended, StringToken.mended_of_text ran]
      exact ran
    | _ => exact absurd ran (Node.refuse_ne_ok _ _ _)

theorem integer_thorough (low high : Int) (expected : String) :
    Thorough (integer low high expected) where
  skips {depth node value} ran := by
    cases node with
    | number numeral => rfl
    | _ => exact absurd ran (Node.refuse_ne_ok _ _ _)
  mended {depth node value} ran := by
    cases node with
    | number numeral => exact ran
    | _ => exact absurd ran (Node.refuse_ne_ok _ _ _)

theorem Thorough.map {β : Type} (thorough : Thorough reader) (change : α → β) :
    Thorough fun depth node => (reader depth node).map change where
  skips ran := by
    obtain ⟨start, read, -⟩ := map_eq_ok_iff.mp ran
    exact thorough.skips read
  mended ran := by
    obtain ⟨start, read, value_eq⟩ := map_eq_ok_iff.mp ran
    exact map_eq_ok_iff.mpr ⟨start, thorough.mended read, value_eq⟩

theorem Thorough.optional (thorough : Thorough reader) : Thorough (optional reader) where
  skips {depth node value} ran := by
    cases node with
    | null => rfl
    | _ =>
      obtain ⟨start, read, -⟩ := map_eq_ok_iff.mp ran
      exact thorough.skips read
  mended {depth node value} ran := by
    cases node with
    | null => exact ran
    | _ =>
      obtain ⟨start, read, value_eq⟩ := map_eq_ok_iff.mp ran
      exact map_eq_ok_iff.mpr ⟨start, thorough.mended read, value_eq⟩

theorem Thorough.items (thorough : Thorough reader) {depth : Nat} {nodes : List Node}
    {values : List α} (ran : items reader depth nodes = .ok values) :
    skipItems nodes = .ok () ∧ Reader.items reader depth (mendedItems nodes) = .ok values := by
  induction nodes generalizing values with
  | nil => exact ⟨rfl, ran⟩
  | cons node rest ih =>
    obtain ⟨first, read, ran⟩ := bind_eq_ok_iff.mp ran
    obtain ⟨others, ran, ended⟩ := bind_eq_ok_iff.mp ran
    obtain ⟨skips, mended⟩ := ih ran
    refine ⟨skipItems_cons (thorough.skips read) skips, ?_⟩
    exact bind_eq_ok_iff.mpr ⟨first, thorough.mended read, bind_eq_ok_iff.mpr ⟨others, mended, ended⟩⟩

theorem Thorough.list (thorough : Thorough reader) : Thorough (list reader) where
  skips {depth node value} ran := by
    cases node with
    | list nodes stop =>
      obtain ⟨inner, -, ran⟩ := bind_eq_ok_iff.mp ran
      obtain ⟨values, read, ran⟩ := bind_eq_ok_iff.mp ran
      obtain ⟨_, closed, -⟩ := bind_eq_ok_iff.mp ran
      obtain rfl := ListEnd.read_eq_ok_iff.mp closed
      exact Node.skip_list (thorough.items read).1
    | _ => exact absurd ran (Node.refuse_ne_ok _ _ _)
  mended {depth node value} ran := by
    cases node with
    | list nodes stop =>
      obtain ⟨inner, entered, ran⟩ := bind_eq_ok_iff.mp ran
      obtain ⟨values, read, ended⟩ := bind_eq_ok_iff.mp ran
      exact bind_eq_ok_iff.mpr ⟨inner, entered,
        bind_eq_ok_iff.mpr ⟨values, (thorough.items read).2, ended⟩⟩
    | _ => exact absurd ran (Node.refuse_ne_ok _ _ _)

theorem Thorough.members (thorough : Thorough reader) {depth : Nat} {start values : SortedMap α}
    {members : List (StringToken × Node)} (ran : entries reader depth start members = .ok values) :
    skipMembers members = .ok () ∧
      entries reader depth start (mendedMembers members) = .ok values := by
  induction members generalizing start with
  | nil => exact ⟨rfl, ran⟩
  | cons member rest ih =>
    obtain ⟨key, node⟩ := member
    obtain ⟨name, named, ran⟩ := bind_eq_ok_iff.mp ran
    obtain ⟨first, read, ran⟩ := bind_eq_ok_iff.mp ran
    obtain ⟨skips, mended⟩ := ih ran
    refine ⟨skipMembers_cons named (thorough.skips read) skips, ?_⟩
    rw [mendedMembers, StringToken.mended_of_text named]
    exact bind_eq_ok_iff.mpr ⟨name, named, bind_eq_ok_iff.mpr ⟨first, thorough.mended read, mended⟩⟩

theorem Thorough.entries (thorough : Thorough reader) : Thorough (Reader.map reader) where
  skips {depth node value} ran := by
    cases node with
    | object members stop =>
      obtain ⟨inner, -, ran⟩ := bind_eq_ok_iff.mp ran
      obtain ⟨values, read, ran⟩ := bind_eq_ok_iff.mp ran
      obtain ⟨_, closed, -⟩ := bind_eq_ok_iff.mp ran
      obtain rfl := ObjectEnd.read_eq_ok_iff.mp closed
      exact Node.skip_object (thorough.members read).1
    | _ => exact absurd ran (Node.refuse_ne_ok _ _ _)
  mended {depth node value} ran := by
    cases node with
    | object members stop =>
      obtain ⟨inner, entered, ran⟩ := bind_eq_ok_iff.mp ran
      obtain ⟨values, read, ended⟩ := bind_eq_ok_iff.mp ran
      exact bind_eq_ok_iff.mpr ⟨inner, entered,
        bind_eq_ok_iff.mpr ⟨values, (thorough.members read).2, ended⟩⟩
    | _ => exact absurd ran (Node.refuse_ne_ok _ _ _)

end Reader

/-! ## Records -/

variable {δ α : Type}

/-- What the field stores can be skipped, and strings without a text are not part of it. -/
structure Field.Thorough (field : Field δ) : Prop where
  skips {depth : Nat} {node : Node} {before after : δ}
    (stored : field.store depth node before = .ok after) : node.skip = .ok ()
  mended {depth : Nat} {node : Node} {before after : δ}
    (stored : field.store depth node before = .ok after) :
    field.store depth node.mended before = .ok after

theorem Field.mayHave_thorough {reader : Reader α} (thorough : reader.Thorough) (name : String)
    (set : α → δ → δ) : (mayHave name reader set).Thorough where
  skips stored := by
    obtain ⟨value, read, -⟩ := map_eq_ok_iff.mp stored
    exact thorough.skips read
  mended stored := by
    obtain ⟨value, read, after_eq⟩ := map_eq_ok_iff.mp stored
    exact map_eq_ok_iff.mpr ⟨value, thorough.mended read, after_eq⟩

theorem Field.mustHave_thorough {reader : Reader α} (thorough : reader.Thorough) (name : String)
    (set : α → δ → δ) : (mustHave name reader set).Thorough where
  skips := (Field.mayHave_thorough thorough name set).skips
  mended := (Field.mayHave_thorough thorough name set).mended

namespace Record

variable {fields : List (Field δ)} {depth : Nat}

theorem readMembers_thorough (thorough : ∀ field ∈ fields, field.Thorough)
    {members : List (StringToken × Node)} {seen : List String} {before : δ}
    {result : List String × δ} (ran : readMembers fields depth seen before members = .ok result) :
    skipMembers members = .ok () ∧
      readMembers fields depth seen before (mendedMembers members) = .ok result := by
  induction members generalizing seen before with
  | nil => exact ⟨rfl, ran⟩
  | cons member rest ih =>
    obtain ⟨key, node⟩ := member
    obtain ⟨name, named, ran⟩ := bind_eq_ok_iff.mp ran
    rw [mendedMembers, StringToken.mended_of_text named, readMembers, bind_eq_ok_iff]
    cases asked : fields.find? fun field => field.name = name with
    | none =>
      simp only [asked] at ran
      obtain ⟨_, skips, ran⟩ := bind_eq_ok_iff.mp ran
      obtain ⟨others, mended⟩ := ih ran
      refine ⟨skipMembers_cons named skips others, name, named, ?_⟩
      simp only [asked]
      exact bind_eq_ok_iff.mpr ⟨(), node.skip_mended.trans skips, mended⟩
    | some field =>
      simp only [asked] at ran
      split at ran
      · cases ran
      next fresh =>
      obtain ⟨middle, stored, ran⟩ := bind_eq_ok_iff.mp ran
      obtain ⟨others, mended⟩ := ih ran
      have known := thorough field (List.mem_of_find?_eq_some asked)
      refine ⟨skipMembers_cons named (known.skips stored) others, name, named, ?_⟩
      simp only [asked, if_neg fresh]
      exact bind_eq_ok_iff.mpr ⟨middle, known.mended stored, mended⟩

theorem endOfFields_eq_ok_iff {stop : ListEnd} : endOfFields stop = .ok () ↔ stop = .closed := by
  cases stop <;> simp [endOfFields, ListEnd.read]

theorem readItems_thorough {record : Record δ} (thorough : ∀ field ∈ fields, field.Thorough)
    {stop : ListEnd} {position : Nat} {items : List Node} {before after : δ}
    (ran : readItems record depth stop position fields items before = .ok after) :
    stop = .closed ∧ skipItems items = .ok () ∧
      readItems record depth stop position fields (mendedItems items) before = .ok after := by
  induction fields generalizing position items before with
  | nil =>
    cases items with
    | nil =>
      obtain ⟨_, ended, -⟩ := map_eq_ok_iff.mp ran
      exact ⟨endOfFields_eq_ok_iff.mp ended, rfl, ran⟩
    | cons node nodes => cases ran
  | cons field rest ih =>
    obtain ⟨first, others⟩ := List.forall_mem_cons.mp thorough
    cases items with
    | nil =>
      obtain ⟨_, closed, -⟩ := bind_eq_ok_iff.mp ran
      exact ⟨ListEnd.read_eq_ok_iff.mp closed, rfl, ran⟩
    | cons node nodes =>
      obtain ⟨middle, stored, ran⟩ := bind_eq_ok_iff.mp ran
      obtain ⟨closed, skips, mended⟩ := ih others ran
      refine ⟨closed, skipItems_cons (first.skips stored) skips, ?_⟩
      exact bind_eq_ok_iff.mpr ⟨middle, first.mended stored, mended⟩

/-- A record is read thoroughly when its fields are. -/
theorem read_thorough {record : Record δ} (thorough : ∀ field ∈ record.fields, field.Thorough) :
    Reader.Thorough record.read where
  skips {depth node value} ran := by
    cases node with
    | object members stop =>
      obtain ⟨rfl, inner, seen, -, ran, -⟩ := read_object_eq_ok_iff.mp ran
      exact Node.skip_object (readMembers_thorough thorough ran).1
    | list items stop =>
      obtain ⟨inner, -, ran⟩ := bind_eq_ok_iff.mp ran
      obtain ⟨rfl, skips, -⟩ := readItems_thorough thorough ran
      exact Node.skip_list skips
    | _ => exact absurd ran (Node.refuse_ne_ok _ _ _)
  mended {depth node value} ran := by
    cases node with
    | object members stop =>
      obtain ⟨closed, inner, seen, entered, ran, all⟩ := read_object_eq_ok_iff.mp ran
      exact read_object_eq_ok_iff.mpr
        ⟨closed, inner, seen, entered, (readMembers_thorough thorough ran).2, all⟩
    | list items stop =>
      obtain ⟨inner, entered, ran⟩ := bind_eq_ok_iff.mp ran
      obtain ⟨-, -, mended⟩ := readItems_thorough thorough ran
      exact bind_eq_ok_iff.mpr ⟨inner, entered, mended⟩
    | _ => exact absurd ran (Node.refuse_ne_ok _ _ _)

/-! ## One field on its own -/

variable {δ' : Type} {reader : Reader α} {get : δ → α} {name : String} {set : α → δ' → δ'}

/-- Where all members of a record are read, those of one name are read on their own, and the others
are skipped. -/
theorem readMembers_alone (thorough : ∀ field ∈ fields, field.Thorough)
    (tracks : Tracks fields name reader get) (known : ∃ field ∈ fields, field.name = name)
    {members : List (StringToken × Node)} {seen seen' : List String} {before : δ}
    {result : List String × δ} (fewer : name ∈ seen' → name ∈ seen)
    (ran : readMembers fields depth seen before members = .ok result) (before' : δ') :
    ∃ result', readMembers [.mayHave name reader set] depth seen' before' members =
      .ok result' := by
  induction members generalizing seen seen' before before' with
  | nil => exact ⟨_, rfl⟩
  | cons member rest ih =>
    obtain ⟨key, node⟩ := member
    simp only [readMembers]
    obtain ⟨found, named,
        ⟨unknown, skips, ran⟩ | ⟨field, member, rfl, fresh, middle, stored, ran⟩⟩ :=
      readMembers_cons_eq_ok ran
    · have other : name ≠ found := by
        rintro rfl
        obtain ⟨field, member, same⟩ := known
        exact unknown field member same
      obtain ⟨result', ran'⟩ := ih fewer ran before'
      refine ⟨result', bind_eq_ok_iff.mpr ⟨found, named, ?_⟩⟩
      simp only [List.find?_singleton, Field.mayHave, other, decide_false, Bool.false_eq_true,
        if_false]
      exact bind_eq_ok_iff.mpr ⟨(), skips, ran'⟩
    by_cases same : field.name = name
    · have read := tracks field member depth node before middle stored
      rw [if_pos same] at read
      have unseen : name ∉ seen' := fun there => fresh (same ▸ fewer there)
      have fewer' : name ∈ name :: seen' → name ∈ field.name :: seen := by simp [same]
      obtain ⟨result', ran'⟩ := ih fewer' ran (set (get middle) before')
      refine ⟨result', bind_eq_ok_iff.mpr ⟨name, same ▸ named, ?_⟩⟩
      simp only [List.find?_singleton, Field.mayHave, decide_true, if_true, unseen, if_false]
      exact bind_eq_ok_iff.mpr ⟨_, map_eq_ok_iff.mpr ⟨_, read, rfl⟩, ran'⟩
    · have skips := (thorough field member).skips stored
      obtain ⟨result', ran'⟩ := ih (fun there => List.mem_cons_of_mem _ (fewer there)) ran before'
      refine ⟨result', bind_eq_ok_iff.mpr ⟨field.name, named, ?_⟩⟩
      simp only [List.find?_singleton, Field.mayHave, Ne.symm same, decide_false,
        Bool.false_eq_true, if_false]
      exact bind_eq_ok_iff.mpr ⟨(), skips, ran'⟩

/-- Where a record is read from an object, so is the record that has one of its fields only. -/
theorem read_alone {whole : Record δ} {part : Record δ'} {get' : δ' → α}
    (fields_eq : part.fields = [.mayHave name reader set])
    (sets : ∀ value record, get' (set value record) = value)
    (thorough : ∀ field ∈ whole.fields, field.Thorough)
    (tracks : Tracks whole.fields name reader get)
    (known : ∃ field ∈ whole.fields, field.name = name)
    (initial : get' part.empty = get whole.empty)
    {members : List (StringToken × Node)} {stop : ObjectEnd} {value : δ}
    (ran : whole.read depth (.object members stop) = .ok value) :
    ∃ value', part.read depth (.object members stop) = .ok value' ∧ get' value' = get value := by
  have tracks' : Tracks part.fields name reader get' := by
    simp [Tracks, fields_eq, Field.mayHave, map_eq_ok_iff, sets]
  have known' : ∃ field ∈ part.fields, field.name = name := by simp [fields_eq, Field.mayHave]
  have optional : ∀ field ∈ part.fields, ¬ field.required := by simp [fields_eq, Field.mayHave]
  obtain ⟨closed, inner, seen, entered, stored, -⟩ := read_object_eq_ok_iff.mp ran
  have fewer : name ∈ ([] : List String) → name ∈ ([] : List String) := id
  obtain ⟨⟨seen', value'⟩, stored'⟩ :=
    readMembers_alone thorough tracks known fewer stored part.empty
  rw [← fields_eq] at stored'
  have ran' : part.read depth (.object members stop) = .ok value' :=
    read_object_eq_ok_iff.mpr ⟨closed, inner, seen', entered, stored',
      fun field member required => absurd required (optional field member)⟩
  refine ⟨value', ran', ?_⟩
  obtain ⟨_, _, entered, -, tracked⟩ := read_object_tracks tracks known ran
  obtain ⟨_, _, entered', -, tracked'⟩ := read_object_tracks tracks' known' ran'
  cases entered.symm.trans entered'
  rw [initial] at tracked'
  exact tracked'.unique tracked

end Record

end ArtifactRegistry.Json
