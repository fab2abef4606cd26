import ArtifactRegistry.Descriptor.Json
import ArtifactRegistry.Proofs.Json.Records
import ArtifactRegistry.Proofs.Json.Tree
import ArtifactRegistry.Proofs.SortedMap

/-! # Readers on written values

What each reader makes of the tree of a value that was written for it. Texts, integers, lists and
maps give back what was written. A record gives back what was written when its members follow its
fields in declared order, fields that were left out have their value from the empty record, and
members between them that it does not know can be skipped: `Record.read_of_written`.
-/

namespace ArtifactRegistry.Json

/-- Objects and lists have their members and items inside one more level. -/
theorem enter_eq_ok {depth : Nat} (shallow : depth + 1 < nestingLimit) :
    enter depth = .ok (depth + 1) := by
  rw [enter, if_pos shallow]

namespace Reader

variable {α : Type} {depth : Nat}

theorem text_string (value : String) : Reader.text depth (Value.string value).node = .ok value :=
  StringToken.text_ofText value

theorem integer_ofInt {low high value : Int} (expected : String) (above : low ≤ value)
    (below : value ≤ high) (small : -0x8000000000000000 ≤ value)
    (large : value ≤ 0xffffffffffffffff) :
    Reader.integer low high expected depth (Value.ofInt value).node = .ok value := by
  simp only [Value.ofInt, Value.node, integer, Numeral.value_ofInt small large, bind, Except.bind,
    above, below, and_self, if_true]
  rfl

theorem size_ofInt (value : Int64) :
    Reader.size depth (Value.ofInt value.toInt).node = .ok value := by
  have above := value.le_toInt
  have below := value.toInt_lt
  have low : -0x8000000000000000 ≤ value.toInt := by omega
  rw [size, integer_ofInt "i64" low (by omega) low (by omega)]
  exact congrArg Except.ok value.ofInt_toInt

/-- A reader that reads every item reads the list. -/
theorem list_node {item : Reader α} {toJson : α → Value} {values : List α}
    (shallow : depth + 1 < nestingLimit)
    (reads : ∀ value ∈ values, item (depth + 1) (toJson value).node = .ok value) :
    Reader.list item depth (Value.list (values.map toJson)).node = .ok values := by
  have all : items item (depth + 1) (itemNodes (values.map toJson)) = .ok values := by
    clear shallow
    induction values with
    | nil => rfl
    | cons value rest ih =>
      obtain ⟨here, others⟩ := List.forall_mem_cons.mp reads
      rw [List.map_cons, itemNodes, items, here]
      simp only [bind, Except.bind, ih others]
      rfl
  simp only [Value.node, list, enter_eq_ok shallow, all, bind, Except.bind]
  rfl

theorem list_ofTexts (texts : List String) (shallow : depth + 1 < nestingLimit) :
    Reader.list .text depth (Value.ofTexts texts).node = .ok texts :=
  list_node shallow fun text _ => text_string text

/-- Entries in ascending order are put behind those that are there already. -/
private theorem entries_ofMap (map : SortedMap String) (start : List (String × String)) :
    ∀ rest, start ++ rest = map.entries → ∀ before : SortedMap String, before.entries = start →
      entries .text depth before
        (memberNodes (rest.map fun entry => (entry.1, Value.string entry.2))) = .ok map := by
  intro rest
  induction rest generalizing start with
  | nil =>
    rintro whole before rfl
    rw [List.append_nil] at whole
    exact congrArg Except.ok (SortedMap.ext whole)
  | cons entry rest ih =>
    rintro whole before rfl
    have ascending := map.ascending
    rw [← whole, List.pairwise_append] at ascending
    obtain ⟨-, -, across⟩ := ascending
    rw [List.map_cons, memberNodes, entries, StringToken.text_ofText]
    simp only [bind, Except.bind, text_string]
    apply ih (before.entries ++ [entry])
    · rw [List.append_assoc, List.singleton_append, whole]
    · apply SortedMap.entries_insert_of_lt
      intro earlier member
      exact across earlier member entry List.mem_cons_self

theorem map_ofMap (map : SortedMap String) (shallow : depth + 1 < nestingLimit) :
    Reader.map .text depth (Value.ofMap map).node = .ok map := by
  have all : entries .text (depth + 1) ∅
      (memberNodes (map.entries.map fun entry => (entry.1, Value.string entry.2))) = .ok map :=
    entries_ofMap map [] map.entries rfl ∅ rfl
  simp only [Value.ofMap, Value.node, Reader.map, enter_eq_ok shallow, all, bind, Except.bind]
  rfl

/-- What is not null is read as something. -/
theorem optional_node {reader : Reader α} {node : Node} {value : α}
    (reads : reader depth node = .ok value) (something : node ≠ .null) :
    Reader.optional reader depth node = .ok (some value) := by
  cases node with
  | null => exact absurd rfl something
  | _ =>
    rw [optional, reads]
    · rfl
    · exact something

end Reader

/-! ## Values of any shape -/

mutual

/-- Whether a value nests no deeper than a number of levels and has integers of 64 bits for its only
numbers. -/
def Value.fits : Nat → Value → Bool
  | _, .number (.integer value) => -0x8000000000000000 ≤ value && value ≤ 0xffffffffffffffff
  | _, .number (.float _) => false
  | 0, .list _ | 0, .object _ => false
  | levels + 1, .list items => itemsFit levels items
  | levels + 1, .object members => membersFit levels members
  | _, _ => true

def itemsFit (levels : Nat) : List Value → Bool
  | [] => true
  | item :: rest => item.fits levels && itemsFit levels rest

def membersFit (levels : Nat) : List (String × Value) → Bool
  | [] => true
  | (_, value) :: rest => value.fits levels && membersFit levels rest

end

@[simp] theorem itemsFit_map {α : Type} {levels : Nat} {values : List α} {toJson : α → Value} :
    itemsFit levels (values.map toJson) = values.all fun value => (toJson value).fits levels := by
  induction values with
  | nil => rfl
  | cons value rest ih => rw [List.map_cons, itemsFit, ih, List.all_cons]

@[simp] theorem membersFit_append {levels : Nat} {before after : List (String × Value)} :
    membersFit levels (before ++ after) = (membersFit levels before && membersFit levels after) := by
  induction before with
  | nil => rfl
  | cons member rest ih => rw [List.cons_append, membersFit, membersFit, ih, Bool.and_assoc]

@[simp] theorem membersFit_map {α : Type} {levels : Nat} {values : List α} {key : α → String}
    {toJson : α → Value} :
    membersFit levels (values.map fun value => (key value, toJson value)) =
      values.all fun value => (toJson value).fits levels := by
  induction values with
  | nil => rfl
  | cons value rest ih => rw [List.map_cons, membersFit, ih, List.all_cons]

@[simp] theorem membersFit_member {levels : Nat} {key : String} {shown : Bool} {json : Value} :
    membersFit levels (Value.member key shown json) = (!shown || json.fits levels) := by
  cases shown <;> simp [Value.member, membersFit]

@[simp] theorem membersFit_textMember? {levels : Nat} {key : String} {text? : Option String} :
    membersFit levels (Value.textMember? key text?) = true := by
  simp [Value.textMember?, Value.fits]

mutual

theorem isIntegral_of_fits : ∀ {value : Value} {levels : Nat}, value.fits levels = true →
    value.isIntegral = true
  | .null, _, _ | .boolean _, _, _ | .string _, _, _ | .number (.integer _), _, _ => rfl
  | .number (.float _), _, fits => nomatch fits
  | .list _, 0, fits | .object _, 0, fits => nomatch fits
  | .list _, _ + 1, fits => itemsAreIntegral_of_fit fits
  | .object _, _ + 1, fits => membersAreIntegral_of_fit fits

theorem itemsAreIntegral_of_fit : ∀ {items : List Value} {levels : Nat},
    itemsFit levels items = true → itemsAreIntegral items = true
  | [], _, _ => rfl
  | item :: rest, levels, fit => by
    obtain ⟨here, others⟩ := Bool.and_eq_true_iff.mp fit
    exact Bool.and_eq_true_iff.mpr ⟨isIntegral_of_fits here, itemsAreIntegral_of_fit others⟩

theorem membersAreIntegral_of_fit : ∀ {members : List (String × Value)} {levels : Nat},
    membersFit levels members = true → membersAreIntegral members = true
  | [], _, _ => rfl
  | (key, value) :: rest, levels, fit => by
    obtain ⟨here, others⟩ := Bool.and_eq_true_iff.mp fit
    exact Bool.and_eq_true_iff.mpr ⟨isIntegral_of_fits here, membersAreIntegral_of_fit others⟩

end

mutual

/-- Whatever was written can be skipped. -/
theorem skip_node : ∀ {value : Value}, value.isIntegral = true → value.node.skip = .ok ()
  | .null, _ | .boolean _, _ | .string _, _ | .number (.integer _), _ => rfl
  | .number (.float _), integral => nomatch integral
  | .list items, integral => by
    rw [Value.node, Node.skip, skipItems_nodes integral]
    rfl
  | .object members, integral => by
    rw [Value.node, Node.skip, skipMembers_nodes integral]
    rfl

theorem skipItems_nodes : ∀ {items : List Value}, itemsAreIntegral items = true →
    skipItems (itemNodes items) = .ok ()
  | [], _ => rfl
  | item :: rest, integral => by
    obtain ⟨here, others⟩ := Bool.and_eq_true_iff.mp integral
    rw [itemNodes, skipItems, skip_node here, skipItems_nodes others]
    rfl

theorem skipMembers_nodes : ∀ {members : List (String × Value)}, membersAreIntegral members = true →
    skipMembers (memberNodes members) = .ok ()
  | [], _ => rfl
  | (key, value) :: rest, integral => by
    obtain ⟨here, others⟩ := Bool.and_eq_true_iff.mp integral
    rw [memberNodes, skipMembers, skip_node here, skipMembers_nodes others]
    rfl

end

mutual

/-- What becomes of a value that is written and read: the members of its objects are sorted, and the
last of equal keys stays. -/
def Value.settle : Value → Value
  | .list items => .list (settleItems items)
  | .object members => .object (settleMembers members [])
  | value => value

def settleItems : List Value → List Value
  | [] => []
  | item :: rest => item.settle :: settleItems rest

def settleMembers : List (String × Value) → List (String × Value) → List (String × Value)
  | [], before => before
  | (key, value) :: rest, before =>
    settleMembers rest (SortedMap.insertEntry key value.settle before)

end

mutual

/-- A written value that does not nest too deep can be read. -/
theorem readValue_node : ∀ {value : Value} {levels : Nat} (depth : Nat),
    value.fits levels = true → depth + levels < nestingLimit →
    readValue depth value.node = .ok value.settle
  | .null, _, _, _, _ | .boolean _, _, _, _, _ => rfl
  | .string text, _, _, _, _ => by
    rw [Value.node, readValue, StringToken.text_ofText]
    rfl
  | .number (.integer value), _, _, fits, _ => by
    obtain ⟨small, large⟩ := Bool.and_eq_true_iff.mp fits
    rw [Value.node, readValue, Numeral.value_ofInt (of_decide_eq_true small)
      (of_decide_eq_true large)]
    rfl
  | .number (.float _), _, _, fits, _ => nomatch fits
  | .list _, 0, _, fits, _ | .object _, 0, _, fits, _ => nomatch fits
  | .list items, levels + 1, depth, fits, shallow => by
    rw [Value.node, readValue, enter_eq_ok (by omega)]
    simp only [bind, Except.bind, readValues_nodes (depth + 1) fits (by omega)]
    rfl
  | .object members, levels + 1, depth, fits, shallow => by
    rw [Value.node, readValue, enter_eq_ok (by omega)]
    simp only [bind, Except.bind, readMembers_nodes (depth + 1) fits (by omega) []]
    rfl

theorem readValues_nodes : ∀ {items : List Value} {levels : Nat} (depth : Nat),
    itemsFit levels items = true → depth + levels < nestingLimit →
    readValues depth (itemNodes items) = .ok (settleItems items)
  | [], _, _, _, _ => rfl
  | item :: rest, levels, depth, fit, shallow => by
    obtain ⟨here, others⟩ := Bool.and_eq_true_iff.mp fit
    rw [itemNodes, readValues, readValue_node depth here shallow]
    simp only [bind, Except.bind, readValues_nodes depth others shallow]
    rfl

theorem readMembers_nodes : ∀ {members : List (String × Value)} {levels : Nat} (depth : Nat),
    membersFit levels members = true → depth + levels < nestingLimit →
    ∀ before, readMembers depth (memberNodes members) before = .ok (settleMembers members before)
  | [], _, _, _, _, _ => rfl
  | (key, value) :: rest, levels, depth, fit, shallow, before => by
    obtain ⟨here, others⟩ := Bool.and_eq_true_iff.mp fit
    rw [memberNodes, readMembers, StringToken.text_ofText]
    simp only [bind, Except.bind, readValue_node depth here shallow]
    exact readMembers_nodes depth others shallow _

end

/-! ## Records -/

namespace Record

variable {δ α : Type} {all fields : List (Field δ)} {depth : Nat} {before middle after : δ}
  {members : List (String × Value)}

/-- Members that follow some fields in declared order, and what storing them does. Members that are
not among all fields may stand anywhere, and optional fields may have no member. -/
inductive Written (all : List (Field δ)) (depth : Nat) :
    List (Field δ) → List (String × Value) → δ → δ → Prop
  | done (record : δ) : Written all depth [] [] record record
  | unknown {fields : List (Field δ)} {key : String} {value : Value}
      {members : List (String × Value)} {before after : δ}
      (foreign : ∀ field ∈ all, field.name ≠ key) (integral : value.isIntegral = true)
      (rest : Written all depth fields members before after) :
      Written all depth fields ((key, value) :: members) before after
  | absent {field : Field δ} {fields : List (Field δ)} {members : List (String × Value)}
      {before after : δ} (optional : field.required = false)
      (rest : Written all depth fields members before after) :
      Written all depth (field :: fields) members before after
  | present {field : Field δ} {fields : List (Field δ)} {value : Value}
      {members : List (String × Value)} {before middle after : δ}
      (stored : field.store depth value.node before = .ok middle)
      (rest : Written all depth fields members middle after) :
      Written all depth (field :: fields) ((field.name, value) :: members) before after

theorem find?_name {field : Field δ} (distinct : (all.map Field.name).Nodup)
    (member : field ∈ all) : (all.find? fun other => other.name = field.name) = some field := by
  induction all with
  | nil => cases member
  | cons first rest ih =>
    obtain ⟨fresh, distinct⟩ := List.nodup_cons.mp distinct
    rcases List.mem_cons.mp member with rfl | member
    · exact List.find?_cons_of_pos (decide_eq_true rfl)
    · have differs : first.name ≠ field.name := by
        intro same
        rw [same] at fresh
        exact fresh (List.mem_map_of_mem member)
      rw [List.find?_cons_of_neg (by simpa using differs), ih distinct member]

/-- Reading the members stores them all, and required fields have been seen in the end. -/
theorem Written.readMembers_eq (distinct : (all.map Field.name).Nodup)
    (written : Written all depth fields members before after) (inside : fields.Sublist all)
    {seen : List String} (unseen : ∀ field ∈ fields, field.name ∉ seen) :
    ∃ seenAfter, readMembers all depth seen before (memberNodes members) = .ok (seenAfter, after) ∧
      seen ⊆ seenAfter ∧ ∀ field ∈ fields, field.required → field.name ∈ seenAfter := by
  induction written generalizing seen with
  | done => exact ⟨seen, rfl, fun _ => id, nofun⟩
  | @unknown fields key value members before after foreign integral rest ih =>
    obtain ⟨seenAfter, reads, kept, required⟩ := ih inside unseen
    refine ⟨seenAfter, ?_, kept, required⟩
    have notFound : (all.find? fun field => field.name = key) = none := by
      rw [List.find?_eq_none]
      intro field member
      simpa using foreign field member
    rw [memberNodes, readMembers, StringToken.text_ofText]
    simp only [bind, Except.bind, notFound, skip_node integral]
    exact reads
  | @absent field fields members before after optional rest ih =>
    have others := (List.forall_mem_cons.mp unseen).2
    obtain ⟨seenAfter, reads, kept, required⟩ :=
      ih ((List.sublist_cons_self _ _).trans inside) others
    refine ⟨seenAfter, reads, kept, ?_⟩
    rw [List.forall_mem_cons]
    constructor
    · intro needed
      rw [optional] at needed
      cases needed
    · exact required
  | @present field fields value members before middle after stored rest ih =>
    have found := find?_name distinct (inside.subset List.mem_cons_self)
    have distinctHere := List.nodup_cons.mp (distinct.sublist (inside.map Field.name))
    have unseenNext : ∀ other ∈ fields, other.name ∉ field.name :: seen := by
      intro other member
      rw [List.mem_cons, not_or]
      constructor
      · intro same
        apply distinctHere.1
        rw [← same]
        exact List.mem_map_of_mem member
      · exact unseen other (List.mem_cons_of_mem _ member)
    obtain ⟨seenAfter, reads, kept, required⟩ :=
      ih ((List.sublist_cons_self _ _).trans inside) unseenNext
    obtain ⟨here, before_subset⟩ := List.cons_subset.mp kept
    refine ⟨seenAfter, ?_, before_subset, List.forall_mem_cons.mpr ⟨fun _ => here, required⟩⟩
    rw [memberNodes, readMembers, StringToken.text_ofText]
    simp only [bind, Except.bind, found, unseen field List.mem_cons_self, if_false, stored]
    exact reads

/-- A record is read from members that were written for it. -/
theorem read_of_written {record : Record δ} (distinct : (record.fields.map Field.name).Nodup)
    (shallow : depth + 1 < nestingLimit)
    (written : Written record.fields (depth + 1) record.fields (members ++ []) record.empty after) :
    record.read depth (Value.object members).node = .ok after := by
  rw [List.append_nil] at written
  obtain ⟨seen, reads, -, required⟩ := written.readMembers_eq distinct (.refl _) fun _ _ => List.not_mem_nil
  rw [Value.node, read_object_eq_ok_iff]
  exact ⟨rfl, depth + 1, seen, enter_eq_ok shallow, reads, required⟩

/-! ### How fields are written -/

namespace Written

variable {name : String} {reader : Reader α} {set : α → δ → δ} {value : α} {json : Value}

/-- A member that the record does not know. -/
theorem skip {levels : Nat} (foreign : name ∉ all.map Field.name) (fits : json.fits levels = true)
    (rest : Written all depth fields members before after) :
    Written all depth fields ((name, json) :: members) before after :=
  .unknown (fun _ member same => foreign (same ▸ List.mem_map_of_mem member))
    (isIntegral_of_fits fits) rest

theorem skipShown {levels : Nat} {shown : Bool} (foreign : name ∉ all.map Field.name)
    (fits : json.fits levels = true) (rest : Written all depth fields members before after) :
    Written all depth fields (Value.member name shown json ++ members) before after := by
  cases shown with
  | true => exact skip foreign fits rest
  | false => exact rest

theorem skipSome {levels : Nat} {toJson : α → Value} {value? : Option α}
    (foreign : name ∉ all.map Field.name) (fits : ∀ value, (toJson value).fits levels = true)
    (rest : Written all depth fields members before after) :
    Written all depth fields ((value?.toList.map fun value => (name, toJson value)) ++ members)
      before after := by
  cases value? with
  | some value => exact skip foreign (fits value) rest
  | none => exact rest

/-- A field that is always written. -/
theorem always (reads : reader depth json.node = .ok value)
    (rest : Written all depth fields members (set value before) after) :
    Written all depth (.mayHave name reader set :: fields) ((name, json) :: members) before after :=
  .present (congrArg (Except.map (set · before)) reads) rest

/-- A required field. -/
theorem must (reads : reader depth json.node = .ok value)
    (rest : Written all depth fields members (set value before) after) :
    Written all depth (.mustHave name reader set :: fields) ((name, json) :: members) before
      after :=
  .present (congrArg (Except.map (set · before)) reads) rest

/-- A field that is left out when it says the same as the record without it. -/
theorem ifShown {shown : Bool} (reads : reader depth json.node = .ok value)
    (needless : shown = false → set value before = before)
    (rest : Written all depth fields members (set value before) after) :
    Written all depth (.mayHave name reader set :: fields)
      (Value.member name shown json ++ members) before after := by
  cases shown with
  | true => exact always reads rest
  | false => exact .absent rfl (needless rfl ▸ rest)

/-- A field that is left out when there is nothing. -/
theorem ifSome {set : Option α → δ → δ} {value? : Option α} {toJson : α → Value}
    (reads : ∀ value ∈ value?, reader depth (toJson value).node = .ok value)
    (something : ∀ value, (toJson value).node ≠ .null)
    (needless : set none before = before)
    (rest : Written all depth fields members (set value? before) after) :
    Written all depth (.mayHave name (.optional reader) set :: fields)
      ((value?.toList.map fun value => (name, toJson value)) ++ members) before after := by
  cases value? with
  | none => exact .absent rfl (needless ▸ rest)
  | some value => exact always (Reader.optional_node (reads value rfl) (something value)) rest

/-- A text that is left out when there is none. -/
theorem textIfSome {set : Option String → δ → δ} {text? : Option String}
    (needless : set none before = before)
    (rest : Written all depth fields members (set text? before) after) :
    Written all depth (.mayHave name (.optional .text) set :: fields)
      (Value.textMember? name text? ++ members) before after :=
  ifSome (fun _ _ => Reader.text_string _) (fun _ => nofun) needless rest

end Written

end Record

end ArtifactRegistry.Json
