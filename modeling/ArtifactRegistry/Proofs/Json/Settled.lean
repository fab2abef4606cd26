import ArtifactRegistry.Proofs.Json.RoundTrip

/-! # Values that were read

A value that was read is settled: every object has its members in ascending order of their keys, each
key once, integers have 64 bits, and nothing nests deeper than the reader goes, `readValue_settled`.
So reading it once more, from whatever layout it was written in, changes nothing: `parse_write`.
-/

namespace ArtifactRegistry.Json

/-- A value that can come of reading with a number of levels to go. -/
inductive Value.Settled : Nat → Value → Prop
  | null {levels : Nat} : Settled levels .null
  | boolean {levels : Nat} (value : Bool) : Settled levels (.boolean value)
  | integer {levels : Nat} {value : Int} (low : -0x8000000000000000 ≤ value)
      (high : value ≤ 0xffffffffffffffff) : Settled levels (.number (.integer value))
  | float {levels : Nat} (value : Float) : Settled levels (.number (.float value))
  | string {levels : Nat} (value : String) : Settled levels (.string value)
  | list {levels : Nat} {items : List Value} (inside : ∀ item ∈ items, Settled levels item) :
      Settled (levels + 1) (.list items)
  | object {levels : Nat} {members : List (String × Value)}
      (ascending : members.Pairwise fun a b => a.1 < b.1)
      (inside : ∀ member ∈ members, Settled levels member.2) :
      Settled (levels + 1) (.object members)

/-! ## What is read is settled -/

theorem depth_of_enter {depth inner : Nat} (entered : enter depth = .ok inner) :
    depth + 1 < nestingLimit ∧ inner = depth + 1 := by
  rw [enter] at entered
  split at entered
  · next shallow =>
    cases entered
    exact ⟨shallow, rfl⟩
  · cases entered

/-- A list is read item by item. -/
theorem readValue_list {depth : Nat} {items : List Node} {stop : ListEnd} {value : Value}
    (reads : readValue depth (.list items stop) = .ok value) :
    depth + 1 < nestingLimit ∧
      ∃ values, readValues (depth + 1) items = .ok values ∧ value = .list values := by
  obtain ⟨inner, entered, continues⟩ := bind_eq_ok_iff.mp reads
  obtain ⟨values, readsItems, ended⟩ := bind_eq_ok_iff.mp continues
  obtain ⟨-, -, ⟨⟩⟩ := bind_eq_ok_iff.mp ended
  obtain ⟨shallow, rfl⟩ := depth_of_enter entered
  exact ⟨shallow, values, readsItems, rfl⟩

/-- An object is read member by member. -/
theorem readValue_object {depth : Nat} {members : List (StringToken × Node)} {stop : ObjectEnd}
    {value : Value} (reads : readValue depth (.object members stop) = .ok value) :
    depth + 1 < nestingLimit ∧
      ∃ after, readMembers (depth + 1) members [] = .ok after ∧ value = .object after := by
  obtain ⟨inner, entered, continues⟩ := bind_eq_ok_iff.mp reads
  obtain ⟨after, readsMembers, ended⟩ := bind_eq_ok_iff.mp continues
  obtain ⟨-, -, ⟨⟩⟩ := bind_eq_ok_iff.mp ended
  obtain ⟨shallow, rfl⟩ := depth_of_enter entered
  exact ⟨shallow, after, readsMembers, rfl⟩

theorem readValues_cons {depth : Nat} {item : Node} {rest : List Node} {values : List Value}
    (reads : readValues depth (item :: rest) = .ok values) :
    ∃ first others, readValue depth item = .ok first ∧ readValues depth rest = .ok others ∧
      values = first :: others := by
  obtain ⟨first, readsFirst, continues⟩ := bind_eq_ok_iff.mp reads
  obtain ⟨others, readsOthers, ⟨⟩⟩ := bind_eq_ok_iff.mp continues
  exact ⟨first, others, readsFirst, readsOthers, rfl⟩

theorem readMembers_cons {depth : Nat} {token : StringToken} {node : Node}
    {rest : List (StringToken × Node)} {before after : List (String × Value)}
    (reads : readMembers depth ((token, node) :: rest) before = .ok after) :
    ∃ key value, token.text = .ok key ∧ readValue depth node = .ok value ∧
      readMembers depth rest (SortedMap.insertEntry key value before) = .ok after := by
  obtain ⟨key, named, continues⟩ := bind_eq_ok_iff.mp reads
  obtain ⟨value, readsValue, readsOthers⟩ := bind_eq_ok_iff.mp continues
  exact ⟨key, value, named, readsValue, readsOthers⟩

/-- A numeral that is read as an integer is one of 64 bits. -/
theorem Numeral.bounds_of_value {numeral : Numeral} {value : Int}
    (reads : numeral.value = .ok (.integer value)) :
    -0x8000000000000000 ≤ value ∧ value ≤ 0xffffffffffffffff := by
  rw [Numeral.value] at reads
  split at reads
  · next plain =>
    have small : Decimal.ofDigits numeral.whole ≤ 0xffffffffffffffff :=
      of_decide_eq_true (Bool.and_eq_true_iff.mp plain).2
    cases reads
    omega
  split at reads
  · next plain =>
    have small : Decimal.ofDigits numeral.whole ≤ 0x8000000000000000 :=
      of_decide_eq_true (Bool.and_eq_true_iff.mp plain).2
    cases reads
    omega
  · obtain ⟨_, -, other⟩ := map_eq_ok_iff.mp reads
    cases other

theorem Value.settled_of_number {levels : Nat} {numeral : Numeral} {number : Number}
    (reads : numeral.value = .ok number) : (Value.number number).Settled levels := by
  cases number with
  | integer value =>
    obtain ⟨low, high⟩ := Numeral.bounds_of_value reads
    exact .integer low high
  | float value => exact .float value

mutual

/-- What is read is settled, with as many levels to go as the limit leaves. -/
theorem readValue_settled : ∀ {node : Node} {depth levels : Nat} {value : Value},
    readValue depth node = .ok value → depth + levels + 1 = nestingLimit → value.Settled levels
  | .null, _, _, _, reads, _ => by
    cases reads
    exact .null
  | .boolean value, _, _, _, reads, _ => by
    cases reads
    exact .boolean value
  | .number numeral, _, _, _, reads, _ => by
    obtain ⟨number, valued, ⟨⟩⟩ := map_eq_ok_iff.mp reads
    exact Value.settled_of_number valued
  | .string token, _, _, _, reads, _ => by
    obtain ⟨text, -, ⟨⟩⟩ := map_eq_ok_iff.mp reads
    exact .string text
  | .list items stop, depth, levels, _, reads, deep => by
    obtain ⟨shallow, values, readsItems, rfl⟩ := readValue_list reads
    -- One level deeper, there is one less to go.
    obtain ⟨fewer, rfl⟩ : ∃ fewer, levels = fewer + 1 := ⟨levels - 1, by omega⟩
    have deeper : depth + 1 + fewer + 1 = nestingLimit := by omega
    exact .list (readValues_settled readsItems deeper)
  | .object members stop, depth, levels, _, reads, deep => by
    obtain ⟨shallow, after, readsMembers, rfl⟩ := readValue_object reads
    obtain ⟨fewer, rfl⟩ : ∃ fewer, levels = fewer + 1 := ⟨levels - 1, by omega⟩
    have deeper : depth + 1 + fewer + 1 = nestingLimit := by omega
    obtain ⟨ascending, inside⟩ := readMembers_settled readsMembers deeper .nil nofun
    exact .object ascending inside

theorem readValues_settled : ∀ {items : List Node} {depth levels : Nat} {values : List Value},
    readValues depth items = .ok values → depth + levels + 1 = nestingLimit →
    ∀ value ∈ values, value.Settled levels
  | [], _, _, _, reads, _ => by
    cases reads
    exact nofun
  | item :: rest, _, _, _, reads, deep => by
    obtain ⟨first, others, readsFirst, readsOthers, rfl⟩ := readValues_cons reads
    exact List.forall_mem_cons.mpr
      ⟨readValue_settled readsFirst deep, readValues_settled readsOthers deep⟩

theorem readMembers_settled : ∀ {members : List (StringToken × Node)} {depth levels : Nat}
    {before after : List (String × Value)},
    readMembers depth members before = .ok after → depth + levels + 1 = nestingLimit →
    (before.Pairwise fun a b => a.1 < b.1) → (∀ member ∈ before, member.2.Settled levels) →
    (after.Pairwise fun a b => a.1 < b.1) ∧ ∀ member ∈ after, member.2.Settled levels
  | [], _, _, _, _, reads, _, ascending, inside => by
    cases reads
    exact ⟨ascending, inside⟩
  | (token, node) :: rest, _, _, before, _, reads, deep, ascending, inside => by
    obtain ⟨key, value, -, readsValue, readsOthers⟩ := readMembers_cons reads
    apply readMembers_settled readsOthers deep (SortedMap.ascending_insertEntry key value ascending)
    intro member written
    rcases SortedMap.mem_insertEntry written with rfl | earlier
    · exact readValue_settled readsValue deep
    · exact inside member earlier

end

theorem Value.settled_of_parse {text : Bytes} {value : Value} (reads : Value.parse text = .ok value) :
    value.Settled (nestingLimit - 1) :=
  readValue_settled (Reader.run_eq_ok_iff.mp reads).1 rfl

/-! ## Settled values are read back -/

theorem itemsFit_of_integral {levels : Nat} {items : List Value}
    (fit : ∀ item ∈ items, item.isIntegral = true → item.fits levels = true)
    (integral : itemsAreIntegral items = true) : itemsFit levels items = true := by
  induction items with
  | nil => rfl
  | cons item rest ih =>
    obtain ⟨fitsFirst, fitOthers⟩ := List.forall_mem_cons.mp fit
    obtain ⟨first, others⟩ := Bool.and_eq_true_iff.mp integral
    exact Bool.and_eq_true_iff.mpr ⟨fitsFirst first, ih fitOthers others⟩

theorem membersFit_of_integral {levels : Nat} {members : List (String × Value)}
    (fit : ∀ member ∈ members, member.2.isIntegral = true → member.2.fits levels = true)
    (integral : membersAreIntegral members = true) : membersFit levels members = true := by
  induction members with
  | nil => rfl
  | cons member rest ih =>
    obtain ⟨fitsFirst, fitOthers⟩ := List.forall_mem_cons.mp fit
    obtain ⟨first, others⟩ := Bool.and_eq_true_iff.mp integral
    exact Bool.and_eq_true_iff.mpr ⟨fitsFirst first, ih fitOthers others⟩

theorem settleItems_eq_self {items : List Value} (same : ∀ item ∈ items, item.settle = item) :
    settleItems items = items := by
  induction items with
  | nil => rfl
  | cons item rest ih =>
    obtain ⟨first, others⟩ := List.forall_mem_cons.mp same
    rw [settleItems, first, ih others]

/-- Members in ascending order are put behind those that are there already. -/
theorem settleMembers_eq_append {before members : List (String × Value)}
    (ascending : (before ++ members).Pairwise fun a b => a.1 < b.1)
    (same : ∀ member ∈ members, member.2.settle = member.2) :
    settleMembers members before = before ++ members := by
  induction members generalizing before with
  | nil => rw [settleMembers, List.append_nil]
  | cons member rest ih =>
    obtain ⟨key, value⟩ := member
    obtain ⟨first, others⟩ := List.forall_mem_cons.mp same
    obtain ⟨-, -, across⟩ := List.pairwise_append.mp ascending
    have last : ∀ earlier ∈ before, earlier.1 < key := fun earlier there =>
      across earlier there (key, value) List.mem_cons_self
    rw [List.append_cons] at ascending
    rw [settleMembers, first, SortedMap.insertEntry_of_lt last, ih ascending others,
      ← List.append_cons]

namespace Value.Settled

variable {levels : Nat} {value : Value}

theorem fits (settled : value.Settled levels) (integral : value.isIntegral = true) :
    value.fits levels = true := by
  induction settled with
  | null => rfl
  | boolean _ => rfl
  | integer low high =>
    exact Bool.and_eq_true_iff.mpr ⟨decide_eq_true low, decide_eq_true high⟩
  | float _ => cases integral
  | string _ => rfl
  | list _ ih => exact itemsFit_of_integral ih integral
  | object _ _ ih => exact membersFit_of_integral ih integral

/-- Writing and reading changes nothing. -/
theorem settle_eq (settled : value.Settled levels) : value.settle = value := by
  induction settled with
  | list _ ih => exact congrArg Value.list (settleItems_eq_self ih)
  | object ascending _ ih => exact congrArg Value.object (settleMembers_eq_append ascending ih)
  | _ => rfl

end Value.Settled

/-- A value that was read is read back from any layout, as long as its numbers are integers. -/
theorem Value.parse_write {text : Bytes} {value : Value} (reads : Value.parse text = .ok value)
    (integral : value.isIntegral = true) {layout : Layout} (blanks : layout.AddsBlanks) :
    Value.parse (value.write layout 0) = .ok value := by
  have settled := settled_of_parse reads
  have document := Document.ofBytes_write blanks integral 0
  rw [Value.parse, Reader.run_eq_ok_iff, document]
  refine ⟨?_, rfl⟩
  have again := readValue_node 0 (settled.fits integral) (by decide)
  rwa [settled.settle_eq] at again

end ArtifactRegistry.Json
