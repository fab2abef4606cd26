import ArtifactRegistry.Payload
import ArtifactRegistry.Proofs.Json.Settled

/-! # Canonical bytes

The canonical layout settles what a text says: `canonical_fixed`. Its bytes are read back as the
value that they were written for, so writing them once more gives the same bytes, and two texts share
them exactly when they hold the same value.

To hold the same value is to have the same contents everywhere. Places are named by the steps that
lead there, and a step into an object goes to the last of the members with a key, so neither the
order of members nor what was overwritten matters: `eq_iff_contentAt?_eq`.
-/

namespace ArtifactRegistry.Json

/-! ## Places -/

/-- A step from a list or an object to what is inside it. -/
inductive Step where
  | item (index : Nat)
  | member (key : String)

/-- What stands at a place, apart from what is inside it. -/
inductive Content where
  | null
  | boolean (value : Bool)
  | number (value : Number)
  | text (value : String)
  | list
  | object

namespace Value

def content : Value → Content
  | .null => .null
  | .boolean value => .boolean value
  | .number value => .number value
  | .string value => .text value
  | .list _ => .list
  | .object _ => .object

def inside? : Step → Value → Option Value
  | .item index, .list items => items[index]?
  | .member key, .object members => members.lookup key
  | _, _ => none

def contentAt? : List Step → Value → Option Content
  | [], value => some value.content
  | step :: rest, value => (value.inside? step).bind (contentAt? rest)

end Value

/-- The value of the last member with a key. -/
def lastMember? (key : String) (members : List (StringToken × Node)) : Option Node :=
  (members.reverse.find? fun member => member.1.text.toOption = some key).map Prod.snd

namespace Node

/-- What a node says, when that can be read. -/
def content? : Node → Option Content
  | .null => some .null
  | .boolean value => some (.boolean value)
  | .number numeral => numeral.value.toOption.map .number
  | .string token => token.text.toOption.map .text
  | .list .. => some .list
  | .object .. => some .object
  | .bad _ => none

def inside? : Step → Node → Option Node
  | .item index, .list items _ => items[index]?
  | .member key, .object members _ => lastMember? key members
  | _, _ => none

def contentAt? : List Step → Node → Option Content
  | [], node => node.content?
  | step :: rest, node => (node.inside? step).bind (contentAt? rest)

end Node

/-! ## What a text says is what the value holds -/

/-- A node is read as a value, at whatever depth. -/
def Reads (node : Node) (value : Value) : Prop := ∃ depth, readValue depth node = .ok value

theorem Reads.content?_eq {node : Node} {value : Value} (reads : Reads node value) :
    node.content? = some value.content := by
  obtain ⟨depth, reads⟩ := reads
  cases node with
  | null | boolean =>
    cases reads
    rfl
  | number =>
    obtain ⟨number, valued, rfl⟩ := map_eq_ok_iff.mp reads
    simp [Node.content?, valued, Except.toOption, Value.content]
  | string =>
    obtain ⟨text, valued, rfl⟩ := map_eq_ok_iff.mp reads
    simp [Node.content?, valued, Except.toOption, Value.content]
  | list =>
    obtain ⟨-, values, -, rfl⟩ := readValue_list reads
    rfl
  | object =>
    obtain ⟨-, members, -, rfl⟩ := readValue_object reads
    rfl
  | bad => cases reads

theorem reads_getElem? {depth : Nat} {items : List Node} {values : List Value}
    (reads : readValues depth items = .ok values) (index : Nat) :
    Option.Rel Reads items[index]? values[index]? := by
  induction items generalizing values index with
  | nil =>
    cases reads
    exact .none
  | cons item rest ih =>
    obtain ⟨first, others, readsFirst, readsOthers, rfl⟩ := readValues_cons reads
    cases index with
    | zero => exact .some ⟨depth, readsFirst⟩
    | succ index => exact ih readsOthers index

theorem lastMember?_cons (key : String) (token : StringToken) (node : Node)
    (rest : List (StringToken × Node)) :
    lastMember? key ((token, node) :: rest) =
      (lastMember? key rest).or (if token.text.toOption = some key then some node else none) := by
  rw [lastMember?, List.reverse_cons, List.find?_append, Option.map_or, lastMember?]
  congr 1
  by_cases named : token.text.toOption = some key <;> simp [named]

/-- What is found under a key is the last member with this key, or else what was there before. -/
theorem reads_lookup {depth : Nat} {members : List (StringToken × Node)}
    {before after : List (String × Value)} (reads : readMembers depth members before = .ok after)
    (key : String) :
    lastMember? key members = none ∧ after.lookup key = before.lookup key ∨
      ∃ node value, lastMember? key members = some node ∧ after.lookup key = some value ∧
        Reads node value := by
  induction members generalizing before with
  | nil =>
    cases reads
    exact .inl ⟨rfl, rfl⟩
  | cons member rest ih =>
    obtain ⟨token, node⟩ := member
    obtain ⟨name, value, named, readsValue, readsOthers⟩ := readMembers_cons reads
    rw [lastMember?_cons, named]
    rcases ih readsOthers with ⟨noLater, kept⟩ | ⟨later, value', found, held, readsLater⟩
    · rw [noLater, kept, SortedMap.lookup_insertEntry]
      by_cases same : key = name
      · subst same
        exact .inr ⟨node, value, by simp [Except.toOption], if_pos rfl, depth, readsValue⟩
      · exact .inl ⟨by simp [Except.toOption, Ne.symm same], if_neg same⟩
    · rw [found]
      exact .inr ⟨later, value', rfl, held, readsLater⟩

/-- A step leads from a node to one that is read as what the step leads to from the value. -/
theorem Reads.inside? {node : Node} {value : Value} (reads : Reads node value) (step : Step) :
    Option.Rel Reads (node.inside? step) (value.inside? step) := by
  obtain ⟨depth, reads⟩ := reads
  cases node with
  | null | boolean =>
    cases reads
    cases step <;> exact .none
  | number | string =>
    obtain ⟨_, -, rfl⟩ := map_eq_ok_iff.mp reads
    cases step <;> exact .none
  | list =>
    obtain ⟨-, values, readsItems, rfl⟩ := readValue_list reads
    cases step with
    | item index => exact reads_getElem? readsItems index
    | member => exact .none
  | object =>
    obtain ⟨-, members, readsMembers, rfl⟩ := readValue_object reads
    cases step with
    | item => exact .none
    | member key =>
      simp only [Node.inside?, Value.inside?]
      rcases reads_lookup readsMembers key with
        ⟨missing, nothing⟩ | ⟨node, value, found, held, readsMember⟩
      · rw [missing, nothing]
        exact .none
      · rw [found, held]
        exact .some readsMember
  | bad => cases reads

/-- A value has the contents of the node that it was read from. -/
theorem Reads.contentAt?_eq {node : Node} {value : Value} (reads : Reads node value)
    (path : List Step) : node.contentAt? path = value.contentAt? path := by
  induction path generalizing node value with
  | nil => exact reads.content?_eq
  | cons step rest ih =>
    have inside := reads.inside? step
    rw [Node.contentAt?, Value.contentAt?]
    generalize node.inside? step = node' at inside ⊢
    generalize value.inside? step = value' at inside ⊢
    cases inside with
    | none => rfl
    | some readsInside => exact ih readsInside

/-! ## Settled values are told by their contents -/

/-- Something and nothing differ in their contents. -/
theorem option_eq_of_contents {value? value'? : Option Value}
    (same : ∀ path, value?.bind (Value.contentAt? path) = value'?.bind (Value.contentAt? path))
    (inside : ∀ value ∈ value?, ∀ value' ∈ value'?,
      (∀ path, value.contentAt? path = value'.contentAt? path) → value = value') :
    value? = value'? := by
  cases value? with
  | none =>
    cases value'? with
    | none => rfl
    | some value' => cases same []
  | some value =>
    cases value'? with
    | none => cases same []
    | some value' => rw [inside value rfl value' rfl same]

theorem Value.Settled.eq_of_contents {levels levels' : Nat} {value value' : Value}
    (settled : value.Settled levels) (settled' : value'.Settled levels')
    (same : ∀ path, value.contentAt? path = value'.contentAt? path) : value = value' := by
  have shallow : value.content = value'.content := Option.some.inj (same [])
  induction settled generalizing levels' value' with
  | null | boolean | integer | float | string =>
    cases settled' <;> cases shallow
    rfl
  | @list levels items inside ih =>
    cases settled' with
    | @list levels' items' inside' =>
      apply congrArg Value.list
      apply List.ext_getElem?
      intro index
      -- What is inside an item is inside the list, one step further away.
      apply option_eq_of_contents fun path => same (.item index :: path)
      intro item there item' there' alike
      exact ih item (List.mem_of_getElem? there) (inside' item' (List.mem_of_getElem? there')) alike
        (Option.some.inj (alike []))
    | _ => cases shallow
  | @object levels members ascending inside ih =>
    cases settled' with
    | @object levels' members' ascending' inside' =>
      apply congrArg Value.object
      apply SortedMap.entries_eq_of_lookup ascending ascending'
      intro key
      apply option_eq_of_contents fun path => same (.member key :: path)
      intro value there value' there' alike
      have member := SortedMap.mem_of_lookup_eq_some there
      have member' := SortedMap.mem_of_lookup_eq_some there'
      exact ih _ member (inside' _ member') alike (Option.some.inj (alike []))
    | _ => cases shallow

/-- Two texts hold the same value when they say the same everywhere. -/
theorem Value.eq_iff_contentAt?_eq {text text' : Bytes} {value value' : Value}
    (reads : Value.parse text = .ok value) (reads' : Value.parse text' = .ok value') :
    value' = value ↔ ∀ path, (Document.ofBytes text').root.contentAt? path =
      (Document.ofBytes text).root.contentAt? path := by
  have contents (path : List Step) :
      (Document.ofBytes text).root.contentAt? path = value.contentAt? path :=
    Reads.contentAt?_eq ⟨0, (Reader.run_eq_ok_iff.mp reads).1⟩ path
  have contents' (path : List Step) :
      (Document.ofBytes text').root.contentAt? path = value'.contentAt? path :=
    Reads.contentAt?_eq ⟨0, (Reader.run_eq_ok_iff.mp reads').1⟩ path
  simp only [contents, contents']
  constructor
  · rintro rfl path
    rfl
  · exact (settled_of_parse reads').eq_of_contents (settled_of_parse reads)

/-! ## Canonical bytes -/

section Canonical

variable {text : Bytes} {value : Value} (reads : Value.parse text = .ok value)
  (integral : value.isIntegral = true)

include reads integral

theorem Value.parse_canonical : Value.parse value.canonical = .ok value :=
  parse_write reads integral (Layout.addsBlanks_indented 3)

theorem Value.canonical_ne_nil : value.canonical ≠ [] := by
  intro empty
  have again := parse_canonical reads integral
  rw [empty] at again
  cases again

/-- A value that was read from any text, with integers for its only numbers, has canonical bytes.
They are read back as the value, and writing what was read back gives the same bytes. Another such
text has them exactly when it holds the same value, and that is when the two texts say the same at
every place, where a key stands for the last member with this key. -/
theorem Value.canonical_fixed :
    ∃ payload, Payload.ofJson value = .ok payload ∧ Value.parse payload.bytes = .ok value ∧
      (∀ again, Value.parse payload.bytes = .ok again → Payload.ofJson again = .ok payload) ∧
      ∀ text' value', Value.parse text' = .ok value' → value'.isIntegral = true →
        ∃ payload', Payload.ofJson value' = .ok payload' ∧
          (payload'.bytes = payload.bytes ↔ value' = value) ∧
          (value' = value ↔ ∀ path, (Document.ofBytes text').root.contentAt? path =
            (Document.ofBytes text).root.contentAt? path) := by
  have back := parse_canonical reads integral
  have written : Payload.ofJson value = .ok ⟨_, canonical_ne_nil reads integral⟩ := dif_neg _
  refine ⟨_, written, back, ?_, ?_⟩
  · intro again rereads
    cases back.symm.trans rereads
    exact written
  · intro text' value' reads' integral'
    have back' := parse_canonical reads' integral'
    refine ⟨⟨_, canonical_ne_nil reads' integral'⟩, dif_neg _, ⟨?_, ?_⟩,
      eq_iff_contentAt?_eq reads reads'⟩
    · intro (same : value'.canonical = value.canonical)
      rw [same, back] at back'
      exact (Except.ok.inj back').symm
    · rintro rfl
      rfl

end Canonical

/-- A text in which a member is overwritten. -/
def overwriting : Bytes :=
  Bytes.ofText "\x7b\"b\":[-1],\"a\":1,\"a\":\x7b\x7d\x7d"

/-- The same members in another order, with blanks and an escape. -/
def reordered : Bytes :=
  Bytes.ofText " \x7b \"\\u0061\" : \x7b\x7d, \"b\" : [ -1 ] \x7d"

/-- The canonical bytes of both. -/
def overwritten : Bytes :=
  Bytes.ofText "\x7b\n   \"a\": \x7b\x7d,\n   \"b\": [\n      -1\n   ]\n\x7d"

/-- Two texts of one value have the same canonical bytes. -/
theorem Value.canonical_fixed_overwritten : ∃ value payload value' payload',
    Value.parse overwriting = .ok value ∧ Value.parse reordered = .ok value' ∧
      Payload.ofJson value = .ok payload ∧ Payload.ofJson value' = .ok payload' ∧
      payload'.bytes = payload.bytes ∧ value' = value := by
  have known (text : Bytes) (holds : (Value.parse text).toOption.any (fun value =>
      value.isIntegral && value.canonical = overwritten) = true) :
      ∃ value, Value.parse text = .ok value ∧ value.isIntegral = true ∧
        value.canonical = overwritten := by
    cases reads : Value.parse text with
    | error error => simp [reads, Except.toOption] at holds
    | ok value => exact ⟨value, rfl, by simpa [reads, Except.toOption] using holds⟩
  obtain ⟨value, reads, integral, bytes⟩ := known overwriting (by decide +kernel)
  obtain ⟨value', reads', integral', bytes'⟩ := known reordered (by decide +kernel)
  obtain ⟨payload, written, -, -, others⟩ := canonical_fixed reads integral
  obtain ⟨payload', written', told, -⟩ := others reordered value' reads' integral'
  have alike : Payload.ofJson value' = Payload.ofJson value :=
    congrArg Payload.verbatim (bytes'.trans bytes.symm)
  have same : payload' = payload := Except.ok.inj (written'.symm.trans (alike.trans written))
  have same_bytes := congrArg Payload.bytes same
  exact ⟨value, payload, value', payload', reads, reads', written, written', same_bytes,
    told.mp same_bytes⟩

end ArtifactRegistry.Json
