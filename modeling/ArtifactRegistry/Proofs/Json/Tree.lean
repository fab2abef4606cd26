import ArtifactRegistry.Proofs.Json.Written

/-! # The tree of a written value

Writing a value, in whatever layout, and building the tree of the text gives `Value.node`, as long as
its numbers are integers: `ofBytes_write`. The machine that builds the tree is followed by
`Document.resume`, what becomes of the rest of the text in a given state. Every part of a written
value takes the machine from a state in which a value is due to the one in which it is filled in.
-/

namespace ArtifactRegistry.Json

mutual

/-- The tree of a written value. Floating-point numbers are out of consideration. -/
def Value.node : Value → Node
  | .null => .null
  | .boolean value => .boolean value
  | .number (.integer value) => .number (.ofInt value)
  | .number (.float _) => .bad .unexpected
  | .string text => .string (.ofText text)
  | .list items => .list (itemNodes items) .closed
  | .object members => .object (memberNodes members) .closed

def itemNodes : List Value → List Node
  | [] => []
  | item :: rest => item.node :: itemNodes rest

def memberNodes : List (String × Value) → List (StringToken × Node)
  | [] => []
  | (key, value) :: rest => (.ofText key, value.node) :: memberNodes rest

end

mutual

/-- Whether all numbers of a value are integers. -/
def Value.isIntegral : Value → Bool
  | .number (.float _) => false
  | .list items => itemsAreIntegral items
  | .object members => membersAreIntegral members
  | _ => true

def itemsAreIntegral : List Value → Bool
  | [] => true
  | item :: rest => item.isIntegral && itemsAreIntegral rest

def membersAreIntegral : List (String × Value) → Bool
  | [] => true
  | (_, value) :: rest => value.isIntegral && membersAreIntegral rest

end

/-- A layout that adds nothing but blanks. -/
structure Layout.AddsBlanks (layout : Layout) : Prop where
  line : ∀ level, ∀ c ∈ layout.line level, isBlank c = true
  colon : ∃ blanks, layout.colon = 0x3a :: blanks ∧ ∀ c ∈ blanks, isBlank c = true

theorem Layout.addsBlanks_indented (spaces : Nat) : (Layout.indented spaces).AddsBlanks where
  line level c member := by
    rcases List.mem_cons.mp member with rfl | member
    · rfl
    · rw [List.eq_of_mem_replicate member]
      rfl
  colon := ⟨[0x20], rfl, List.forall_mem_singleton.mpr rfl⟩

/-! ## Resuming at the rest of a text -/

theorem Token.scanFrom_skip (taken rest : Bytes) :
    scanFrom taken.length (taken ++ rest) = scanFrom 0 rest := by
  induction taken with
  | nil => rfl
  | cons c taken ih => exact ih

namespace Document

/-- The document that reading on makes of the rest of a text. -/
def resume (state : State) (rest : Bytes) : Document := finish ((Token.scan rest).foldl step state)

theorem ofBytes_eq_resume (text : Bytes) : ofBytes text = resume (.value []) text := rfl

theorem resume_nil (state : State) : resume state [] = finish state := rfl

variable {state : State} {rest : Bytes}

theorem resume_blanks {blanks : Bytes} (blank : ∀ c ∈ blanks, isBlank c = true) :
    resume state (blanks ++ rest) = resume state rest := by
  induction blanks with
  | nil => rfl
  | cons c blanks ih =>
    obtain ⟨here, others⟩ := List.forall_mem_cons.mp blank
    rw [← ih others, List.cons_append, resume, Token.scan, Token.scanFrom, if_pos here]
    rfl

/-- Reading goes on behind a token that is not broken. -/
theorem resume_token {c : UInt8} (taken : Bytes) (token : Token) (visible : isBlank c = false)
    (read : Token.read c (taken ++ rest) = (token, taken.length))
    (whole : token.isBroken = false) :
    resume state (c :: (taken ++ rest)) = resume (step state token) rest := by
  rw [resume, Token.scan, Token.scanFrom, visible, read]
  simp only [whole, Bool.false_eq_true, if_false, List.foldl_cons, Token.scanFrom_skip]
  rfl

theorem resume_listOpen : resume state (0x5b :: rest) = resume (step state .listOpen) rest :=
  resume_token [] .listOpen rfl rfl rfl

theorem resume_listClose : resume state (0x5d :: rest) = resume (step state .listClose) rest :=
  resume_token [] .listClose rfl rfl rfl

theorem resume_objectOpen : resume state (0x7b :: rest) = resume (step state .objectOpen) rest :=
  resume_token [] .objectOpen rfl rfl rfl

theorem resume_objectClose : resume state (0x7d :: rest) = resume (step state .objectClose) rest :=
  resume_token [] .objectClose rfl rfl rfl

theorem resume_comma : resume state (0x2c :: rest) = resume (step state .comma) rest :=
  resume_token [] .comma rfl rfl rfl

theorem resume_colon : resume state (0x3a :: rest) = resume (step state .colon) rest :=
  resume_token [] .colon rfl rfl rfl

theorem resume_null :
    resume state ([0x6e, 0x75, 0x6c, 0x6c] ++ rest) = resume (step state .null) rest :=
  resume_token [0x75, 0x6c, 0x6c] .null rfl rfl rfl

theorem resume_true :
    resume state ([0x74, 0x72, 0x75, 0x65] ++ rest) = resume (step state (.boolean true)) rest :=
  resume_token [0x72, 0x75, 0x65] (.boolean true) rfl rfl rfl

theorem resume_false :
    resume state ([0x66, 0x61, 0x6c, 0x73, 0x65] ++ rest) =
      resume (step state (.boolean false)) rest :=
  resume_token [0x61, 0x6c, 0x73, 0x65] (.boolean false) rfl rfl rfl

theorem resume_text (text : String) :
    resume state (writeText text ++ rest) = resume (step state (.string (.ofText text))) rest := by
  obtain ⟨reads, widths⟩ := StringToken.read_written text rest
  have read : Token.read quoteByte
      (((Bytes.ofText text).flatMap escapeByte ++ [quoteByte]) ++ rest) =
        (.string (.ofText text), ((Bytes.ofText text).flatMap escapeByte ++ [quoteByte]).length) := by
    rw [List.append_assoc, List.singleton_append, Token.read, if_pos rfl, reads]
    simp only [widths, List.length_append, List.length_singleton]
  rw [writeText, List.cons_append, List.cons_append]
  exact resume_token _ _ rfl read rfl

private theorem starts_ofInt (value : Int) :
    ∃ c taken, Decimal.ofInt value = c :: taken ∧ (c = 0x2d ∨ isDigit c = true) := by
  cases value with
  | ofNat n =>
    obtain ⟨d, digits, small, starts⟩ := Decimal.exists_cons_ofNat n
    exact ⟨_, digits, starts, .inr (isDigit_digitByte d small)⟩
  | negSucc n => exact ⟨0x2d, _, rfl, .inl rfl⟩

theorem resume_integer (value : Int) (ends : EndsNumber rest) :
    resume state (Decimal.ofInt value ++ rest) =
      resume (step state (.number (.ofInt value))) rest := by
  obtain ⟨c, taken, written, starts⟩ := starts_ofInt value
  have numeral := Numeral.read_ofInt value ends
  rw [written, List.cons_append] at numeral ⊢
  have notQuote : c ≠ quoteByte := by
    rintro rfl
    revert starts
    decide
  have visible : isBlank c = false := by
    cases blank : isBlank c with
    | false => rfl
    | true =>
      simp only [isBlank, Bool.or_eq_true, decide_eq_true_eq] at blank
      rcases blank with ((rfl | rfl) | rfl) | rfl <;> revert starts <;> decide
  apply resume_token _ _ visible _ rfl
  rw [Token.read, if_neg notQuote, if_pos starts, numeral]
  simp only [List.length_append, Nat.add_sub_cancel]

/-! ## Places where a value is due -/

/-- A value is due, and will go to the innermost of these places. -/
inductive Due : State → List Place → Prop
  | value (places : List Place) : Due (.value places) places
  | firstItem (places : List Place) : Due (.firstItem places) (.item [] :: places)
  | nextItem (items : List Node) (places : List Place) :
      Due (.nextItem items places) (.item items :: places)

theorem Due.step_eq {places : List Place} (due : Due state places) (token : Token)
    (more : token ≠ .listClose) : step state token = startValue places token := by
  cases due with
  | value => rfl
  | firstItem =>
    cases token with
    | listClose => exact absurd rfl more
    | _ => rfl
  | nextItem =>
    cases token with
    | listClose => exact absurd rfl more
    | _ => rfl

theorem endsNumber_cons {c : UInt8} (rest : Bytes)
    (known : isBlank c = true ∨ c = 0x2c ∨ c = 0x5d ∨ c = 0x7d) : EndsNumber (c :: rest) :=
  fun _ here => Option.some.inj here ▸ known

theorem endsNumber_blanks {blanks : Bytes} (blank : ∀ c ∈ blanks, isBlank c = true)
    (ends : EndsNumber rest) : EndsNumber (blanks ++ rest) := by
  cases blanks with
  | nil => exact ends
  | cons c blanks => exact endsNumber_cons _ (.inl (blank c List.mem_cons_self))

theorem endsNumber_items {layout : Layout} {level : Nat} (items : List Value)
    (ends : EndsNumber rest) : EndsNumber (writeItems layout level items ++ rest) := by
  cases items with
  | nil => exact ends
  | cons item items => exact endsNumber_cons _ (.inr (.inl rfl))

theorem endsNumber_members {layout : Layout} {level : Nat} (members : List (String × Value))
    (ends : EndsNumber rest) : EndsNumber (writeMembers layout level members ++ rest) := by
  cases members with
  | nil => exact ends
  | cons member members => exact endsNumber_cons _ (.inr (.inl rfl))

/-! ## Written values -/

section

variable {layout : Layout} (layoutBlanks : layout.AddsBlanks)

include layoutBlanks

/-- A key and its colon make the value due. -/
theorem resume_key {members : List (StringToken × Node)} {places : List Place} (key : String)
    (keyDue : ∀ token, step state (.string token) = .colon members token places) :
    resume state (writeText key ++ (layout.colon ++ rest)) =
      resume (.value (.member members (.ofText key) :: places)) rest := by
  obtain ⟨blanks, colon, blank⟩ := layoutBlanks.colon
  rw [colon, resume_text, keyDue, List.cons_append, resume_colon,
    resume_blanks blank]
  rfl

mutual

/-- A written value fills the place where a value is due. -/
theorem resume_write : ∀ (value : Value) (level : Nat) {state : State} {places : List Place}
    {rest : Bytes}, value.isIntegral = true → Due state places → EndsNumber rest →
    resume state (value.write layout level ++ rest) = resume (fill value.node places) rest
  | .null, level, state, places, rest, _, due, _ => by
    rw [Value.write, resume_null, due.step_eq .null nofun]
    rfl
  | .boolean true, level, state, places, rest, _, due, _ => by
    rw [Value.write, resume_true, due.step_eq (.boolean true) nofun]
    rfl
  | .boolean false, level, state, places, rest, _, due, _ => by
    rw [Value.write, resume_false, due.step_eq (.boolean false) nofun]
    rfl
  | .number (.integer value), level, state, places, rest, _, due, ends => by
    rw [Value.write, Number.write, resume_integer value ends, due.step_eq (.number _) nofun]
    rfl
  | .string text, level, state, places, rest, _, due, _ => by
    rw [Value.write, resume_text, due.step_eq (.string _) nofun]
    rfl
  | .list [], level, state, places, rest, _, due, _ => by
    rw [Value.write, List.cons_append, resume_listOpen, due.step_eq .listOpen nofun]
    exact resume_listClose
  | .list (first :: others), level, state, places, rest, integral, due, _ => by
    rw [Value.isIntegral, itemsAreIntegral, Bool.and_eq_true] at integral
    have closing : EndsNumber (layout.line level ++ (0x5d :: rest)) :=
      endsNumber_blanks (layoutBlanks.line level) (endsNumber_cons _ (.inr (.inr (.inl rfl))))
    simp only [Value.write, List.cons_append, List.append_assoc, List.nil_append]
    rw [resume_listOpen, due.step_eq .listOpen nofun, startValue,
      resume_blanks (layoutBlanks.line (level + 1)),
      resume_write first (level + 1) integral.1 (.firstItem places)
        (endsNumber_items others closing), fill,
      resume_writeItems others (level + 1) integral.2 closing,
      resume_blanks (layoutBlanks.line level), resume_listClose, step, List.reverse_append, List.reverse_reverse]
    rfl
  | .object [], level, state, places, rest, _, due, _ => by
    rw [Value.write, List.cons_append, resume_objectOpen, due.step_eq .objectOpen nofun]
    exact resume_objectClose
  | .object ((key, first) :: others), level, state, places, rest, integral, due, _ => by
    rw [Value.isIntegral, membersAreIntegral, Bool.and_eq_true] at integral
    have closing : EndsNumber (layout.line level ++ (0x7d :: rest)) :=
      endsNumber_blanks (layoutBlanks.line level) (endsNumber_cons _ (.inr (.inr (.inr rfl))))
    simp only [Value.write, List.cons_append, List.append_assoc, List.nil_append]
    rw [resume_objectOpen, due.step_eq .objectOpen nofun, startValue,
      resume_blanks (layoutBlanks.line (level + 1)),
      resume_key layoutBlanks key (fun token => rfl),
      resume_write first (level + 1) integral.1 (.value _) (endsNumber_members others closing), fill,
      resume_writeMembers others (level + 1) integral.2 closing,
      resume_blanks (layoutBlanks.line level), resume_objectClose, step, List.reverse_append,
      List.reverse_reverse]
    rfl

/-- The items behind the first are appended. -/
theorem resume_writeItems : ∀ (items : List Value) (level : Nat) {before : List Node}
    {places : List Place} {rest : Bytes}, itemsAreIntegral items = true → EndsNumber rest →
    resume (.afterItem before places) (writeItems layout level items ++ rest) =
      resume (.afterItem ((itemNodes items).reverse ++ before) places) rest
  | [], level, before, places, rest, _, _ => rfl
  | item :: others, level, before, places, rest, integral, ends => by
    rw [itemsAreIntegral, Bool.and_eq_true] at integral
    simp only [writeItems, List.cons_append, List.append_assoc]
    rw [resume_comma, step, resume_blanks (layoutBlanks.line level),
      resume_write item level integral.1 (.nextItem before places) (endsNumber_items others ends),
      fill, resume_writeItems others level integral.2 ends, itemNodes, List.reverse_cons,
      List.append_assoc, List.singleton_append]

/-- The members behind the first are appended. -/
theorem resume_writeMembers : ∀ (members : List (String × Value)) (level : Nat)
    {before : List (StringToken × Node)} {places : List Place} {rest : Bytes},
    membersAreIntegral members = true → EndsNumber rest →
    resume (.afterMember before places) (writeMembers layout level members ++ rest) =
      resume (.afterMember ((memberNodes members).reverse ++ before) places) rest
  | [], level, before, places, rest, _, _ => rfl
  | (key, value) :: others, level, before, places, rest, integral, ends => by
    rw [membersAreIntegral, Bool.and_eq_true] at integral
    simp only [writeMembers, List.cons_append, List.append_assoc]
    rw [resume_comma, step, resume_blanks (layoutBlanks.line level),
      resume_key layoutBlanks key (fun token => rfl),
      resume_write value level integral.1 (.value _) (endsNumber_members others ends), fill,
      resume_writeMembers others level integral.2 ends, memberNodes, List.reverse_cons,
      List.append_assoc, List.singleton_append]

end

/-- The tree of a written value is the tree of the value, with nothing behind it. -/
theorem ofBytes_write {value : Value} (integral : value.isIntegral = true) (level : Nat) :
    ofBytes (value.write layout level) = ⟨value.node, false⟩ := by
  have ends : EndsNumber [] := nofun
  have read := resume_write layoutBlanks value level integral (.value []) ends
  rw [List.append_nil] at read
  calc
    ofBytes (value.write layout level) = resume (.value []) (value.write layout level) :=
      ofBytes_eq_resume _
    _ = resume (fill value.node []) [] := read
    _ = finish (fill value.node []) := resume_nil _
    _ = ⟨value.node, false⟩ := rfl

end

end Document

end ArtifactRegistry.Json
