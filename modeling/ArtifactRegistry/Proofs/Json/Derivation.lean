import ArtifactRegistry.Proofs.Json.Grammar

/-! # Documents follow the grammar

A document that can be skipped and has nothing behind it is a phrase of the grammar with blanks
around it: a list or an object where its tree says so, `enclosed_of_whole`. `Reached` is the
invariant of the machine that builds the tree: what each of its states says about the text that was
read. A token that spells a stretch of the text takes one such state to the next, and a broken token
leaves a tree that cannot be skipped.
-/

namespace ArtifactRegistry.Json

open Phrase

/-- The phrase that a tree is built from. -/
def Node.phrase : Node → Phrase
  | .list .. => .list
  | .object .. => .object
  | _ => .value

theorem ListEnd.skip_eq_ok_iff {stop : ListEnd} : stop.skip = .ok () ↔ stop = .closed := by
  cases stop <;> simp [ListEnd.skip, ListEnd.read]

theorem ObjectEnd.skip_eq_ok_iff {stop : ObjectEnd} : stop.skip = .ok () ↔ stop = .closed := by
  cases stop <;> simp [ObjectEnd.skip, ObjectEnd.read]

/-! ## Blanks and parts -/

theorem Blank.nil : Blank [] := List.forall_mem_nil _

theorem Blank.snoc {blanks : Bytes} {c : UInt8} (blank : Blank blanks) (here : isBlank c = true) :
    Blank (blanks ++ [c]) :=
  List.forall_mem_append.mpr ⟨blank, List.forall_mem_singleton.mpr here⟩

namespace Phrase

/-- Blanks may follow a part. -/
inductive Part : Phrase → Prop where
  | item : Part .item
  | member : Part .member

theorem Spelled.item_snoc {text : Bytes} {c : UInt8} (spelled : Spelled .item text)
    (blank : isBlank c = true) : Spelled .item (text ++ [c]) := by
  cases spelled with
  | @item before inner after leading spelled trailing =>
    rw [List.append_assoc, List.append_assoc]
    exact .item leading spelled (trailing.snoc blank)

theorem Spelled.part_snoc {part : Phrase} (isPart : part.Part) {text : Bytes} {c : UInt8}
    (spelled : Spelled part text) (blank : isBlank c = true) : Spelled part (text ++ [c]) := by
  cases isPart with
  | item => exact spelled.item_snoc blank
  | member =>
    cases spelled with
    | @member before key between inner leading named middle spelled =>
      rw [List.append_assoc, List.append_assoc, List.append_assoc, List.cons_append]
      exact .member leading named middle (spelled.item_snoc blank)

theorem Spelled.series_snoc {part : Phrase} (isPart : part.Part) {text : Bytes} {c : UInt8}
    (spelled : Spelled (.series part) text) (blank : isBlank c = true) :
    Spelled (.series part) (text ++ [c]) := by
  cases spelled with
  | one first => exact .one (first.part_snoc isPart blank)
  | more others last =>
    rw [List.append_assoc, List.cons_append]
    exact .more others (last.part_snoc isPart blank)

/-- What stands in front of the next part: nothing, or other parts and a comma. -/
def Before (part : Phrase) (text : Bytes) : Prop :=
  text = [] ∨ ∃ texts, Spelled (.series part) texts ∧ text = texts ++ [0x2c]

theorem Before.add {part : Phrase} {before text : Bytes} (ahead : part.Before before)
    (spelled : Spelled part text) : Spelled (.series part) (before ++ text) := by
  obtain rfl | ⟨texts, others, rfl⟩ := ahead
  · exact .one spelled
  · rw [List.append_assoc, List.singleton_append]
    exact .more others spelled

theorem Spelled.value_of_phrase {node : Node} {text : Bytes} (spelled : Spelled node.phrase text) :
    Spelled .value text := by
  cases node with
  | list => exact .ofList spelled
  | object => exact .ofObject spelled
  | _ => exact spelled

end Phrase

namespace Document

/-- Nothing is missing from the document or broken in it, and nothing follows it. -/
def Whole (document : Document) : Prop :=
  document.root.skip = .ok () ∧ document.trailing = false

/-! ## What was read -/

/-- The text in front of a value that is due at the innermost of these places. -/
inductive Opened : List Place → Bytes → Prop where
  | root {blanks : Bytes} (blank : Blank blanks) : Opened [] blanks
  | item {places : List Place} {outer before blanks : Bytes} (items : List Node)
      (opened : Opened places outer) (ahead : Before .item before) (blank : Blank blanks) :
      Opened (.item items :: places) (outer ++ 0x5b :: (before ++ blanks))
  | member {places : List Place} {outer before leading name middle blanks : Bytes}
      (members : List (StringToken × Node)) (key : StringToken) (opened : Opened places outer)
      (ahead : Before .member before) (blank : Blank leading) (named : StringLiteral name)
      (blank' : Blank middle) (blank'' : Blank blanks) :
      Opened (.member members key :: places)
        (outer ++ 0x7b :: (before ++ (leading ++ (name ++ (middle ++ 0x3a :: blanks)))))

/-- The text that leads to a state. -/
inductive Reached : State → Bytes → Prop where
  | value {places : List Place} {text : Bytes} (opened : Opened places text) :
      Reached (.value places) text
  | firstItem {places : List Place} {outer blanks : Bytes} (opened : Opened places outer)
      (blank : Blank blanks) : Reached (.firstItem places) (outer ++ 0x5b :: blanks)
  | afterItem {places : List Place} {outer texts : Bytes} (items : List Node)
      (opened : Opened places outer) (spelled : Spelled (.series .item) texts) :
      Reached (.afterItem items places) (outer ++ 0x5b :: texts)
  | nextItem {places : List Place} {outer texts blanks : Bytes} (items : List Node)
      (opened : Opened places outer) (spelled : Spelled (.series .item) texts)
      (blank : Blank blanks) :
      Reached (.nextItem items places) (outer ++ 0x5b :: (texts ++ 0x2c :: blanks))
  | firstKey {places : List Place} {outer blanks : Bytes} (opened : Opened places outer)
      (blank : Blank blanks) : Reached (.firstKey places) (outer ++ 0x7b :: blanks)
  | colon {places : List Place} {outer before leading name blanks : Bytes}
      (members : List (StringToken × Node)) (key : StringToken) (opened : Opened places outer)
      (ahead : Before .member before) (blank : Blank leading) (named : StringLiteral name)
      (blank' : Blank blanks) :
      Reached (.colon members key places)
        (outer ++ 0x7b :: (before ++ (leading ++ (name ++ blanks))))
  | afterMember {places : List Place} {outer texts : Bytes} (members : List (StringToken × Node))
      (opened : Opened places outer) (spelled : Spelled (.series .member) texts) :
      Reached (.afterMember members places) (outer ++ 0x7b :: texts)
  | nextKey {places : List Place} {outer texts blanks : Bytes}
      (members : List (StringToken × Node)) (opened : Opened places outer)
      (spelled : Spelled (.series .member) texts) (blank : Blank blanks) :
      Reached (.nextKey members places) (outer ++ 0x7b :: (texts ++ 0x2c :: blanks))
  | complete {root : Node} {text : Bytes} (enclosed : root.phrase.Enclosed text) :
      Reached (.complete root) text
  | settled {document : Document} (text : Bytes) (broken : ¬ document.Whole) :
      Reached (.settled document) text

theorem Opened.snoc {places : List Place} {text : Bytes} {c : UInt8} (opened : Opened places text)
    (here : isBlank c = true) : Opened places (text ++ [c]) := by
  cases opened with
  | root blank => exact .root (blank.snoc here)
  | item items opened ahead blank =>
    simp only [List.append_assoc, List.cons_append]
    exact .item items opened ahead (blank.snoc here)
  | member members key opened ahead blank named blank' blank'' =>
    simp only [List.append_assoc, List.cons_append]
    exact .member members key opened ahead blank named blank' (blank''.snoc here)

/-- Blanks leave the machine where it is. -/
theorem Reached.snoc {state : State} {text : Bytes} {c : UInt8} (reached : Reached state text)
    (here : isBlank c = true) : Reached state (text ++ [c]) := by
  cases reached with
  | value opened => exact .value (opened.snoc here)
  | settled text broken => exact .settled _ broken
  | complete enclosed =>
    obtain ⟨before, inner, after, leading, spelled, trailing, rfl⟩ := enclosed
    simp only [List.append_assoc]
    exact .complete ⟨before, inner, _, leading, spelled, trailing.snoc here, rfl⟩
  | firstItem opened blank =>
    simp only [List.append_assoc, List.cons_append]
    exact .firstItem opened (blank.snoc here)
  | afterItem items opened spelled =>
    simp only [List.append_assoc, List.cons_append]
    exact .afterItem items opened (spelled.series_snoc .item here)
  | nextItem items opened spelled blank =>
    simp only [List.append_assoc, List.cons_append]
    exact .nextItem items opened spelled (blank.snoc here)
  | firstKey opened blank =>
    simp only [List.append_assoc, List.cons_append]
    exact .firstKey opened (blank.snoc here)
  | colon members key opened ahead blank named blank' =>
    simp only [List.append_assoc, List.cons_append]
    exact .colon members key opened ahead blank named (blank'.snoc here)
  | afterMember members opened spelled =>
    simp only [List.append_assoc, List.cons_append]
    exact .afterMember members opened (spelled.series_snoc .member here)
  | nextKey members opened spelled blank =>
    simp only [List.append_assoc, List.cons_append]
    exact .nextKey members opened spelled (blank.snoc here)

/-! ## One token -/

/-- A value that was read stands in its place. -/
theorem Opened.fill {places : List Place} {text inner : Bytes} {node : Node}
    (opened : Opened places text) (spelled : node.phrase.Spelled inner) :
    Reached (fill node places) (text ++ inner) := by
  cases opened with
  | root blank => exact .complete ⟨text, inner, [], blank, spelled, .nil, by rw [List.append_nil]⟩
  | item items opened ahead blank =>
    have read := ahead.add (.item blank spelled.value_of_phrase .nil)
    rw [List.append_nil] at read
    simp only [List.append_assoc, List.cons_append]
    exact .afterItem _ opened read
  | member members key opened ahead blank named blank' blank'' =>
    have read := ahead.add (.member blank named blank' (.item blank'' spelled.value_of_phrase .nil))
    rw [List.append_nil] at read
    simp only [List.append_assoc, List.cons_append]
    exact .afterMember _ opened read

theorem not_skip_bad (reason : BadValue) : (Node.bad reason).skip ≠ .ok () := by
  intro skipped
  cases skipped

theorem not_skip_list {items : List Node} {stop : ListEnd} (unclosed : stop ≠ .closed) :
    (Node.list items stop).skip ≠ .ok () := by
  intro skipped
  obtain ⟨_, -, stopped⟩ := bind_eq_ok_iff.mp skipped
  exact unclosed (ListEnd.skip_eq_ok_iff.mp stopped)

theorem not_skip_object {members : List (StringToken × Node)} {stop : ObjectEnd}
    (unclosed : stop ≠ .closed) : (Node.object members stop).skip ≠ .ok () := by
  intro skipped
  obtain ⟨_, -, stopped⟩ := bind_eq_ok_iff.mp skipped
  exact unclosed (ObjectEnd.skip_eq_ok_iff.mp stopped)

/-- What breaks off at a node that cannot be skipped is not whole. -/
theorem not_whole_breakOff {node : Node} (broken : node.skip ≠ .ok ()) (places : List Place) :
    ¬ (breakOff node places).Whole := by
  induction places generalizing node with
  | nil => exact fun whole => broken whole.1
  | cons place places ih =>
    cases place with
    | item before => exact ih (not_skip_list nofun)
    | member before key => exact ih (not_skip_object nofun)

theorem Opened.startValue {places : List Place} {text taken : Bytes} {token : Token}
    (opened : Opened places text) (spelled : token.Spells taken) :
    Reached (startValue places token) (text ++ taken) := by
  cases spelled with
  | null => exact opened.fill .nullWord
  | yes => exact opened.fill .trueWord
  | no => exact opened.fill .falseWord
  | number literal => exact opened.fill (.number literal)
  | string literal => exact opened.fill (.string literal)
  | listOpen => exact .firstItem opened .nil
  | objectOpen => exact .firstKey opened .nil
  | listClose | objectClose | comma | colon => exact .settled _ (not_whole_breakOff (not_skip_bad _) places)

/-- Where a value is due, its place is open. -/
theorem Reached.opened {state : State} {places : List Place} {text : Bytes}
    (reached : Reached state text) (due : Due state places) : Opened places text := by
  cases due with
  | value =>
    cases reached with
    | value opened => exact opened
  | firstItem =>
    cases reached with
    | firstItem opened blank => exact .item [] opened (.inl rfl) blank
  | nextItem items =>
    cases reached with
    | @nextItem _ outer texts blanks _ opened spelled blank =>
      have place := Opened.item items opened (.inr ⟨texts, spelled, rfl⟩) blank
      rw [List.append_assoc, List.singleton_append] at place
      exact place

/-- A token takes the machine from one state that its text has led to to the next. -/
theorem Reached.step {state : State} {text taken : Bytes} {token : Token}
    (reached : Reached state text) (spelled : token.Spells taken) :
    Reached (step state token) (text ++ taken) := by
  cases reached with
  | value opened => exact opened.startValue spelled
  | @firstItem places outer blanks opened blank =>
    have due := Due.firstItem places
    by_cases closing : token = .listClose
    · subst closing
      cases spelled
      rw [List.append_assoc, List.cons_append]
      exact opened.fill (.emptyList blank)
    · rw [due.step_eq token closing]
      exact ((Reached.firstItem opened blank).opened due).startValue spelled
  | @nextItem places outer texts blanks items opened listed blank =>
    have due := Due.nextItem items places
    by_cases closing : token = .listClose
    · subst closing
      exact .settled _ (not_whole_breakOff (not_skip_list (by nofun)) places)
    · rw [due.step_eq token closing]
      exact ((Reached.nextItem items opened listed blank).opened due).startValue spelled
  | @afterItem places outer texts items opened listed =>
    rw [List.append_assoc, List.cons_append]
    cases spelled with
    | comma => exact .nextItem items opened listed .nil
    | listClose => exact opened.fill (.list listed)
    | _ => exact .settled _ (not_whole_breakOff (not_skip_list (by nofun)) places)
  | @firstKey places outer blanks opened blank =>
    rw [List.append_assoc, List.cons_append]
    cases spelled with
    | objectClose => exact opened.fill (.emptyObject blank)
    | @string key text literal =>
      have named := Reached.colon [] key opened (.inl rfl) blank literal .nil
      rw [List.append_nil] at named
      exact named
    | _ => exact .settled _ (not_whole_breakOff (not_skip_object (by nofun)) places)
  | @nextKey places outer texts blanks members opened listed blank =>
    simp only [List.append_assoc, List.cons_append]
    cases spelled with
    | objectClose => exact .settled _ (not_whole_breakOff (not_skip_object (by nofun)) places)
    | @string key text literal =>
      have named := Reached.colon members key opened (.inr ⟨texts, listed, rfl⟩) blank literal .nil
      rw [List.append_nil, List.append_assoc, List.singleton_append] at named
      exact named
    | _ => exact .settled _ (not_whole_breakOff (not_skip_object (by nofun)) places)
  | @colon places outer before leading name blanks members key opened ahead blank named blank' =>
    simp only [List.append_assoc, List.cons_append]
    cases spelled with
    | colon => exact .value (.member members key opened ahead blank named blank' .nil)
    | _ => exact .settled _ (not_whole_breakOff (not_skip_bad _) (_ :: places))
  | @afterMember places outer texts members opened listed =>
    rw [List.append_assoc, List.cons_append]
    cases spelled with
    | comma => exact .nextKey members opened listed .nil
    | objectClose => exact opened.fill (.object listed)
    | _ => exact .settled _ (not_whole_breakOff (not_skip_object (by nofun)) places)
  | complete enclosed =>
    apply Reached.settled
    intro whole
    cases whole.2
  | settled text broken => exact .settled _ broken

/-! ## The end of the text -/

/-- Only where a value is complete can the text end. -/
theorem Reached.enclosed_of_finish {state : State} {text : Bytes} (reached : Reached state text)
    (whole : (finish state).Whole) : (finish state).root.phrase.Enclosed text := by
  cases reached with
  | complete enclosed => exact enclosed
  | settled text broken => exact absurd whole broken
  | value => exact absurd whole (not_whole_breakOff (not_skip_bad _) _)
  | firstItem | afterItem => exact absurd whole (not_whole_breakOff (not_skip_list (by nofun)) _)
  | nextItem => exact absurd whole (not_whole_breakOff (not_skip_bad _) (_ :: _))
  | colon => exact absurd whole (not_whole_breakOff (not_skip_bad _) (_ :: _))
  | firstKey | afterMember | nextKey =>
    exact absurd whole (not_whole_breakOff (not_skip_object (by nofun)) _)

theorem not_whole_fill {node : Node} (broken : node.skip ≠ .ok ()) (places : List Place) :
    ¬ (finish (fill node places)).Whole := by
  match places with
  | [] => exact fun whole => broken whole.1
  | .item before :: places => exact not_whole_breakOff (not_skip_list (by nofun)) places
  | .member before key :: places => exact not_whole_breakOff (not_skip_object (by nofun)) places

theorem not_whole_startValue {token : Token} (broken : token.isBroken = true)
    (places : List Place) : ¬ (finish (startValue places token)).Whole := by
  cases token with
  | string token =>
    apply not_whole_fill
    intro skipped
    exact of_decide_eq_true broken (StringEnd.read_eq_ok_iff.mp skipped)
  | bad reason => exact not_whole_breakOff (not_skip_bad reason) places
  | _ => cases broken

/-- A broken token leaves a document that is not whole. -/
theorem Reached.not_whole_of_broken {state : State} {text : Bytes} {token : Token}
    (reached : Reached state text) (broken : token.isBroken = true) :
    ¬ (finish (Document.step state token)).Whole := by
  have more : token ≠ .listClose := by
    rintro rfl
    cases broken
  cases reached with
  | @value places => exact not_whole_startValue broken places
  | @firstItem places =>
    rw [(Due.firstItem places).step_eq token more]
    exact not_whole_startValue broken _
  | @nextItem places _ _ _ items =>
    rw [(Due.nextItem items places).step_eq token more]
    exact not_whole_startValue broken _
  | afterItem =>
    cases token with
    | string | bad => exact not_whole_breakOff (not_skip_list (by nofun)) _
    | _ => cases broken
  | firstKey | nextKey =>
    cases token with
    | string => exact not_whole_breakOff (not_skip_bad _) (_ :: _)
    | bad => exact not_whole_breakOff (not_skip_object (by nofun)) _
    | _ => cases broken
  | colon =>
    cases token with
    | string | bad => exact not_whole_breakOff (not_skip_bad _) (_ :: _)
    | _ => cases broken
  | afterMember =>
    cases token with
    | string | bad => exact not_whole_breakOff (not_skip_object (by nofun)) _
    | _ => cases broken
  | complete =>
    intro whole
    cases whole.2
  | settled text broken => exact broken

theorem resume_broken {state : State} {c : UInt8} {rest : Bytes} (visible : isBlank c = false)
    (broken : (Token.read c rest).1.isBroken = true) :
    resume state (c :: rest) = finish (step state (Token.read c rest).1) := by
  rw [resume, Token.scan, Token.scanFrom, visible]
  simp only [broken, Bool.false_eq_true, if_false, if_true, List.foldl_cons, List.foldl_nil]

/-- Where reading on ends in a whole document, all of the text is a phrase with blanks around it. -/
theorem Reached.enclosed_of_resume {state : State} {text : Bytes} (reached : Reached state text)
    {rest : Bytes} (whole : (resume state rest).Whole) :
    (resume state rest).root.phrase.Enclosed (text ++ rest) := by
  induction size : rest.length using Nat.strongRecOn generalizing state text rest with
  | ind n ih =>
    cases rest with
    | nil =>
      rw [List.append_nil]
      exact reached.enclosed_of_finish whole
    | cons c rest =>
      rw [List.length_cons] at size
      cases blank : isBlank c with
      | true =>
        have skipped : resume state (c :: rest) = resume state rest :=
          resume_blanks (List.forall_mem_singleton.mpr blank)
        rw [skipped] at whole ⊢
        have read := ih rest.length (by omega) (reached.snoc blank) whole rfl
        rw [List.append_assoc, List.singleton_append] at read
        exact read
      | false =>
        cases broken : (Token.read c rest).1.isBroken with
        | true =>
          rw [resume_broken blank broken] at whole
          exact absurd whole (reached.not_whole_of_broken broken)
        | false =>
          obtain ⟨taken, behind, split, width_eq, spelled⟩ := Token.read_spells c rest broken
          subst split
          have scanned : resume state (c :: (taken ++ behind)) =
              resume (Document.step state (Token.read c (taken ++ behind)).1) behind :=
            resume_token taken _ blank (Prod.ext rfl width_eq) broken
          rw [scanned] at whole ⊢
          rw [List.length_append] at size
          have read := ih behind.length (by omega) (reached.step spelled) whole rfl
          rw [List.append_assoc, List.cons_append] at read
          exact read

/-- A whole document is one phrase: a list or an object where its tree is one. -/
theorem enclosed_of_whole {text : Bytes} (whole : (ofBytes text).Whole) :
    (ofBytes text).root.phrase.Enclosed text :=
  (Reached.value (.root .nil)).enclosed_of_resume whole

end Document

/-- What a thorough reader reads is one phrase with blanks around it. -/
theorem Reader.Thorough.enclosed {α : Type} {reader : Reader α} (thorough : reader.Thorough)
    {text : Bytes} {value : α} (ran : reader.run text = .ok value) :
    (Document.ofBytes text).root.phrase.Enclosed text := by
  obtain ⟨read, trailing⟩ := Reader.run_eq_ok_iff.mp ran
  exact Document.enclosed_of_whole ⟨thorough.skips read, trailing⟩

end ArtifactRegistry.Json
