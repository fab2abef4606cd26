import Mathlib.Data.List.Forall2
import Mathlib.Data.List.Perm.Basic
import Mathlib.Data.List.Sort

/-! # Outcomes taken apart

When a sequence of steps that may fail has succeeded, each of its steps has.
-/

namespace ArtifactRegistry

/-- A result is an error of some kind. -/
def Fails {ε α : Type} (Kind : ε → Prop) (result : Except ε α) : Prop :=
  ∃ error, result = .error error ∧ Kind error

instance {ε α : Type} {Kind : ε → Prop} [DecidablePred Kind] :
    DecidablePred (Fails Kind : Except ε α → Prop)
  | .ok _ => .isFalse nofun
  | .error error =>
    decidable_of_iff (Kind error)
      ⟨fun kind => ⟨error, rfl, kind⟩, fun ⟨_, same, kind⟩ => Except.error.inj same ▸ kind⟩

theorem bind_eq_ok_iff {ε α β : Type} {first : Except ε α} {next : α → Except ε β} {value : β} :
    first >>= next = .ok value ↔ ∃ start, first = .ok start ∧ next start = .ok value := by
  cases first with
  | error error =>
    constructor
    · intro ran
      cases ran
    · rintro ⟨_, started, _⟩
      cases started
  | ok start =>
    constructor
    · intro ran
      exact ⟨start, rfl, ran⟩
    · rintro ⟨_, started, ran⟩
      cases started
      exact ran

theorem bind_eq_error_iff {ε α β : Type} {first : Except ε α} {next : α → Except ε β} {error : ε} :
    first >>= next = .error error ↔
      first = .error error ∨ ∃ start, first = .ok start ∧ next start = .error error := by
  cases first with
  | error reason =>
    constructor
    · rintro ⟨⟩
      exact .inl rfl
    · rintro (⟨⟨⟩⟩ | ⟨_, ⟨⟩, _⟩)
      rfl
  | ok start =>
    constructor
    · intro ran
      exact .inr ⟨start, rfl, ran⟩
    · rintro (⟨⟨⟩⟩ | ⟨_, ⟨⟩, ran⟩)
      exact ran

theorem map_eq_ok_iff {ε α β : Type} {first : Except ε α} {change : α → β} {value : β} :
    first.map change = .ok value ↔ ∃ start, first = .ok start ∧ change start = value := by
  cases first <;> simp [Except.map]

theorem exists_eq_ok_of_isOk {ε α : Type} {result : Except ε α} (succeeds : result.isOk = true) :
    ∃ value, result = .ok value := by
  cases result with
  | error error => cases succeeds
  | ok value => exact ⟨value, rfl⟩

/-- A run that succeeds ends with a value in some state. -/
theorem exists_ended_of_isOk {ε α ω : Type} {outcome : Except ε α × ω}
    (succeeds : outcome.1.isOk = true) : ∃ value ended, outcome = (.ok value, ended) := by
  obtain ⟨value, result_eq⟩ := exists_eq_ok_of_isOk succeeds
  exact ⟨value, outcome.2, Prod.ext result_eq rfl⟩

@[simp] theorem mapError_ok {ε ε' α : Type} (wrap : ε → ε') (value : α) :
    (Except.ok value).mapError wrap = .ok value := rfl

@[simp] theorem mapError_error {ε ε' α : Type} (wrap : ε → ε') (error : ε) :
    (Except.error error : Except ε α).mapError wrap = .error (wrap error) := rfl

theorem mapError_eq_ok_iff {ε ε' α : Type} {result : Except ε α} {wrap : ε → ε'} {value : α} :
    result.mapError wrap = .ok value ↔ result = .ok value := by
  cases result with
  | error error =>
    constructor
    · intro ran
      cases ran
    · intro ran
      cases ran
  | ok result => simp only [mapError_ok, Except.ok.injEq]

theorem mapError_eq_error_iff {ε ε' α : Type} {result : Except ε α} {wrap : ε → ε'} {error : ε'} :
    result.mapError wrap = .error error ↔ ∃ source, result = .error source ∧ wrap source = error := by
  cases result <;> simp

theorem map_eq_error_iff {ε α β : Type} {first : Except ε α} {change : α → β} {error : ε} :
    first.map change = .error error ↔ first = .error error := by
  cases first <;> simp [Except.map]

section Several

variable {ε α β : Type} {items : List α} {step : α → Except ε β}

theorem mapM_eq_ok_iff {values : List β} :
    items.mapM step = .ok values ↔ List.Forall₂ (fun item value => step item = .ok value) items values := by
  induction items generalizing values with
  | nil =>
    rw [List.mapM_nil, List.forall₂_nil_left_iff]
    constructor
    · rintro ⟨⟩
      rfl
    · rintro rfl
      rfl
  | cons item rest ih =>
    simp only [List.mapM_cons, bind_eq_ok_iff, List.forall₂_cons_left_iff]
    constructor
    · rintro ⟨value, first, others, ran, ⟨⟩⟩
      exact ⟨value, others, first, ih.mp ran, rfl⟩
    · rintro ⟨value, others, first, ran, rfl⟩
      exact ⟨value, first, others, ih.mpr ran, rfl⟩

/-- Steps that all succeed succeed together. -/
theorem exists_mapM_eq_ok (succeeds : ∀ item ∈ items, ∃ value, step item = .ok value) :
    ∃ values, items.mapM step = .ok values := by
  induction items with
  | nil => exact ⟨[], rfl⟩
  | cons item rest ih =>
    obtain ⟨⟨value, first⟩, others⟩ := List.forall_mem_cons.mp succeeds
    obtain ⟨values, ran⟩ := ih others
    exact ⟨value :: values, mapM_eq_ok_iff.mpr (.cons first (mapM_eq_ok_iff.mp ran))⟩

/-- When all steps have succeeded, each has. -/
theorem exists_ok_of_mapM {values : List β} (ran : items.mapM step = .ok values) {item : α}
    (member : item ∈ items) : ∃ value, step item = .ok value := by
  induction mapM_eq_ok_iff.mp ran with
  | nil => cases member
  | cons first others ih =>
    rcases List.mem_cons.mp member with rfl | later
    · exact ⟨_, first⟩
    · exact ih (mapM_eq_ok_iff.mpr others) later

/-- Every value that steps end with is that of one of them. -/
theorem exists_of_mem_mapM {values : List β} (ran : items.mapM step = .ok values) {value : β}
    (member : value ∈ values) : ∃ item ∈ items, step item = .ok value := by
  induction mapM_eq_ok_iff.mp ran with
  | nil => cases member
  | @cons item first items values done others ih =>
    rcases List.mem_cons.mp member with rfl | later
    · exact ⟨item, List.mem_cons_self, done⟩
    · obtain ⟨item', inside, ran⟩ := ih (mapM_eq_ok_iff.mpr others) later
      exact ⟨item', List.mem_cons_of_mem item inside, ran⟩

/-- In another order, steps that succeed end with the same values in another order. -/
theorem mapM_perm {items' : List α} {values : List β} (same : items'.Perm items)
    (ran : items.mapM step = .ok values) :
    ∃ values', items'.mapM step = .ok values' ∧ values'.Perm values := by
  obtain ⟨values', ran', perm⟩ := List.perm_comp_forall₂ same (mapM_eq_ok_iff.mp ran)
  exact ⟨values', mapM_eq_ok_iff.mpr ran', perm⟩

/-- When steps fail together, one of them does. -/
theorem exists_error_of_mapM {error : ε} (ran : items.mapM step = .error error) :
    ∃ item ∈ items, step item = .error error := by
  induction items with
  | nil => cases ran
  | cons item rest ih =>
    rw [List.mapM_cons] at ran
    rcases bind_eq_error_iff.mp ran with failed | ⟨value, -, ran⟩
    · exact ⟨item, List.mem_cons_self, failed⟩
    · rcases bind_eq_error_iff.mp ran with failed | ⟨values, -, ended⟩
      · obtain ⟨item', member, failed⟩ := ih failed
        exact ⟨item', List.mem_cons_of_mem item member, failed⟩
      · cases ended

/-- What the lists that some steps end with have in them. -/
theorem mem_flatten_of_mapM {step : α → Except ε (List β)} {lists : List (List β)} {member : β}
    (ran : items.mapM step = .ok lists) :
    member ∈ lists.flatten ↔ ∃ item ∈ items, ∃ list, step item = .ok list ∧ member ∈ list := by
  induction mapM_eq_ok_iff.mp ran with
  | nil => simp
  | @cons item list items lists first others ih =>
    rw [List.flatten_cons, List.mem_append, ih (mapM_eq_ok_iff.mpr others), List.exists_mem_cons_iff]
    simp [first]

/-- Ordered lists make an ordered list, when they come in the order of their members. -/
theorem pairwise_flatten_of_mapM {step : α → Except ε (List β)} {lists : List (List β)}
    {before : α → α → Prop} {below : β → β → Prop} (ran : items.mapM step = .ok lists)
    (ordered : items.Pairwise before)
    (inside : ∀ item list, step item = .ok list → list.Pairwise below)
    (across : ∀ item item' list list' member member', before item item' → step item = .ok list →
      step item' = .ok list' → member ∈ list → member' ∈ list' → below member member') :
    lists.flatten.Pairwise below := by
  induction mapM_eq_ok_iff.mp ran with
  | nil => exact .nil
  | @cons item list items lists first others ih =>
    obtain ⟨earlier, ordered⟩ := List.pairwise_cons.mp ordered
    have ran := mapM_eq_ok_iff.mpr others
    rw [List.flatten_cons, List.pairwise_append]
    refine ⟨inside item list first, ih ran ordered, ?_⟩
    intro member here member' later
    obtain ⟨item', follows, list', done, there⟩ := (mem_flatten_of_mapM ran).mp later
    exact across item item' list list' member member' (earlier item' follows) first done here there

theorem mapM_congr {step' : α → Except ε β} (same : ∀ item ∈ items, step item = step' item) :
    items.mapM step = items.mapM step' := by
  induction items with
  | nil => rfl
  | cons item rest ih =>
    obtain ⟨first, others⟩ := List.forall_mem_cons.mp same
    rw [List.mapM_cons, List.mapM_cons, first, ih others]

end Several

section Lists

variable {ε α β : Type}

/-- A step has more to tell than that there is nothing. -/
def tells : Except ε (List β) → Bool
  | .ok [] => false
  | _ => true

theorem eq_ok_nil_of_not_tells {result : Except ε (List β)} (silent : ¬ tells result = true) :
    result = .ok [] := by
  rcases result with _ | ⟨_ | _⟩
  · exact absurd rfl silent
  · rfl
  · exact absurd rfl silent

/-- Items about which there is nothing to tell make no difference. -/
theorem flatten_mapM_filter (items : List α) (step : α → Except ε (List β)) :
    ((items.filter fun item => tells (step item)).mapM step).map List.flatten =
      (items.mapM step).map List.flatten := by
  induction items with
  | nil => rfl
  | cons item rest ih =>
    rw [List.filter_cons]
    split
    · rw [List.mapM_cons, List.mapM_cons]
      cases step item with
      | error error => rfl
      | ok list =>
        have flat (values : Except ε (List (List β))) :
            (values >>= fun values => pure (list :: values)).map List.flatten =
              (values.map List.flatten).map (list ++ ·) := by
          cases values <;> rfl
        exact (flat _).trans ((congrArg _ ih).trans (flat _).symm)
    · next silent =>
      have flat (values : Except ε (List (List β))) :
          (values >>= fun values => pure ([] :: values)).map List.flatten = values.map List.flatten := by
        cases values <;> rfl
      rw [ih, List.mapM_cons, eq_ok_nil_of_not_tells silent]
      exact (flat _).symm

/-- In order, two lists of items tell the same when each has what the other tells about. -/
theorem flatten_mapM_congr {names names' : List String} {step step' : String → Except ε (List β)}
    (ascending : names.Pairwise (· < ·)) (ascending' : names'.Pairwise (· < ·))
    (common : ∀ name ∈ names, step name = .ok [] ∨ name ∈ names' ∧ step' name = step name)
    (common' : ∀ name ∈ names', step' name = .ok [] ∨ name ∈ names ∧ step name = step' name) :
    (names.mapM step).map List.flatten = (names'.mapM step').map List.flatten := by
  have silent {result : Except ε (List β)} (nothing : result = .ok []) : tells result ≠ true := by
    subst nothing
    exact Bool.false_ne_true
  have telling_eq : (names.filter fun name => tells (step name)) =
      names'.filter fun name => tells (step' name) := by
    apply (ascending.sublist List.filter_sublist).eq_of_mem_iff
      (ascending'.sublist List.filter_sublist)
    intro name
    rw [List.mem_filter, List.mem_filter]
    constructor
    · rintro ⟨member, telling⟩
      rcases common name member with nothing | ⟨member', same⟩
      · exact absurd telling (silent nothing)
      · exact ⟨member', same ▸ telling⟩
    · rintro ⟨member, telling⟩
      rcases common' name member with nothing | ⟨member', same⟩
      · exact absurd telling (silent nothing)
      · exact ⟨member', same ▸ telling⟩
  rw [← flatten_mapM_filter names, ← flatten_mapM_filter names', telling_eq]
  congr 1
  apply mapM_congr
  intro name member
  obtain ⟨member, telling⟩ := List.mem_filter.mp member
  rcases common' name member with nothing | ⟨-, same⟩
  · exact absurd telling (silent nothing)
  · exact same

end Lists

end ArtifactRegistry
