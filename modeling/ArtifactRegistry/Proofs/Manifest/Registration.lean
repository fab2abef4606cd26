import ArtifactRegistry.Manifest.SchemaRegistry
import ArtifactRegistry.Proofs.SortedMap

/-! # The first registration counts

Registrations are asked for one after the other, `registerAll`, of a registry that starts without
readers or with those of the three kinds. At any time, what a registry shows is told by the list of
registrations that came before, accepted or not: under each media type there is the reader of the
first of them, `Reflects`. A further registration of a media type is refused, and it is behind the
first one in the list, so it changes nothing that can be looked up: `registerAll_first_counts`.
-/

namespace ArtifactRegistry.SchemaRegistry

open Manifest

/-- A reader for a media type. -/
structure Registration where
  mediaType : String
  reader : Unmarshal

/-- The answer to a registration, and the registry behind it. Without a new registry, it is still
the old one. -/
def attempt (registry : SchemaRegistry) (call : Registration) :
    Except ManifestError Unit × SchemaRegistry :=
  match registry.register call.mediaType call.reader with
  | .ok after => (.ok (), after)
  | .error error => (.error error, registry)

/-- Asks for registrations from left to right: the answers, and the registry in the end. -/
def registerAll (registry : SchemaRegistry) :
    List Registration → List (Except ManifestError Unit) × SchemaRegistry
  | [] => ([], registry)
  | call :: rest =>
    let (answer, next) := registry.attempt call
    let (answers, last) := next.registerAll rest
    (answer :: answers, last)

/-- The two ways to make a registry. -/
inductive Origin where
  | bare
  | withDefaults

def Origin.registry : Origin → SchemaRegistry
  | bare => .empty
  | withDefaults => .withDefaults

/-- What a registry was made with. -/
def Origin.builtIn : Origin → List Registration
  | bare => []
  | withDefaults => Kind.all.map fun kind => ⟨kind.mediaType, kind.unmarshal⟩

/-! ## What a registry shows -/

/-- Under each media type there is the reader of its first registration. -/
def Reflects (registry : SchemaRegistry) (past : List Registration) : Prop :=
  ∀ mediaType, registry.readers.get? mediaType =
    (past.find? fun call => call.mediaType = mediaType).map Registration.reader

variable {registry : SchemaRegistry} {past calls : List Registration}

theorem find?_isSome_iff {mediaType : String} :
    (past.find? fun call => call.mediaType = mediaType).isSome ↔
      mediaType ∈ past.map Registration.mediaType := by
  simp

namespace Reflects

variable (reflects : registry.Reflects past)

include reflects

theorem contains_iff (mediaType : String) : registry.readers.contains mediaType = true ↔
    mediaType ∈ past.map Registration.mediaType := by
  rw [SortedMap.contains, reflects mediaType, Option.isSome_map, find?_isSome_iff]

theorem lookup_eq (mediaType : String) : registry.lookup mediaType =
    match past.find? fun call => call.mediaType = mediaType with
    | some first => .ok first.reader
    | none => .error (.unknownSchema mediaType) := by
  rw [lookup, reflects mediaType]
  cases past.find? fun call => call.mediaType = mediaType <;> rfl

theorem mem_mediaTypes_iff (mediaType : String) :
    mediaType ∈ registry.mediaTypes ↔ mediaType ∈ past.map Registration.mediaType := by
  rw [mediaTypes, SortedMap.mem_keys_iff, reflects.contains_iff]

/-! ## One registration -/

/-- A media type that has a reader keeps it. -/
theorem attempt_of_mem {call : Registration}
    (taken : call.mediaType ∈ past.map Registration.mediaType) :
    registry.attempt call = (.error (.duplicateSchema call.mediaType), registry) := by
  rw [attempt, register, if_pos ((reflects.contains_iff _).mpr taken)]

theorem attempt_of_not_mem {call : Registration}
    (free : call.mediaType ∉ past.map Registration.mediaType) :
    registry.attempt call = (.ok (), ⟨registry.readers.insert call.mediaType call.reader⟩) := by
  rw [attempt, register, if_neg fun taken => free ((reflects.contains_iff _).mp taken)]

/-- A registration is one more at the end of the list, whatever the answer. -/
theorem attempt (call : Registration) : (registry.attempt call).2.Reflects (past ++ [call]) := by
  intro mediaType
  rw [List.find?_append]
  by_cases taken : call.mediaType ∈ past.map Registration.mediaType
  · rw [reflects.attempt_of_mem taken, reflects mediaType]
    by_cases same : call.mediaType = mediaType
    · obtain ⟨first, found⟩ := Option.isSome_iff_exists.mp (find?_isSome_iff.mpr (same ▸ taken))
      rw [found, Option.some_or]
    · rw [List.find?_singleton, if_neg (by simpa using same), Option.or_none]
  · rw [reflects.attempt_of_not_mem taken, SortedMap.get?_insert]
    by_cases same : mediaType = call.mediaType
    · have none_before : (past.find? fun call => call.mediaType = mediaType) = none := by
        rw [← Option.not_isSome_iff_eq_none, find?_isSome_iff, same]
        exact taken
      rw [if_pos same, none_before, Option.none_or, List.find?_singleton, if_pos (by simp [same])]
      rfl
    · rw [if_neg same, reflects mediaType, List.find?_singleton,
        if_neg (by simpa using Ne.symm same), Option.or_none]

/-! ## Any number of registrations -/

theorem registerAll (calls : List Registration) :
    (registry.registerAll calls).2.Reflects (past ++ calls) := by
  induction calls generalizing registry past with
  | nil => rwa [List.append_nil]
  | cons call rest ih =>
    have reflects := ih (reflects.attempt call)
    rwa [List.append_assoc] at reflects

end Reflects

theorem reflects_empty : empty.Reflects [] := fun _ => rfl

/-- The kinds have different media types, so none of their readers would have been refused. -/
theorem withDefaults_eq_registerAll :
    withDefaults = (empty.registerAll Origin.withDefaults.builtIn).2 := by
  rfl

theorem Origin.reflects (origin : Origin) : origin.registry.Reflects origin.builtIn := by
  cases origin with
  | bare => exact reflects_empty
  | withDefaults =>
    rw [registry, withDefaults_eq_registerAll]
    exact reflects_empty.registerAll _

/-! ## The answers of a run -/

/-- Each registration is answered by the registry that the ones before it have left. -/
theorem getElem?_registerAll (i : Nat) : (registry.registerAll calls).1[i]? =
    calls[i]?.map fun call => ((registry.registerAll (calls.take i)).2.attempt call).1 := by
  induction calls generalizing registry i with
  | nil => rfl
  | cons call rest ih =>
    cases i with
    | zero => rfl
    | succ i =>
      rw [registerAll, List.getElem?_cons_succ, List.getElem?_cons_succ, ih]
      rfl

theorem registerAll_concat (call : Registration) : (registry.registerAll (calls ++ [call])).2 =
    ((registry.registerAll calls).2.attempt call).2 := by
  induction calls generalizing registry with
  | nil => rfl
  | cons first rest ih => exact ih

/-- Of the registrations that were asked for, the first one of every media type counts. -/
structure FirstCounts (start : SchemaRegistry) (builtIn calls : List Registration) : Prop where
  answer (i : Nat) : (start.registerAll calls).1[i]? = calls[i]?.map fun call =>
    if call.mediaType ∈ (builtIn ++ calls.take i).map Registration.mediaType then
      .error (.duplicateSchema call.mediaType)
    else .ok ()
  unchanged {i : Nat} {error : ManifestError}
    (refused : (start.registerAll calls).1[i]? = some (.error error)) :
    (∀ mediaType, (start.registerAll (calls.take (i + 1))).2.lookup mediaType =
      (start.registerAll (calls.take i)).2.lookup mediaType) ∧
    (start.registerAll (calls.take (i + 1))).2.mediaTypes =
      (start.registerAll (calls.take i)).2.mediaTypes
  lookup_eq (mediaType : String) : (start.registerAll calls).2.lookup mediaType =
    match (builtIn ++ calls).find? fun call => call.mediaType = mediaType with
    | some first => .ok first.reader
    | none => .error (.unknownSchema mediaType)
  ascending : (start.registerAll calls).2.mediaTypes.Pairwise (· < ·)
  listed_iff (mediaType : String) : mediaType ∈ (start.registerAll calls).2.mediaTypes ↔
    mediaType ∈ (builtIn ++ calls).map Registration.mediaType

/-- Whatever is registered, and however the registry was made, a registration is refused exactly when
its media type was registered before, and then it leaves the registry as it is. In the end, a media
type has the reader that was registered for it first, and the media types that were registered are
listed in ascending order. -/
theorem registerAll_first_counts (origin : Origin) (calls : List Registration) :
    FirstCounts origin.registry origin.builtIn calls := by
  have reflects (calls : List Registration) := origin.reflects.registerAll calls
  constructor
  case answer =>
    intro i
    rw [getElem?_registerAll]
    congr 1
    funext call
    split
    · next taken => rw [(reflects (calls.take i)).attempt_of_mem taken]
    · next free => rw [(reflects (calls.take i)).attempt_of_not_mem free]
  case unchanged =>
    intro i error refused
    rw [getElem?_registerAll, Option.map_eq_some_iff] at refused
    obtain ⟨call, there, refused⟩ := refused
    by_cases taken : call.mediaType ∈ (origin.builtIn ++ calls.take i).map Registration.mediaType
    · rw [List.take_add_one, there, Option.toList_some, registerAll_concat,
        (reflects (calls.take i)).attempt_of_mem taken]
      exact ⟨fun mediaType => rfl, rfl⟩
    · rw [(reflects (calls.take i)).attempt_of_not_mem taken] at refused
      cases refused
  case lookup_eq => exact (reflects calls).lookup_eq
  case ascending => exact SortedMap.ascending_keys _
  case listed_iff => exact (reflects calls).mem_mediaTypes_iff

/-- A media type without a reader gets one, and keeps it. -/
example : (withDefaults.registerAll [⟨"a/b", Kind.index.unmarshal⟩, ⟨"a/b", Kind.image.unmarshal⟩]).1 =
      [.ok (), .error (.duplicateSchema "a/b")] ∧
    (withDefaults.registerAll [⟨"a/b", Kind.index.unmarshal⟩,
      ⟨"a/b", Kind.image.unmarshal⟩]).2.lookup "a/b" = .ok Kind.index.unmarshal :=
  ⟨rfl, rfl⟩

end ArtifactRegistry.SchemaRegistry
