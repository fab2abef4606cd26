import ArtifactRegistry.Proofs.Storage.FileLinks
import ArtifactRegistry.Proofs.Storage.FileView

/-! # What files answer

With nothing in the way, a store in files answers as its blobs and links say, or the medium fails: a
blob that is there is reported and returned, one that is not is unknown, and a listing shows the
members of a set, each once. Operations that write fail only with the medium.
-/

namespace ArtifactRegistry

namespace FileStore

open ArtifactRegistry.Action FileTree

variable {store : FileStore} {repository path : String} {digest : Digest} {token : Token}

/-! ## Blobs -/

/-- What a blob is reported as. -/
def describe (digest : Digest) (blob : StoredBlob) : Descriptor :=
  { mediaType := if blob.mediaType = "" then unknownMediaType else blob.mediaType
    digest
    size := Int64.ofNat blob.bytes.length }

/-- A valid digest has a directory, and it is in order. -/
theorem Sound.slot (sound : store.Sound) (valid : digest.IsValid) :
    ∃ names, blobNames digest = .ok names ∧ store.Slot digest names (store.blob? digest) := by
  obtain ⟨algorithm, validates⟩ := valid
  have named : blobNames digest = .ok ["blobs", algorithm.name, digest.hex] :=
    blobNames_eq_ok_iff.mpr ⟨algorithm, validates, rfl⟩
  exact ⟨_, named, sound digest _ named⟩

/-- The error when the files of a blob cannot be looked up. -/
def absent (digest : Digest) (error : MediumError) : StorageError :=
  if error = .notFound then .blobUnknown digest else .medium error

theorem absent_cases {α : Type} (digest : Digest) (error : MediumError) :
    Fails StorageError.OfMedium (.error (absent digest error) : Except StorageError α) ∨
      (.error (absent digest error) : Except StorageError α) = .error (.blobUnknown digest) := by
  by_cases missing : error = .notFound
  · rw [absent, if_pos missing]
    exact .inr rfl
  · rw [absent, if_neg missing]
    exact .inl ⟨_, rfl, _, rfl⟩

/-- A blob is reported, or unknown, unless the medium fails. -/
theorem Sound.statBlob_answers (sound : store.Sound) (valid : digest.IsValid) (token : Token) :
    ∃ result, Answers store (Store.statBlob token digest) result ∧ (Fails StorageError.OfMedium result ∨
      result = (store.blob? digest).elim (.error (.blobUnknown digest))
        fun blob => .ok (describe digest blob)) := by
  obtain ⟨names, named, slot⟩ := sound.slot valid
  have answers {result : Except StorageError Descriptor}
      (ran : ∀ world : World FileStore, world.store = store → world.interference = .none →
        ((statBlob token digest).runIn world).1 = result) :
      Answers store (Store.statBlob token digest) result :=
    ((statBlob_readOnly token digest).answers ran).call
  generalize store.blob? digest = blob? at slot
  cases slot with
  | vacant noMediaType noData =>
    obtain ⟨error, size⟩ := size_of_found_none noData
    refine ⟨.error (absent digest error), answers ?_, absent_cases digest error⟩
    rintro world rfl calm
    obtain ⟨looks, live⟩ := runIn_ensureLive_of_calm calm token
    simp only [statBlob, runIn_bind, live, runIn_validated, named, mapError_ok, runIn_look, size]
    cases error <;> rfl
  | taken blob mediaType data intact =>
    refine ⟨.ok (describe digest blob), answers ?_, .inr rfl⟩
    rintro world rfl calm
    obtain ⟨looks, live⟩ := runIn_ensureLive_of_calm calm token
    have size := size_of_read data
    have text : textOf (world.store.tree.read (world.store.place (names ++ [mediaTypeFile]))) =
        .ok blob.mediaType := by
      rw [← read, mediaType, textOf_ofText]
    simp only [statBlob, runIn_bind, live, runIn_validated, named, mapError_ok, runIn_look, size,
      text, runIn_pure]
    rfl

/-- A blob is returned, or unknown, unless the medium fails. -/
theorem Sound.getBlob_answers (sound : store.Sound) (valid : digest.IsValid) (token : Token) :
    ∃ result, Answers store (Store.getBlob token digest) result ∧ (Fails StorageError.OfMedium result ∨
      result = (store.blob? digest).elim (.error (.blobUnknown digest)) fun blob => .ok blob.bytes) := by
  obtain ⟨names, named, slot⟩ := sound.slot valid
  have answers {result : Except StorageError Bytes}
      (ran : ∀ world : World FileStore, world.store = store → world.interference = .none →
        ((getBlob token digest).runIn world).1 = result) :
      Answers store (Store.getBlob token digest) result :=
    ((getBlob_readOnly token digest).answers ran).call
  generalize store.blob? digest = blob? at slot
  cases slot with
  | vacant noMediaType noData =>
    obtain ⟨error, contents⟩ := read_of_found_none noData
    refine ⟨.error (absent digest error), answers ?_, absent_cases digest error⟩
    rintro world rfl calm
    obtain ⟨looks, live⟩ := runIn_ensureLive_of_calm calm token
    simp only [getBlob, runIn_bind, live, runIn_validated, named, mapError_ok, runIn_look, contents]
    cases error <;> rfl
  | taken blob mediaType data intact =>
    refine ⟨.ok blob.bytes, answers ?_, .inr rfl⟩
    rintro world rfl calm
    obtain ⟨looks, live⟩ := runIn_ensureLive_of_calm calm token
    rw [read] at data
    simp only [getBlob, runIn_bind, live, runIn_validated, named, mapError_ok, runIn_look, data,
      intact, if_true, runIn_pure]

/-! ## Links -/

/-- A directory holds at most one member, unless the medium fails. -/
theorem memberOf_cases (found : Except MediumError String) :
    (∃ member? : Option Digest, memberOf found = .ok member?.toList) ∨
      ∃ source, memberOf found = .error (.medium source) := by
  rcases found with reason | text
  · cases reason
    case notFound => exact .inl ⟨none, rfl⟩
    all_goals exact .inr ⟨_, rfl⟩
  · exact .inl ⟨_, rfl⟩

theorem linksUnder_error {name : String} {error : StorageError}
    (failed : store.linksUnder path name = .error error) : error.OfMedium := by
  rw [linksUnder] at failed
  split at failed
  · cases failed
  rcases bind_eq_error_iff.mp failed with looked | ⟨links, -, failed⟩
  · obtain ⟨source, -, rfl⟩ := mapError_eq_error_iff.mp looked
    exact ⟨source, rfl⟩
  rcases bind_eq_error_iff.mp failed with failed | ⟨lists, -, ended⟩
  · obtain ⟨link, -, failed⟩ := exists_error_of_mapM failed
    rw [linkIn] at failed
    obtain ⟨member?, held⟩ | ⟨source, held⟩ := memberOf_cases (textOf (store.read _))
    · cases held.symm.trans failed
    · cases held.symm.trans failed
      exact ⟨source, rfl⟩
  · cases ended

/-- A listing fails when there is no set at the path, or with the medium. -/
theorem linksAt_error {error : StorageError} (failed : store.linksAt path = .error error) :
    error = .pathNotFound path ∨ error.OfMedium := by
  rw [linksAt] at failed
  split at failed
  · cases failed
    exact .inl rfl
  · cases failed
    exact .inr ⟨_, rfl⟩
  · rw [map_eq_error_iff] at failed
    obtain ⟨name, -, failed⟩ := exists_error_of_mapM failed
    exact .inr (linksUnder_error failed)

section Ascending

variable (tidy : store.Tidy repository) {members : List Digest}

include tidy

/-- Below one name, the members are in the order of their hexadecimal parts. -/
theorem Tidy.ascending_linksUnder {name : String}
    (listed : store.linksUnder path name = .ok members) : Digest.Ascending members := by
  rw [linksUnder] at listed
  split at listed
  · cases listed
    exact .nil
  obtain ⟨links, looked, listed⟩ := bind_eq_ok_iff.mp listed
  obtain ⟨lists, ran, ended⟩ := bind_eq_ok_iff.mp listed
  cases ended
  have ascending := subdirectories_ascending tidy.ordered (mapError_eq_ok_iff.mp looked)
  apply pairwise_flatten_of_mapM ran ascending
  · intro link list held
    rw [linkIn] at held
    obtain ⟨member?, found⟩ | ⟨source, found⟩ := memberOf_cases (textOf (store.read _))
    · cases found.symm.trans held
      cases member? with
      | none => exact .nil
      | some member => exact List.pairwise_singleton _ member
    · cases found.symm.trans held
  · intro link link' list list' member member' before held held' inside inside'
    obtain ⟨directory, -⟩ := (tidy.mem_linkIn held).mp inside
    obtain ⟨directory', -⟩ := (tidy.mem_linkIn held').mp inside'
    obtain ⟨algorithm, validates, rfl, rfl⟩ := directory.last_names
    obtain ⟨algorithm', validates', name_eq, rfl⟩ := directory'.last_names
    exact Digest.text_lt_of_hex_lt validates validates' name_eq before

/-- A listing shows the members in ascending order: the order of the directories of the algorithms,
and of the directories of the members in them, is that of the digests. -/
theorem Tidy.ascending_linksAt (listed : store.linksAt path = .ok members) :
    Digest.Ascending members := by
  rw [linksAt] at listed
  split at listed
  · cases listed
  · cases listed
  next algorithms looked =>
  obtain ⟨lists, ran, rfl⟩ := map_eq_ok_iff.mp listed
  have ascending := subdirectories_ascending tidy.ordered looked
  apply pairwise_flatten_of_mapM ran ascending
  · exact fun name list => tidy.ascending_linksUnder
  · intro name name' list list' member member' before held held' inside inside'
    obtain ⟨-, _, directory, -⟩ := (tidy.mem_linksUnder held).mp inside
    obtain ⟨-, _, directory', -⟩ := (tidy.mem_linksUnder held').mp inside'
    obtain ⟨algorithm, validates, rfl, -⟩ := directory.last_names
    obtain ⟨algorithm', validates', rfl, -⟩ := directory'.last_names
    exact Digest.text_lt_of_name_lt validates validates' before

/-- A listing shows no member twice. -/
theorem Tidy.nodup_linksAt (listed : store.linksAt path = .ok members) : members.Nodup :=
  (tidy.ascending_linksAt listed).nodup

/-- A listing shows the members of a set, each once, unless the medium fails. -/
theorem Tidy.listLinks_answers {subject : Digest}
    (derived : referrersLinkPath repository subject = .ok path) (token : Token) :
    ∃ result, Answers store (Store.listLinks token path) result ∧ (Fails StorageError.OfMedium result ∨
      ∃ members, orEmpty result = .ok members ∧ members.Nodup ∧
        ∀ digest, digest ∈ members ↔ digest ∈ store.links path) := by
  refine ⟨_, (FileStore.listLinks_answers store token path).call, ?_⟩
  cases listed : store.linksAt path with
  | ok members =>
    exact .inr ⟨members, rfl, tidy.nodup_linksAt listed, fun _ => tidy.mem_linksAt listed⟩
  | error error =>
    obtain rfl | ofMedium := linksAt_error listed
    · refine .inr ⟨[], rfl, .nil, fun digest => ⟨nofun, fun there => ?_⟩⟩
      obtain ⟨members, found⟩ := tidy.linksAt_ok derived there
      cases listed.symm.trans found
    · exact .inl ⟨error, rfl, ofMedium⟩

end Ascending

/-! ## Operations that write -/

section KeepsInterference

theorem change_keepsInterference (edit : FileStore → Except MediumError FileTree) :
    KeepsInterference (change edit) := by
  intro world
  rw [runIn_change]
  cases edit world.store <;> rfl

theorem makeDirectory_keepsInterference (names : FileTree.Path) :
    KeepsInterference (makeDirectory names) := by
  apply (change_keepsInterference _).bind
  intro made
  split
  · exact (ReadOnly.pure _).keepsInterference
  · exact (change_keepsInterference _).bind fun _ => (ReadOnly.throw _).keepsInterference
  · exact (ReadOnly.throw _).keepsInterference

theorem writeOnce_keepsInterference (names : FileTree.Path) (contents : Bytes) :
    KeepsInterference (writeOnce names contents) := by
  apply (change_keepsInterference _).bind
  intro written
  split
  · exact (ReadOnly.pure _).keepsInterference
  · exact (ReadOnly.pure _).keepsInterference
  · exact (ReadOnly.throw _).keepsInterference

theorem putBlob_keepsInterference (token : Token) (mediaType : String) (payload : Bytes) :
    KeepsInterference (Store.putBlob token mediaType payload : Action FileStore _ _) := by
  apply KeepsInterference.call
  apply (ReadOnly.ensureLive token).keepsInterference.bind
  intro live
  apply (validated_readOnly _).keepsInterference.bind
  intro names
  apply (makeDirectory_keepsInterference _).bind
  intro made
  apply (writeOnce_keepsInterference _ _).bind
  intro typed
  apply (needsWriting_readOnly _ _ _).keepsInterference.bind
  intro needed
  cases needed with
  | false => exact ((ReadOnly.record _ _ _).bind fun _ => .pure _).keepsInterference
  | true =>
    apply (change_keepsInterference _).bind
    intro written
    exact ((orFail_readOnly _).bind fun _ =>
      (ReadOnly.record _ _ _).bind fun _ => .pure _).keepsInterference

theorem addLink_keepsInterference (token : Token) (path : String) (digest : Digest) :
    KeepsInterference (Store.addLink token path digest : Action FileStore _ _) := by
  apply KeepsInterference.call
  apply (ReadOnly.ensureLive token).keepsInterference.bind
  intro live
  apply (validated_readOnly _).keepsInterference.bind
  intro algorithm
  exact (makeDirectory_keepsInterference _).bind fun _ => writeOnce_keepsInterference _ _

end KeepsInterference

end FileStore

end ArtifactRegistry
