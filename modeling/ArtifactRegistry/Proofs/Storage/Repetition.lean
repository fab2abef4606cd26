import ArtifactRegistry.Proofs.Manifest.Dependencies
import ArtifactRegistry.Proofs.Manifest.Upkeep
import ArtifactRegistry.Proofs.Storage.FileRepair

/-! # Puts that are repeated

A payload that a put has stored stays, and putting it again leaves the store as it is, whatever was
requested in between. What is returned is another matter: memory returns the description of what it
keeps, so all puts of a payload return the same, but files return the media type that they are sent
while the blob keeps that of its first put. `putBlob_again` says both, and `putBlob_again_retyped` is
the shortest sequence of puts that shows the difference.
-/

namespace ArtifactRegistry

open ArtifactRegistry.Action

/-- A payload is there for good: its puts leave the store as it is, and it is reported as ever. -/
structure Settled {σ : Type} [Backend σ] (store : σ) (payload : Bytes) (stored : Descriptor)
    (returned : (mediaType : String) → Descriptor) : Prop where
  putBlob (token : Token) (mediaType : String) :
    Answers store (Store.putBlob token mediaType payload) (.ok (returned mediaType))
  statBlob (token : Token) : Answers store (Store.statBlob token stored.digest) (.ok stored)

section Serve

variable {σ : Type} [Backend σ] {store : σ} {mediaType : String} {payload : Bytes}
  {result : Except StorageError Descriptor}

theorem Call.serve_putBlob (service : ManifestService) {interference : Interference}
    {after : World σ}
    (ran : (Store.putBlob .callers mediaType payload).runIn { store, interference } =
      (result, after)) :
    (⟨service, .putBlob mediaType payload, interference⟩ : Call).serve store =
      (.blobPut mediaType payload result, after.store) := by
  simp only [Call.serve, ran]

/-- Where a put of a blob has happened, the store has made it. -/
theorem Call.ran_of_blobPut {call : Call}
    (put : (call.serve store).1 = .blobPut mediaType payload result) : ∃ after,
    (Store.putBlob .callers mediaType payload).runIn { store, interference := call.interference } =
      (result, after) ∧ (call.serve store).2 = after.store := by
  obtain ⟨service, request, interference⟩ := call
  cases request with
  | putManifest manifest skip => cases put
  | putBlob mediaType' payload' =>
    rcases ran : (Store.putBlob .callers mediaType' payload').runIn { store, interference } with
      ⟨result', after⟩
    rw [serve_putBlob service ran] at put ⊢
    cases put
    exact ⟨after, ran, rfl⟩

end Serve

/-! ## Memory -/

namespace MemoryStore

variable {store : MemoryStore} {blob : StoredBlob} {digest : Digest} {payload : Bytes}

/-- A payload that is there is not put again. -/
theorem put_of_some (there : store.blob? (Digest.ofBytes payload) = some blob) (mediaType : String) :
    store.put mediaType payload = store := by
  simp only [put, there]

/-- A put returns the description of what is there afterwards. -/
theorem describes_of_putBlob {token : Token} {mediaType : String} {descriptor : Descriptor}
    {world after : World MemoryStore}
    (ran : (Store.putBlob token mediaType payload).runIn world = (.ok descriptor, after)) :
    ∃ blob, after.store.blob? (Digest.ofBytes payload) = some blob ∧
      descriptor = StoredBlob.describe blob (Digest.ofBytes payload) := by
  obtain ⟨_, failed, -⟩ | ⟨returned, done, store_eq⟩ := call_ran ran
  · cases failed
  simp only [Backend.putBlob, runIn_bind_eq_ok_iff, runIn_modify, runIn_stat] at done
  obtain ⟨⟨⟩, live, -, ⟨⟩, stored, -, described⟩ := done
  obtain ⟨described, rfl⟩ := Prod.mk.inj described
  rw [store_eq]
  cases there : stored.store.blob? (Digest.ofBytes payload) with
  | none =>
    rw [there] at described
    cases described
  | some blob =>
    rw [there] at described
    cases described
    exact ⟨blob, rfl, rfl⟩

theorem settled_of_some (there : store.blob? (Digest.ofBytes payload) = some blob) :
    Settled store payload (StoredBlob.describe blob (Digest.ofBytes payload))
      fun _ => StoredBlob.describe blob (Digest.ofBytes payload) := by
  constructor
  · intro token mediaType
    refine ((Answers.ensureLive token).bind_ok ?_).call
    rintro world rfl calm
    refine ⟨world, ?_, rfl, calm⟩
    simp only [runIn_bind, runIn_modify, put_of_some there, runIn_stat, there, Option.elim_some]
  · intro token
    have answers := statBlob_answers store token (Digest.ofBytes payload)
    rwa [there] at answers

/-- No requests change a blob that is there. -/
theorem blob?_serveAll (there : store.blob? digest = some blob) (calls : List Call) :
    (Call.serveAll store calls).2.blob? digest = some blob := by
  have step : ∀ call ∈ calls, ∀ (_ : List Event) (store : MemoryStore),
      store.blob? digest = some blob → (call.serve store).2.blob? digest = some blob :=
    fun call _ _ store there => (served call store).blob?_eq there
  exact Call.serveAll_preserves step [] there

/-- Once a put has returned a description, it stays the one. -/
theorem settled_of_serve {call : Call} {mediaType : String} {descriptor : Descriptor}
    (put : (call.serve store).1 = .blobPut mediaType payload (.ok descriptor)) (later : List Call) :
    Settled (Call.serveAll (call.serve store).2 later).2 payload descriptor fun _ => descriptor := by
  obtain ⟨after, ran, next⟩ := Call.ran_of_blobPut put
  obtain ⟨blob, there, rfl⟩ := describes_of_putBlob ran
  rw [next]
  exact settled_of_some (blob?_serveAll there later)

end MemoryStore

/-! ## Directories that are there -/

namespace FileTree

variable {path : Path} {tree : FileTree} {entries : List (String × FileTree)}

/-- A directory that is there is not made. -/
theorem makeDirectories_of_find (ordered : Ordered tree)
    (here : find path tree = .ok (.directory entries)) : makeDirectories path tree = .ok tree := by
  induction path generalizing tree with
  | nil =>
    cases here
    rfl
  | cons name rest ih =>
    obtain ⟨outer, below, rfl, fits, there, inner⟩ := find_cons_eq_ok_iff.mp here
    have made := ih (ordered.below fits there) inner
    have ascending := (ordered [] outer rfl).1
    rw [makeDirectories, if_neg (Nat.not_lt.mpr fits), there, Option.getD_some, made]
    exact congrArg (Except.ok ∘ directory) (SortedMap.insertEntry_of_lookup ascending there)

end FileTree

/-! ## Files -/

namespace FileStore

open FileTree

variable {store : FileStore} {digest : Digest} {names : FileTree.Path} {blob : StoredBlob}
  {mediaType : String} {payload : Bytes}

/-- The directory of a blob that is there is not made. -/
theorem Slot.createDirectories_eq (slot : store.Slot digest names (some blob))
    (ordered : store.tree.Ordered) :
    store.tree.createDirectories (store.place names) = .ok store.tree := by
  cases slot with
  | taken _ _ data _ =>
  obtain ⟨clean, there⟩ := read_eq_ok_iff.mp data
  rw [place_snoc] at clean
  rw [found, place_snoc] at there
  obtain ⟨entries, here⟩ := directory_of_found_append there
  rw [createDirectories, (checkNames_append.mp clean).1]
  exact makeDirectories_of_find ordered here

/-- A blob that is there is described as what it is. -/
theorem Slot.described_eq (named : blobNames digest = .ok names)
    (slot : store.Slot digest names (some blob)) :
    store.described digest = .ok (describe digest blob) := by
  cases slot with
  | taken _ mediaType data _ =>
  have size := size_of_read data
  rw [described_of_named named, size, mediaType, textOf_ofText]
  rfl

/-- A blob that is not there is not described. -/
theorem Slot.described_of_vacant (named : blobNames digest = .ok names)
    (slot : store.Slot digest names none) : ∃ error, store.described digest = .error error := by
  cases slot with
  | vacant _ noData =>
  obtain ⟨error, size⟩ := size_of_found_none noData
  rw [described_of_named named, size]
  exact ⟨_, rfl⟩

theorem settled_of_some (sound : store.Sound) (ordered : store.tree.Ordered)
    (there : store.blob? (Digest.ofBytes payload) = some blob)
    (length_eq : blob.bytes.length = payload.length) :
    Settled store payload (describe (Digest.ofBytes payload) blob) fun mediaType =>
      { describe (Digest.ofBytes payload) blob with mediaType } := by
  obtain ⟨names, named, slot⟩ := sound.taken there
  constructor
  · intro token mediaType
    refine ((Answers.ensureLive token).bind_ok ?_).call
    rintro world rfl calm
    have directory := slot.createDirectories_eq ordered
    have making : (makeDirectory names).runIn world = (.ok (), world) :=
      runIn_makeDirectory_of_ok directory
    have ready : Ready world.store world.store (Digest.ofBytes payload) names (some blob) :=
      slot.ready directory
    simp only [runIn_bind, runIn_validated, named, mapError_ok, making, ready.keepMediaType,
      ready.keep length_eq, Bool.false_eq_true, if_false, runIn_record, runIn_pure, ← length_eq]
    exact ⟨_, rfl, rfl, calm⟩
  · intro token
    rw [← slot.described_eq named]
    exact statBlob_answers store token _

/-! ## What requests keep up -/

/-- A store in order, in which a certain blob may be under a digest. -/
structure OrderlyAt (digest : Digest) (allowed : Option StoredBlob → Prop) (store : FileStore) :
    Prop where
  sound : store.Sound
  ordered : store.tree.Ordered
  blob : allowed (store.blob? digest)

theorem MakesWay.ordered {before after : FileStore} (way : MakesWay names before after)
    (ordered : before.tree.Ordered) : after.tree.Ordered := by
  obtain rfl | ⟨path, tree, -, made, rfl⟩ := way
  · exact ordered
  · exact ordered.makeDirectories (createDirectories_eq_ok made).2

/-- Putting a blob keeps all directories in order. -/
theorem putBlob_ordered (token : Token) (mediaType : String) (payload : Bytes) :
    Preserves (fun store => store.tree.Ordered) (putBlob token mediaType payload) := by
  apply putBlob_preserves_of
  · intro names before after _ ordered way
    exact way.ordered ordered
  · intro names file store change contents tree _ _ writing updated ordered
    exact ordered.update writing updated

/-- Adding a link keeps all directories in order. -/
theorem addLink_ordered (token : Token) (path : String) (digest : Digest) :
    Preserves (fun store => store.tree.Ordered) (addLink token path digest) := by
  apply addLink_preserves_of
  · intro names before after _ ordered way
    exact way.ordered ordered
  · intro names store tree _ ordered created
    obtain ⟨change, writing, updated⟩ := createFile_eq_ok created
    exact ordered.update writing updated

namespace OrderlyAt

variable {payloads : Set Bytes} {allowed : Option StoredBlob → Prop} {world ended : World FileStore}
  {token : Token}

/-- A change in the directory of one blob keeps the store in order when what is there then is allowed. -/
theorem of_blob {before after : FileStore} (orderly : OrderlyAt digest allowed before)
    {other : Digest} (named : blobNames other = .ok names) (same : SameOutside names before after)
    {slot : Option StoredBlob} (holds : after.Slot other names slot) (ordered : after.tree.Ordered)
    (fits : other = digest → allowed slot) : OrderlyAt digest allowed after := by
  obtain ⟨sound, blobs_eq⟩ := orderly.sound.of_blob named same holds
  refine ⟨sound, ordered, ?_⟩
  simp only [blobs_eq]
  split
  · next is => exact fits is.symm
  · exact orderly.blob

/-- A put keeps a store in order when what it keeps under the digest is allowed. -/
theorem putBlob {result : Except StorageError Descriptor} (orderly : OrderlyAt digest allowed world.store)
    (puts : Digest.ofBytes payload = digest → ∀ blob, allowed blob →
      allowed (some (held blob mediaType payload)))
    (ran : (FileStore.putBlob token mediaType payload).runIn world = (result, ended)) :
    OrderlyAt digest allowed ended.store := by
  have named := blobNames_ofBytes payload
  have ordered := (putBlob_ordered token mediaType payload).holds ran orderly.ordered
  obtain ⟨same, ⟨-, slot⟩ | ⟨_, -, -, slot⟩⟩ := putBlob_ran named (orderly.sound _ _ named) ran
  · exact orderly.of_blob named same slot ordered fun is => is ▸ orderly.blob
  · exact orderly.of_blob named same slot ordered fun is => puts is _ (is ▸ orderly.blob)

/-- Links keep a store in order. -/
theorem addLink {repository path : String} {subject other : Digest}
    {result : Except StorageError Unit} (orderly : OrderlyAt digest allowed world.store)
    (derived : referrersLinkPath repository subject = .ok path)
    (ran : (FileStore.addLink token path other).runIn world = (result, ended)) :
    OrderlyAt digest allowed ended.store := by
  obtain ⟨rest, -, path_eq⟩ := ofText_referrersLinkPath derived
  have same := addLink_ran ran
  rw [path_eq] at same
  obtain ⟨sound, blobs_eq⟩ := orderly.sound.of_links same
  refine ⟨sound, (addLink_ordered token path other).holds ran orderly.ordered, ?_⟩
  rw [blobs_eq]
  exact orderly.blob

theorem upkeep (puts : ∀ payload ∈ payloads, Digest.ofBytes payload = digest → ∀ mediaType blob,
      allowed blob → allowed (some (held blob mediaType payload))) :
    Upkeep payloads (OrderlyAt digest allowed) := by
  constructor
  · intro payload member token mediaType
    refine Preserves.call fun world orderly => ?_
    exact orderly.putBlob (fun is => puts payload member is mediaType) rfl
  · intro repository path subject derived token other
    refine Preserves.call fun world orderly => ?_
    exact orderly.addLink derived rfl

end OrderlyAt

theorem orderlyAt_empty (digest : Digest) (root : String) :
    OrderlyAt digest (fun _ => True) (⟨root, .empty⟩ : FileStore) :=
  ⟨(sound_empty root).1, .empty, trivial⟩

/-- Whatever was requested, all directories are in order. -/
theorem orderly_serveAll (digest : Digest) (root : String) (calls : List Call) :
    OrderlyAt digest (fun _ => True) (Call.serveAll (⟨root, .empty⟩ : FileStore) calls).2 := by
  have upkeep : Upkeep Set.univ (OrderlyAt digest fun _ => True) := OrderlyAt.upkeep (by simp)
  exact upkeep.serveAll (fun _ _ _ _ => Set.mem_univ _) (orderlyAt_empty digest root)

/-- The first put of a payload decides which media type it is reported with; a blob that was put without
one is reported as of no known type. -/
structure FirstDecides (before : FileStore) (mediaType : String) (stored : Descriptor) : Prop where
  reported (token : Token) (first : Descriptor) :
    Answers before (Store.statBlob token stored.digest) (.ok first) → stored.mediaType = first.mediaType
  unreported (token : Token) (error : StorageError) :
    Answers before (Store.statBlob token stored.digest) (.error error) →
      stored.mediaType = if mediaType = "" then unknownMediaType else mediaType

theorem firstDecides_of_sound (sound : store.Sound) (valid : digest.IsValid) (mediaType : String)
    (payload : Bytes) :
    FirstDecides store mediaType (describe digest (held (store.blob? digest) mediaType payload)) := by
  obtain ⟨names, named, slot⟩ := sound.slot valid
  generalize store.blob? digest = blob? at slot
  constructor
  · intro token first answers
    have described := answers.unique (statBlob_answers store token digest)
    cases blob? with
    | none =>
      obtain ⟨error, failed⟩ := slot.described_of_vacant named
      cases described.trans failed
    | some blob =>
      cases described.trans (slot.described_eq named)
      obtain ⟨bytes, kept⟩ := held_retains blob mediaType payload
      rw [kept]
      rfl
  · intro token error answers
    have described := answers.unique (statBlob_answers store token digest)
    cases blob? with
    | none => rfl
    | some blob => cases described.trans (slot.described_eq named)

/-- After a put, the payload is kept with its length. -/
theorem length_held (blob : Option StoredBlob) (mediaType : String) (payload : Bytes) :
    (held blob mediaType payload).bytes.length = payload.length := by
  cases blob with
  | none => rfl
  | some blob =>
    rw [held]
    split
    · next same => exact same
    · rfl

/-- A put that succeeds leaves the payload in the place of what was under its digest before. -/
theorem OrderlyAt.held_of_putBlob {token : Token} {world ended : World FileStore}
    {descriptor : Descriptor} (orderly : OrderlyAt (Digest.ofBytes payload) (fun _ => True) world.store)
    (ran : (Store.putBlob token mediaType payload).runIn world = (.ok descriptor, ended)) :
    descriptor = { mediaType, digest := .ofBytes payload, size := Int64.ofNat payload.length } ∧
      OrderlyAt (Digest.ofBytes payload)
        (· = some (held (world.store.blob? (Digest.ofBytes payload)) mediaType payload)) ended.store := by
  obtain ⟨_, failed, -⟩ | ⟨returned, done, store_eq⟩ := call_ran ran
  · cases failed
  have named := blobNames_ofBytes payload
  refine ⟨(putBlob_ok done).1, ?_⟩
  rw [store_eq]
  obtain ⟨same, ⟨⟨_, failed⟩, -⟩ | ⟨_, -, -, slot⟩⟩ := putBlob_ran named (orderly.sound _ _ named) done
  · cases failed
  · obtain ⟨sound, blobs_eq⟩ := orderly.sound.of_blob named same slot
    exact ⟨sound, (putBlob_ordered token mediaType payload).holds done orderly.ordered,
      slot.blob?_eq named⟩

/-- Once a put has stored a payload, it stays what it is described as then, unless another payload with
its digest is put. -/
theorem settled_of_serve {call : Call} {descriptor : Descriptor} {later : List Call}
    (orderly : OrderlyAt (Digest.ofBytes payload) (fun _ => True) store)
    (put : (call.serve store).1 = .blobPut mediaType payload (.ok descriptor))
    (genuine : ∀ call ∈ later, ∀ other, call.request.payload? = some other →
      Digest.ofBytes other = Digest.ofBytes payload → other = payload)
    {stored : Descriptor} (stored_eq : stored = describe (Digest.ofBytes payload)
      (held (store.blob? (Digest.ofBytes payload)) mediaType payload)) :
    descriptor = { stored with mediaType } ∧
      Settled (Call.serveAll (call.serve store).2 later).2 payload stored fun mediaType =>
        { stored with mediaType } := by
  obtain ⟨after, ran, next⟩ := Call.ran_of_blobPut put
  let world : World FileStore := { store, interference := call.interference }
  have orderly : OrderlyAt (Digest.ofBytes payload) (fun _ => True) world.store := orderly
  obtain ⟨rfl, kept⟩ := orderly.held_of_putBlob ran
  have length_eq := length_held (store.blob? (Digest.ofBytes payload)) mediaType payload
  rw [next, stored_eq]
  refine ⟨by rw [describe, length_eq], ?_⟩
  generalize held _ mediaType payload = blob at kept length_eq
  -- The blob is not written again, since what is put under its digest has its length.
  have upkeep : Upkeep {other | Digest.ofBytes other = Digest.ofBytes payload → other = payload}
      (OrderlyAt (Digest.ofBytes payload) (· = some blob)) := by
    apply OrderlyAt.upkeep
    rintro other same is mediaType _ rfl
    rw [same is, held, if_pos length_eq]
  obtain ⟨sound, ordered, there⟩ := upkeep.serveAll genuine kept
  exact settled_of_some sound ordered there length_eq

end FileStore

/-! ## The same put again -/

open FileStore in
/-- Whatever was asked of a store before a payload was put, and whatever is asked of it afterwards,
putting the payload again leaves the store as it is. In memory every put returns what is reported, the
same each time. In files the media type that is reported is that of the first put, and a put returns the
one that it is sent instead; only another payload with the same digest could change what is reported. -/
theorem putBlob_again {call : Call} {mediaType : String} {payload : Bytes} {descriptor : Descriptor}
    (later : List Call) :
    (∀ start : MemoryStore, (call.serve start).1 = .blobPut mediaType payload (.ok descriptor) →
      Settled (Call.serveAll start (call :: later)).2 payload descriptor fun _ => descriptor) ∧
    ∀ (root : String) (before : List Call),
      (call.serve (Call.serveAll (⟨root, .empty⟩ : FileStore) before).2).1 =
        .blobPut mediaType payload (.ok descriptor) →
      (∀ call ∈ later, ∀ other, call.request.payload? = some other →
        Digest.ofBytes other = Digest.ofBytes payload → other = payload) →
      ∃ stored : Descriptor, descriptor = { stored with mediaType } ∧
        FirstDecides (Call.serveAll (⟨root, .empty⟩ : FileStore) before).2 mediaType stored ∧
        Settled (Call.serveAll (⟨root, .empty⟩ : FileStore) (before ++ call :: later)).2 payload stored
          fun mediaType => { stored with mediaType } := by
  constructor
  · intro start put
    exact MemoryStore.settled_of_serve put later
  · intro root before put genuine
    rw [Call.serveAll_append]
    have orderly := orderly_serveAll (Digest.ofBytes payload) root before
    obtain ⟨descriptor_eq, settled⟩ := settled_of_serve orderly put genuine rfl
    have decides := firstDecides_of_sound orderly.sound (Digest.isValid_ofBytes payload) mediaType payload
    exact ⟨_, descriptor_eq, decides, settled⟩

/-- A text is put, and put again under another media type. -/
theorem putBlob_again_same_text : ∃ call again : Call,
    call.request = .putBlob "text/plain" (Bytes.ofText "same") ∧
    again.request = .putBlob "application/json" (Bytes.ofText "same") ∧
    (∃ descriptor,
      (call.serve ({} : MemoryStore)).1 =
        .blobPut "text/plain" (Bytes.ofText "same") (.ok descriptor) ∧
      Settled (Call.serveAll ({} : MemoryStore) [call, again]).2 (Bytes.ofText "same") descriptor
        fun _ => descriptor) ∧
    ∃ descriptor stored,
      (call.serve (⟨"", .empty⟩ : FileStore)).1 =
        .blobPut "text/plain" (Bytes.ofText "same") (.ok descriptor) ∧
      descriptor = { stored with mediaType := "text/plain" } ∧
      Settled (Call.serveAll (⟨"", .empty⟩ : FileStore) [call, again]).2 (Bytes.ofText "same") stored
        fun mediaType => { stored with mediaType } := by
  let payload := Bytes.ofText "same"
  let call : Call := ⟨.library, .putBlob "text/plain" payload, .none⟩
  let again : Call := ⟨.library, .putBlob "application/json" payload, .none⟩
  refine ⟨call, again, rfl, rfl, ?_, ?_⟩
  · obtain ⟨descriptor, put⟩ :=
      MemoryStore.serve_putBlob_of_calm .library "text/plain" payload {}
    have put := congrArg Prod.fst put
    exact ⟨descriptor, put, (putBlob_again [again]).1 {} put⟩
  · have succeeds : ((Store.putBlob .callers "text/plain" payload).runIn
        { store := (⟨"", .empty⟩ : FileStore) }).1.isOk = true := by decide +kernel
    obtain ⟨descriptor, ended, ran⟩ := exists_ended_of_isOk succeeds
    have put := congrArg Prod.fst (Call.serve_putBlob .library ran)
    have genuine : ∀ call ∈ [again], ∀ other, call.request.payload? = some other →
        Digest.ofBytes other = Digest.ofBytes payload → other = payload := by
      intro call member other put _
      obtain rfl := List.mem_singleton.mp member
      exact (Option.some.inj put).symm
    obtain ⟨stored, descriptor_eq, -, settled⟩ := (putBlob_again [again]).2 "" [] put genuine
    exact ⟨descriptor, stored, put, descriptor_eq, settled⟩

/-- In files, the second put of a text returns the media type that it was sent and not that of the
first. -/
theorem putBlob_again_retyped : ∃ (first again : Descriptor) (middle last : World FileStore),
    (Store.putBlob .callers "text/plain" (Bytes.ofText "same")).runIn
      { store := ⟨"", .empty⟩ } = (.ok first, middle) ∧
    (Store.putBlob .callers "application/json" (Bytes.ofText "same")).runIn middle =
      (.ok again, last) ∧
    again ≠ first := by
  let payload := Bytes.ofText "same"
  have succeeds : ((Store.putBlob .callers "text/plain" payload).runIn
      { store := (⟨"", .empty⟩ : FileStore) }).1.isOk = true := by decide +kernel
  have succeedsAgain : ((Store.putBlob .callers "application/json" payload).runIn
      ((Store.putBlob .callers "text/plain" payload).runIn
        { store := (⟨"", .empty⟩ : FileStore) }).2).1.isOk = true := by decide +kernel
  obtain ⟨first, middle, ran⟩ := exists_ended_of_isOk succeeds
  rw [ran] at succeedsAgain
  obtain ⟨again, last, ranAgain⟩ := exists_ended_of_isOk succeedsAgain
  refine ⟨first, again, middle, last, ran, ranAgain, fun same => ?_⟩
  obtain ⟨_, failed, -⟩ | ⟨_, done, -⟩ := call_ran ran
  · cases failed
  obtain ⟨_, failed, -⟩ | ⟨_, doneAgain, -⟩ := call_ran ranAgain
  · cases failed
  rw [(FileStore.putBlob_ok done).1, (FileStore.putBlob_ok doneAgain).1] at same
  exact absurd (congrArg Descriptor.mediaType same) (by decide)

end ArtifactRegistry
