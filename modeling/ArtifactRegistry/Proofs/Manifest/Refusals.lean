import ArtifactRegistry.Proofs.Manifest.Routing
import ArtifactRegistry.Proofs.Storage.FileLinks

/-! # Refusals that clients see

Some errors say that one part of the library has broken a contract with another: a manifest came to the
handler of another kind or without bytes, or a schema was registered twice. They are checked for in
many places, `put_draft` is one example, but a document that a client sends never runs into them:
`putBytes_keeps_contracts`. What the checks look for was settled when the document was read.
-/

namespace ArtifactRegistry

open Manifest ArtifactRegistry.Action

/-! ## Broken contracts -/

/-- A manifest without bytes, bytes that are no payload, or a second reader of a media type. -/
inductive ManifestError.BreaksContract : ManifestError → Prop
  | duplicateSchema (mediaType : String) : BreaksContract (.duplicateSchema mediaType)
  | noPayload (kind : Kind) : BreaksContract (.noPayload kind)
  | payload (source : PayloadError) : BreaksContract (.payload source)

/-- A stored manifest is unreadable because of a broken contract. -/
inductive StorageError.BreaksContract : StorageError → Prop
  | unreadable (digest : Digest) {source : ManifestError} (breaks : source.BreaksContract) :
    BreaksContract (.unreadable digest source)

/-- A manifest came to a handler that is not in charge of it, or another contract is broken. -/
inductive PutError.BreaksContract : PutError → Prop
  | typeMismatch (expected found : Kind) : BreaksContract (.typeMismatch expected found)
  | unrecognizedMediaType (kind : Kind) (mediaType : String) :
    BreaksContract (.unrecognizedMediaType kind mediaType)
  | manifest {source : ManifestError} (breaks : source.BreaksContract) :
    BreaksContract (.manifest source)
  | storage {source : StorageError} (breaks : source.BreaksContract) :
    BreaksContract (.storage source)

theorem PutError.not_breaksContract_manifest {source : ManifestError}
    (keeps : ¬ source.BreaksContract) : ¬ (PutError.manifest source).BreaksContract :=
  fun | .manifest breaks => keeps breaks

theorem PutError.not_breaksContract_ofStorage {error : StorageError}
    (keeps : ¬ error.BreaksContract) : ¬ (PutError.ofStorage error).BreaksContract := by
  cases error
  case cancelled => exact nofun
  all_goals exact fun | .storage breaks => keeps breaks

/-- Operations that store something never fail with a broken contract. -/
class ContractBackend (σ : Type) [Backend σ] : Prop where
  putBlob (token : Token) (mediaType : String) (payload : Bytes) :
    FailsWith (¬ ·.BreaksContract) (Backend.putBlob token mediaType payload : Action σ _ _)
  addLink (token : Token) (path : String) (digest : Digest) :
    FailsWith (¬ ·.BreaksContract) (Backend.addLink token path digest : Action σ _ _)

instance : ContractBackend MemoryStore where
  putBlob token mediaType payload := by
    refine (FailsWith.ensureLive nofun token).bind fun _ => (FailsWith.modify _).bind fun _ => ?_
    refine FailsWith.get.bind fun world => ?_
    cases world.store.blob? (Digest.ofBytes payload) with
    | some blob => exact .pure _
    | none => exact FailsWith.bind (.throw nofun) fun _ => .pure _
  addLink token path digest := (FailsWith.ensureLive nofun token).bind fun _ => .modify _

theorem StorageError.OfMedium.keepsContract {error : StorageError} (ofMedium : error.OfMedium) :
    ¬ error.BreaksContract := by
  obtain ⟨source, rfl⟩ := ofMedium
  exact nofun

instance : ContractBackend FileStore where
  putBlob token mediaType payload := by
    intro world error failed
    obtain ofMedium | fired := FileStore.putBlob_stopped (Prod.ext failed rfl)
    · exact ofMedium.keepsContract
    · have live : FailsWith (¬ ·.BreaksContract) (ensureLive token : Action FileStore _ Unit) :=
        .ensureLive nofun token
      exact live world error (congrArg Prod.fst fired)
  addLink token path digest := by
    change FailsWith _ (FileStore.addLink token path digest)
    rw [FileStore.addLink]
    refine (FailsWith.ensureLive nofun token).bind fun _ => ?_
    cases digest.validate with
    | error source => exact FailsWith.throw nofun
    | ok algorithm =>
      simp only [FileStore.validated, pure_bind]
      refine FailsWith.mono ?_ fun error => StorageError.OfMedium.keepsContract
      exact (FileStore.makeDirectory_fails _).bind fun _ => FileStore.writeOnce_fails _ _

section Store

variable {σ : Type} [Backend σ] [ContractBackend σ]

theorem Store.putBlob_keeps (token : Token) (mediaType : String) (payload : Bytes) :
    FailsWith (¬ ·.BreaksContract) (Store.putBlob token mediaType payload : Action σ _ _) :=
  (ContractBackend.putBlob token mediaType payload).call nofun

theorem Store.addLink_keeps (token : Token) (path : String) (digest : Digest) :
    FailsWith (¬ ·.BreaksContract) (Store.addLink token path digest : Action σ _ _) :=
  (ContractBackend.addLink token path digest).call nofun

end Store

/-! ## Reading documents -/

namespace Manifest

variable {text : Bytes} {error : ManifestError}

theorem probe_error {kind : Kind} (failed : probe kind text = .error error) :
    ¬ error.BreaksContract := by
  rw [probe] at failed
  split at failed
  · cases failed
    rintro ⟨⟩
  split at failed
  · cases failed
    rintro ⟨⟩
  · cases failed

/-- The probe refuses the text that is no payload. -/
theorem probe_nil (kind : Kind) : probe kind [] ≠ .ok () := by
  cases kind <;> nofun

theorem parse_error {kind : Kind} (failed : parse kind text = .error error) :
    ¬ error.BreaksContract := by
  rcases bind_eq_error_iff.mp failed with probed | ⟨⟨⟩, probed, failed⟩
  · exact probe_error probed
  rcases bind_eq_error_iff.mp failed with copied | ⟨payload, -, failed⟩
  · obtain ⟨source, copied, -⟩ := mapError_eq_error_iff.mp copied
    rw [Payload.verbatim] at copied
    split at copied
    · next empty => exact absurd (empty ▸ probed) (probe_nil kind)
    · cases copied
  rcases bind_eq_error_iff.mp failed with unread | ⟨variant, -, failed⟩
  · obtain ⟨source, -, rfl⟩ := mapError_eq_error_iff.mp unread
    rintro ⟨⟩
  split at failed
  · cases failed
  · cases failed
    rintro ⟨⟩

theorem Kind.unmarshal_error {kind : Kind} (failed : kind.unmarshal text = .error error) :
    ¬ error.BreaksContract := by
  apply parse_error
  rw [← Kind.map_fst_unmarshal, failed]
  rfl

end Manifest

namespace SchemaRegistry

variable {contentType : String} {text : Bytes}

theorem unmarshal_error {error : ManifestError}
    (failed : withDefaults.unmarshal contentType text = .error error) : ¬ error.BreaksContract := by
  rcases bind_eq_error_iff.mp failed with unrouted | ⟨mediaType, -, failed⟩
  · rw [route] at unrouted
    split at unrouted
    · rw [declaredMediaType] at unrouted
      split at unrouted
      · cases unrouted
        rintro ⟨⟩
      · cases unrouted
    · cases unrouted
  rcases bind_eq_error_iff.mp failed with unknown | ⟨reader, found, failed⟩
  · rw [lookup] at unknown
    split at unknown
    · cases unknown
    · cases unknown
      rintro ⟨⟩
  · obtain ⟨kind, -, rfl⟩ := lookup_eq_ok found
    exact Kind.unmarshal_error failed

/-- What was read has passed the check of the media type, and has bytes. -/
theorem passed_of_unmarshal {manifest : Manifest} {descriptor : Descriptor}
    (read : withDefaults.unmarshal contentType text = .ok (manifest, descriptor)) :
    manifest.variant.mediaTypeMatches = true ∧ ∃ payload, manifest.payload = .ok payload := by
  obtain ⟨_, reader, -, found, read⟩ := unmarshal_ok_iff.mp read
  obtain ⟨kind, -, rfl⟩ := lookup_eq_ok found
  obtain ⟨-, -, fits, payload, kept, -⟩ := parse_eq_ok_iff.mp (unmarshal_kind_iff.mp read).1
  refine ⟨fits, payload, ?_⟩
  rw [Manifest.payload, kept]

end SchemaRegistry

/-! ## Storing manifests -/

theorem referrersLinkPath_error {repository : String} {subject : Digest} {error : StorageError}
    (failed : referrersLinkPath repository subject = .error error) : ¬ error.BreaksContract := by
  rcases bind_eq_error_iff.mp failed with unnamed | ⟨root, -, failed⟩
  · rw [referrersRoot] at unnamed
    split at unnamed
    · cases unnamed
    · cases unnamed
      rintro ⟨⟩
  rcases bind_eq_error_iff.mp failed with invalid | ⟨algorithm, -, ended⟩
  · obtain ⟨source, -, rfl⟩ := mapError_eq_error_iff.mp invalid
    rintro ⟨⟩
  · cases ended

section Put

variable {σ : Type} [Backend σ]

theorem Manifest.verifyDependencies_keeps (lookUp : Lookup σ) (token : Token) (variant : Variant) :
    FailsWith (¬ ·.BreaksContract) (verifyDependencies lookUp token variant) := by
  have lookupFailure (digest : Digest) (error : StorageError) :
      FailsWith (¬ ·.BreaksContract) (lookupFailure digest error : Action σ _ _) := by
    cases error
    case cancelled => exact .throw (by rintro ⟨⟩)
    all_goals exact .pure _
  have failure? (dependency : Dependency) :
      FailsWith (¬ ·.BreaksContract) (dependency.failure? lookUp token) := by
    rw [Dependency.failure?]
    split
    · exact .pure _
    split
    · refine (FailsWith.outcome _).bind fun found => ?_
      split
      · exact .pure _
      · exact .pure _
      · exact .pure _
      · exact lookupFailure _ _
    · refine (FailsWith.outcome _).bind fun found => ?_
      split
      · exact .pure _
      · exact .pure _
      · exact lookupFailure _ _
  have failures (dependencies : List Dependency) :
      FailsWith (¬ ·.BreaksContract) (failures lookUp token dependencies) := by
    induction dependencies with
    | nil => exact .pure []
    | cons dependency rest ih =>
      refine (FailsWith.isCancelled token).bind fun fired => ?_
      cases fired with
      | true => exact .throw (by rintro ⟨⟩)
      | false => exact (failure? dependency).bind fun _ => ih.bind fun _ => .pure _
  refine (failures _).bind fun failures => ?_
  cases failures with
  | nil => exact .pure ()
  | cons failure rest => exact (FailsWith.record _ _ _).bind fun _ => .throw (by rintro ⟨⟩)

namespace Handler

variable {manifest : Manifest} {payload : Payload}

/-- The checks find nothing wrong with a manifest of the kind that declares its media type. -/
theorem check_keeps (fits : manifest.variant.mediaTypeMatches = true) (lookUp : Lookup σ)
    (token : Token) (skip : Bool) :
    FailsWith (¬ ·.BreaksContract) (check manifest.kind lookUp token manifest skip) := by
  intro world error failed
  rw [runIn_check, if_neg (not_not_intro rfl), fits] at failed
  cases skip with
  | true => cases failed
  | false => exact verifyDependencies_keeps lookUp token manifest.variant world error failed

variable [ContractBackend σ]

theorem store_keeps (sealed : manifest.payload = .ok payload) (kind : Kind) (token : Token) :
    FailsWith (¬ ·.BreaksContract) (store kind token manifest : Action σ _ _) := by
  rw [store, sealed]
  refine (FailsWith.isCancelled token).bind fun fired => ?_
  cases fired with
  | true => exact .throw (by rintro ⟨⟩)
  | false =>
    refine (Store.putBlob_keeps token _ _).outcome_bind ?_ fun _ => .pure _
    intro error keeps
    exact (FailsWith.record _ _ _).bind fun _ =>
      .throw (PutError.not_breaksContract_ofStorage keeps)

theorem put_keeps {handler : Handler} (kind_eq : manifest.kind = handler.kind)
    (fits : manifest.variant.mediaTypeMatches = true) (sealed : manifest.payload = .ok payload)
    (lookUp : Lookup σ) (token : Token) (skip : Bool) :
    FailsWith (¬ ·.BreaksContract) (handler.put lookUp token manifest skip) := by
  cases handler with
  | plain kind =>
    obtain rfl : manifest.kind = kind := kind_eq
    exact (FailsWith.record _ _ _).bind fun _ =>
      (check_keeps fits lookUp token skip).bind fun _ => store_keeps sealed _ token
  | referrers repository =>
    have checked := check_keeps fits lookUp token skip
    rw [kind_eq] at checked
    refine (FailsWith.record _ _ _).bind fun _ => checked.bind fun _ => ?_
    split
    · next error failed =>
      refine .throw (PutError.not_breaksContract_ofStorage ?_)
      rw [linkPath?] at failed
      split at failed
      · cases failed
      · exact referrersLinkPath_error (map_eq_error_iff.mp failed)
    · next path? _ =>
      refine (store_keeps sealed _ token).bind fun digest => ?_
      cases path? with
      | none => exact .pure _
      | some path =>
        have linked : FailsWith (¬ ·.BreaksContract) (Action.withErrors PutError.ofStorage
            (Store.addLink .fresh path digest : Action σ _ Unit)) :=
          (Store.addLink_keeps .fresh path digest).withErrors
            fun _ => PutError.not_breaksContract_ofStorage
        exact linked.bind fun _ => (FailsWith.record _ _ _).bind fun _ => .pure _

end Handler

/-- What was read is put without a broken contract. -/
theorem ManifestService.putBytes_keeps [ContractBackend σ] {service : ManifestService}
    (standard : service.Standard) (token : Token) (contentType : String) (text : Bytes)
    (skip : Bool) :
    FailsWith (¬ ·.BreaksContract) (service.putBytes token contentType text skip : Action σ _ _) := by
  rw [putBytes, standard.registry_eq]
  split
  · next source failed =>
    exact .throw (PutError.not_breaksContract_manifest (SchemaRegistry.unmarshal_error failed))
  next manifest descriptor read =>
  obtain ⟨fits, payload, sealed⟩ := SchemaRegistry.passed_of_unmarshal read
  rw [put]
  split
  · exact .throw (by rintro ⟨⟩)
  next handler inCharge =>
  exact (Handler.put_keeps (standard.kind_eq inCharge).symm fits sealed _ token skip).bind fun _ =>
    (FailsWith.record _ _ _).bind fun _ => .pure _

/-- A manifest without bytes runs into a broken contract when it is put and not read. -/
theorem ManifestService.put_draft {service : ManifestService} {variant : Variant}
    (inCharge : service.handlers variant.kind = some (.plain variant.kind))
    (fits : variant.mediaTypeMatches = true) {world : World σ} (calm : world.interference = .none)
    (token : Token) :
    ((service.put token (.draft variant) true).runIn world).1 =
        .error (.manifest (.noPayload variant.kind)) ∧
      (PutError.manifest (.noPayload variant.kind)).BreaksContract := by
  refine ⟨?_, .manifest (.noPayload _)⟩
  have checked (start : World σ) : (Handler.check variant.kind exists? token (.draft variant) true).runIn
      start = (.ok (), start) := by
    have same : (draft variant).kind = variant.kind := rfl
    have fits : (draft variant).variant.mediaTypeMatches = true := fits
    rw [Handler.runIn_check, if_neg (not_not_intro same), fits]
    rfl
  have stored (start : World σ) (calm : start.interference = .none) :
      ((Handler.store variant.kind token (.draft variant)).runIn start).1 =
        .error (.manifest (.noPayload variant.kind)) := by
    obtain ⟨looks, looked⟩ := runIn_isCancelled_of_calm (ε := PutError) calm token
    rw [Handler.store, runIn_bind_of_ok looked]
    rfl
  have inCharge : service.handlers (draft variant).kind = some (.plain variant.kind) := inCharge
  simp only [put, inCharge, Handler.put, runIn_bind, runIn_record, checked]
  generalize recorded : World.mk _ _ _ _ _ = start
  have failed := stored start (by rw [← recorded, calm])
  rcases ran : (Handler.store variant.kind token (.draft variant)).runIn start with ⟨result, ended⟩
  rw [ran] at failed
  obtain rfl := failed
  rfl

end Put

/-- Whatever a client sends, and whatever handlers a service has, a put of bytes never fails because
the library broke a contract with itself: not on any state of either store, with any faults, and
whenever the token fires. -/
theorem ManifestService.putBytes_keeps_contracts (repository : String) (handlers : List Handler)
    (token : Token) (contentType : String) (text : Bytes) (skip : Bool) :
    FailsWith (¬ ·.BreaksContract) ((withHandlers repository .withDefaults handlers).putBytes token
        contentType text skip : Action MemoryStore PutError Digest) ∧
      FailsWith (¬ ·.BreaksContract) ((withHandlers repository .withDefaults handlers).putBytes token
        contentType text skip : Action FileStore PutError Digest) :=
  have standard := standard_withHandlers repository handlers
  ⟨putBytes_keeps standard token contentType text skip,
    putBytes_keeps standard token contentType text skip⟩

/-- The text without any bytes is no payload, and that is not what its client is told. -/
theorem ManifestService.putBytes_keeps_contracts_empty_text : ∃ error,
    (((withHandlers "library/app" .withDefaults defaultHandlers).putBytes .callers
      Kind.image.mediaType [] false).runIn { store := ({} : MemoryStore) }).1 = .error error ∧
    (((withHandlers "library/app" .withDefaults defaultHandlers).putBytes .callers
      Kind.image.mediaType [] false).runIn { store := (⟨"", .empty⟩ : FileStore) }).1 = .error error ∧
    ¬ error.BreaksContract := by
  obtain ⟨inMemory, -⟩ := putBytes_keeps_contracts "library/app" defaultHandlers .callers
    Kind.image.mediaType [] false
  exact ⟨_, rfl, rfl, inMemory { store := {} } _ rfl⟩

end ArtifactRegistry
