import ArtifactRegistry.Proofs.Manifest.Requests
import ArtifactRegistry.Proofs.Manifest.RoundTrip
import ArtifactRegistry.Proofs.Referrers.Closure
import ArtifactRegistry.Proofs.Storage.LinkPath
import Mathlib.Logic.Relation

/-! # Referrers survive garbage collection

A put of an artifact that succeeds leaves its digest in the link set of its subject, and nothing
that is asked of a store later takes it out. So whenever garbage collection extends its marks, the
link sets hold all referrers that were ever put, and extending marks reaches every one of them from
a marked subject: `extendMarks_keeps_referrers`.
-/

namespace ArtifactRegistry

open Manifest ArtifactRegistry.Action

/-- A put of an artifact about `subject` was answered with `referrer`. -/
def Refers (events : List Event) (subject referrer : Digest) : Prop :=
  ∃ manifest skip about, .manifestPut manifest skip (.ok referrer) ∈ events ∧
    manifest.variant.subject? = some about ∧ about.digest = subject

theorem Refers.append {past : List Event} {event : Event} {subject referrer : Digest}
    (refers : Refers (past ++ [event]) subject referrer) :
    Refers past subject referrer ∨ ∃ manifest skip about,
      event = .manifestPut manifest skip (.ok referrer) ∧
      manifest.variant.subject? = some about ∧ about.digest = subject := by
  obtain ⟨manifest, skip, about, happened, has, same⟩ := refers
  rcases List.mem_append.mp happened with before | now
  · exact .inl ⟨manifest, skip, about, before, has, same⟩
  · exact .inr ⟨manifest, skip, about, (List.mem_singleton.mp now).symm, has, same⟩

namespace MemoryStore

variable {service : ManifestService} {repository : String}

/-- Every referrer that was put is in the link set of its subject. -/
def HoldsReferrers (repository : String) (events : List Event) (store : MemoryStore) : Prop :=
  ∀ subject referrer, Refers events subject referrer →
    ∃ path, referrersLinkPath repository subject = .ok path ∧ referrer ∈ store.members path

/-- A put of an artifact with a subject that succeeds has linked it. -/
theorem PutEffect.linked_of_ok (wired : service.handlers .artifact = some (.referrers repository))
    {manifest : Manifest} {store after : MemoryStore} {digest : Digest} {about : Descriptor}
    (effect : PutEffect service manifest store (.ok digest) after)
    (has : manifest.variant.subject? = some about) :
    ∃ path, referrersLinkPath repository about.digest = .ok path ∧ digest ∈ after.members path := by
  have kind_eq : manifest.kind = .artifact := Variant.kind_of_subject? has
  cases effect with
  | stored inCharge accepts =>
    rw [kind_eq, wired] at inCharge
    cases inCharge
    obtain ⟨path, -, unlinked⟩ := accepts.path?_eq has
    cases unlinked
  | linked inCharge accepts =>
    rw [kind_eq, wired] at inCharge
    cases inCharge
    obtain ⟨path, derived, linked⟩ := accepts.path?_eq has
    cases linked
    exact ⟨_, derived, mem_members_addLink_self _ _⟩

theorem HoldsReferrers.serve {call : Call}
    (wired : call.service.handlers .artifact = some (.referrers repository))
    (past : List Event) (store : MemoryStore) (holds : HoldsReferrers repository past store) :
    HoldsReferrers repository (past ++ [(call.serve store).1]) (call.serve store).2 := by
  have served := served call store
  intro subject referrer refers
  obtain before | ⟨manifest, skip, about, event, has, rfl⟩ := refers.append
  · obtain ⟨path, linked, member⟩ := holds subject referrer before
    exact ⟨path, linked, served.mem_members member⟩
  · rw [event] at served
    cases served with
    | manifestPut skip effect => exact effect.linked_of_ok wired has

theorem holdsReferrers_serveAll {calls : List Call}
    (wired : ∀ call ∈ calls, call.service.handlers .artifact = some (.referrers repository)) :
    HoldsReferrers repository (Call.serveAll ({} : MemoryStore) calls).1
      (Call.serveAll ({} : MemoryStore) calls).2 := by
  apply Call.serveAll_preserves (fun call member => HoldsReferrers.serve (wired call member)) []
  rintro subject referrer ⟨_, _, _, happened, _⟩
  cases happened

/-! ## Listing the store in memory -/

/-- All members of all sets. -/
def linked (store : MemoryStore) : List Digest := store.links.entries.flatMap Prod.snd

theorem members_subset_linked (store : MemoryStore) (path : String) :
    store.members path ⊆ store.linked := by
  intro digest member
  cases found : store.links.get? path with
  | none =>
    rw [members, found] at member
    cases member
  | some digests =>
    rw [members, found] at member
    exact List.mem_flatMap.mpr ⟨(path, digests), SortedMap.mem_entries_of_get? found, member⟩

/-- The members of the link set of a subject. -/
def referrers (store : MemoryStore) (repository : String) (subject : Digest) : List Digest :=
  match referrersLinkPath repository subject with
  | .ok path => store.members path
  | .error _ => []

theorem referrers_subset_linked (store : MemoryStore) (repository : String) (subject : Digest) :
    store.referrers repository subject ⊆ store.linked := by
  rw [referrers]
  split
  · exact members_subset_linked store _
  · exact List.nil_subset _

theorem lists_referrers (store : MemoryStore) (token : Token)
    (named : validRepositoryName repository = true) :
    Referrers.Lists store repository token (store.referrers repository) := by
  rintro world rfl calm subject valid
  obtain ⟨path, linked⟩ := referrersLinkPath_of_valid named valid
  obtain ⟨after, listed⟩ := runIn_listLinks_of_calm calm token path
  have readOnly := Store.listLinks_readOnly (σ := MemoryStore) token path
  refine ⟨after, ?_, readOnly.store_eq listed, (readOnly.interference_eq listed).trans calm⟩
  simp only [Referrers.digests, linked, runIn_bind, runIn_outcome, listed, referrers, members]
  cases world.store.links.get? path <;> rfl

end MemoryStore

/-- Whatever was asked of a store in memory that was empty at first, and however it was interfered
with: when a marked digest is the subject of an artifact that was put, extending the marks succeeds,
keeps all marks, and marks every referrer that was put of anything that ends up marked, hence the
whole chain of referrers behind every mark. -/
theorem extendMarks_keeps_referrers {repository : String} {calls : List Call}
    (wired : ∀ call ∈ calls, call.service.handlers .artifact = some (.referrers repository))
    {marks : MarkSet} {subject referrer : Digest} (marked : subject ∈ marks)
    (refers : Refers (Call.serveAll ({} : MemoryStore) calls).1 subject referrer)
    {world : World MemoryStore}
    (reached : world.store = (Call.serveAll ({} : MemoryStore) calls).2)
    (calm : world.interference = .none) :
    ∃ extended after,
      (Referrers.extendMarks marks repository .callers).runIn world = (.ok extended, after) ∧
      (∀ digest ∈ marks, digest ∈ extended) ∧ referrer ∈ extended ∧
      (∀ a ∈ extended, ∀ b, Refers (Call.serveAll ({} : MemoryStore) calls).1 a b →
        b ∈ extended) ∧
      ∀ a ∈ marks, ∀ b,
        Relation.TransGen (Refers (Call.serveAll ({} : MemoryStore) calls).1) a b →
        b ∈ extended := by
  have holds := MemoryStore.holdsReferrers_serveAll wired
  rw [← reached] at holds
  obtain ⟨path, linked, -⟩ := holds subject referrer refers
  have named := (referrersLinkPath_eq_ok linked).1
  have bounded : world.store.linked.length ≤ Backend.linkBound world.store := Nat.le_refl _
  obtain ⟨extended, after, ran, grown, closed⟩ :=
    Referrers.extendMarks_closes marks
      (MemoryStore.lists_referrers world.store .callers named)
      (MemoryStore.referrers_subset_linked world.store repository) bounded rfl calm
  have next (a : Digest) (there : a ∈ extended) (b : Digest)
      (refers : Refers (Call.serveAll ({} : MemoryStore) calls).1 a b) : b ∈ extended := by
    obtain ⟨path, linked, member⟩ := holds a b refers
    obtain ⟨-, algorithm, validates, -⟩ := referrersLinkPath_eq_ok linked
    apply closed a there ⟨algorithm, validates⟩
    rwa [MemoryStore.referrers, linked]
  refine ⟨extended, after, ran, grown, next subject (grown subject marked) referrer refers, next, ?_⟩
  intro a there b chain
  induction chain with
  | single refers => exact next a (grown a there) _ refers
  | tail _ refers ih => exact next _ ih _ refers

/-- One artifact is put about a marked digest, and extending the marks reaches it. -/
theorem extendMarks_keeps_only_referrer :
    ∃ (call : Call) (subject referrer : Digest) (extended : MarkSet) (after : World MemoryStore),
      call.service.handlers .artifact = some (.referrers "library") ∧
      Refers (Call.serveAll ({} : MemoryStore) [call]).1 subject referrer ∧
      (Referrers.extendMarks (.ofList [subject]) "library" .callers).runIn
        { store := (Call.serveAll ({} : MemoryStore) [call]).2 } = (.ok extended, after) ∧
      referrer ∈ extended := by
  obtain ⟨subject, valid⟩ : ∃ subject : Digest, subject.IsValid := ⟨_, Digest.isValid_ofBytes []⟩
  let contents : Artifact :=
    { mediaType := Kind.artifact.mediaType, subject := some { digest := subject } }
  have payload : Payload := (Variant.artifact contents).canonicalPayload
  let manifest : Manifest := ⟨.artifact contents, some payload⟩
  let service : ManifestService := .withHandlers "library" .withDefaults [.referrers "library"]
  have named : validRepositoryName "library" = true := by decide +kernel
  obtain ⟨path, linked⟩ := referrersLinkPath_of_valid named valid
  have link_eq : (Handler.referrers "library").link? manifest = .ok (some path) := by
    change (referrersLinkPath "library" subject).map some = _
    rw [linked]
    rfl
  have accepts : (Handler.referrers "library").Accepts manifest payload (some path) :=
    ⟨rfl, Variant.mediaTypeMatches_iff.mpr (.inl rfl), rfl, link_eq⟩
  let call : Call := ⟨service, .putManifest manifest true, .none⟩
  have inCharge : call.service.handlers .artifact = some (.referrers "library") := rfl
  have calm (store : MemoryStore) : ({ store } : World MemoryStore).interference = .none := rfl
  obtain ⟨stored, put⟩ := MemoryStore.serve_putManifest_of_calm inCharge accepts {}
  have refers : Refers (Call.serveAll ({} : MemoryStore) [call]).1 subject payload.digest := by
    refine ⟨manifest, true, { digest := subject }, ?_, rfl, rfl⟩
    simp only [Call.serveAll, call, put, List.mem_singleton]
  have marked : subject ∈ MarkSet.ofList [subject] := MarkSet.mem_insert.mpr (.inl rfl)
  have reached (store : MemoryStore) : ({ store } : World MemoryStore).store = store := rfl
  obtain ⟨extended, after, ran, -, kept, -⟩ :=
    extendMarks_keeps_referrers (List.forall_mem_singleton.mpr inCharge) marked refers (reached _)
      (calm _)
  exact ⟨call, subject, payload.digest, extended, after, inCharge, refers, ran, kept⟩

end ArtifactRegistry
