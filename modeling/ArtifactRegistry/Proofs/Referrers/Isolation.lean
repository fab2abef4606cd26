import ArtifactRegistry.Proofs.Referrers.Reachability
import ArtifactRegistry.Proofs.Storage.FileAnswers
import ArtifactRegistry.Proofs.Storage.FileRepositories

/-! # Repositories apart from each other

Links are recorded in several repositories of one store. What is recorded in one repository should
change nothing in another: neither the digests that are linked to a subject, nor the answer to any
later record. A relation between stores that the records of the repository respect, and that records
elsewhere leave alone, gives all of it at once: `Unseen.isolated`. In memory, names that differ are
enough. In files, one name must not lead through a link file of the other, `links_isolated`, or else
`not_isolated_from_nested`.
-/

namespace ArtifactRegistry

open ArtifactRegistry.Action

/-! ## Records one after the other -/

/-- A record of a referrer, and what interferes with it. -/
structure LinkCall where
  repository : String
  subject : Digest
  referrer : Digest
  interference : Interference := .none

namespace LinkCall

variable {σ : Type} [Backend σ]

/-- Serves one call with a token that the caller holds. -/
def serve (store : σ) (call : LinkCall) : Except StorageError Unit × σ :=
  let world : World σ := { store, interference := call.interference }
  let (result, after) :=
    (Referrers.record call.repository .callers call.subject call.referrer).runIn world
  (result, after.store)

/-- The store after one call. -/
def after (store : σ) (call : LinkCall) : σ := (call.serve store).2

/-- The store after some calls. -/
def serveAll (store : σ) (calls : List LinkCall) : σ := calls.foldl after store

theorem serveAll_nil (store : σ) : serveAll store [] = store := rfl

theorem serveAll_concat (store : σ) (calls : List LinkCall) (call : LinkCall) :
    serveAll store (calls ++ [call]) = call.after (serveAll store calls) := by
  rw [serveAll, List.foldl_append]
  rfl

/-- How the calls in a repository end, with calls in other repositories in between. -/
def resultsIn (repository : String) (store : σ) : List LinkCall → List (Except StorageError Unit)
  | [] => []
  | call :: rest =>
    let results := resultsIn repository (call.after store) rest
    if call.repository = repository then (call.serve store).1 :: results else results

end LinkCall

/-- In two stores, the same digests are linked to every subject. -/
def SameLinks {σ : Type} [Backend σ] (repository : String) (store store' : σ) : Prop :=
  ∀ token subject, ∃ result, Answers store (Referrers.digests repository token subject) result ∧
    Answers store' (Referrers.digests repository token subject) result

/-- From two stores on, the calls in a repository end the same and leave the same links. -/
def SameCourse {σ : Type} [Backend σ] (repository : String) (calls : List LinkCall)
    (store store' : σ) : Prop :=
  LinkCall.resultsIn repository store calls = LinkCall.resultsIn repository store' calls ∧
    SameLinks repository (LinkCall.serveAll store calls) (LinkCall.serveAll store' calls)

/-- Whatever was recorded before, and whatever is recorded later, a record elsewhere makes no
difference to a repository. -/
def Isolated {σ : Type} [Backend σ] (start : σ) (repository : String) (Elsewhere : String → Prop) :
    Prop :=
  ∀ (before : List LinkCall) (call : LinkCall) (later : List LinkCall),
    Elsewhere call.repository →
    (∀ call ∈ later, call.repository = repository ∨ Elsewhere call.repository) →
    SameCourse repository later (LinkCall.serveAll start (before ++ [call]))
      (LinkCall.serveAll start before)

/-! ## What a repository cannot see -/

section Unseen

variable {σ : Type} [Backend σ] {repository : String} {Elsewhere : String → Prop}
  {Alike : σ → σ → Prop}

/-- Stores are alike when a repository cannot tell them apart. -/
structure Unseen (repository : String) (Elsewhere : String → Prop) (Alike : σ → σ → Prop) : Prop where
  symm {store store' : σ} (alike : Alike store store') : Alike store' store
  /-- Records elsewhere are not seen. -/
  elsewhere {store store' : σ} (alike : Alike store store') {call : LinkCall}
    (apart : Elsewhere call.repository) : Alike store (call.after store')
  /-- Records of the repository end in the same way. -/
  own {store store' : σ} (alike : Alike store store') {call : LinkCall}
    (here : call.repository = repository) :
    (call.serve store').1 = (call.serve store).1 ∧
      Alike (call.after store) (call.after store')
  links {store store' : σ} (alike : Alike store store') : SameLinks repository store store'

/-- Stores that are alike stay so. -/
theorem Unseen.serveAll (unseen : Unseen repository Elsewhere Alike) {calls : List LinkCall}
    (known : ∀ call ∈ calls, call.repository = repository ∨ Elsewhere call.repository)
    {store store' : σ} (alike : Alike store store') :
    LinkCall.resultsIn repository store' calls = LinkCall.resultsIn repository store calls ∧
      Alike (LinkCall.serveAll store calls) (LinkCall.serveAll store' calls) := by
  induction calls generalizing store store' with
  | nil => exact ⟨rfl, alike⟩
  | cons call rest ih =>
    obtain ⟨first, others⟩ := List.forall_mem_cons.mp known
    simp only [LinkCall.resultsIn, LinkCall.serveAll, List.foldl_cons]
    by_cases here : call.repository = repository
    · obtain ⟨result_eq, alike'⟩ := unseen.own alike here
      obtain ⟨results_eq, last⟩ := ih others alike'
      rw [if_pos here, if_pos here, result_eq, results_eq]
      exact ⟨rfl, last⟩
    · have apart := first.resolve_left here
      have passed := unseen.elsewhere alike apart
      have alike' := unseen.symm (unseen.elsewhere (unseen.symm passed) apart)
      rw [if_neg here, if_neg here]
      exact ih others alike'

/-- What a repository cannot see makes no difference to it. -/
theorem Unseen.isolated (unseen : Unseen repository Elsewhere Alike) {start : σ}
    (reached : ∀ before, Alike (LinkCall.serveAll start before) (LinkCall.serveAll start before)) :
    Isolated start repository Elsewhere := by
  intro before call later apart known
  have alike := unseen.elsewhere (reached before) apart
  obtain ⟨results_eq, last⟩ := unseen.serveAll known alike
  rw [SameCourse, LinkCall.serveAll_concat]
  exact ⟨results_eq, unseen.links (unseen.symm last)⟩

end Unseen

/-! ## One record -/

section Record

variable {σ : Type} [Backend σ] {repository : String} {token : Token} {subject referrer : Digest}
  {Alike : σ → σ → Prop} {Holds : σ → Prop}

theorem record_respects
    (respects : ∀ path, referrersLinkPath repository subject = .ok path →
      Respects Alike (Backend.addLink token path referrer)) :
    Respects Alike (Referrers.record repository token subject referrer) := by
  rw [Referrers.record]
  split
  · exact .throw _
  · next path derived =>
    exact (respects path derived).call.bind fun _ => .record _ _ _

theorem record_preserves
    (keeps : ∀ path, referrersLinkPath repository subject = .ok path →
      Preserves Holds (Backend.addLink token path referrer)) :
    Preserves Holds (Referrers.record repository token subject referrer) := by
  rw [Referrers.record]
  split
  · exact (ReadOnly.throw _).preserves Holds
  · next path derived =>
    exact (keeps path derived).call.bind fun _ => (ReadOnly.record _ _ _).preserves Holds

/-- What every record keeps up holds after any number of records. -/
theorem LinkCall.serveAll_preserves
    (keeps : ∀ token path digest, Preserves Holds (Backend.addLink token path digest))
    (calls : List LinkCall) {start : σ} (initial : Holds start) :
    Holds (LinkCall.serveAll start calls) := by
  induction calls generalizing start with
  | nil => exact initial
  | cons call rest ih =>
    apply ih
    exact record_preserves (fun path _ => keeps .callers path call.referrer)
      { store := start, interference := call.interference } initial

/-- Calls that respect a relation end in the same way where it holds. -/
theorem LinkCall.serve_of_respects {call : LinkCall}
    (respects : Respects Alike
      (Referrers.record call.repository .callers call.subject call.referrer))
    {store store' : σ} (alike : Alike store store') :
    (call.serve store').1 = (call.serve store).1 ∧
      Alike (call.serve store).2 (call.serve store').2 := by
  obtain ⟨other, ran, alike'⟩ := respects { store, interference := call.interference } store' alike
  rw [LinkCall.serve, LinkCall.serve, ran]
  exact ⟨rfl, alike'⟩

/-- With nothing in the way, a record leaves what adding the link leaves. -/
theorem LinkCall.after_of_quiet {store : σ} {call : LinkCall} {path : String}
    (quiet : call.interference = .none)
    (derived : referrersLinkPath call.repository call.subject = .ok path) :
    call.after store = ((Backend.addLink .callers path call.referrer :
      Action σ StorageError Unit).runIn { store }).2.store := by
  rw [LinkCall.after, LinkCall.serve, quiet, Referrers.record, derived]
  simp only [runIn_bind, Store.addLink, runIn_call_of_calm]
  rcases (Backend.addLink .callers path call.referrer :
    Action σ StorageError Unit).runIn { store } with ⟨error | done, ended⟩ <;> rfl

theorem sameLinks_of_listed {store store' : σ}
    (listed : ∀ subject path, referrersLinkPath repository subject = .ok path →
      ∃ result result', orEmpty result = orEmpty result' ∧
        ∀ token, Answers store (Store.listLinks token path) result ∧
          Answers store' (Store.listLinks token path) result') :
    SameLinks repository store store' := by
  intro token subject
  cases derived : referrersLinkPath repository subject with
  | error error =>
    obtain ⟨reason, refused⟩ := Referrers.digests_answers_of_refused derived
    exact ⟨_, refused store, refused store'⟩
  | ok path =>
    obtain ⟨result, result', same, answers⟩ := listed subject path derived
    exact ⟨_, Referrers.digests_answers_of_listed derived (answers token).1,
      same ▸ Referrers.digests_answers_of_listed derived (answers token).2⟩

end Record

/-! ## In memory -/

namespace MemoryStore

variable {repository path : String} {store store' : MemoryStore} {digest : Digest}

/-- In two stores, a repository has the same sets. -/
def SameSets (repository : String) (store store' : MemoryStore) : Prop :=
  ∀ subject path, referrersLinkPath repository subject = .ok path →
    store'.links.get? path = store.links.get? path

theorem get?_addLink_of_ne {other : String} (differs : other ≠ path) :
    (store.addLink path digest).links.get? other = store.links.get? other := by
  rw [addLink]
  split
  · rfl
  · rw [SortedMap.get?_insert, if_neg differs]

theorem SameSets.addLink (same : SameSets repository store store') {subject : Digest}
    (derived : referrersLinkPath repository subject = .ok path) (digest : Digest) :
    SameSets repository (store.addLink path digest) (store'.addLink path digest) := by
  intro about other derived'
  rw [MemoryStore.addLink, MemoryStore.addLink, same subject path derived]
  split
  · exact same about other derived'
  · rw [SortedMap.get?_insert, SortedMap.get?_insert, same about other derived']

theorem addLink_eq (token : Token) (path : String) (digest : Digest) :
    (Backend.addLink token path digest : Action MemoryStore StorageError Unit) =
      ensureLive token >>= fun _ =>
        modify fun world => { world with store := world.store.addLink path digest } := rfl

theorem unseen (repository : String) :
    Unseen repository (repository ≠ ·) (SameSets repository) where
  symm same subject path derived := (same subject path derived).symm
  elsewhere {store store'} same {call} differ := by
    refine record_preserves ?_ { store := store', interference := call.interference } same
    intro path derived
    rw [addLink_eq]
    refine ((ReadOnly.ensureLive .callers).preserves _).bind fun _ => ?_
    intro world same subject other derived'
    have differs : other ≠ path := by
      rintro rfl
      exact differ (repository_eq_of_derived derived' derived)
    rw [runIn_modify, get?_addLink_of_ne differs]
    exact same subject other derived'
  own {store store'} same {call} here := by
    refine LinkCall.serve_of_respects (record_respects fun path derived => ?_) same
    rw [addLink_eq]
    refine (Respects.ensureLive .callers).bind fun _ => ?_
    intro world other same
    exact ⟨other.addLink path call.referrer, rfl, same.addLink (here ▸ derived) call.referrer⟩
  links same := by
    refine sameLinks_of_listed fun subject path derived => ⟨_, _, ?_, fun token =>
      ⟨listLinks_answers _ token path, listLinks_answers _ token path⟩⟩
    rw [same subject path derived]

end MemoryStore

/-! ## In files -/

namespace FileStore

theorem unseen {root repository : String} (fitting : Fitting root repository) :
    Unseen repository (NamesApart repository) (AlikeBelow root repository) where
  symm alike := ⟨alike.2.root_eq.trans alike.1, alike.2.symm⟩
  elsewhere {store store'} alike {call} apart := by
    refine ⟨alike.1, ?_⟩
    refine record_preserves ?_ { store := store', interference := call.interference } alike.2
    exact fun path derived => addLink_elsewhere apart derived .callers call.referrer
  own {store store'} alike {call} here := by
    refine LinkCall.serve_of_respects (record_respects fun path derived => ?_) alike
    exact addLink_respects fitting (here ▸ derived) .callers call.referrer
  links alike := by
    refine sameLinks_of_listed fun subject path derived => ⟨_, _, ?_, fun token =>
      ⟨(listLinks_answers _ token path).call, (listLinks_answers _ token path).call⟩⟩
    exact linksAt_alike derived alike.2 (alike.1 ▸ fitting)

/-- Records below a directory that was empty at first leave the tree regular. -/
theorem serveAll_alike (root repository : String) (calls : List LinkCall) :
    AlikeBelow root repository (LinkCall.serveAll ⟨root, .empty⟩ calls)
      (LinkCall.serveAll ⟨root, .empty⟩ calls) := by
  obtain ⟨root_eq, regular⟩ := LinkCall.serveAll_preserves
    (fun token path digest => addLink_regular root path token digest) calls
    (show (⟨root, .empty⟩ : FileStore).root = root ∧ (⟨root, .empty⟩ : FileStore).tree.Regular from
      ⟨rfl, .empty⟩)
  exact ⟨root_eq, .refl regular⟩

end FileStore

/-- Repositories are isolated from each other. In files, the names on the way to the links must not be
too long, and no name may lead through a link file of the other. -/
theorem links_isolated (repository : String) :
    Isolated ({} : MemoryStore) repository (repository ≠ ·) ∧
      ∀ root, FileStore.Fitting root repository →
        Isolated (⟨root, .empty⟩ : FileStore) repository (FileStore.NamesApart repository) := by
  constructor
  · exact (MemoryStore.unseen repository).isolated fun before _ _ _ => rfl
  · intro root fitting
    exact (FileStore.unseen fitting).isolated (FileStore.serveAll_alike root repository)

/-- The directory of a repository can be inside of that of another one, as long as it is not behind a
link file. -/
theorem links_isolated_inside :
    FileStore.Fitting "" "app" ∧ FileStore.NamesApart "app" "app/_refs" ∧
      SameCourse "app" [⟨"app", .ofBytes [], .ofBytes [], .none⟩]
        (LinkCall.serveAll (⟨"", .empty⟩ : FileStore)
          [⟨"app/_refs", .ofBytes [], .ofBytes [], .none⟩])
        (LinkCall.serveAll ⟨"", .empty⟩ []) := by
  have fitting : FileStore.Fitting "" "app" := by
    have names_eq : FileTree.Path.ofText "" ++ Text.splitAll '/' "app" = ["app"] := by
      decide +kernel
    rw [FileStore.Fitting, names_eq, List.forall_mem_singleton]
    exact Nat.le_of_ble_eq_true rfl
  have apart : FileStore.NamesApart "app" "app/_refs" := by
    have short : (Text.splitAll '/' "app/_refs").length = 2 := by decide +kernel
    have shorter : (Text.splitAll '/' "app").length = 1 := by decide +kernel
    refine ⟨by decide +kernel, ?_, ?_⟩
    · rintro ⟨_, _, _, _, -, through⟩
      have deep := through.length_le
      rw [List.length_append, short, FileStore.linkTail] at deep
      simp at deep
    · rintro ⟨_, _, _, _, -, through⟩
      have deep := through.length_le
      rw [List.length_append, shorter, FileStore.linkTail] at deep
      simp at deep
  obtain ⟨-, isolated⟩ := links_isolated "app"
  refine ⟨fitting, apart, isolated "" fitting [] _ _ apart ?_⟩
  exact List.forall_mem_singleton.mpr (.inl rfl)

namespace FileStore

open FileTree

/-- The digests that the store shows as linked to a subject. -/
def shown (repository : String) (subject : Digest) (store : FileStore) :
    Except StorageError (List Digest) :=
  (referrersLinkPath repository subject).bind fun path => orEmpty (store.linksAt path)

theorem shown_of_derived {repository path : String} {subject : Digest} {store : FileStore}
    (derived : referrersLinkPath repository subject = .ok path) :
    shown repository subject store = orEmpty (store.linksAt path) := by
  rw [shown, derived]
  rfl

theorem digests_answers {repository : String} {subject : Digest}
    (named : validRepositoryName repository = true) (valid : subject.IsValid) (token : Token)
    (store : FileStore) : Answers store (Referrers.digests repository token subject)
      ((shown repository subject store).mapError .ofStorage) := by
  obtain ⟨path, derived⟩ := referrersLinkPath_of_valid named valid
  rw [shown_of_derived derived]
  exact Referrers.digests_answers_of_listed derived (listLinks_answers store token path).call

section Nested

variable {repository path name : String} {subject : Digest} {store : FileStore}
  {names : FileTree.Path} {entries : List (String × FileTree)}

/-- A directory is listed in the directory that it is in. -/
theorem exists_subdirectories (regular : store.tree.Regular)
    (there : store.found (names ++ [name]) = some (.directory entries)) :
    (∃ entries, store.found names = some (.directory entries)) ∧
      ∃ listed, store.tree.subdirectories (store.place names) = .ok listed ∧ name ∈ listed := by
  rw [found, place_snoc] at there
  obtain ⟨outer, above⟩ := directory_of_found_append there
  obtain ⟨listed, looked⟩ := subdirectories_of_find above (regular.clean (found_of_find above))
  refine ⟨⟨outer, found_of_find above⟩, listed, looked, ?_⟩
  exact (mem_subdirectories_iff regular.ordered looked).mpr ⟨entries, there⟩

/-- With a directory in the place of one of its link files, a set cannot be listed. -/
theorem not_isOk_shown_of_directory {below : Algorithm}
    (derived : referrersLinkPath repository subject = .ok path) (regular : store.tree.Regular)
    (there : store.found (FileTree.Path.ofText path ++ [below.name] ++ [name] ++ [linkFile]) =
      some (.directory entries)) : (shown repository subject store).isOk = false := by
  have unreadable : store.linkIn (FileTree.Path.ofText path ++ [below.name] ++ [name]) =
      .error (.medium .isDirectory) := by
    rw [linkIn, read, read_of_found (regular.clean there) there]
    rfl
  obtain ⟨⟨_, inside⟩, -⟩ := exists_subdirectories regular there
  obtain ⟨⟨_, above⟩, members, membersLooked, member⟩ := exists_subdirectories regular inside
  obtain ⟨-, algorithms, looked, known⟩ := exists_subdirectories regular above
  have unlisted (listed : List Digest) : store.linksUnder path below.name ≠ .ok listed := by
    intro succeeds
    rw [linksUnder_of_looked membersLooked] at succeeds
    obtain ⟨lists, ran, -⟩ := map_eq_ok_iff.mp succeeds
    obtain ⟨held, read⟩ := exists_ok_of_mapM ran member
    cases unreadable.symm.trans read
  rw [shown_of_derived derived, orEmpty_linksAt (.inl looked)]
  cases ran : algorithms.mapM (store.linksUnder path) with
  | ok lists =>
    obtain ⟨listed, succeeds⟩ := exists_ok_of_mapM ran known
    exact absurd succeeds (unlisted listed)
  | error error =>
    obtain ⟨_, -, failed⟩ := exists_error_of_mapM ran
    obtain ⟨source, rfl⟩ := linksUnder_error failed
    rfl

/-- A record that nothing interferes with makes its link where the directory can be made. -/
theorem mem_links_after {call : LinkCall} {directory : FileTree.Path} {tree : FileTree}
    (quiet : call.interference = .none) (tidy : store.Tidy call.repository)
    (derived : referrersLinkPath call.repository call.subject = .ok path)
    (named : linkNames path call.referrer = .ok directory)
    (made : store.tree.createDirectories (store.place directory) = .ok tree) :
    call.referrer ∈ (call.after store).links path := by
  have link : LinkDirectory call.repository directory call.referrer := ⟨_, _, derived, named⟩
  obtain ⟨algorithm, validates, rfl⟩ := linkNames_eq_ok_iff.mp named
  obtain ⟨clean, directories⟩ := createDirectories_eq_ok made
  obtain ⟨tidy', -⟩ := tidy.makesWay (.inr ⟨_, tree, List.prefix_rfl, made, rfl⟩) fun _ => ⟨_, link⟩
  obtain ⟨entries, here⟩ := find_makeDirectories directories
  let world : World FileStore := { store }
  obtain ⟨looks, written⟩ : ∃ looks, (addLink .callers path call.referrer).runIn world = _ :=
    runIn_addLink_of_made rfl .callers validates made
  have after_eq : call.after store = _ := LinkCall.after_of_quiet quiet derived
  generalize ran : Action.runIn (writeOnce _ _) _ = ending at written
  obtain ⟨-, -, adds⟩ := writeOnce_link ran tidy' link named clean here
  rw [after_eq]
  exact written ▸ (adds path call.referrer).mpr (.inr ⟨rfl, rfl⟩)

end Nested

end FileStore

/-- A record in a repository with a name that leads through a link file of another one. -/
def nestedCall : LinkCall where
  repository := "app/_refs/subjects/sha256/" ++
    "e3b0c44298fc1c149afbf4c8996fb92427ae41e4649b934ca495991b7852b855/sha256/x/link"
  subject := bareSubject
  referrer := bareSubject

theorem splitAll_nested : Text.splitAll '/' nestedCall.repository =
    ["app", "_refs", "subjects", "sha256", bareSubject.hex, "sha256", "x", "link"] := by
  decide +kernel

/-- The names on the way to the links of the subject. -/
theorem ofText_of_bareSubject {repository path : String}
    (derived : referrersLinkPath repository bareSubject = .ok path) :
    FileTree.Path.ofText path = "repositories" :: (Text.splitAll '/' repository ++
      ["_refs", "subjects", "sha256", bareSubject.hex]) := by
  obtain ⟨algorithm, validates, names_eq⟩ := ofText_referrersLinkPath derived
  cases validate_bareSubject.symm.trans validates
  exact names_eq

/-- Directories can be made on every way that consists of the hash and of these names. -/
theorem exists_createDirectories {names : FileTree.Path}
    (known : ∀ name ∈ names, name = bareSubject.hex ∨
      name ∈ ["repositories", "app", "_refs", "subjects", "sha256", "x", "link"]) :
    FileTree.checkNames names = .ok () ∧
      ∃ tree, FileTree.empty.createDirectories names = .ok tree := by
  have proper : ∀ name ∈ names, FileTree.FitsName name ∧ '\x00' ∉ name.toList := by
    intro name inside
    rcases known name inside with rfl | listed
    · refine ⟨FileStore.fits_hex validate_bareSubject, fun zero => ?_⟩
      exact absurd ((Digest.validate_eq_ok validate_bareSubject).2 _ zero) (by decide)
    · simp only [List.mem_cons, List.not_mem_nil, or_false] at listed
      rcases listed with rfl | rfl | rfl | rfl | rfl | rfl | rfl <;>
        exact ⟨Nat.le_of_ble_eq_true rfl, by decide +kernel⟩
  have clean := FileTree.checkNames_eq_ok_iff.mpr fun name inside => (proper name inside).2
  have ran := FileTree.makeDirectories_of_fits (fun name inside => (proper name inside).1) .empty
  obtain ⟨-, tree, made⟩ := ran.resolve_right fun blocked => FileTree.not_blocked_empty blocked.1
  refine ⟨clean, tree, ?_⟩
  rw [FileTree.createDirectories, clean]
  exact made

theorem splitAll_app : Text.splitAll '/' "app" = ["app"] := by
  decide +kernel

theorem exists_path_app : ∃ path, referrersLinkPath "app" bareSubject = .ok path :=
  referrersLinkPath_of_valid (by decide +kernel) ⟨_, validate_bareSubject⟩

theorem place_bare (tree : FileTree) (names : FileTree.Path) :
    FileStore.place ⟨"", tree⟩ names = names := by
  have root_eq : FileTree.Path.ofText "" = [] := by decide
  rw [FileStore.place, root_eq, List.nil_append]

theorem isOk_shown_empty :
    (FileStore.shown "app" bareSubject ⟨"", .empty⟩).isOk = true := by
  obtain ⟨path, derived⟩ := exists_path_app
  have names_eq := ofText_of_bareSubject derived
  rw [splitAll_app] at names_eq
  have clean : FileTree.checkNames (FileTree.Path.ofText path) = .ok () := by
    rw [names_eq]
    exact (exists_createDirectories (by simp)).1
  have missing : FileTree.empty.subdirectories
      (FileStore.place ⟨"", .empty⟩ (FileTree.Path.ofText path)) = .error .notFound := by
    rw [place_bare, FileTree.subdirectories, FileTree.lookUp, clean, names_eq]
    rfl
  rw [FileStore.shown_of_derived derived, FileStore.orEmpty_linksAt (.inr ⟨rfl, missing⟩)]
  rfl

/-- The way to the links of the nested record goes through the place of a link file. -/
theorem ofText_nested {path inner : String}
    (derived : referrersLinkPath "app" bareSubject = .ok path)
    (derivedInner : referrersLinkPath nestedCall.repository bareSubject = .ok inner) :
    FileTree.Path.ofText inner =
      FileTree.Path.ofText path ++ [Algorithm.sha256.name] ++ ["x"] ++ [FileStore.linkFile] ++
        "_refs" :: ["subjects", "sha256", bareSubject.hex] := by
  rw [ofText_of_bareSubject derivedInner, ofText_of_bareSubject derived, splitAll_nested,
    splitAll_app]
  rfl

/-- There is a directory where a link file was looked for. -/
theorem not_isOk_shown_nested :
    (FileStore.shown "app" bareSubject (nestedCall.after ⟨"", .empty⟩)).isOk = false := by
  obtain ⟨path, derived⟩ := exists_path_app
  have nested : validRepositoryName nestedCall.repository = true := by decide +kernel
  obtain ⟨inner, derivedInner⟩ := referrersLinkPath_of_valid nested ⟨_, validate_bareSubject⟩
  have named : FileStore.linkNames inner nestedCall.referrer = .ok _ :=
    FileStore.linkNames_eq_ok_iff.mpr ⟨.sha256, validate_bareSubject, rfl⟩
  obtain ⟨tree, made⟩ : ∃ tree, FileTree.empty.createDirectories
      (FileTree.Path.ofText inner ++ [Algorithm.sha256.name, bareSubject.hex]) = .ok tree := by
    rw [ofText_of_bareSubject derivedInner, splitAll_nested]
    exact (exists_createDirectories (by simp [Algorithm.name])).2
  obtain ⟨tidy, -⟩ := FileStore.tidy_empty nestedCall.repository ""
  rw [← place_bare .empty (_ ++ _)] at made
  obtain ⟨_, named', there⟩ := FileStore.mem_links_after rfl tidy derivedInner named made
  cases named.symm.trans named'
  rw [ofText_nested derived derivedInner, List.append_assoc, List.append_assoc,
    List.cons_append] at there
  obtain ⟨-, entries, here⟩ := FileStore.directory_of_read there
  obtain ⟨-, -, regular, -⟩ := FileStore.serveAll_alike "" "app" ([] ++ [nestedCall])
  rw [LinkCall.serveAll_concat, LinkCall.serveAll_nil] at regular
  exact FileStore.not_isOk_shown_of_directory derived regular (FileTree.found_of_find here)

/-- Not every repository is isolated from all others: once the referrer of a subject was recorded in a
repository with the wrong name, the referrers of the subject cannot be listed any more. -/
theorem not_isolated_from_nested :
    ¬ Isolated (⟨"", .empty⟩ : FileStore) "app" fun other =>
      validRepositoryName other = true ∧ other ≠ "app" := by
  intro isolated
  have named : validRepositoryName "app" = true := by decide +kernel
  have valid : bareSubject.validate = .ok .sha256 := by decide +kernel
  have apart : validRepositoryName nestedCall.repository = true ∧ nestedCall.repository ≠ "app" := by
    decide +kernel
  obtain ⟨-, same⟩ := isolated [] nestedCall [] apart nofun
  rw [LinkCall.serveAll_nil, LinkCall.serveAll_nil, LinkCall.serveAll_concat,
    LinkCall.serveAll_nil] at same
  obtain ⟨result, after, before⟩ := same .fresh bareSubject
  have answers := FileStore.digests_answers named ⟨_, valid⟩ .fresh
  have shown_eq := (after.unique (answers _)).symm.trans (before.unique (answers _))
  have fails := not_isOk_shown_nested
  obtain ⟨members, started⟩ := exists_eq_ok_of_isOk isOk_shown_empty
  rw [started, mapError_ok, mapError_eq_ok_iff] at shown_eq
  rw [shown_eq] at fails
  cases fails

end ArtifactRegistry
