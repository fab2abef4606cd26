import ArtifactRegistry.Command.Failure
import ArtifactRegistry.Configuration
import ArtifactRegistry.Referrers.Extension

/-! # The registry

What a configuration makes of the store: the schemas of all kinds, and the extensions that its
options switch on. A repository is a name under which manifests are handled; artifact manifests are
handled, and referrers listed, only with the referrers extension.
-/

namespace ArtifactRegistry

structure Registry where
  schemas : SchemaRegistry
  referrers : ReferrersExtension
  discover : DiscoverExtension

/-- The manifests of a repository, and whether its referrers can be listed. -/
structure Repository where
  service : ManifestService
  listsReferrers : Bool

namespace Registry

variable {σ : Type}

/-- The names of the options of the extensions. -/
def referrersOptions : String := "oras"
def discoverOptions : String := "oci"

/-- Fails because of the options of an extension. -/
def checked {α : Type} (name : String) : Except ReferrersError α → Action σ Failure α
  | .ok value => pure value
  | .error error => throw (.ofReferrers s!"invalid options for extension namespace {name}" error)

def ofConfiguration (configuration : Configuration) : Action σ Failure Registry := do
  let referrers ← checked referrersOptions
    (ReferrersExtension.ofOptions (configuration.options referrersOptions))
  let discover ← checked discoverOptions
    (DiscoverExtension.ofOptions (configuration.options discoverOptions))
  Action.record .debug "opened registry"
    [("root", .word configuration.root), ("referrers", .boolean referrers.enabled),
      ("discover", .boolean discover.enabled)]
  Manifest.Kind.all.forM fun kind =>
    Action.record .debug "registered manifest schema" [("media_type", .string kind.mediaType)]
  return { schemas := .withDefaults, referrers, discover }

def repository (registry : Registry) (name : String) : Action σ Failure Repository := do
  if !validRepositoryName name then throw ⟨[s!"invalid repository name {Text.quote name}"]⟩
  let handlers := ManifestService.defaultHandlers ++ registry.referrers.handlers name
  ManifestService.recordHandlers name handlers
  return {
    service := ManifestService.withHandlers name registry.schemas handlers
    listsReferrers := registry.referrers.enabled }

/-- The extensions that a listing of extensions shows. -/
def extensions (registry : Registry) : List ExtensionDescriptor :=
  DiscoverExtension.discover [registry.discover.descriptor, registry.referrers.descriptor]

end Registry

end ArtifactRegistry
