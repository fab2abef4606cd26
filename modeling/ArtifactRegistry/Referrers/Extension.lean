import ArtifactRegistry.Json.Printer
import ArtifactRegistry.Referrers.Closure

/-! # Extensions

The registry has two extensions, switched on by options: the referrers extension, which handles
artifact manifests and lists referrers, and the discovery extension, which lists the extensions
apart from itself. Options are a mapping with a list of components; a component that is on the list
is enabled, and no options mean that nothing is.
-/

namespace ArtifactRegistry

/-- How an extension presents itself. -/
structure ExtensionDescriptor where
  name : String
  url : String
  description : String
  endpoints : List String
deriving DecidableEq

def ExtensionDescriptor.toJson (e : ExtensionDescriptor) : Json.Value :=
  .object [("name", .string e.name), ("url", .string e.url),
    ("description", .string e.description), ("endpoints", .ofTexts e.endpoints)]

namespace Extension

/-- Whether options enable a component of an extension. -/
def enabled (options : Yaml.Value) (record extension component : String) :
    Except ReferrersError Bool :=
  let components : Except Yaml.ShapeError (List String) :=
    match options with
    | .null => .ok []
    | .mapping entries => Yaml.Value.fieldTexts extension entries
    | value => value.refuse s!"struct {record}"
  (components.map fun components => components.contains component).mapError .options

end Extension

/-- The extension that handles artifact manifests and their referrers. -/
structure ReferrersExtension where
  enabled : Bool
deriving DecidableEq

namespace ReferrersExtension

def ofOptions (options : Yaml.Value) : Except ReferrersError ReferrersExtension :=
  (Extension.enabled options "OrasOptions" "artifacts" "referrers").map fun enabled => ⟨enabled⟩

/-- The handlers that the extension adds to a repository. -/
def handlers (extension : ReferrersExtension) (repository : String) : List Handler :=
  if extension.enabled then [.referrers repository] else []

/-- The extensions of garbage collection that it brings, which is one or none. -/
def closureCount (extension : ReferrersExtension) : Nat := if extension.enabled then 1 else 0

def descriptor (extension : ReferrersExtension) : ExtensionDescriptor where
  name := "_oras"
  url := "https://github.com/oras-project/artifacts-spec/blob/main/manifest-referrers-api.md"
  description := "ORAS referrers listing API."
  endpoints := if extension.enabled then ["_oras/artifacts/referrers"] else []

end ReferrersExtension

/-- The extension that lists extensions. -/
structure DiscoverExtension where
  enabled : Bool
deriving DecidableEq

namespace DiscoverExtension

def ownName : String := "_oci"

def ofOptions (options : Yaml.Value) : Except ReferrersError DiscoverExtension :=
  (Extension.enabled options "OciOptions" "ext" "discover").map fun enabled => ⟨enabled⟩

def descriptor (extension : DiscoverExtension) : ExtensionDescriptor where
  name := ownName
  url := "https://github.com/opencontainers/distribution-spec/blob/main/extensions/_oci.md"
  description := "oci extension enables listing of supported registry and repository extensions"
  endpoints := if extension.enabled then ["_oci/ext/discover"] else []

/-- All extensions but the discovery extension. -/
def discover (registered : List ExtensionDescriptor) : List ExtensionDescriptor :=
  registered.filter fun extension => extension.name ≠ ownName

/-- The listing of extensions. -/
def listing (extensions : List ExtensionDescriptor) : Json.Value :=
  .object [("extensions", .list (extensions.map ExtensionDescriptor.toJson))]

end DiscoverExtension

end ArtifactRegistry
