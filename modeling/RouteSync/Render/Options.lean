import RouteSync.DataPath
import RouteSync.Limits.Record

/-!
# Render options

The options of a server: the build it serves, how the application is mounted and built, and the
limits on the trees it sends. Two manifests and the route parameters are kept for the content
source; the manifests are not looked into. In a document only the build id is required, and a
manifest that is null is the same as none.
-/

namespace RouteSync

/-- The runtime in which content is rendered. -/
inductive Runtime where
  | nodejs
  | edge
  deriving DecidableEq

namespace Runtime

/-- The word for a runtime. -/
def word : Runtime → String
  | nodejs => "nodejs"
  | edge => "edge"

/-- The runtime of a word. -/
def ofWord? (word : String) : Option Runtime :=
  if word = "nodejs" then some nodejs else if word = "edge" then some edge else none

end Runtime

/-- What a build produces. -/
inductive OutputMode where
  | standalone
  | exported
  deriving DecidableEq

namespace OutputMode

/-- The word for an output mode. -/
def word : OutputMode → String
  | standalone => "standalone"
  | exported => "export"

/-- The output mode of a word. -/
def ofWord? (word : String) : Option OutputMode :=
  if word = "standalone" then some standalone else if word = "export" then some exported else none

end OutputMode

/-- A limit on the size of a request body: a number of bytes, or a size in words such as `2mb`. -/
inductive BodySizeLimit where
  | bytes (count : UInt64)
  | size (text : String)
  deriving DecidableEq

namespace BodySizeLimit

/-- The limit as JSON. -/
def toJson : BodySizeLimit → Json
  | bytes count => .word count
  | size text => .string text

/-- Why a value is no limit. -/
inductive Refusal where
  | neitherForm

/-- The wording of a refusal. -/
def Refusal.message : Refusal → String
  | neitherForm => "data did not match any variant of untagged enum BodySizeLimit"

/-- Reads a limit: a word or a string. -/
def ofJson : Json → Except Refusal BodySizeLimit
  | .number (.integer (.ofNat n) _) => .ok (bytes (UInt64.ofNat n))
  | .string text => .ok (size text)
  | _ => .error .neitherForm

/-- Reads a limit from a document inside a record. -/
def ofDocument? (document : Json.Document) : Option BodySizeLimit := do
  let v ← document.value? (Json.Document.maxNesting - 1)
  (ofJson v).toOption

end BodySizeLimit

/-- The options of a server. -/
structure RenderOptions where
  buildId : String
  basePath : String
  assetPrefix : String
  dev : Bool
  supportsDynamicHtml : Bool
  isBot : Bool
  revalidates : Bool
  draftMode : Bool
  staticExport : Bool
  deploymentId : Option String
  requestPathname : Option String
  runtime : Runtime
  output : Option OutputMode
  bodySizeLimit : Option BodySizeLimit
  params : SortedMap String
  clientReferenceManifest : Option Json
  fontManifest : Option Json
  limits : Limits

namespace RenderOptions

/-- The options of a build with nothing else chosen. -/
def ofBuildId (buildId : String) : RenderOptions where
  buildId := buildId
  basePath := ""
  assetPrefix := ""
  dev := false
  supportsDynamicHtml := true
  isBot := false
  revalidates := false
  draftMode := false
  staticExport := false
  deploymentId := none
  requestPathname := none
  runtime := .nodejs
  output := none
  bodySizeLimit := none
  params := .empty
  clientReferenceManifest := none
  fontManifest := none
  limits := .standard

instance : Inhabited RenderOptions := ⟨ofBuildId ""⟩

/-- Equality without regard to the order of members in the manifests. -/
def same (a b : RenderOptions) : Bool :=
  a.buildId == b.buildId && a.basePath == b.basePath && a.assetPrefix == b.assetPrefix &&
    a.dev == b.dev && a.supportsDynamicHtml == b.supportsDynamicHtml && a.isBot == b.isBot &&
    a.revalidates == b.revalidates && a.draftMode == b.draftMode &&
    a.staticExport == b.staticExport && a.deploymentId == b.deploymentId &&
    a.requestPathname == b.requestPathname && a.runtime == b.runtime && a.output == b.output &&
    a.bodySizeLimit == b.bodySizeLimit && a.params == b.params &&
    Patch.sameContent a.clientReferenceManifest b.clientReferenceManifest &&
    Patch.sameContent a.fontManifest b.fontManifest && a.limits == b.limits

/-- The members of the options in a JSON object; what is not chosen is left out. -/
def members (o : RenderOptions) : List (String × Option Json) :=
  [("buildId", some (.string o.buildId)), ("basePath", some (.string o.basePath)),
    ("assetPrefix", some (.string o.assetPrefix)), ("dev", some (.bool o.dev)),
    ("supportsDynamicHtml", some (.bool o.supportsDynamicHtml)), ("isBot", some (.bool o.isBot)),
    ("isRevalidate", some (.bool o.revalidates)), ("isDraftMode", some (.bool o.draftMode)),
    ("nextExport", some (.bool o.staticExport)), ("deploymentId", o.deploymentId.map .string),
    ("originalPathname", o.requestPathname.map .string),
    ("runtime", some (.string o.runtime.word)),
    ("output", o.output.map fun mode => .string mode.word),
    ("serverActionsBodySizeLimit", o.bodySizeLimit.map BodySizeLimit.toJson),
    ("params", some (.ofMembers (o.params.entries.map fun (name, text) => (name, .string text)))),
    ("clientReferenceManifest", o.clientReferenceManifest), ("fontManifest", o.fontManifest),
    ("limits", some o.limits.toJson)]

/-- The options as a JSON object. -/
def toJson (o : RenderOptions) : Json := .ofMembers (Json.present o.members)

/-- The fields of the options. -/
def fields : List Json.FieldName :=
  [⟨"buildId", []⟩, ⟨"basePath", []⟩, ⟨"assetPrefix", []⟩, ⟨"dev", []⟩,
    ⟨"supportsDynamicHtml", []⟩, ⟨"isBot", []⟩, ⟨"isRevalidate", []⟩, ⟨"isDraftMode", []⟩,
    ⟨"nextExport", []⟩, ⟨"deploymentId", []⟩, ⟨"originalPathname", []⟩, ⟨"runtime", []⟩,
    ⟨"output", ["nextConfigOutput"]⟩, ⟨"serverActionsBodySizeLimit", []⟩, ⟨"params", []⟩,
    ⟨"clientReferenceManifest", []⟩, ⟨"fontManifest", []⟩, ⟨"limits", []⟩]

/-- Reads a manifest, which stands one level inside the options. -/
def manifest? (document : Json.Document) : Option Json :=
  document.value? (Json.Document.maxNesting - 1)

open Json.Document in
/-- Reads options from the fields of a record. -/
def ofRecord? (record : Json.Record) : Option RenderOptions := do
  let text (name : String) : Option String := record.field? name string? (some "")
  let flag (name : String) (missing : Bool) : Option Bool := record.field? name bool? (some missing)
  let textIfAny (name : String) : Option (Option String) :=
    record.field? name (nullable? string?) (some none)
  let manifestIfAny (name : String) : Option (Option Json) :=
    record.field? name (nullable? manifest?) (some none)
  let buildId ← record.field? "buildId" string? none
  let params ← record.field? "params" stringMembers? (some [])
  return {
    buildId := buildId
    basePath := ← text "basePath"
    assetPrefix := ← text "assetPrefix"
    dev := ← flag "dev" false
    supportsDynamicHtml := ← flag "supportsDynamicHtml" true
    isBot := ← flag "isBot" false
    revalidates := ← flag "isRevalidate" false
    draftMode := ← flag "isDraftMode" false
    staticExport := ← flag "nextExport" false
    deploymentId := ← textIfAny "deploymentId"
    requestPathname := ← textIfAny "originalPathname"
    runtime := ← record.field? "runtime" (choice? Runtime.ofWord?) (some .nodejs)
    output := ← record.field? "output" (nullable? (choice? OutputMode.ofWord?)) (some none)
    bodySizeLimit := ← record.field? "serverActionsBodySizeLimit"
      (nullable? BodySizeLimit.ofDocument?) (some none)
    params := SortedMap.ofList params
    clientReferenceManifest := ← manifestIfAny "clientReferenceManifest"
    fontManifest := ← manifestIfAny "fontManifest"
    limits := ← record.field? "limits" Limits.ofDocument? (some .standard) }

/-- Reads options. -/
def ofDocument? (document : Json.Document) : Option RenderOptions :=
  (Json.Record.ofDocument? fields document).bind ofRecord?

/-- Reads options from a text. -/
def ofText? (text : String) : Option RenderOptions := (Json.Document.ofText? text).bind ofDocument?

end RenderOptions

end RouteSync
