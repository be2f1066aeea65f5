import Xsoc.Error

/-!
# Configuration

The part of `ClientConfig` that pairing and delivery read, and the checks on endpoints. Parsing of URLs is the
`url` crate's: `UrlCrate` is what the client uses of it.

* `validateEndpoint`, `validatePairingEndpoint` : what a stored or configured endpoint must be;
* `ClientConfig.pairingEndpointOf` : the pairing endpoint, configured or derived from the report endpoint;
* `applyActiveConfig` : the configuration after a binding is applied.
-/

set_option autoImplicit false

namespace Xsoc

/-- A parsed URL, as far as the client looks at one. -/
structure Url where
  href : String
  scheme : String
  username : String
  password : Option String
  hostStr : Option String
  portOrKnownDefault : Option Nat
  path : String
  query : Option String
  fragment : Option String
  /-- The ASCII serialisation of the origin. -/
  origin : String
  deriving DecidableEq

/-- What the client uses of the `url` crate. -/
structure UrlCrate where
  parse : String → Option Url
  join : Url → String → Option Url
  setPath : Url → String → Url
  /-- `set_query(None)`. -/
  clearQuery : Url → Url
  /-- `set_fragment(None)`. -/
  clearFragment : Url → Url
  /-- `path_segments_mut`, `pop_if_empty`, then one `push` a segment; `none` for a URL that has no segments. -/
  pushSegments : Url → List String → Option Url

/-- A path of the platform: text, or bytes that are no UTF-8. -/
inductive PathBuf
  | text (path : String)
  | bytes (raw : List UInt8)
  deriving DecidableEq

def PathBuf.isText : PathBuf → Bool
  | text _ => true
  | bytes _ => false

structure ClientConfig where
  endpoint : String
  /-- When omitted it is derived from the report endpoint. -/
  pairingEndpoint : Option String
  otlpEndpoint : Option String
  otlpToken : Option String
  /-- `smart.executable`. -/
  smartExecutable : Option PathBuf
  requestTimeoutSeconds : Nat
  /-- In its normal form: paths are compared by their components. -/
  stateDir : PathBuf
  tlsIdentityPem : Option PathBuf
  tlsIdentityPkcs12 : Option PathBuf
  tlsIdentityPassword : Option String
  tlsCaPem : Option PathBuf
  /-- Explicit user-confirmed replacement of an incomplete saved request. -/
  replacePendingPairing : Bool
  deriving DecidableEq

def clientReportPath : String := "/api/v1/xsoc/report"

def clientPairingRequestsPath : String := "/api/v1/xsoc/pairing-requests"

def browserActivationPathPrefix : String := "/activate/"

/-- `str::strip_suffix`. -/
def stripSuffix (s suffix : String) : Option String :=
  (List.dropSuffix? s.toList suffix.toList).map String.ofList

section

variable (url : UrlCrate)

def validateEndpoint (endpoint : String) : Except Error Unit := do
  let u ← okOr (.context "invalid telemetry endpoint" (.message "url::ParseError")) (url.parse endpoint)
  check (u.scheme = "https" ∧ u.hostStr.isSome ∧ u.username = "" ∧ u.password.isNone ∧ u.fragment.isNone ∧
    u.portOrKnownDefault.isSome) (.message "telemetry endpoint must use trusted HTTPS")

def validatePairingEndpoint (endpoint : String) : Except Error Unit := do
  withContext "browser pairing requires HTTPS" (validateEndpoint url endpoint)
  let u ← okOr (.message "validate_endpoint accepted the URL") (url.parse endpoint)
  check (u.query.isNone ∧ u.fragment.isNone) (.message
    "pairing_endpoint must not contain a query or fragment because request-specific paths are appended while polling")

namespace ClientConfig

/-- `ClientConfig::pairing_endpoint`; an endpoint that does not parse makes the client panic here. -/
def pairingEndpointOf (config : ClientConfig) : Except Error String :=
  match config.pairingEndpoint with
  | some endpoint => .ok endpoint
  | none =>
    match stripSuffix config.endpoint clientReportPath with
    | some base => .ok (base ++ clientPairingRequestsPath)
    | none => do
      let u ← okOr (.message "endpoint was validated before pairing_endpoint is used") (url.parse config.endpoint)
      let u := url.clearFragment (url.clearQuery (url.setPath u clientPairingRequestsPath))
      .ok (String.ofList (trimEndMatches (· = '/') u.href.toList))

/-- The delivery part of `ClientConfig::validate`. -/
def validateDelivery (config : ClientConfig) : Except Error Unit := do
  validateEndpoint url config.endpoint
  let pairingEndpoint ← config.pairingEndpointOf url
  validatePairingEndpoint url pairingEndpoint

def validateDurableReportEndpoint (_config : ClientConfig) (reportEndpoint : String) : Except Error Unit :=
  validateEndpoint url reportEndpoint

end ClientConfig

end

namespace ClientConfig

/-- The configuration can be written as JSON: `serde` refuses a path that is no UTF-8. -/
def serializes (config : ClientConfig) : Bool :=
  config.stateDir.isText && config.smartExecutable.all PathBuf.isText && config.tlsIdentityPem.all PathBuf.isText &&
    config.tlsIdentityPkcs12.all PathBuf.isText && config.tlsCaPem.all PathBuf.isText

end ClientConfig

/-- `apply_active_config`. -/
def applyActiveConfig (config : ClientConfig) (reportEndpoint : String) : ClientConfig :=
  { config with endpoint := reportEndpoint, pairingEndpoint := none }

/-- Applying a binding leaves every path of the configuration as it was. -/
@[simp] theorem serializes_applyActiveConfig (config : ClientConfig) (reportEndpoint : String) :
    (applyActiveConfig config reportEndpoint).serializes = config.serializes := rfl

end Xsoc
