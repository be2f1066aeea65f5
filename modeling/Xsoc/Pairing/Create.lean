import Xsoc.Pairing.Commit

/-!
# Beginning a request

`prepareStart` selects or creates the request generation under the lock; `finishCreateRequest` posts a `Creating`
journal to the server, without the lock, and replaces it by a `Pending` one if it is still there.

* `inferredMode` : the mode is not stored, it is read off the identity file at each POST;
* `acceptCreated` : the checks on the server's reply.
-/

set_option autoImplicit false

namespace Xsoc

open Durable

section

variable (ext : External)

/-- What `prepare_start` decides. -/
inductive PairingStart
  | waiting (session : PairingSession)
  | create (state : Creating)
  | checkExpired (session : PairingSession)

/-- `pairing_endpoints_match`. -/
def pairingEndpointsMatch (config : ClientConfig) (pairingEndpoint reportEndpoint : String) : Except Error Bool := do
  let configured ← config.pairingEndpointOf ext.url
  .ok (pairingEndpoint = configured && reportEndpoint = config.endpoint)

/-- The journal of a new generation. -/
def newCreating (config : ClientConfig) (host : HostIdentity) (pairingEndpoint : String) (i : Inputs) : Creating :=
  ⟨.current, i.generation, pairingEndpoint, config.endpoint, host, randomSecret i.bearer, randomSecret i.polling⟩

/-- The end of `prepare_start`: the secrets and the exact host request are durable before the first POST. -/
def startCreating (config : ClientConfig) (host : HostIdentity) (i : Inputs) : StateTx PairingStart := do
  let pairingEndpoint ← Tx.ofExcept (config.pairingEndpointOf ext.url)
  persistStateUnlocked ext (.creating (newCreating config host pairingEndpoint i))
  pure (.create (newCreating config host pairingEndpoint i))

/-- `prepare_start`, under the lock it takes. -/
def prepareStart (config : ClientConfig) (host : HostIdentity) (i : Inputs) : StateTx PairingStart := do
  match ← Tx.read (fun d => loadState d.pairing) with
  | some (.pending p) =>
    if config.replacePendingPairing then startCreating ext config host i
    else do
      let same ← Tx.ofExcept (pairingEndpointsMatch ext config p.pairingEndpoint p.reportEndpoint)
      if p.expiresAt > i.now then
        if same then pure (.waiting p.session)
        else Tx.throw (.message ("a browser pairing request for a different xsos server is still pending; " ++
          "finish it or wait until " ++ ext.serde.display p.expiresAt ++ " before changing servers"))
      else if same then pure (.checkExpired p.session)
      else startCreating ext config host i
  | some (.creating c) =>
    if config.replacePendingPairing then startCreating ext config host i
    else do
      let same ← Tx.ofExcept (pairingEndpointsMatch ext config c.pairingEndpoint c.reportEndpoint)
      if same then pure (.create c)
      else Tx.throw (.message ("a browser pairing request for a different xsos server is being created; " ++
        "retry with the original server before changing servers"))
  | some (.activating j) => do
    let same ← Tx.ofExcept (pairingEndpointsMatch ext config j.pairingEndpoint j.reportEndpoint)
    let _ ← finishActivatingUnlocked ext i j
    if same then pure (.waiting j.session)
    -- The journal belonged to another server; it is fully converged now.
    else startCreating ext config host i
  | some (.active a) => do
    -- Preserve the current credential's endpoint before the journal that carried it goes.
    let _ ← Tx.read (fun d => loadCurrentActiveBinding ext d.binding a.binding)
    startCreating ext config host i
  | some (.denied _) => startCreating ext config host i
  | some (.expired _) => startCreating ext config host i
  | none => startCreating ext config host i

/-! ## The POST -/

/-- `inferred_mode`, on the identity file as it reads. -/
def modeOf (identity : File (Option String)) (host : HostIdentity) : PairMode :=
  match identityFromState identity with
  | .ok identity => if identity.instanceId = host.id then .recoverIdentity else .fresh
  | .error _ => .fresh

/-- `inferred_mode`: read without the lock; a failing read is taken for a fresh host. -/
def inferredMode (host : HostIdentity) : PairingOp PairMode :=
  Op.peek (fun
    | none => .ok .fresh
    | some d => .ok (modeOf d.identity host))

/-- `validate_requested_mode`. -/
def validateRequestedMode (host : HostIdentity) (requested : PairMode) : PairingOp Unit := do
  let inferred ← inferredMode host
  Op.ensure (requested = inferred) (.message "pairing mode does not match the selected durable xsoc identity")

/-- The body of the POST that `c` asks for in `mode`. -/
def Creating.request (c : Creating) (mode : PairMode) : Request :=
  .create c.pairingEndpoint ⟨mode, c.host, sha256Hex ext c.bearerSecret, sha256Hex ext c.pollingSecret⟩

/-- The `Pending` record of a created request. -/
def Creating.pending (c : Creating) (created : CreatePairingResponse) (activationUrl : String)
    (expiresAt : DateTime) : Pending :=
  ⟨.current, c.generation, created.requestId, activationUrl, expiresAt, created.pollInterval, c.pairingEndpoint,
    c.reportEndpoint, c.bearerSecret, c.pollingSecret⟩

/-- The checks of `finish_create_request` on the reply. -/
def acceptCreated (c : Creating) (now : DateTime) (response : HttpResponse) : Except Error Pending := do
  let contentType := pairingResponseContentType response
  ensurePairingResponse ext response.status contentType response.body [200, 201] .create
  let created ← parsePairingJson ext ext.createResponse response.body contentType c.pairingEndpoint "pairing response"
  check (created.expiresIn ≠ 0 ∧ created.expiresIn ≤ 7 * 24 * 60 * 60)
    (.message "xsos returned an invalid pairing expiration")
  check (created.pollInterval ≠ 0 ∧ created.pollInterval ≤ 300)
    (.message "xsos returned an invalid pairing poll interval")
  let activationUrl ← resolveActivationUrl ext c.pairingEndpoint created.activationUrl
  validateActivationUrlRequest ext activationUrl c.pairingEndpoint created.requestId
  let expiresAt ← okOr (.message "pairing expiration overflow") (now.checkedAddSeconds created.expiresIn)
  .ok (c.pending created activationUrl expiresAt)

/-- `finish_create_request`. -/
def finishCreateRequest (config : ClientConfig) (c : Creating) : PairingOp PairingSession := do
  Op.ofExcept (validateStateVersion c.version)
  Op.ofExcept (withContext "stored pairing endpoint is unsafe" (validatePairingEndpoint ext.url c.pairingEndpoint))
  Op.ofExcept (withContext "stored report endpoint is unsafe"
    (config.validateDurableReportEndpoint ext.url c.reportEndpoint))
  buildClient ext config
  let mode ← inferredMode c.host
  let reply ← postBounded (c.request ext mode) "failed to create a browser pairing request"
  let p ← Op.ofExcept (acceptCreated ext c reply.1 reply.2)
  transaction (fun _ => compareAndPersistCreating ext c.generation c.pairingEndpoint c.reportEndpoint
    c.pollingSecret (.pending p))
  pure p.session

end

end Xsoc
