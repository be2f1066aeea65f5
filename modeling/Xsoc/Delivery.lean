import Xsoc.Pairing.Local

/-!
# Delivery: start-up, recovery and failures of the running service

`prepareReporterTurn` is one turn of the start-up loop. `HostDeliveryDriver` is the service's own copy of the
configuration, the host and the reporter, and `recover`, `applyRecovery`, `classifyFailure` are its steps.
-/

set_option autoImplicit false

namespace Xsoc

open Durable

/-- `SendError`. -/
inductive SendError
  | identityMismatch
  | permanent (text : String)
  | unauthorized (text : String)
  | unsupportedProtocol (text : String)
  | transient (text : String)
  | futureTimestamp (text : String)
  deriving DecidableEq, Repr

namespace SendError

def isUnauthorized : SendError → Bool
  | unauthorized _ => true
  | _ => false

def stableCode : SendError → String
  | identityMismatch => "identity_mismatch"
  | permanent _ => "invalid_report"
  | unauthorized _ => "unauthorized"
  | unsupportedProtocol _ => "unsupported_client_protocol"
  | transient _ => "server_unavailable"
  | futureTimestamp _ => "report_future_timestamp"

end SendError

/-- What the driver holds of the current credential. -/
structure HostDeliveryDriver where
  config : ClientConfig
  host : HostIdentity
  reporter : Reporter
  lastWaitingNotice : Option Uuid
  deriving DecidableEq

inductive HostRecoveryProbe
  | credential (snapshot : ReporterSnapshot)
  | pairing (probe : Option PairingProgress)

/-- `RecoveryUpdate`; the next poll is after so many seconds. -/
inductive RecoveryUpdate
  | renewed (pollAfter : Nat)
  | unchanged (pollAfter : Nat)
  deriving DecidableEq, Repr

inductive DeliveryResponse
  | retry
  | retryAfterRecovery
  | authorizationRequired
  deriving DecidableEq, Repr

section

variable (ext : External)

/-- `apply_reporter_snapshot`: the snapshot is applied first; then the configuration is serialised, which may fail. -/
def applyReporterSnapshot (snapshot : ReporterSnapshot) (config : ClientConfig) :
    ClientConfig × HostIdentity × Except Error Reporter :=
  let applied := snapshot.apply config
  (applied.1, applied.2.1,
    if applied.1.serializes then .ok applied.2.2 else .error (.message "path contains invalid UTF-8 characters"))

/-- One turn of the loop of `prepare_reporter`: a snapshot, or nothing yet. -/
def prepareReporterTurn (config : ClientConfig) : PairingOp (Option ReporterSnapshot) := do
  match ← transaction (fun _ => Tx.read (reporterSnapshotForCurrentActiveState ext config)) with
  | some snapshot => pure (some snapshot)
  | none => transaction (existingReporterForRun ext config)

namespace HostDeliveryDriver

/-- `recover`. -/
def recover (config : ClientConfig) (revision : Revision) : PairingOp HostRecoveryProbe := do
  -- A usable local rotation must not wait for a subsequent pairing's endpoint.
  match ← transaction (fun _ => Tx.read (refreshReporterSnapshot ext config revision)) with
  | some snapshot => pure (.credential snapshot)
  | none => do
    let probe ← pollExisting ext config
    pure (.pairing probe)

/-- The delay and the notice that `apply_recovery` derives from a probe. -/
def pollAfter : Option PairingProgress → Nat
  | some (.waiting session) => session.pollInterval
  | some (.creating _ _) => 2
  | _ => 60

def notice (driver : HostDeliveryDriver) : Option PairingProgress → HostDeliveryDriver
  | some (.waiting session) => { driver with lastWaitingNotice := some session.requestId }
  | _ => driver

/-- The end of `apply_recovery`: what it does with the snapshot, if there is one. -/
def adopt (driver : HostDeliveryDriver) (pollAfter : Nat) (snapshot : Option ReporterSnapshot) :
    HostDeliveryDriver × Except Error RecoveryUpdate :=
  match snapshot with
  | none => (driver, .ok (.unchanged pollAfter))
  | some snapshot =>
    match applyReporterSnapshot snapshot driver.config with
    | (config, host, .ok reporter) =>
      ({ driver with config := config, host := host, reporter := reporter }, .ok (.renewed pollAfter))
    | (config, host, .error e) => ({ driver with config := config, host := host }, .error e)

/-- `apply_recovery`: the driver afterwards, and the update. -/
def applyRecovery (driver : HostDeliveryDriver) (probe : HostRecoveryProbe) :
    Prog Disk Inputs Request Reply (HostDeliveryDriver × Except Error RecoveryUpdate) :=
  match probe with
  | .credential snapshot =>
    Prog.bind localProgress (fun
      | .error e => .ret (driver, .error e)
      | .ok progress => .ret ((driver.notice progress).adopt (pollAfter progress) (some snapshot)))
  | .pairing progress =>
    Prog.bind (transaction (fun _ => Tx.read (refreshReporterSnapshot ext driver.config
        driver.reporter.credentialRevision))) (fun
      | .error e => .ret (driver.notice progress, .error e)
      | .ok snapshot => .ret ((driver.notice progress).adopt (pollAfter progress) snapshot))

/-- `classify_failure`. -/
def classifyFailure (revision : Revision) (error : SendError) :
    Prog Disk Inputs Request Reply DeliveryResponse :=
  if error.isUnauthorized = false then .ret .retry
  else
    Prog.bind (transaction (markReauthRequiredIfCurrent ext revision
        ("delivery requires authorization recovery: " ++ error.stableCode))) (fun
      | .ok false => .ret .retryAfterRecovery
      | .ok true => .ret .authorizationRequired
      | .error _ => .ret .authorizationRequired)

end HostDeliveryDriver

end

end Xsoc
