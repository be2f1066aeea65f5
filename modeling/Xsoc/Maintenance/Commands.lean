import Xsoc.Maintenance.Calls

/-!
# The commands of the maintenance tool

The installer runs the tool with one command at a time, in the order of its own sequence, and with those that roll
back where a step of it fails.

* `prepareInstall`, `applyInstall`, `rollbackInstall`, `commitInstall` : an installation, or an upgrade;
* `preflightUninstall`, `preserveState`, `rollbackUninstall`, `rollbackUninstallPreflight`, `commitUninstall` : an
  uninstallation that keeps the state of the client;
* `preparePurge`, `rollbackPurge`, `commitPurge` : one that does not;
* `Command.run` : each by its name, with what fails in it.
-/

set_option autoImplicit false

namespace Xsoc

namespace Maintenance

open Faults

section

variable (pkg : Package)

/-! ## Installation -/

/-- What the snapshot of an installation says, of what it finds. -/
def installSnapshot (programExisted stateExisted : Bool) (sidType : Option Nat) (failureActions : Option Bool)
    (running : Bool) : InstallSnapshot where
  format := snapshotFormat
  applicationVersion := pkg.applicationVersion
  programExisted := programExisted
  stateExisted := stateExisted
  originalServiceSidType := sidType
  originalFailureActionsOnNonCrash := failureActions
  originalServiceRunning := running
  stateAclSaved := stateExisted

/-- A service whose uninstallation was interrupted may be stopped, with its state under the retired descriptor. -/
def acceptServiceState (f : Faults) (service : Service) : Action Unit := do
  let valid ← .attempt (validateStateMarker f true)
  match valid with
  | .ok () => return ()
  | .error _ =>
    let active ← serviceIsActive (f.within .again) service
    .ensure (fun _ => !active) (.message "running service state must retain service access")
    validateStateMarker f false

/-- The SID type that a rollback restores, of a service whose program and state were there. -/
def originalSidType (f : Faults) (programExisted stateExisted : Bool) : Option Service → Action (Option Nat)
  | none => return none
  | some service => do
    validateClientService f
    .when stateExisted (acceptServiceState f service)
    let sidType ← queryServiceSidType f service
    return if programExisted && stateExisted then some sidType else none

def originalRunning (f : Faults) : Option Service → Action Bool
  | none => return false
  | some service => serviceIsActive f service

def originalFailureActions (f : Faults) : Option Service → Action (Option Bool)
  | none => return none
  | some service => do
    let restarts ← queryFailureActionsOnNonCrash f service
    return some restarts

def prepareInstall (f : Faults) : Action Unit := do
  ensureAbsent f .journalRoot "stale install journal"
  ensureAbsent f .uninstallJournalRoot "pending uninstall journal"
  ensureAbsent f .quarantineRoot "pending purge quarantine"
  let programExisted ← validateOptionalRoot f .programRoot
  .when programExisted (validateTree f .programRoot)
  let stateExisted ← validateOptionalRoot f .stateRoot
  let existingService ← openClientService f
  .when programExisted (validateProgramTree f)
  let sidType ← originalSidType f programExisted stateExisted existingService
  let running ← originalRunning f existingService
  let failureActions ← originalFailureActions f existingService
  .when (stateExisted && existingService.isNone) (validateStateMarker f false)
  createProtectedJournal f .install
  let result ← .attempt do
    writeNewPrivate f .install .snapshot
      (.install (installSnapshot pkg programExisted stateExisted sidType failureActions running))
    validateTree f .journalRoot
  match result with
  | .error e =>
    let _removed ← .attempt (World.removeTreeNoReparse f .journalRoot)
    .throw e
  | .ok () =>
    -- The journal is there before anything is stopped.
    .when existingService.isSome (stopClientService f)
    .when stateExisted (saveAcl f .state .install .stateAcl)
    .when programExisted (saveAcl f .program .install .programAcl)
    validateTree (f.within .again) .journalRoot

/-- `CONFIG_FILE` -/
def configFile : Name := nameOf "config.json"

/-- The state that was there, or a new one. -/
def ensureStateRoot (f : Faults) (stateExisted : Bool) : Action Unit := do
  if stateExisted then
    let stateExists ← validateOptionalRoot f .stateRoot
    .ensure (fun _ => stateExists) (.message "the pre-existing Client state root disappeared before apply")
    validateTree f .stateRoot
  else
    ensureAbsent f .stateRoot "state root that appeared after install preflight"
    createSystemAdminOnlyDirectory f .stateRoot
    writeNewEntry f configFile pkg.defaultConfig inheritedDescriptor

def applyInstall (f : Faults) : Action Unit := do
  let snapshot ← readSnapshot pkg f
  let programExists ← validateOptionalRoot f .programRoot
  .ensure (fun _ => programExists) (.message "MSI did not create the program root")
  validateTree f .programRoot
  call f .validateProgramExe
  ensureStateRoot pkg f snapshot.stateExisted
  let service ← openClientService f
  .ensure (fun _ => service.isSome) (.message "MSI did not install the xsoc service")
  validateClientService f
  setServiceSidType f sidTypeUnrestricted
  call f .querySidType
  .ensure (fun w => w.service.all fun s => s.sidType = sidTypeUnrestricted)
    (.message "xsoc service SID type verification failed")
  setFailureActionsOnNonCrash f true
  call f .queryFailureActions
  .ensure (fun w => w.service.all fun s => s.failureActionsOnNonCrash)
    (.message "xsoc non-crash failure restart policy did not verify")
  secureProgramForService pkg f
  validateProgramTree f
  writeOrValidateStateMarker pkg f
  validateTree (f.within .again) .stateRoot
  secureStateForService pkg f
  validateStateMarker f true

/-- The state that a first installation has made. -/
def removeFreshInstallState (f : Faults) : Action Unit := do
  validateRealDirectory f .stateRoot
  validateTree f .stateRoot
  call f .inspectMarker
  let marked ← .gets fun w => ((w.trees .state).getD []).any fun e => e.path = [stateMarker]
  if marked then
    call f (.validateMarkerFile stateMarker)
    call f (.validateMarkerDacl true)
    let protectedRoot ← .attempt (call f (.validateManagedDacl .stateRoot))
    .when protectedRoot.toOption.isNone (call (f.within .again) (.validateManagedDacl .stateRoot))
    World.removeTreeNoReparse f .stateRoot
  else
    let protectedRoot ← .attempt (call f (.validateManagedDacl .stateRoot))
    if protectedRoot.toOption.isSome then
      World.removeTreeNoReparse f .stateRoot
    else
      .ensure (fun w => ((w.trees .state).getD []).all fun e => e.path.isEmpty)
        (.message "unmarked fresh-install state root is not empty")
      effect f .removeEmptyDirectory (·.remove .stateRoot) fun failure w =>
        if failure.stage = 0 then w else w.remove .stateRoot

/-- The failure of a step of a rollback that goes on, under the name of the step. -/
def failureOf (step : String) : Except Error Unit → List String
  | .ok () => []
  | .error _ => [step]

/-- What is called for and there is restored; where that fails, the rollback goes on. -/
def restoreSaved (f : Faults) (saved : Bool) (root : TreeRoot) (file : JournalFile) : Action (Except Error Unit) := do
  let snapshotExists ← .andAlso saved (rollbackFileExists f .install file)
  let rootExists ← .andAlso snapshotExists (rollbackPathExists f (.tree root))
  .attempt (.when rootExists (restoreAcl f root .install file))

def restoreOriginalService (f : Faults) (snapshot : InstallSnapshot) : Action (Except Error Unit) :=
  match snapshot.originalServiceSidType with
  | none => return .ok ()
  | some sidType => .attempt (restoreServiceState pkg f sidType
      (snapshot.originalFailureActionsOnNonCrash.getD true) snapshot.originalServiceRunning .preserveSnapshot)

def removeFreshState (f : Faults) (stateExisted : Bool) : Action (Except Error Unit) := do
  let stateExists ← .andAlso (!stateExisted) (rollbackPathExists f .stateRoot)
  .attempt (.when stateExists (removeFreshInstallState f))

def rollbackInstall (f : Faults) : Action Unit := do
  let journalExists ← rollbackPathExists f .journalRoot
  if journalExists then
    validateRealDirectory f .journalRoot
    validateTree f .journalRoot
    let snapshot ← readSnapshot pkg f
    let state ← restoreSaved f snapshot.stateAclSaved .state .stateAcl
    let program ← restoreSaved f snapshot.programExisted .program .programAcl
    let service ← restoreOriginalService pkg f snapshot
    let fresh ← removeFreshState (f.within .again) snapshot.stateExisted
    let failures := failureOf "restore state ACL" state ++ failureOf "restore program ACL" program ++
      failureOf "restore service state" service ++ failureOf "remove fresh-install state" fresh
    if failures.isEmpty then
      World.removeTreeNoReparse f .journalRoot
    else
      .throw (.message ("rollback was incomplete; the protected journal was retained: " ++ "; ".intercalate failures))

def commitInstall (f : Faults) : Action Unit := do
  let journalExists ← pathExists f .journalRoot
  if journalExists then
    validateRealDirectory f .journalRoot
    validateTree f .journalRoot
    let _snapshot ← readSnapshot pkg f
    World.removeTreeNoReparse f .journalRoot

/-! ## Uninstallation -/

/-- What the snapshot of an uninstallation says before anything was changed. -/
def uninstallSnapshot (serviceWasRunning : Bool) : UninstallSnapshot where
  format := snapshotFormat
  applicationVersion := pkg.applicationVersion
  stateAclSaved := false
  serviceWasRunning := serviceWasRunning

def preflightUninstall (f : Faults) : Action Unit := do
  ensureAbsent f .uninstallJournalRoot "stale uninstall journal"
  let programExists ← validateOptionalRoot f .programRoot
  .ensure (fun _ => programExists) (.message "installed program root is missing")
  call f .validateProgramExe
  validateProgramTree f
  let service ← openClientService f
  let service ← .ofExcept (okOr (.message "the installed xsoc service is missing") service)
  validateClientService f
  let sidType ← queryServiceSidType f service
  .ensure (fun _ => sidType = sidTypeUnrestricted)
    (.message "the installed xsoc service SID type is not unrestricted")
  let restarts ← queryFailureActionsOnNonCrash f service
  .ensure (fun _ => restarts) (.message "the installed xsoc service does not restart after reported failures")
  let stateExists ← validateOptionalRoot f .stateRoot
  .when stateExists do
    validateTree f .stateRoot
    validateStateMarker f true
  let serviceWasRunning ← serviceIsActive f service
  createProtectedJournal f .uninstall
  let written ← .attempt
    (writeNewPrivate f .uninstall .snapshot (.uninstall (uninstallSnapshot pkg serviceWasRunning)))
  match written with
  | .ok () => return ()
  | .error e =>
    let _removed ← .attempt (World.removeTreeNoReparse f .uninstallJournalRoot)
    .throw e

def rollbackUninstallPreflight (f : Faults) : Action Unit := do
  let journalExists ← rollbackPathExists f .uninstallJournalRoot
  if journalExists then
    let snapshot ← readUninstallSnapshot pkg f
    let retained ← .orElse snapshot.stateAclSaved (purgeStarted f)
    if retained then
      return ()
    else
      World.removeTreeNoReparse f .uninstallJournalRoot

/-- The steps of `preserve_state` that it takes back where one of them fails. -/
def retireState (f : Faults) (snapshot : UninstallSnapshot) : Action Unit := do
  saveAcl f .state .uninstall .stateAcl
  replacePrivate f .uninstall (.uninstall { snapshot with stateAclSaved := true })
  secureSystemAdminOnly pkg f
  validateStateMarker f false

def preserveState (f : Faults) : Action Unit := do
  let stateExists ← pathExists f .stateRoot
  if stateExists then
    let snapshot ← readUninstallSnapshot pkg f
    validateRealDirectory f .stateRoot
    validateTree f .stateRoot
    let service ← openClientService f
    .ensure (fun _ => service.isSome) (.message "xsoc service disappeared during uninstall")
    validateClientService f
    validateStateMarker f true
    let result ← .attempt (retireState pkg f snapshot)
    match result with
    | .ok () => return ()
    | .error e =>
      let rollback ← .attempt do
        let snapshotExists ← rollbackFileExists f .uninstall .stateAcl
        .when snapshotExists (restoreAcl f .state .uninstall .stateAcl)
      match rollback with
      | .ok () =>
        let _removed ← .attempt (World.removeTreeNoReparse f .uninstallJournalRoot)
        .throw (.context "state preservation failed; the original ACL was restored" e)
      | .error _ =>
        .throw (.context
          "state preservation and ACL rollback failed; the protected uninstall journal was retained" e)

def rollbackUninstall (f : Faults) : Action Unit := do
  let journalExists ← rollbackPathExists f .uninstallJournalRoot
  if journalExists then
    let snapshot ← readUninstallSnapshot pkg f
    let restores ← .andAlso snapshot.stateAclSaved (rollbackPathExists f .stateRoot)
    .when restores do
      validateTree f .stateRoot
      restoreAcl f .state .uninstall .stateAcl
    restoreServiceState pkg f sidTypeUnrestricted true snapshot.serviceWasRunning .secureCurrent
    World.removeTreeNoReparse f .uninstallJournalRoot

def commitUninstall (f : Faults) : Action Unit := do
  let journalExists ← pathExists f .uninstallJournalRoot
  if journalExists then
    let _snapshot ← readUninstallSnapshot pkg f
    World.removeTreeNoReparse f .uninstallJournalRoot

/-! ## Purge -/

def preparePurge (f : Faults) : Action Unit := do
  let _snapshot ← readUninstallSnapshot pkg f
  ensureAbsent f .quarantineRoot "pending purge quarantine"
  let stateExists ← pathExists f .stateRoot
  if stateExists then
    validateRealDirectory f .stateRoot
    validateTree f .stateRoot
    let service ← openClientService f
    .ensure (fun _ => service.isSome) (.message "xsoc service disappeared during purge")
    validateClientService f
    validateStateMarker f true
    writeNewPrivate f .uninstall .purgeStarted .purgeStarted
    renameManagedDirectoryByHandle f .state .quarantine "purge quarantine"

def rollbackPurge (f : Faults) : Action Unit := do
  let journalExists ← rollbackPathExists f .uninstallJournalRoot
  if journalExists then
    let snapshot ← readUninstallSnapshot pkg f
    let quarantineExists ← rollbackPathExists f .quarantineRoot
    .when quarantineExists do
      validateRealDirectory f .quarantineRoot
      validateTree f .quarantineRoot
      ensureAbsent f .stateRoot "replacement state root"
      .mapError (.context "failed to restore quarantined Client state")
        (renameManagedDirectoryByHandle f .quarantine .state "restored Client state root")
    restoreServiceState pkg f sidTypeUnrestricted true snapshot.serviceWasRunning .secureCurrent
    World.removeTreeNoReparse f .uninstallJournalRoot

def deleteQuarantine (f : Faults) : Action Unit := do
  validateRealDirectory f .quarantineRoot
  validateTree f .quarantineRoot
  World.removeTreeNoReparse f .quarantineRoot

def commitPurge (f : Faults) : Action Unit := do
  let journalExisted ← pathExists f .uninstallJournalRoot
  .when journalExisted do
    let _snapshot ← readUninstallSnapshot pkg f
  let quarantineExists ← pathExists f .quarantineRoot
  let deletion ← .attempt (.when quarantineExists (deleteQuarantine f))
  let journalCleanup ← .attempt (.when journalExisted (World.removeTreeNoReparse f .uninstallJournalRoot))
  match deletion with
  | .ok () => .ofExcept journalCleanup
  | .error e => .throw (.context "purge was committed but protected quarantine remains" e)

/-! ## The commands -/

inductive Command
  | prepareInstall
  | applyInstall
  | rollbackInstall
  | commitInstall
  | preflightUninstall
  | rollbackUninstallPreflight
  | preserveState
  | rollbackUninstall
  | commitUninstall
  | preparePurge
  | rollbackPurge
  | commitPurge
  deriving DecidableEq

def Command.run (f : Faults) : Command → Action Unit
  | .prepareInstall => Maintenance.prepareInstall pkg f
  | .applyInstall => Maintenance.applyInstall pkg f
  | .rollbackInstall => Maintenance.rollbackInstall pkg f
  | .commitInstall => Maintenance.commitInstall pkg f
  | .preflightUninstall => Maintenance.preflightUninstall pkg f
  | .rollbackUninstallPreflight => Maintenance.rollbackUninstallPreflight pkg f
  | .preserveState => Maintenance.preserveState pkg f
  | .rollbackUninstall => Maintenance.rollbackUninstall pkg f
  | .commitUninstall => Maintenance.commitUninstall pkg f
  | .preparePurge => Maintenance.preparePurge pkg f
  | .rollbackPurge => Maintenance.rollbackPurge pkg f
  | .commitPurge => Maintenance.commitPurge pkg f

end

end Maintenance

end Xsoc
