import Xsoc.Maintenance.Retirement

/-!
# The rollback of an uninstallation

The installer stops the service between the preflight of an uninstallation and the retirement of the state. If the
uninstallation fails after that, two commands roll back: one restores the state and the service from the journal and
removes it, and the other removes a journal that the first one has left and that nothing else answers for.

* `RestoresService` : the restoration of the service reaches each part that has to be changed;
* `restoreServiceState_outcome` : the service is as the preflight found it exactly in that case;
* `rollbackEvents` : what happens to a machine after a preflight that accepts it;
* `uninstall_rolls_back_iff` : when all is as it was before, or the journal is kept.
-/

set_option autoImplicit false

namespace Xsoc

namespace Maintenance

open Faults Act Plan

/-! ## The restoration of the service -/

/-- What `restore_service_state` does before it sets the type of the SID. -/
def sidTypeCalls : List (List Call) :=
  under .restoreService ([[.openService], [.validateService]] ++
    under .secureProgram (treeCalls .programRoot ++ [[.setDescriptors .program]]) ++
    under .validateProgramTree (treeCalls .programRoot) ++ [[.validateProgramTree]])

def failureActionsCalls : List (List Call) := sidTypeCalls ++ under .restoreService [[.setSidType], [.querySidType]]

def startCalls : List (List Call) :=
  failureActionsCalls ++ under .restoreService [[.setFailureActions], [.queryFailureActions], [.waitForStableState]]

/-- Each part of a service that is stopped is as it should be, or is reached and set. -/
structure RestoresService (f : Faults) (program running : Bool) (service : Service) : Prop where
  sidType : service.sidType = sidTypeUnrestricted ∨
    program = true ∧ f.Clear sidTypeCalls ∧ Took f [.restoreService, .setSidType]
  failureActions : service.failureActionsOnNonCrash = true ∨
    program = true ∧ f.Clear failureActionsCalls ∧ Took f [.restoreService, .setFailureActions]
  state : running = false ∨ program = true ∧ f.Clear startCalls ∧ Took f [.restoreService, .startService]

section

variable {pkg : Package} {f : Faults} {w : World} {service : Service} {running : Bool}

theorem restoresService_iff {program : Bool} : RestoresService f program running service ↔
    (service.sidType = sidTypeUnrestricted ∨
      program = true ∧ f.Clear sidTypeCalls ∧ Took f [.restoreService, .setSidType]) ∧
    (service.failureActionsOnNonCrash = true ∨
      program = true ∧ f.Clear failureActionsCalls ∧ Took f [.restoreService, .setFailureActions]) ∧
    (running = false ∨ program = true ∧ f.Clear startCalls ∧ Took f [.restoreService, .startService]) :=
  ⟨fun h => ⟨h.1, h.2, h.3⟩, fun h => ⟨h.1, h.2.1, h.2.2⟩⟩

/-- A service that is stopped is the one that was accepted. -/
theorem eq_acceptedService (hstopped : service.state = .stopped) :
    service = acceptedService running ↔ service.sidType = sidTypeUnrestricted ∧
      service.failureActionsOnNonCrash = true ∧ running = false := by
  obtain ⟨sidType, restarts, state⟩ := service
  cases hstopped
  cases running <;> simp [acceptedService]

/-- Nothing is set that is not reached. -/
theorem restoresService_of_unreached {program : Bool} (hstopped : service.state = .stopped)
    (h : ¬ (program = true ∧ f.Clear sidTypeCalls)) :
    RestoresService f program running service ↔ service = acceptedService running := by
  have hfailureActions : ¬ (program = true ∧ f.Clear failureActionsCalls) := fun h' =>
    h ⟨h'.1, ((clear_append _ _).mp h'.2).1⟩
  have hstart : ¬ (program = true ∧ f.Clear startCalls) := fun h' =>
    hfailureActions ⟨h'.1, ((clear_append _ _).mp h'.2).1⟩
  rw [restoresService_iff, eq_acceptedService hstopped]
  simp only [← and_assoc, h, hfailureActions, hstart, false_and, or_false]

theorem changeService_eq (c : Call) (g : Service → Service) : changeService f c g w =
    match f.fault c with
    | none => (.ok (), w.mapService g)
    | some failure => (.error failed, if failure.stage = 0 then w else w.mapService g) := effect_eq f _ _ _ w

/-- A change of the service fails, before it or after it, or it is made and verified, which may fail as well. -/
theorem wp_verified {c query : Call} {g : Service → Service} {p : Service → Bool} {e : Error} {rest : Action Unit}
    {Q : Except Error Unit → World → Prop} (hp : ∀ s, p (g s) = true)
    (hfails : ∀ failure ∈ f [c], Q (.error failed) (if failure.stage = 0 then w else w.mapService g))
    (hunverified : f [c] = none → f [query] ≠ none → Q (.error failed) (w.mapService g))
    (hverified : f [c] = none → f [query] = none → wp rest Q (w.mapService g)) :
    wp (changeService f c g >>= fun _ => call f query >>= fun _ =>
      .ensure (fun w => w.service.all p) e >>= fun _ => rest) Q w := by
  rw [Act.wp_bind]
  refine wp_effect.mpr ?_
  cases hset : f [c] with
  | some failure =>
    rw [show f.fault c = some failure from hset]
    exact hfails failure hset
  | none =>
    rw [show f.fault c = none from hset]
    show wp (_ >>= _) Q _
    rw [Act.wp_bind, wp_call]
    split
    · next hquery =>
      show wp (_ >>= _) Q _
      rw [Act.wp_bind, wp_ensure, if_pos]
      · exact hverified hset hquery
      · show (w.service.map g).all p = true
        cases w.service with
        | none => rfl
        | some s => exact hp s
    · next hquery => exact hunverified hset hquery

/-- `restore_service_state`, after what it does about the program. -/
def restoreService (f : Faults) (running : Bool) : Action Unit := do
  setServiceSidType f sidTypeUnrestricted
  call f .querySidType
  .ensure (fun w => w.service.all fun s => s.sidType = sidTypeUnrestricted)
    (.message "restored service SID type did not verify")
  setFailureActionsOnNonCrash f true
  call f .queryFailureActions
  .ensure (fun w => w.service.all fun s => s.failureActionsOnNonCrash = true)
    (.message "restored non-crash failure policy did not verify")
  waitForStableServiceState f
  if running then
    startClientService f
  else
    stopClientService (f.within .again)

theorem validateProgramTree_eq_ok {u : Unit} : (validateProgramTree f w).1 = .ok u ↔ w.present .programRoot = true ∧
    f.Clear (under .validateProgramTree (treeCalls .programRoot) ++ [[.validateProgramTree]]) := by
  refine ((reads_validateTree _ _).bind_eq_ok).trans ?_
  simp [validateTree_eq_ok, Plan.fault, and_assoc]

theorem secureProgramForService_eq_ok {u : Unit} : (secureProgramForService pkg f w).1 = .ok u ↔
    w.present .programRoot = true ∧
      f.Clear (under .secureProgram (treeCalls .programRoot ++ [[.setDescriptors .program]])) := by
  refine ((reads_validateTree _ _).bind_eq_ok).trans ?_
  simp [validateTree_eq_ok, and_assoc]

/-- The program is there as before, and so is the service. -/
theorem keeps_secureProgramForService_service :
    Keeps (fun w' => w'.service = w.service ∧ w'.present .programRoot = w.present .programRoot)
      (secureProgramForService pkg f) := by
  have hmap : ∀ g w', w'.service = w.service ∧ w'.present .programRoot = w.present .programRoot →
      (World.mapTree w' .program g).service = w.service ∧
        (World.mapTree w' .program g).present .programRoot = w.present .programRoot := by
    refine fun g w' h => ⟨h.1, Eq.trans ?_ h.2⟩
    show ((World.mapTree w' .program g).trees .program).isSome = (w'.trees .program).isSome
    rw [World.mapTree, World.trees_setTree, if_pos rfl, Option.isSome_map]
  exact (reads_validateTree _ _).keeps.bind fun _ => keeps_effect (hmap _) fun _ => hmap _

theorem restoreProgramAcl_eq_ok {u : Unit} : (restoreProgramAcl pkg f .secureCurrent w).1 = .ok u ↔
    w.present .programRoot = true ∧
      f.Clear (under .secureProgram (treeCalls .programRoot ++ [[.setDescriptors .program]]) ++
        under .validateProgramTree (treeCalls .programRoot) ++ [[.validateProgramTree]]) := by
  have hpresent := (@keeps_secureProgramForService_service pkg f _ w ⟨rfl, rfl⟩).2
  unfold restoreProgramAcl
  rw [Act.bind_eq_ok]
  simp only [secureProgramForService_eq_ok, validateProgramTree_eq_ok, hpresent, exists_const, clear_append]
  tauto

theorem keeps_restoreProgramAcl_service :
    Keeps (fun w' => w'.service = w.service) (restoreProgramAcl pkg f .secureCurrent) := by
  refine Keeps.bind (fun w' hw' => ?_) fun _ => (reads_validateProgramTree _).keeps
  exact (keeps_secureProgramForService_service (w := w') w' ⟨rfl, rfl⟩).1.trans hw'

theorem restoreServiceState_reaches (hservice : w.service = some service) (hprogram : w.present .programRoot = true)
    (hclear : f.Clear sidTypeCalls) : ∃ w', w'.service = some service ∧
      restoreServiceState pkg f sidTypeUnrestricted true running .secureCurrent w =
        restoreService (f.within .restoreService) running w' := by
  rw [sidTypeCalls, clear_under, List.append_assoc, List.append_assoc, clear_append, ← List.append_assoc] at hclear
  obtain ⟨hasked, hclear⟩ := hclear
  simp only [clear_cons, clear_nil, and_true] at hasked
  have hprogram := (@restoreProgramAcl_eq_ok pkg _ _ ()).mpr ⟨hprogram, hclear⟩
  have hkept := @keeps_restoreProgramAcl_service pkg (f.within .restoreService) w w rfl
  refine ⟨_, hkept.trans hservice, ?_⟩
  unfold restoreServiceState
  have hthere : (Act.ensure (fun _ : World => w.service.isSome)
      (Error.message "the rollback xsoc service is not present") w).1 = .ok () :=
    ensure_eq_ok.mpr (by rw [hservice]; rfl)
  rw [(reads_openClientService _).bind_eq (openClientService_eq_ok.mpr ⟨hasked.1, rfl⟩),
    (reads_ensure _ _).bind_eq hthere,
    validateClientService, (reads_call _ _).bind_eq (a := ()) (call_eq_ok.mpr hasked.2),
    bind_of_ok (Prod.ext hprogram rfl)]
  rfl

theorem restoreServiceState_unreached
    (h : ¬ (w.service.isSome = true ∧ w.present .programRoot = true ∧ f.Clear sidTypeCalls)) :
    wp (restoreServiceState pkg f sidTypeUnrestricted true running .secureCurrent)
      (fun r w' => r ≠ .ok () ∧ w'.service = w.service) w := by
  have herror : ∀ e : Error, .error e ≠ (.ok () : Except Error Unit) ∧ w.service = w.service :=
    fun e => ⟨fun h => (by cases h), rfl⟩
  unfold restoreServiceState
  refine (reads_openClientService _).wp_bind herror fun service hopen => ?_
  refine (reads_ensure _ _).wp_bind herror fun _ hthere => ?_
  refine (reads_call _ _).wp_bind herror fun _ hvalid => ?_
  rw [Act.wp_bind]
  unfold wp
  cases hr : (restoreProgramAcl pkg (f.within .restoreService) .secureCurrent w).1 with
  | error e => exact ⟨fun h => (by cases h), keeps_restoreProgramAcl_service w rfl⟩
  | ok u =>
    refine absurd ?_ h
    obtain ⟨hprogram, hclear⟩ := restoreProgramAcl_eq_ok.mp hr
    obtain ⟨hopened, rfl⟩ := openClientService_eq_ok.mp hopen
    refine ⟨ensure_eq_ok.mp hthere, hprogram, ?_⟩
    rw [sidTypeCalls, clear_under, List.append_assoc, List.append_assoc, clear_append, ← List.append_assoc]
    exact ⟨by simpa using ⟨hopened, call_eq_ok.mp hvalid⟩, hclear⟩

theorem took_of_eq_none {c : List Call} (h : f c = none) : Took f c := fun failure hfailure => by
  cases h.symm.trans hfailure

theorem took_iff {c : List Call} {failure : Failure} (h : failure ∈ f c) : Took f c ↔ failure.stage ≠ 0 := by
  rw [Option.mem_def] at h
  simp [Took, h]

/-- What a service is after a change that may have failed. -/
theorem service_ite {c : Prop} [Decidable c] (hservice : w.service = some service) (g : Service → Service) :
    (if c then w else w.mapService g).service = some (if c then service else g service) := by
  split
  · exact hservice
  · exact (congrArg (Option.map g) hservice)

/-- A service that is stopped stays as it is while it is waited for. -/
theorem waitForStableServiceState_stopped (hservice : w.service = some service) (hstopped : service.state = .stopped) :
    ∃ w', waitForStableServiceState f w =
      (match f [.waitForStableState] with | none => .ok () | some _ => .error failed, w') ∧
        w'.service = some service := by
  have hsettled : (w.mapService fun s => { s with state := s.state.settled }).service = some service := by
    refine (congrArg (Option.map _) hservice).trans (congrArg some ?_)
    obtain ⟨sidType, restarts, state⟩ := service
    cases hstopped
    rfl
  unfold waitForStableServiceState
  cases hwait : f [.waitForStableState] with
  | some failure =>
    have heq := changeService_eq (f := f) (w := w) .waitForStableState fun s => { s with state := s.state.settled }
    rw [show f.fault .waitForStableState = some failure from hwait] at heq
    refine ⟨_, bind_of_error heq, ?_⟩
    split
    · exact hservice
    · exact hsettled
  | none =>
    have heq : changeService f .waitForStableState (fun s => { s with state := s.state.settled }) w =
        (.ok (), w.mapService fun s => { s with state := s.state.settled }) := by
      rw [changeService_eq, show f.fault .waitForStableState = none from hwait]
    refine ⟨_, (bind_of_ok heq).trans ?_, hsettled⟩
    refine Prod.ext (ensure_eq_ok.mpr ?_) rfl
    rw [hsettled]
    simp [hstopped]

/-- The last step, for a service that is as it should be but for its state. -/
theorem settle_outcome (hservice : w.service = some ⟨sidTypeUnrestricted, true, .stopped⟩) :
    wp (waitForStableServiceState (f.within .restoreService) >>= fun _ =>
        if running then startClientService (f.within .restoreService)
        else stopClientService ((f.within .restoreService).within .again))
      (fun r w' => (w'.service = some (acceptedService running) ↔ running = false ∨
          f [.restoreService, .waitForStableState] = none ∧ Took f [.restoreService, .startService]) ∧
        (r = .ok () → w'.service = some (acceptedService running))) w := by
  obtain ⟨w', hwaited, hservice'⟩ := waitForStableServiceState_stopped (f := f.within .restoreService) hservice rfl
  have hfinal : (some (⟨sidTypeUnrestricted, true, .stopped⟩ : Service) = some (acceptedService running) ↔
      running = false) := by
    rw [Option.some.injEq, eq_acceptedService rfl]
    simp
  rw [Act.wp_bind, wp, hwaited]
  cases hwait : (f.within .restoreService) [.waitForStableState] with
  | some failure =>
    have hwait' : f [.restoreService, .waitForStableState] ≠ none := fun h => by cases hwait.symm.trans h
    refine ⟨?_, fun h => (by cases h)⟩
    rw [hservice', hfinal]
    simp [hwait']
  | none =>
    have hwait' : f [.restoreService, .waitForStableState] = none := hwait
    cases running with
    | true =>
      refine wp_effect.mpr ?_
      have hrunning : (w'.mapService fun s => { s with state := .running }).service =
          some (acceptedService true) := congrArg (Option.map _) hservice'
      cases hstart : f [.restoreService, .startService] with
      | none =>
        rw [show (f.within .restoreService).fault .startService = none from hstart]
        exact ⟨by simp [hrunning, hwait', took_of_eq_none hstart], fun _ => hrunning⟩
      | some failure =>
        rw [show (f.within .restoreService).fault .startService = some failure from hstart]
        refine ⟨?_, fun h => (by cases h)⟩
        rw [service_ite hservice', took_iff hstart]
        by_cases hstage : failure.stage = 0
        · simp [hstage, acceptedService]
        · simp [hstage, acceptedService, hwait']
    | false =>
      obtain ⟨w'', hwaited', hservice''⟩ := waitForStableServiceState_stopped
        (f := (f.within .restoreService).within .again) hservice' rfl
      have hstopped : (w''.mapService fun s => { s with state := .stopped }).service =
          some (acceptedService false) := congrArg (Option.map _) hservice''
      show wp (stopClientService ((f.within .restoreService).within .again)) _ w'
      unfold stopClientService
      rw [Act.wp_bind, wp, hwaited']
      cases ((f.within .restoreService).within .again) [.waitForStableState] with
      | some failure => exact ⟨by simp [hservice'', acceptedService], fun h => (by cases h)⟩
      | none =>
        refine wp_effect.mpr ?_
        cases ((f.within .restoreService).within .again).fault .stopService with
        | none => exact ⟨by simp [hstopped], fun _ => hstopped⟩
        | some failure =>
          refine ⟨?_, fun h => (by cases h)⟩
          rw [service_ite hservice'']
          simp [acceptedService]

/-- The service that is reached is set step by step, and what follows a step that fails is not set. -/
theorem restoreService_outcome (hservice : w.service = some service) (hstopped : service.state = .stopped)
    (hclear : f.Clear sidTypeCalls) :
    wp (restoreService (f.within .restoreService) running) (fun r w' =>
      (w'.service = some (acceptedService running) ↔ RestoresService f true running service) ∧
        (r = .ok () → w'.service = some (acceptedService running))) w := by
  have hactions : f.Clear failureActionsCalls ↔
      f [.restoreService, .setSidType] = none ∧ f [.restoreService, .querySidType] = none := by
    simp [failureActionsCalls, hclear, Plan.within]
  have hstart : f.Clear startCalls ↔ f.Clear failureActionsCalls ∧ f [.restoreService, .setFailureActions] = none ∧
      f [.restoreService, .queryFailureActions] = none ∧ f [.restoreService, .waitForStableState] = none := by
    simp [startCalls, Plan.within]
  obtain ⟨sidType, restarts, state⟩ := service
  cases hstopped
  rw [restoresService_iff]
  refine wp_verified (fun _ => decide_eq_true rfl)
    (fun failure (hfailure : failure ∈ f [.restoreService, .setSidType]) => ?_)
    (fun (hset : f [.restoreService, .setSidType] = none) hquery => ?_)
    fun (hset : f [.restoreService, .setSidType] = none) hquery => ?_
  · have hnot : ¬ f.Clear failureActionsCalls := fun h => by cases hfailure.symm.trans (hactions.mp h).1
    refine ⟨?_, fun h => (by cases h)⟩
    rw [service_ite hservice, Option.some.injEq, took_iff hfailure]
    by_cases hstage : failure.stage = 0
    · simp [hstage, eq_acceptedService, hnot, hstart]
    · simp [hstage, eq_acceptedService, hnot, hstart, hclear]
  · have hnot : ¬ f.Clear failureActionsCalls := fun h => hquery (hactions.mp h).2
    refine ⟨?_, fun h => (by cases h)⟩
    rw [show (w.mapService _).service = _ from congrArg (Option.map _) hservice, Option.map_some, Option.some.injEq]
    simp [eq_acceptedService, hnot, hstart, hclear, took_of_eq_none hset]
  · have hclear' := hactions.mpr ⟨hset, hquery⟩
    have hservice' : (w.mapService fun s => { s with sidType := sidTypeUnrestricted }).service =
        some ⟨sidTypeUnrestricted, restarts, .stopped⟩ := congrArg (Option.map _) hservice
    refine wp_verified (fun _ => decide_eq_true rfl)
      (fun failure (hfailure : failure ∈ f [.restoreService, .setFailureActions]) => ?_)
      (fun (hset' : f [.restoreService, .setFailureActions] = none) hquery' => ?_)
      fun (hset' : f [.restoreService, .setFailureActions] = none)
        (hquery' : f [.restoreService, .queryFailureActions] = none) => ?_
    · have hnot : ¬ f.Clear startCalls := fun h => by cases hfailure.symm.trans (hstart.mp h).2.1
      refine ⟨?_, fun h => (by cases h)⟩
      rw [service_ite hservice', Option.some.injEq, took_iff hfailure]
      by_cases hstage : failure.stage = 0
      · simp [hstage, eq_acceptedService, hnot, hclear, took_of_eq_none hset]
      · simp [hstage, eq_acceptedService, hnot, hclear, hclear', took_of_eq_none hset]
    · have hnot : ¬ f.Clear startCalls := fun h => hquery' (hstart.mp h).2.2.1
      refine ⟨?_, fun h => (by cases h)⟩
      rw [show (World.mapService _ _).service = _ from congrArg (Option.map _) hservice', Option.map_some,
        Option.some.injEq]
      simp [eq_acceptedService, hnot, hclear, hclear', took_of_eq_none hset, took_of_eq_none hset']
    · refine wp_mono (settle_outcome (congrArg (Option.map _) hservice')) fun r w' h => ⟨h.1.trans ?_, h.2⟩
      simp [hclear, hclear', took_of_eq_none hset, took_of_eq_none hset', hstart, hset', hquery']

/-- The service is restored exactly where each part of it is, and then nothing but the program has changed besides. -/
theorem restoreServiceState_outcome (hstopped : ∀ service ∈ w.service, service.state = .stopped) :
    wp (restoreServiceState pkg f sidTypeUnrestricted true running .secureCurrent) (fun r w' => SameState w w' ∧
      (w'.service = some (acceptedService running) ↔
        ∃ service ∈ w.service, RestoresService f (w.present .programRoot) running service) ∧
      (r = .ok () → w'.service = some (acceptedService running))) w := by
  have hsame : Indifferent (SameState w) := fun w₁ w₂ h h₁ =>
    ⟨fun root hroot => (h.1 root hroot).trans (h₁.1 root hroot), h.2.trans h₁.2⟩
  refine ⟨keeps_restoreServiceState hsame f _ _ _ _ w ⟨fun _ _ => rfl, rfl⟩, ?_⟩
  by_cases hreached : w.service.isSome = true ∧ w.present .programRoot = true ∧ f.Clear sidTypeCalls
  · obtain ⟨hthere, hprogram, hclear⟩ := hreached
    obtain ⟨service, hservice⟩ := Option.isSome_iff_exists.mp hthere
    obtain ⟨w', hservice', heq⟩ := @restoreServiceState_reaches pkg _ _ _ running hservice hprogram hclear
    have houtcome := @restoreService_outcome _ _ _ running hservice' (hstopped service hservice) hclear
    rw [heq]
    refine ⟨houtcome.1.trans ?_, houtcome.2⟩
    simp [hservice, hprogram]
  · have hfailed := @restoreServiceState_unreached pkg _ _ running hreached
    refine ⟨?_, fun h => absurd h hfailed.1⟩
    rw [hfailed.2]
    cases hservice : w.service with
    | none => simp
    | some service =>
      have hnot : ¬ (w.present .programRoot = true ∧ f.Clear sidTypeCalls) := fun h =>
        hreached ⟨by rw [hservice]; rfl, h⟩
      simp [restoresService_of_unreached (hstopped service hservice) hnot]

/-! ## The commands that roll back -/

/-- What both commands ask first. -/
def rollbackCalls : List (List Call) := [[.inspect .uninstallJournalRoot]] ++ snapshotCalls

/-- `rollback_uninstall` leaves the service as the preflight found it, from a journal that asks for nothing else. -/
def Restores (f : Faults) (running : Bool) (program : Option Tree) (left : Option Service) : Prop :=
  ∃ service ∈ left, service = acceptedService running ∨
    f.Clear rollbackCalls ∧ RestoresService f program.isSome running service

/-- `rollback_uninstall_preflight` removes such a journal. -/
def Discards (f : Faults) : Prop := f.Clear (rollbackCalls ++ [[.read .purgeStarted]]) ∧ Took f removeCall

/-- The journal is there, and no snapshot in it lets it be removed before the state is restored. -/
structure Guarded (w : World) : Prop where
  journal : (w.journals .uninstall).isSome = true
  snapshot : ∀ s, w.file .uninstall .snapshot = some (.uninstall s) → s.stateAclSaved = true

variable {s : UninstallSnapshot}

theorem rollbackUninstall_absent (habsent : w.journals .uninstall = none) : (rollbackUninstall pkg f w).2 = w := by
  show wp (rollbackUninstall pkg f) (fun _ w' => w' = w) w
  unfold rollbackUninstall
  refine (reads_rollbackPathExists f _).wp_bind (fun _ => rfl) fun journalExists hexists => ?_
  have hfalse : journalExists = false :=
    (rollbackPathExists_iff.mp hexists).2.trans (by rw [World.present, habsent]; rfl)
  rw [hfalse, if_neg Bool.false_ne_true]
  rfl

theorem rollbackUninstallPreflight_absent (habsent : w.journals .uninstall = none) :
    (rollbackUninstallPreflight pkg f w).2 = w := by
  show wp (rollbackUninstallPreflight pkg f) (fun _ w' => w' = w) w
  unfold rollbackUninstallPreflight
  refine (reads_rollbackPathExists f _).wp_bind (fun _ => rfl) fun journalExists hexists => ?_
  have hfalse : journalExists = false :=
    (rollbackPathExists_iff.mp hexists).2.trans (by rw [World.present, habsent]; rfl)
  rw [hfalse, if_neg Bool.false_ne_true]
  rfl

/-- Where not even the snapshot is read, nothing happens. -/
theorem rollbackUninstall_unasked (hw : Original s w) (hcurrent : s.current pkg = true)
    (hasked : ¬ f.Clear rollbackCalls) : (rollbackUninstall pkg f w).2 = w := by
  show wp (rollbackUninstall pkg f) (fun _ w' => w' = w) w
  unfold rollbackUninstall
  refine (reads_rollbackPathExists f _).wp_bind (fun _ => rfl) fun journalExists hexists => ?_
  obtain ⟨hinspect, rfl⟩ := rollbackPathExists_iff.mp hexists
  rw [if_pos (present_of_file hw.snapshot)]
  refine (reads_readUninstallSnapshot f).wp_bind (fun _ => rfl) fun s' hs' => absurd ?_ hasked
  rw [rollbackCalls, clear_append, clear_cons]
  exact ⟨⟨hinspect, clear_nil⟩, ((readUninstallSnapshot_iff hw.snapshot hcurrent hw.purge).mp hs').1⟩

theorem rollbackUninstall_asked (hw : Original s w) (hcurrent : s.current pkg = true)
    (hunmarked : s.stateAclSaved = false) (hasked : f.Clear rollbackCalls) : rollbackUninstall pkg f w =
      (restoreServiceState pkg f sidTypeUnrestricted true s.serviceWasRunning .secureCurrent >>= fun _ =>
        World.removeTreeNoReparse f .uninstallJournalRoot) w := by
  rw [rollbackCalls, clear_append, clear_cons] at hasked
  unfold rollbackUninstall
  rw [(reads_rollbackPathExists f _).bind_eq (rollbackPathExists_iff.mpr ⟨hasked.1.1, rfl⟩),
    if_pos (present_of_file hw.snapshot), (reads_readUninstallSnapshot f).bind_eq
      ((readUninstallSnapshot_iff hw.snapshot hcurrent hw.purge).mpr ⟨hasked.2, rfl⟩), hunmarked]
  rfl

/-- A journal with the snapshot of the preflight. -/
theorem rollbackUninstall_original (hw : Original s w) (hcurrent : s.current pkg = true)
    (hunmarked : s.stateAclSaved = false) (hstopped : ∀ service ∈ w.service, service.state = .stopped) :
    wp (rollbackUninstall pkg f) (fun _ w' => w'.trees .state = w.trees .state ∧
      (w'.service = some (acceptedService s.serviceWasRunning) ↔
        Restores f s.serviceWasRunning (w.trees .program) w.service) ∧
      (¬ Restores f s.serviceWasRunning (w.trees .program) w.service → Original s w')) w := by
  have hself : ∀ service ∈ w.service, service = acceptedService s.serviceWasRunning → ∀ program,
      RestoresService f program s.serviceWasRunning service := fun service hservice heq program => by
    rw [eq_acceptedService (hstopped service hservice)] at heq
    exact ⟨Or.inl heq.1, Or.inl heq.2.1, Or.inl heq.2.2⟩
  by_cases hasked : f.Clear rollbackCalls
  · have hrestores : Restores f s.serviceWasRunning (w.trees .program) w.service ↔
        ∃ service ∈ w.service, RestoresService f (w.present .programRoot) s.serviceWasRunning service :=
      ⟨fun ⟨service, hservice, h⟩ => ⟨service, hservice, h.elim (fun h => hself service hservice h _) And.right⟩,
        fun ⟨service, hservice, h⟩ => ⟨service, hservice, Or.inr ⟨hasked, h⟩⟩⟩
    rw [hrestores]
    refine (wp_congr (rollbackUninstall_asked hw hcurrent hunmarked hasked)).mpr ?_
    refine (Act.wp_bind _ _ _).mpr (wp_mono (restoreServiceState_outcome hstopped) ?_)
    rintro (e | u) w' ⟨hsame, hservice, hok⟩
    · refine ⟨hsame.1 _ (by decide), hservice, fun _ => ⟨?_, ?_⟩⟩
      · rw [World.file, hsame.2]
        exact hw.snapshot
      · rw [World.file, hsame.2]
        exact hw.purge
    · have hjournal : w'.present .uninstallJournalRoot = true := by
        show (w'.journals .uninstall).isSome = true
        rw [hsame.2]
        exact present_of_file hw.snapshot
      refine wp_mono (removeJournal_outcome hjournal) fun _ w'' hremoved => ?_
      rw [hremoved.trees, hremoved.service]
      exact ⟨hsame.1 _ (by decide), hservice, fun h => absurd (hservice.mp (hok rfl)) h⟩
  · rw [wp, rollbackUninstall_unasked hw hcurrent hasked]
    refine ⟨rfl, ?_, fun _ => hw⟩
    simp [Restores, hasked]

/-- A journal from which the state is restored, or nothing. -/
theorem rollbackUninstall_evidence {tree : Tree} (hw : Evidence s tree w)
    (hstopped : ∀ service ∈ w.service, service.state = .stopped) :
    wp (rollbackUninstall pkg f) (fun _ w' => (w'.trees .state = some tree ∧
      w'.service = some (acceptedService s.serviceWasRunning)) ∨ Guarded w') w := by
  have hguarded : ∀ w' : World, w'.journals = w.journals → Guarded w' := fun w' h =>
    ⟨by rw [h]; exact hw.journal, fun s' hs' => by rw [World.file, h] at hs'; rw [hw.snapshot s' hs']⟩
  have herror : ∀ e : Error, (fun (_ : Except Error Unit) (w' : World) => (w'.trees .state = some tree ∧
      w'.service = some (acceptedService s.serviceWasRunning)) ∨ Guarded w') (.error e) w :=
    fun _ => Or.inr (hguarded w rfl)
  unfold rollbackUninstall
  refine (reads_rollbackPathExists f _).wp_bind herror fun journalExists hexists => ?_
  rw [(rollbackPathExists_iff.mp hexists).2, if_pos (show w.present .uninstallJournalRoot = true from hw.journal)]
  refine (reads_readUninstallSnapshot f).wp_bind herror fun s' hs' => ?_
  cases hw.snapshot s' (readUninstallSnapshot_eq_ok hs')
  refine (reads_rollbackPathExists f .stateRoot).wp_bind herror fun restores hrestores => ?_
  obtain ⟨tree', hstate, hfiles⟩ := Option.map_eq_some_iff.mp hw.files
  rw [(rollbackPathExists_iff.mp hrestores).2, show w.present .stateRoot = true from Option.isSome_of_mem hstate]
  rw [Act.wp_bind, wp_when, if_pos rfl]
  refine (reads_validateTree f _).wp_bind herror fun _ _ => ?_
  have halike := @keeps_restoreAcl_alike f w .uninstall .stateAcl w (.refl w)
  refine wp_mono (P := fun r w' => Alike w w' ∧ (r = .ok () → w'.trees .state = some tree))
    ⟨halike, fun h => restoreAcl_tree hstate hfiles hw.acl (Or.inl h)⟩ ?_
  rintro (e | u) w' ⟨halike, hrestored⟩
  · exact Or.inr (hguarded w' halike.journals)
  · have hrestored := hrestored rfl
    show wp (_ >>= _) _ w'
    rw [Act.wp_bind]
    refine wp_mono (restoreServiceState_outcome (halike.service ▸ hstopped)) ?_
    rintro (e | u) w'' ⟨hsame, -, hok⟩
    · exact Or.inr (hguarded w'' (hsame.2.trans halike.journals))
    · have hjournal : w''.present .uninstallJournalRoot = true := by
        show (w''.journals .uninstall).isSome = true
        rw [hsame.2, halike.journals]
        exact hw.journal
      refine wp_mono (removeJournal_outcome hjournal) fun _ w₃ hremoved => Or.inl ?_
      rw [hremoved.trees, hremoved.service]
      exact ⟨(hsame.1 _ (by decide)).trans hrestored, hok rfl⟩

/-- The second command changes nothing but the journal. -/
theorem keeps_rollbackUninstallPreflight_same :
    Keeps (fun w' => w'.trees = w.trees ∧ w'.service = w.service) (rollbackUninstallPreflight pkg f) := by
  refine (reads_rollbackPathExists f _).keeps.bind fun journalExists => Keeps.ite ?_ (reads_pure ()).keeps
  refine (reads_readUninstallSnapshot f).keeps.bind fun s =>
    ((reads_purgeStarted f).orElse _).keeps.bind fun retained =>
    Keeps.ite (reads_pure ()).keeps ?_
  refine keeps_removeTreeNoReparse f (fun _ h => h) fun failure w' h => ?_
  unfold World.partlyRemove
  split <;> exact h

theorem rollbackUninstallPreflight_guarded (hw : Guarded w) : (rollbackUninstallPreflight pkg f w).2 = w := by
  show wp (rollbackUninstallPreflight pkg f) (fun _ w' => w' = w) w
  unfold rollbackUninstallPreflight
  refine (reads_rollbackPathExists f _).wp_bind (fun _ => rfl) fun journalExists hexists => ?_
  rw [(rollbackPathExists_iff.mp hexists).2, if_pos (show w.present .uninstallJournalRoot = true from hw.journal)]
  refine (reads_readUninstallSnapshot f).wp_bind (fun _ => rfl) fun s hs => ?_
  rw [hw.snapshot s (readUninstallSnapshot_eq_ok hs)]
  rfl

theorem rollbackUninstallPreflight_original (hw : Original s w) (hcurrent : s.current pkg = true)
    (hunmarked : s.stateAclSaved = false) :
    ((rollbackUninstallPreflight pkg f w).2.journals .uninstall).isSome = true ↔ ¬ Discards f := by
  have hjournal := present_of_file hw.snapshot
  by_cases hasked : f.Clear (rollbackCalls ++ [[.read .purgeStarted]])
  · have heq : rollbackUninstallPreflight pkg f w = World.removeTreeNoReparse f .uninstallJournalRoot w := by
      simp only [rollbackCalls, clear_append, clear_cons, clear_nil, and_true] at hasked
      unfold rollbackUninstallPreflight
      rw [(reads_rollbackPathExists f _).bind_eq (rollbackPathExists_iff.mpr ⟨hasked.1.1, rfl⟩), if_pos hjournal,
        (reads_readUninstallSnapshot f).bind_eq
          ((readUninstallSnapshot_iff hw.snapshot hcurrent hw.purge).mpr ⟨hasked.1.2, rfl⟩), hunmarked]
      exact (reads_purgeStarted f).bind_eq ((purgeStarted_eq_ok hw.purge).mpr ⟨hasked.2, rfl⟩) _
    have hremoved : Removed f w (World.removeTreeNoReparse f .uninstallJournalRoot w).2 :=
      removeJournal_outcome hjournal
    rw [heq, Discards, and_iff_right hasked]
    constructor
    · intro h htook
      rw [hremoved.gone htook] at h
      cases h
    · intro htook
      simp only [Took, not_forall, Decidable.not_not] at htook
      obtain ⟨failure, hfailure, hstage⟩ := htook
      exact (hremoved.kept failure hfailure hstage).1
  · have hsame : (rollbackUninstallPreflight pkg f w).2 = w := by
      show wp (rollbackUninstallPreflight pkg f) (fun _ w' => w' = w) w
      unfold rollbackUninstallPreflight
      refine (reads_rollbackPathExists f _).wp_bind (fun _ => rfl) fun journalExists hexists => ?_
      obtain ⟨hinspect, rfl⟩ := rollbackPathExists_iff.mp hexists
      rw [if_pos hjournal]
      refine (reads_readUninstallSnapshot f).wp_bind (fun _ => rfl) fun s' hs' => ?_
      obtain ⟨hsnapshot, rfl⟩ := (readUninstallSnapshot_iff hw.snapshot hcurrent hw.purge).mp hs'
      rw [hunmarked]
      refine (reads_purgeStarted f).wp_bind (fun _ => rfl) fun started hstarted => absurd ?_ hasked
      simp only [rollbackCalls, clear_append, clear_cons, clear_nil, and_true]
      exact ⟨⟨hinspect, hsnapshot⟩, ((purgeStarted_eq_ok hw.purge).mp hstarted).1⟩
    rw [hsame]
    exact ⟨fun _ h => hasked h.1, fun _ => hjournal⟩

end

/-! ## The whole rollback -/

/-- What happens after a preflight: the installer stops the service, the state is retired, the installer goes on as far
as it gets, and the two commands roll back. -/
def rollbackEvents (f₁ f₂ f₃ : Faults) (program : Option Tree) (left : Option Service) (w : World) : List Event := [
  .installer (w.trees .program) (w.service.map fun s => { s with state := .stopped }),
  .command .preserveState f₁,
  .installer program left,
  .command .rollbackUninstall f₂,
  .command .rollbackUninstallPreflight f₃]

/-- The state and the service are as they were, or the journal is there. -/
def RolledBack (w w' : World) : Prop :=
  (w'.trees .state = w.trees .state ∧ w'.service = w.service) ∨ (w'.journals .uninstall).isSome = true

def World.isRunning (w : World) : Bool := w.service.any fun s => s.state = .running

section

variable {pkg : Package} {f : Faults} {w w₀ : World} {running : Bool}

theorem Accepted.isRunning (h : Accepted pkg w running w₀) : w.isRunning = running := by
  rw [World.isRunning, h.service]
  cases running <;> rfl

/-- After the preflight and the stop of the service, the journal has the snapshot and nothing else. -/
theorem Accepted.recorded (h : Accepted pkg w running w₀) (program : Option Tree) (service : Service) :
    Recorded pkg (uninstallSnapshot pkg running) ((Event.installer program (some service)).step pkg w₀) := by
  obtain ⟨-, hmarker, rfl⟩ := h
  have hfolder : (w.create .uninstallJournalRoot).journals .uninstall = some fun _ => none := by
    rw [World.create, World.journals_setJournal, if_pos rfl]
  have hfile : ∀ file, ((w.create .uninstallJournalRoot).setFile .uninstall .snapshot
      (some (.uninstall (uninstallSnapshot pkg running)))).file .uninstall file =
        if file = .snapshot then some (.uninstall (uninstallSnapshot pkg running)) else none := fun file => by
    rw [World.file_setFile, World.file, hfolder]
    simp
  refine ⟨fun tree htree => hmarker tree ?_, hfile .snapshot, ?_, rfl, fun file hne => ?_, rfl⟩
  · exact ((World.trees_setTree .program .state program).trans (if_neg (by decide))).symm.trans htree
  · simp [UninstallSnapshot.current, uninstallSnapshot]
  · exact (hfile file).trans (if_neg hne)

/-- The state is where it was, and the journal is gone: nothing restores the service. -/
theorem rollback_absent {f₂ f₃ : Faults} (habsent : w.journals .uninstall = none) :
    Faults.run (Event.step pkg) [.command .rollbackUninstall f₂, .command .rollbackUninstallPreflight f₃] w = w := by
  show (rollbackUninstallPreflight pkg f₃ (rollbackUninstall pkg f₂ w).2).2 = w
  rw [rollbackUninstall_absent habsent, rollbackUninstallPreflight_absent habsent]

theorem rollback_original {f₂ f₃ : Faults} {s : UninstallSnapshot} (hw : Original s w) (hcurrent : s.current pkg = true)
    (hunmarked : s.stateAclSaved = false) (hstopped : ∀ service ∈ w.service, service.state = .stopped) :
    let w' := Faults.run (Event.step pkg) [.command .rollbackUninstall f₂, .command .rollbackUninstallPreflight f₃] w
    (w'.trees .state = w.trees .state ∧ w'.service = some (acceptedService s.serviceWasRunning)) ∨
        (w'.journals .uninstall).isSome = true ↔
      Restores f₂ s.serviceWasRunning (w.trees .program) w.service ∨ ¬ Discards f₃ := by
  obtain ⟨htree, hservice, horiginal⟩ := rollbackUninstall_original (f := f₂) hw hcurrent hunmarked hstopped
  show ((rollbackUninstallPreflight pkg f₃ (rollbackUninstall pkg f₂ w).2).2.trees .state = _ ∧
    (rollbackUninstallPreflight pkg f₃ (rollbackUninstall pkg f₂ w).2).2.service = _) ∨
    ((rollbackUninstallPreflight pkg f₃ (rollbackUninstall pkg f₂ w).2).2.journals .uninstall).isSome = true ↔ _
  generalize (rollbackUninstall pkg f₂ w).2 = w₁ at htree hservice horiginal ⊢
  obtain ⟨htrees, hservices⟩ := @keeps_rollbackUninstallPreflight_same pkg f₃ w₁ w₁ ⟨rfl, rfl⟩
  rw [htrees, hservices, hservice, and_iff_right htree]
  by_cases hrestores : Restores f₂ s.serviceWasRunning (w.trees .program) w.service
  · exact ⟨fun _ => Or.inl hrestores, fun _ => Or.inl hrestores⟩
  · rw [rollbackUninstallPreflight_original (horiginal hrestores) hcurrent hunmarked]

theorem rollback_evidence {f₂ f₃ : Faults} {s : UninstallSnapshot} {tree : Tree} (hw : Evidence s tree w)
    (hstopped : ∀ service ∈ w.service, service.state = .stopped) :
    let w' := Faults.run (Event.step pkg) [.command .rollbackUninstall f₂, .command .rollbackUninstallPreflight f₃] w
    (w'.trees .state = some tree ∧ w'.service = some (acceptedService s.serviceWasRunning)) ∨
      (w'.journals .uninstall).isSome = true := by
  have houtcome := @rollbackUninstall_evidence pkg f₂ _ _ _ hw hstopped
  rw [wp] at houtcome
  show ((rollbackUninstallPreflight pkg f₃ (rollbackUninstall pkg f₂ w).2).2.trees .state = _ ∧
    (rollbackUninstallPreflight pkg f₃ (rollbackUninstall pkg f₂ w).2).2.service = _) ∨
    ((rollbackUninstallPreflight pkg f₃ (rollbackUninstall pkg f₂ w).2).2.journals .uninstall).isSome = true
  generalize (rollbackUninstall pkg f₂ w).2 = w₁ at houtcome ⊢
  obtain ⟨htrees, hservices⟩ := @keeps_rollbackUninstallPreflight_same pkg f₃ w₁ w₁ ⟨rfl, rfl⟩
  rcases houtcome with ⟨hstate, hservice⟩ | hguarded
  · rw [htrees, hservices]
    exact Or.inl ⟨hstate, hservice⟩
  · rw [rollbackUninstallPreflight_guarded hguarded]
    exact Or.inr hguarded.journal

theorem TakesBack.not_unmarked {state : Option Tree} (h : TakesBack f state) : ¬ Unmarked f state := by
  obtain ⟨henters, -, hinner, htook⟩ := h
  rintro (hnot | ⟨-, hnot | ⟨failure, hfailure, hstage, -⟩⟩)
  · exact hnot henters
  · exact hnot hinner
  · exact htook failure hfailure hstage

theorem trees_installer (program : Option Tree) (left : Option Service) :
    ((Event.installer program left).step pkg w).trees .state = w.trees .state :=
  (World.trees_setTree .program .state program).trans (if_neg (by decide))

/-- The rollback, from the stop of the service on. -/
theorem recorded_rolls_back_iff {f₁ f₂ f₃ : Faults} {s : UninstallSnapshot} {program : Option Tree}
    {left : Option Service} (hw : Recorded pkg s w) (hleft : ∀ service ∈ left, service.state = .stopped) :
    let w' := Faults.run (Event.step pkg)
        [.command .preserveState f₁, .installer program left, .command .rollbackUninstall f₂,
      .command .rollbackUninstallPreflight f₃] w
    (w'.trees .state = w.trees .state ∧ w'.service = some (acceptedService s.serviceWasRunning)) ∨
        (w'.journals .uninstall).isSome = true ↔
      ¬ (TakesBack f₁ (w.trees .state) ∧ left ≠ some (acceptedService s.serviceWasRunning)) ∧
      ¬ (Unmarked f₁ (w.trees .state) ∧ ¬ Restores f₂ s.serviceWasRunning program left ∧ Discards f₃) := by
  intro w'
  have hpreserved := preserveState_outcome (f := f₁) hw
  have hrun : w' = Faults.run (Event.step pkg) [.command .rollbackUninstall f₂, .command .rollbackUninstallPreflight f₃]
    ((Event.installer program left).step pkg (preserveState pkg f₁ w).2) := rfl
  generalize (preserveState pkg f₁ w).2 = w₂ at hpreserved hrun
  have htrees := @trees_installer pkg w₂ program left
  by_cases htakes : TakesBack f₁ (w.trees .state)
  · obtain ⟨hgone, hstate⟩ := hpreserved.takesBack htakes
    have hgone' : ((Event.installer program left).step pkg w₂).journals .uninstall = none := hgone
    rw [hrun, rollback_absent hgone', hgone', htrees, and_iff_right hstate]
    simp only [Option.isSome_none, Bool.false_eq_true, or_false, htakes, htakes.not_unmarked, true_and, false_and,
      not_false_eq_true, and_true, ne_eq, Decidable.not_not]
    rfl
  · by_cases hunmarked : Unmarked f₁ (w.trees .state)
    · obtain ⟨horiginal, hstate⟩ := hpreserved.unmarked hunmarked
      have horiginal' : Original s ((Event.installer program left).step pkg w₂) := ⟨horiginal.1, horiginal.2⟩
      have houtcome := @rollback_original pkg _ f₂ f₃ _ horiginal' hw.current hw.unmarked hleft
      have hprogram : ((Event.installer program left).step pkg w₂).trees .program = program :=
        (@World.trees_setTree w₂ .program .program program).trans (if_pos rfl)
      rw [hprogram, htrees, hstate] at houtcome
      rw [hrun]
      refine houtcome.trans ?_
      simp only [htakes, hunmarked, true_and, false_and, not_false_eq_true, not_and_or, Classical.not_not]
      rfl
    · obtain ⟨tree, hstate, hevidence⟩ := hpreserved.evidence htakes hunmarked
      have hevidence' : Evidence s tree ((Event.installer program left).step pkg w₂) :=
        ⟨hevidence.journal, hevidence.snapshot, by rw [htrees]; exact hevidence.files, hevidence.acl⟩
      rw [hrun, hstate]
      have houtcome := @rollback_evidence pkg _ f₂ f₃ _ _ hevidence' hleft
      exact ⟨fun _ => ⟨fun h => htakes (hstate ▸ h.1), fun h => hunmarked (hstate ▸ h.1)⟩, fun _ => houtcome⟩

end

/-- After a preflight that accepted the machine, and a stop of the service, a failed uninstallation is rolled back or
keeps its journal exactly if neither of two things happens: `preserve_state` takes back what it did and removes the
journal, and the service is not as it was; or the journal says that nothing is saved, the service is not restored from
it, and it is removed nevertheless. -/
theorem uninstall_rolls_back_iff (pkg : Package) (f₀ f₁ f₂ f₃ : Faults) (w : World) (program : Option Tree)
    (left : Option Service) (hpreflight : (preflightUninstall pkg f₀ w).1 = .ok ())
    (hleft : ∀ s ∈ left, s.state = .stopped) :
    RolledBack w (Faults.run (Event.step pkg) (rollbackEvents f₁ f₂ f₃ program left (preflightUninstall pkg f₀ w).2)
        (preflightUninstall pkg f₀ w).2) ↔
      ¬ (TakesBack f₁ (w.trees .state) ∧ left ≠ w.service) ∧
      ¬ (Unmarked f₁ (w.trees .state) ∧ ¬ Restores f₂ w.isRunning program left ∧ Discards f₃) := by
  obtain ⟨running, haccepted⟩ := @preflightUninstall_accepts pkg f₀ w hpreflight
  generalize (preflightUninstall pkg f₀ w).2 = w₀ at haccepted ⊢
  have hservice₀ : w₀.service = some (acceptedService running) := by
    rw [haccepted.world]
    exact haccepted.service
  have hstate₀ : w₀.trees .state = w.trees .state := by
    rw [haccepted.world]
    rfl
  have hevents : rollbackEvents f₁ f₂ f₃ program left w₀ =
      .installer (w₀.trees .program) (some ⟨sidTypeUnrestricted, true, .stopped⟩) ::
        [.command .preserveState f₁, .installer program left, .command .rollbackUninstall f₂,
          .command .rollbackUninstallPreflight f₃] := by
    rw [rollbackEvents, hservice₀]
    rfl
  have hrecorded := haccepted.recorded (w₀.trees .program) ⟨sidTypeUnrestricted, true, .stopped⟩
  have houtcome := @recorded_rolls_back_iff pkg _ f₁ f₂ f₃ _ program _ hrecorded hleft
  rw [trees_installer, hstate₀] at houtcome
  rw [RolledBack, hevents, haccepted.isRunning, haccepted.service]
  exact houtcome

/-- With a machine that nothing fails on, all is as it was. -/
theorem uninstall_rolls_back_sample :
    RolledBack sampleWorld (Faults.run (Event.step samplePackage) (rollbackEvents .nothing .nothing .nothing
      (sampleWorld.trees .program) (some ⟨sidTypeUnrestricted, true, .stopped⟩)
      (preflightUninstall samplePackage .nothing sampleWorld).2)
        (preflightUninstall samplePackage .nothing sampleWorld).2) := by
  have hpreflight : (preflightUninstall samplePackage .nothing sampleWorld).1.isOk = true := by decide +kernel
  obtain ⟨u, hu⟩ := ok_of_isOk hpreflight
  have hclear : ∀ calls, (nothing : Faults).Clear calls := fun calls call _ => rfl
  refine (uninstall_rolls_back_iff samplePackage .nothing .nothing .nothing .nothing sampleWorld _ _ hu ?_).mpr ⟨?_, ?_⟩
  · rintro s ⟨⟩
    rfl
  · exact fun h => h.1.2.1 sampleState rfl (hclear _)
  · rintro ⟨hnot | ⟨hnot, -⟩, -⟩
    · exact hnot ⟨sampleState, rfl, hclear _⟩
    · exact hnot ⟨hclear _, fun failure h => by cases h⟩

/-- The descriptors of the state cannot be read, once. -/
def sampleFaults : Faults := fun calls =>
  if calls = [.saveAcl .state, .readDescriptors .state] then some ⟨0, fun _ => false, fun _ => false⟩ else none

theorem uninstall_loses_service :
    ¬ ∀ (pkg : Package) (f₀ f₁ f₂ f₃ : Faults) (w : World) (program : Option Tree) (left : Option Service),
      (preflightUninstall pkg f₀ w).1 = .ok () → (∀ s ∈ left, s.state = .stopped) →
      RolledBack w (Faults.run (Event.step pkg) (rollbackEvents f₁ f₂ f₃ program left (preflightUninstall pkg f₀ w).2)
        (preflightUninstall pkg f₀ w).2) := by
  intro h
  have hpreflight : (preflightUninstall samplePackage .nothing sampleWorld).1.isOk = true := by decide +kernel
  obtain ⟨u, hu⟩ := ok_of_isOk hpreflight
  rcases h samplePackage .nothing sampleFaults .nothing .nothing sampleWorld (sampleWorld.trees .program)
    (some ⟨sidTypeUnrestricted, true, .stopped⟩) hu (by rintro s ⟨⟩; rfl) with ⟨-, hservice⟩ | hjournal
  · have hne : (Faults.run (Event.step samplePackage) (rollbackEvents sampleFaults .nothing .nothing
        (sampleWorld.trees .program) (some ⟨sidTypeUnrestricted, true, .stopped⟩)
        (preflightUninstall samplePackage .nothing sampleWorld).2)
        (preflightUninstall samplePackage .nothing sampleWorld).2).service ≠ sampleWorld.service := by decide +kernel
    exact hne hservice
  · have hnone : ((Faults.run (Event.step samplePackage) (rollbackEvents sampleFaults .nothing .nothing
        (sampleWorld.trees .program) (some ⟨sidTypeUnrestricted, true, .stopped⟩)
        (preflightUninstall samplePackage .nothing sampleWorld).2)
        (preflightUninstall samplePackage .nothing sampleWorld).2).journals .uninstall).isSome = false := by
      decide +kernel
    cases hnone.symm.trans hjournal

end Maintenance

end Xsoc
