import AtomicSwaps.Maker.ActorProcess

namespace AtomicSwaps.Maker

open AtomicSwaps.Core Fallible Relational

section Attempt

/-- The payload-free failure classes the supervisor writes. -/
inductive FailureClass
  | actorLockUnavailable
  | actorLockInvalid
  | actorCancelled
  | actorEffectCutoff
  | actorSpawnFailed
  | actorOutputInvalid
  | actorIdentityUnavailable
  | actorOutputUnavailable
  | actorDeploymentInvalid
  | actorExitFailed
  | actorTimeout
  | actorWaitFailed

def FailureClass.text : FailureClass → String
  | .actorLockUnavailable => "actor_lock_unavailable"
  | .actorLockInvalid => "actor_lock_invalid"
  | .actorCancelled => "actor_cancelled"
  | .actorEffectCutoff => "actor_effect_cutoff"
  | .actorSpawnFailed => "actor_spawn_failed"
  | .actorOutputInvalid => "actor_output_invalid"
  | .actorIdentityUnavailable => "actor_identity_unavailable"
  | .actorOutputUnavailable => "actor_output_unavailable"
  | .actorDeploymentInvalid => "actor_deployment_invalid"
  | .actorExitFailed => "actor_exit_failed"
  | .actorTimeout => "actor_timeout"
  | .actorWaitFailed => "actor_wait_failed"

theorem FailureClass.text_valid (failureClass : FailureClass) : validLabel failureClass.text = true := by
  cases failureClass <;> decide

inductive ClaimedAttempt
  | requeue
  | blocked
  | backoff (failureClass : FailureClass)
  | terminal
  | manualActionCompleted
  | failed (failureClass : FailureClass)

structure MakerActorSupervisorConfig where
  (requeueDelaySeconds failureBackoffSeconds : Nat)

def xmrBlockedRecheckSeconds : Nat := 60

def saturatingAdd (left right : Nat) : Nat := min (left + right) (u64Limit - 1)

def ClaimedAttempt.durable (config : MakerActorSupervisorConfig) (now : Nat) :
    ClaimedAttempt → MakerActorAttemptResolution
  | .requeue => .requeue (saturatingAdd now config.requeueDelaySeconds)
  | .blocked => .requeue (saturatingAdd now (max config.requeueDelaySeconds xmrBlockedRecheckSeconds))
  | .backoff failureClass =>
    .backoff (saturatingAdd now config.failureBackoffSeconds) failureClass.text
  | .terminal => .terminal
  | .manualActionCompleted => .manualActionCompleted
  | .failed failureClass => .failed failureClass.text

end Attempt

section Children

inductive ActorEffectCommand
  | activate | drive | claim | recover

inductive StatusDecision
  | run (command : ActorEffectCommand)
  | observeThenRecover
  | blocked
  | terminal

structure ParsedStatus where
  decision : StatusDecision
  progress : MakerActorProgressObservationV1
  revision : Option Nat

structure ParsedEffect where
  terminal : Bool
  progress : MakerActorProgressObservationV1
  revision : Nat

inductive ChildRunError
  | retry (failureClass : FailureClass)
  | fail (failureClass : FailureClass)
  | scheduling (error : MakerActorProcessError)

/-- What one child does: it is not spawned or not identified, or it runs under its process identity
    until it is reaped. -/
inductive ChildRun (Output : Type)
  | unstarted (error : ChildRunError)
  | reaped (pid startTicks : Nat) (output : Except ChildRunError Output)

/-- The durable identity is written before the wait and cleared after the reap. -/
def runChild {Output : Type} (store : ActorStore) (lease : MakerActorLeaseV1) :
    ChildRun Output → ActorStore × Except ChildRunError Output
  | .unstarted error => (store, .error error)
  | .reaped pid startTicks output =>
    match recordMakerActorChild store lease pid startTicks with
    | .error error => (store, .error (.scheduling error))
    | .ok recorded =>
      match clearMakerActorChild recorded lease pid startTicks with
      | .error error => (recorded, .error (.scheduling error))
      | .ok cleared => (cleared, output)

def manualEffectCommand : MakerActorKindV1 → MakerActorManualAction → ActorEffectCommand
  | .bitcoin, .claim => .drive
  | .monero, .claim | .zcash, .claim => .claim
  | _, .refund => .recover

end Children

section Supervision

/-- Everything outside the store that an attempt meets, in the order it meets it. A child's output is
    what its parser makes of it. -/
structure AttemptWorld where
  lock : ActorResult ActorHeldLock
  (cancelled effectCutoff : Bool)
  status : ChildRun (Option ParsedStatus)
  effectCutoffBeforeEffect : Bool
  effect : ActorEffectCommand → ChildRun (Option ParsedEffect)

structure ClaimedAttemptResult where
  attempt : ClaimedAttempt
  progress : Option MakerActorProgressObservationV1

/-- The class of a child that did not answer; a scheduling error ends the supervision instead. -/
def ChildRunError.classify : ChildRunError → ActorResult ClaimedAttempt
  | .retry failureClass => .ok (.backoff failureClass)
  | .fail failureClass => .ok (.failed failureClass)
  | .scheduling error => .error error

def chooseCommand (record : MakerActorProcessRecordV1) (manualAction : Option MakerActorManualAction)
    (decision : StatusDecision) : Except ClaimedAttempt ActorEffectCommand :=
  match manualAction, decision with
  | none, .blocked => .error .blocked
  | some action, _ => .ok (manualEffectCommand record.manifest.kind action)
  | none, .terminal => .error .terminal
  | none, .run command => .ok command
  | none, .observeThenRecover => .ok (if record.attemptCount % 2 = 0 then .drive else .recover)

variable (store : ActorStore) (lease : MakerActorLeaseV1) (world : AttemptWorld)

/-- The attempt from its effect command on, after the status of the actor has been read. -/
def runEffect (manualAction : Option MakerActorManualAction) (status : ParsedStatus) :
    ActorStore × ActorResult ClaimedAttemptResult :=
  let observed := some status.progress
  match chooseCommand lease.record manualAction status.decision with
  | .error attempt => (store, .ok ⟨attempt, observed⟩)
  | .ok command =>
    if world.effectCutoffBeforeEffect then (store, .ok ⟨.backoff .actorEffectCutoff, observed⟩)
    else match runChild store lease (world.effect command) with
      | (store, .error error) => (store, error.classify.map (⟨·, observed⟩))
      | (store, .ok none) => (store, .ok ⟨.failed .actorOutputInvalid, observed⟩)
      | (store, .ok (some effect)) =>
        if status.revision.any (effect.revision < ·) then
          (store, .ok ⟨.failed .actorOutputInvalid, observed⟩)
        else
          let attempt := match effect.terminal, manualAction with
            | true, some _ => ClaimedAttempt.manualActionCompleted
            | true, none => .terminal
            | false, _ => .requeue
          (store, .ok ⟨attempt, some effect.progress⟩)

def runClaimedAttemptWithLock : ActorStore × ActorResult ClaimedAttemptResult :=
  if world.cancelled then (store, .ok ⟨.backoff .actorCancelled, none⟩)
  else if world.effectCutoff then (store, .ok ⟨.backoff .actorEffectCutoff, none⟩)
  else match claimMakerActorManualAction store lease with
    | .error error => (store, .error error)
    | .ok (claimed, store) =>
      match runChild store lease world.status with
      | (store, .error error) => (store, error.classify.map (⟨·, none⟩))
      | (store, .ok none) => (store, .ok ⟨.failed .actorOutputInvalid, none⟩)
      | (store, .ok (some status)) => runEffect store lease world (claimed.map (·.action)) status

def runClaimedAttempt : ActorStore × ActorResult ClaimedAttemptResult :=
  match world.lock with
  | .ok _ => runClaimedAttemptWithLock store lease world
  | .error .lockUnavailable => (store, .ok ⟨.backoff .actorLockUnavailable, none⟩)
  | .error _ => (store, .ok ⟨.failed .actorLockInvalid, none⟩)

def resolveClaimedAttempt (now : Nat)
    (config : MakerActorSupervisorConfig) (claimed : ClaimedAttemptResult) : ActorResult ActorStore :=
  match claimed.progress with
  | some progress =>
    resolveMakerActorAttemptWithProgress store lease (claimed.attempt.durable config now) progress now
  | none => resolveMakerActorAttempt store lease (claimed.attempt.durable config now) now

/-- A claimed attempt from its lease to its resolution. An error leaves the store as it stands then. -/
def superviseClaimed (now : Nat)
    (config : MakerActorSupervisorConfig) (world : AttemptWorld) : ActorStore × ActorResult ClaimedAttempt :=
  match runClaimedAttempt store lease world with
  | (store, .error error) => (store, .error error)
  | (store, .ok claimed) =>
    match resolveClaimedAttempt store lease now config claimed with
    | .error error => (store, .error error)
    | .ok resolved => (resolved, .ok claimed.attempt)

end Supervision

end AtomicSwaps.Maker
