import Saga.Engine.Act

/-!
# Running steps

What each kind of step does when it executes, compensates, or is asked whether it may run.
All of them act on the context of one instance (`i`), which parallel children share with
their parent, and execution watches a cancellation token.

* A scripted action counts and logs its call, plays the outcome its script gives for that
  call, and on success applies its context changes.
* A guard is evaluated as one logged call; a step without guard may always run.
* A conditional step records whether it was skipped and undoes nothing when it was.
* A parallel step starts one detached task per child on a fresh token below its own, and
  collects their results in child order; a child that ended without reporting halted.
  Children retry under their own policy only, and stop at the token's cancellation. When
  any child failed, the succeeded children are undone from the last; the names of children
  whose effects remain are kept in the context.
* A two-phase step draws a transaction id, asks every participant to prepare (none once the
  token is cancelled) and then to commit; a refusal aborts the prepared participants, last
  first.
* A command step builds its command from context values and sends it, giving up when the
  token is cancelled first; compensation sends the undo command when there is one.
* A recording step logs `execute:<name>` and `compensate:<name>`, fails its first attempts,
  and marks the context with its name.
-/

namespace Saga

namespace Engine

open Act

/-- Applies an action's context changes: values set, then keys removed. -/
def applyEffects (i : Nat) (fx : Effects) : Act Unit := do
  for (k, v) in fx.set do setValue i k v
  for k in fx.remove do removeValue i k

/-- Plays the next call of a script, labelled `call` and `name` in the log. -/
def play (i : Nat) (call name : String) (s : Script) (fx : Effects) : Act (Outcome Unit) := do
  let n ← noteCall s.counter call name
  let settle : Option (Kind × Option String) → Act (Outcome Unit)
    | none => do applyEffects i fx; pure (.ok ())
    | some (k, m) => pure (.error (Error.new (m.getD (Script.failureText call name n)) k))
  match s.play n with
  | .succeed => settle none
  | .fail => settle (some (.stepExecution, none))
  | .halt => Proc.halt (call ++ " " ++ name ++ " #" ++ toString n ++ " panicked")
  | .after d failure => do
    if d > 0 then sleepFor (Span.ofMillis d)
    settle failure

/-- Evaluates a guard as a logged call. -/
def allows (i : Nat) (label name : String) : Option Guard → Act Bool
  | none => pure true
  | some g => do
    let _ ← noteCall g.counter label name
    let ctx ← context i
    pure (g.condition.holds ctx)

/-- The error of a child stopped by cancellation. -/
def childCancelled (name : String) : Error := Error.cancelled ("step '" ++ name ++ "' cancelled")

/-- The error of an attempt that ran out of time. -/
def timedOut (name : String) (limit : Span) : Error :=
  Error.timeout ("step '" ++ name ++ "' timed out after " ++ limit.debugText)

/-- One attempt of a parallel child, within its limit and until the token is cancelled. -/
def attemptChild (name : String) (limit : Option Span) (tok : Nat) (exec : Act (Outcome Unit)) :
    Act (Outcome Unit) := do
  let run : Act (Outcome Unit) := match limit with
    | some l => do
      match ← within l exec with
      | some r => pure r
      | none => pure (.error (timedOut name l))
    | none => exec
  match ← unlessCancelled tok run with
  | some r => pure r
  | none => pure (.error (childCancelled name))

/-- Attempts of a parallel child from attempt `attempt` on, under `policy`. -/
def retryChild (name : String) (limit : Option Span) (policy : Retry.Policy) (tok : Nat)
    (exec : Act (Outcome Unit)) : Nat → Nat → Act (Outcome Unit)
  | 0, _ => pure (.error (Error.new "retry budget exhausted" .unknown))
  | fuel + 1, attempt => do
    match ← attemptChild name limit tok exec with
    | .ok () => pure (.ok ())
    | .error e =>
      if (← isCancelled tok) || !policy.shouldRetry e attempt then pure (.error e)
      else match ← unlessCancelled tok (sleepFor (policy.delay attempt)) with
        | none => pure (.error (childCancelled name))
        | some () => retryChild name limit policy tok exec fuel (attempt + 1)

/-- Takes the children's results until every child reported or ended. -/
def gather (box : Nat) : Nat → List (Nat × Outcome Unit) → Act (List (Nat × Outcome Unit))
  | 0, acc => pure acc
  | fuel + 1, acc => do
    Proc.await (·.inboxReady box)
    match ← Proc.update (·.receive box) with
    | some r => gather box fuel (acc ++ [r])
    | none => pure acc

/-- The outcome of a parallel step once its children's results are in: the children's
outcomes in order, by name, with none for a child that never reported. -/
structure Fanout where
  succeeded : List String
  failures : List String
  cancelled : Bool

/-- Sorts the children's outcomes. -/
def Fanout.ofOutcomes : List (String × Option (Outcome Unit)) → Fanout
  | [] => ⟨[], [], false⟩
  | (n, o) :: rest =>
    let f := Fanout.ofOutcomes rest
    match o with
    | some (.ok ()) => { f with succeeded := n :: f.succeeded }
    | some (.error e) =>
      { f with failures := (n ++ ": " ++ e.message) :: f.failures,
               cancelled := e.kind == .cancelled || f.cancelled }
    | none => { f with failures := (n ++ ": task panicked") :: f.failures }

/-- The fixture participant's call log entry. -/
def participantCall (phase name : String) : Act Unit :=
  Proc.modify fun w => { w with participantCalls := w.participantCalls ++ [phase ++ ":" ++ name] }

/-- A participant prepares. -/
def prepare (i : Nat) : Voter → Act (Outcome Unit)
  | .scripted n p _ _ => play i "prepare" n p {}
  | .fixture n rejecting => do
    participantCall "prepare" n
    if rejecting then pure (.error (Error.stepExecution ("participant '" ++ n ++ "' voted no")))
    else pure (.ok ())

/-- A participant commits. -/
def commit (i : Nat) : Voter → Act (Outcome Unit)
  | .scripted n _ c _ => play i "commit" n c {}
  | .fixture n _ => do participantCall "commit" n; pure (.ok ())

/-- A participant aborts. -/
def abort (i : Nat) : Voter → Act (Outcome Unit)
  | .scripted n _ _ a => play i "abort" n a {}
  | .fixture n _ => do participantCall "abort" n; pure (.ok ())

/-- Aborts participants last first, trying all; answers the first failure. -/
def abortAll (i : Nat) : List Voter → Act (Outcome Unit)
  | [] => pure (.ok ())
  | p :: ps => do
    let later ← abortAll i ps
    let mine ← abort i p
    pure (match later with
      | .error e => .error e
      | .ok () => mine)

/-- Asks participants to prepare in order; a refusal aborts the ones before it. -/
def prepareAll (i tok : Nat) (tx : String) (all : List Voter) : Nat → List Voter → Act (Outcome Unit)
  | _, [] => pure (.ok ())
  | k, p :: ps => do
    let vote ← if ← isCancelled tok then
        pure (.error (Error.cancelled ("transaction " ++ tx ++ " cancelled before prepare")))
      else prepare i p
    match vote with
    | .error e =>
      let _ ← abortAll i (all.take k)
      pure (.error (e.wrap ("participant '" ++ p.name ++ "' failed to prepare transaction " ++ tx)))
    | .ok () => prepareAll i tok tx all (k + 1) ps

/-- Asks participants to commit in order, stopping at the first failure. -/
def commitAll (i : Nat) (tx : String) : List Voter → Act (Outcome Unit)
  | [] => pure (.ok ())
  | p :: ps => do
    match ← commit i p with
    | .error e => pure (.error (e.wrap ("participant '" ++ p.name ++ "' failed to commit transaction " ++ tx)))
    | .ok () => commitAll i tx ps

/-- The payload values of a command: each key's context value, or null. -/
def payloadOf (ctx : SagaContext) (keys : List String) : Json :=
  Json.mkObj (keys.map fun k => (k, ((ctx.get k).map Context.Value.toJson).getD .null))

/-- Sends an envelope to the command bus, which records it and then fails it when its type
is set to fail. -/
def send (env : Envelope) : Act (Except CommandFault Unit) :=
  Proc.update fun w =>
    let w := { w with sent := w.sent ++ [env] }
    match w.commandFailures.lookup env.commandType with
    | some m => (.error (.execution m), w)
    | none => (.ok (), w)

/-- Builds a command and sends it; with a token, a cancellation first stops the send. -/
def dispatch (i : Nat) (step : String) (build : SagaContext → Except CommandFault (String × Json))
    (tok : Option Nat) : Act (Outcome Unit) := do
  let ctx ← context i
  match build ctx with
  | .error f => pure (.error ((Error.ofCommand f).withContext "step" step))
  | .ok (ty, payload) =>
    let now ← wall
    let env : Envelope := ⟨ty, payload, ctx.correlationId, now⟩
    let r ← match tok with
      | some t => do
        match ← unlessCancelled t (send env) with
        | some r => pure r
        | none => pure (.error .cancelled)
      | none => send env
    pure (match r with
      | .ok () => .ok ()
      | .error f => .error (((Error.ofCommand f).withContext "step" step).withContext "command" ty))

/-- The command a command step sends. -/
def commandOf (spec : CommandSpec) (ctx : SagaContext) : Except CommandFault (String × Json) :=
  match spec.mode with
  | .envelope => .ok (spec.commandType, payloadOf ctx spec.payloadKeys)
  | .typed => .ok ("saga.typed", Json.mkObj [("keys", payloadOf ctx spec.payloadKeys)])
  | .rejected => .error (.serialization "payload rejected")

/-- The undo command of a command step. -/
def undoOf (step : String) (spec : CommandSpec) (ctx : SagaContext) : Except CommandFault (String × Json) :=
  .ok ("saga.undo", Json.mkObj [("step", .str step), ("keys", payloadOf ctx spec.payloadKeys)])

/-- The recording step log entry. -/
def record (action name : String) : Act Unit :=
  Proc.modify fun w => { w with recording := w.recording ++ [action ++ ":" ++ name] }

/-- A recording step's execution. -/
def recorderExecute (i tok : Nat) (r : Recorder) : Act (Outcome Unit) := do
  let n ← Proc.update (·.countCall r.counter)
  record "execute" r.name
  let stopped ← match r.delay with
    | some d => do
      match ← unlessCancelled tok (sleepFor d) with
      | some () => pure false
      | none => pure true
    | none => pure false
  if stopped then return .error (childCancelled r.name)
  if n - 1 < r.failures then
    return .error (Error.stepExecution ("step '" ++ r.name ++ "' failed on attempt " ++ toString n))
  setValue i r.name (.bool true)
  return .ok ()

/-- A recording step's compensation. -/
def recorderCompensate (i : Nat) (r : Recorder) : Act (Outcome Unit) := do
  record "compensate" r.name
  if r.failCompensation then
    return .error (Error.compensation ("compensation of '" ++ r.name ++ "' failed"))
  setValue i r.name (.bool false)
  return .ok ()

/-- The guard of a step's own settings. -/
def guardOf : Step → Option Guard
  | .scripted c .. | .parallel c _ | .twoPhase c _ | .command c _ => c.guard
  | _ => none

mutual

/-- Whether a step may run on instance `i`'s context. -/
def canExecute (i : Nat) : Step → Act Bool
  | .conditional _ _ inner => canExecute i inner
  | .scripted c .. => allows i "guard" c.name c.guard
  | .parallel c _ => allows i "guard" c.name c.guard
  | .twoPhase c _ => allows i "guard" c.name c.guard
  | .command c _ => allows i "guard" c.name c.guard
  | .recording _ => pure true
  | .bare .. => pure true

/-- Executes a step on instance `i` under token `tok`. -/
def execute (i tok : Nat) : Step → Act (Outcome Unit)
  | .scripted c exec _ fx _ => play i "exec" c.name exec fx
  | .bare n exec => play i "exec" n exec {}
  | .recording r => recorderExecute i tok r
  | .conditional c g inner => do
    if ← allows i "cond" c.name (some g) then
      setValue i (Step.skippedKey c.name) (.bool false)
      execute i tok inner
    else
      setValue i (Step.skippedKey c.name) (.bool true)
      pure (.ok ())
  | .twoPhase c ps => do
    let tx ← freshId
    setValue i (Step.transactionKey c.name) (.string tx)
    let r ← match ← prepareAll i tok tx ps 0 ps with
      | .error e => pure (.error e)
      | .ok () => commitAll i tx ps
    pure (r.mapError fun e => (e.withContext "step" c.name).withContext "transaction_id" tx)
  | .command c spec => dispatch i c.name (commandOf spec) (some tok)
  | .parallel c children => do
    let box ← Proc.update (·.openInbox children.length)
    let childTok ← childToken tok
    spawnChildren i childTok box 0 children
    let results ← gather box (children.length + 1) []
    cancel childTok
    let outcomes := (children.zipIdx).map fun (s, k) => (s.name, results.lookup k)
    let f := Fanout.ofOutcomes outcomes
    let key := Step.succeededKey c.name
    if f.failures.isEmpty then
      setValue i key (.stringList f.succeeded)
      return .ok ()
    let message := "parallel step '" ++ c.name ++ "' failed: " ++ "; ".intercalate f.failures
    match ← rollBack i children f.succeeded with
    | .error (remaining, e) =>
      setValue i key (.stringList remaining)
      return .error ((((Error.withSource (message ++ "; rollback failed: " ++ e.message) .compensation
        e.message).withContext "step" c.name).withContext "failed_children"
        (toString f.failures.length)).withContext "children_in_place" (toString remaining.length))
    | .ok _ =>
      setValue i key (.stringList [])
      return .error (((Error.new message (if f.cancelled then .cancelled else .stepExecution)).withContext
        "step" c.name).withContext "failed_children" (toString f.failures.length))

/-- Compensates a step on instance `i`. -/
def compensate (i : Nat) : Step → Act (Outcome Unit)
  | .scripted c _ comp _ fx => match comp with
    | some s => play i "comp" c.name s fx
    | none => pure (.ok ())
  | .bare .. => pure (.ok ())
  | .recording r => recorderCompensate i r
  | .conditional c _ inner => do
    let ctx ← context i
    if ((ctx.get (Step.skippedKey c.name)).bind Context.Value.asBool?).getD false then pure (.ok ())
    else compensate i inner
  | .twoPhase c ps => do
    let ctx ← context i
    match (ctx.get (Step.transactionKey c.name)).bind Context.Value.asString? with
    | none => pure (.ok ())
    | some _ => abortAll i ps
  | .command c spec =>
    if spec.undo then dispatch i c.name (undoOf c.name spec) none else pure (.ok ())
  | .parallel c children => do
    let ctx ← context i
    let succeeded := ((ctx.get (Step.succeededKey c.name)).bind Context.Value.asStringList?).getD []
    compensateChildren i c.name succeeded children

/-- Starts one detached task per child; each reports its result to inbox `box`. -/
def spawnChildren (i tok box : Nat) : Nat → List Step → Act Unit
  | _, [] => pure ()
  | k, s :: rest => do
    let run : Act (Outcome Unit) := do
      if ← canExecute i s then
        retryChild s.name s.timeout (s.retryPolicy.getD Retry.Policy.noRetry) tok (execute i tok s)
          ((s.retryPolicy.getD Retry.Policy.noRetry).maxAttempts + 1) 0
      else pure (.error (Error.guardRejected s.name))
    Proc.spawn (do let r ← run; Proc.modify (·.deliver box k r)) fun _ w => w.dropSender box
    spawnChildren i tok box (k + 1) rest

/-- Undoes the succeeded children, last first; a failure stops it with the children still in
place. -/
def rollBack (i : Nat) : List Step → List String → Act (Except (List String × Error) (List String))
  | [], remaining => pure (.ok remaining)
  | s :: rest, remaining => do
    match ← rollBack i rest remaining with
    | .error x => pure (.error x)
    | .ok remaining =>
      if !remaining.contains s.name then pure (.ok remaining)
      else match ← compensate i s with
        | .error e => pure (.error (remaining, e))
        | .ok () => pure (.ok (remaining.filter (· != s.name)))

/-- Compensates the listed children of parallel step `parent`, last first. -/
def compensateChildren (i : Nat) (parent : String) (succeeded : List String) :
    List Step → Act (Outcome Unit)
  | [] => pure (.ok ())
  | s :: rest => do
    match ← compensateChildren i parent succeeded rest with
    | .error e => pure (.error e)
    | .ok () =>
      if succeeded.contains s.name then
        match ← compensate i s with
        | .error e => pure (.error (e.wrap ("compensation of child '" ++ s.name ++
            "' in parallel step '" ++ parent ++ "' failed")))
        | .ok () => pure (.ok ())
      else pure (.ok ())

end

end Engine

end Saga
