import Saga.Error
import Saga.Time.Span
import Saga.Text.Basic
import Saga.Text.Debug

/-!
# Retry policies

A `Policy` decides whether a failed step attempt is tried again and how long to wait first.

* An attempt (counted from zero) is retried only while `attempt + 1 < maxAttempts`, never
  after a cancellation, a guard's refusal or a failed compensation, and, when an allow-list
  is given, only if some entry occurs in the error's message or names its kind.
* The wait before attempt `a + 1` grows linearly: `initialDelay · (a + 1) · multiplier`,
  computed in binary64 floats on nanoseconds, rounded half away from zero; a result that is
  not a positive number is no wait, and one at or past `2^64` nanoseconds is the longest
  span.
-/

namespace Saga.Retry

/-- A retry policy. -/
structure Policy where
  /-- Attempts in all, the first included. -/
  maxAttempts : Nat
  /-- The wait before the second attempt, before scaling. -/
  initialDelay : Span
  /-- The factor every wait is scaled by. -/
  multiplier : Float
  /-- Fragments of messages or kind names that may be retried; `none` allows every error. -/
  retryable : Option (List String) := none
  deriving Inhabited, BEq

namespace Policy

/-- Three attempts, 100 ms apart, doubled. -/
def standard : Policy := ⟨3, Span.ofMillis 100, 2.0, none⟩

/-- One attempt. -/
def noRetry : Policy := ⟨1, Span.zero, 1.0, none⟩

/-- The largest 32-bit unsigned integer, where attempt counts stop. -/
def u32Max : Nat := Nat.pow 2 32 - 1

/-- Whether the error may be retried at all under the allow-list. -/
def isRetryable (p : Policy) (e : Error) : Bool :=
  match p.retryable with
  | none => true
  | some allowed => allowed.any fun f => Text.contains e.message f || e.kind.name == f

/-- Whether attempt `attempt` (from zero) that failed with `e` is tried again. -/
def shouldRetry (p : Policy) (e : Error) (attempt : Nat) : Bool :=
  if Nat.min (attempt + 1) u32Max ≥ p.maxAttempts then false
  else if e.kind == .cancelled || e.kind == .guardRejected || e.kind == .compensation then false
  else p.isRetryable e

/-- The float nearest to a natural number. -/
def natFloat (n : Nat) : Float := Float.ofScientific n false 0

/-- The wait after attempt `attempt` failed. -/
def delay (p : Policy) (attempt : Nat) : Span :=
  let nanos := natFloat p.initialDelay.toNanos * (natFloat attempt + 1.0) * p.multiplier
  if nanos.isNaN || nanos ≤ 0.0 then Span.zero
  else if nanos ≥ natFloat (Nat.pow 2 64 - 1) then Span.max
  else Span.ofNanos nanos.round.toUInt64.toNat

/-- The sum of all waits a run of the policy can make, stopping at the longest span. -/
def maxTotalDelay (p : Policy) : Span :=
  (List.range (p.maxAttempts - 1)).foldl (fun acc a => acc.saturatingAdd (p.delay a)) Span.zero

/-- The serialized form `{"max_attempts", "initial_delay", "backoff_multiplier",
"retryable_errors"}`, keys sorted. -/
def toJson (p : Policy) : Json :=
  .obj [("backoff_multiplier", .ofFloat p.multiplier), ("initial_delay", p.initialDelay.toJson),
    ("max_attempts", .ofNat p.maxAttempts),
    ("retryable_errors", match p.retryable with
      | some l => .arr (l.map .str)
      | none => .null)]

/-- Builds a policy from the field values of its record, in declaration order. -/
def ofFields : List Json → Except String Json
  | [m, d, b, r] => .ok (.obj [("max_attempts", m), ("initial_delay", d),
      ("backoff_multiplier", b), ("retryable_errors", r)])
  | _ => .error "invalid policy"

/-- The shape of a serialized policy; the allow-list may be left out. -/
def shape : Json.Shape :=
  .record "RetryPolicy"
    [("max_attempts", .unsigned "u32" u32Max, .required),
     ("initial_delay", Span.shape, .required),
     ("backoff_multiplier", .float, .required),
     ("retryable_errors", .option (.seq .string), .default .null)]
    false "struct RetryPolicy with 4 elements" ofFields

/-- The policy of a value read by `shape`. -/
def ofJson (j : Json) : Policy :=
  { maxAttempts := match j.get? "max_attempts" with
      | some (.num (.nat n)) => n
      | _ => 0
    initialDelay := ((j.get? "initial_delay").map Span.ofJson).getD Span.zero
    multiplier := match j.get? "backoff_multiplier" with
      | some (.num (.float f)) => f
      | _ => 0.0
    retryable := match j.get? "retryable_errors" with
      | some (.arr xs) => some (xs.filterMap fun x => match x with
          | .str s => some s
          | _ => none)
      | _ => none }

/-- Reads a serialized policy. -/
def read (j : Json) : Except Json.ReadError Policy :=
  ofJson <$> shape.readValue j

/-- A float's debug text: shortest digits, positional from `1e-4` to below `1e16`. -/
def floatDebug (f : Float) : String :=
  if f.isNaN then "NaN"
  else if f.isInf then (if f > 0 then "inf" else "-inf")
  else Saga.Decimal.Layout.debug.render f

/-- The debug text `RetryPolicy { max_attempts: .., initial_delay: .., .. }`. -/
def debugText (p : Policy) : String :=
  Debug.record "RetryPolicy"
    [("max_attempts", toString p.maxAttempts), ("initial_delay", p.initialDelay.debugText),
     ("backoff_multiplier", floatDebug p.multiplier),
     ("retryable_errors", Debug.option (p.retryable.map fun l => Debug.list (l.map Debug.quote)))]

end Policy

end Saga.Retry
