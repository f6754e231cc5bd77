import Saga.Retry
import Saga.Snapshot

/-!
# Engine and store configuration

`EngineConfig` holds the engine-wide defaults: snapshot frequency and checksum, a retry
policy and a step time limit for definitions that set none. `StoreConfig` holds the
connection settings of the relational store. Both can be read from `SAGA_*` settings, where
a value is trimmed of white space and must read as the setting's type (an unsigned decimal
with an optional `+`, or exactly `true` / `false`); a value that does not read leaves the
default. The store URL is taken as it is, untrimmed.
-/

namespace Saga

/-- Engine-wide defaults. -/
structure EngineConfig where
  snapshotFrequency : Nat := 10
  snapshotChecksum : Bool := true
  defaultRetryPolicy : Option Retry.Policy := none
  defaultStepTimeout : Option Span := none
  deriving Inhabited, BEq

namespace EngineConfig

/-- The snapshot configuration these defaults give. -/
def snapshotConfig (c : EngineConfig) : SnapshotConfig := ⟨c.snapshotFrequency, c.snapshotChecksum⟩

end EngineConfig

/-- Connection settings of the relational store. -/
structure StoreConfig where
  databaseUrl : String := "sqlite://saga.db"
  maxConnections : Nat := 5
  createIfMissing : Bool := true
  deriving Inhabited, BEq

namespace StoreConfig

/-- A private in-memory database over one connection. -/
def inMemory : StoreConfig := { databaseUrl := "sqlite::memory:", maxConnections := 1 }

end StoreConfig

namespace Settings

/-- An unsigned decimal with an optional leading `+`, at most `max`. -/
def readUnsigned (max : Nat) (s : String) : Option Nat :=
  let digits := match s.toList with
    | '+' :: rest => rest
    | cs => cs
  if digits.isEmpty || !digits.all Char.isDigit then none
  else
    let n := digits.foldl (fun acc c => acc * 10 + (c.toNat - 48)) 0
    if n ≤ max then some n else none

/-- Exactly `true` or `false`. -/
def readBool (s : String) : Option Bool :=
  if s = "true" then some true else if s = "false" then some false else none

/-- The trimmed value of a setting, read by `parse`. -/
def value? (env : List (String × String)) (key : String) (parse : String → Option α) : Option α :=
  (env.lookup key).bind fun v => parse (Text.trim v)

/-- The largest 64-bit unsigned integer. -/
def u64Max : Nat := Nat.pow 2 64 - 1

/-- Engine defaults from `SAGA_SNAPSHOT_FREQUENCY`, `SAGA_SNAPSHOT_CHECKSUM`,
`SAGA_DEFAULT_MAX_ATTEMPTS`, `SAGA_DEFAULT_RETRY_DELAY_MS` and
`SAGA_DEFAULT_STEP_TIMEOUT_MS`. A retry policy is set when either retry setting reads; the
other part and the multiplier come from the standard policy. -/
def engine (env : List (String × String)) : EngineConfig :=
  let attempts := value? env "SAGA_DEFAULT_MAX_ATTEMPTS" (readUnsigned Retry.Policy.u32Max)
  let delayMs := value? env "SAGA_DEFAULT_RETRY_DELAY_MS" (readUnsigned u64Max)
  let std := Retry.Policy.standard
  { snapshotFrequency := (value? env "SAGA_SNAPSHOT_FREQUENCY" (readUnsigned u64Max)).getD 10
    snapshotChecksum := (value? env "SAGA_SNAPSHOT_CHECKSUM" readBool).getD true
    defaultRetryPolicy :=
      if attempts.isSome || delayMs.isSome then
        some { std with
          maxAttempts := attempts.getD std.maxAttempts
          initialDelay := (delayMs.map Span.ofMillis).getD std.initialDelay }
      else none
    defaultStepTimeout :=
      (value? env "SAGA_DEFAULT_STEP_TIMEOUT_MS" (readUnsigned u64Max)).map Span.ofMillis }

/-- Store settings from `SAGA_SQLITE_URL` (untrimmed) and `SAGA_SQLITE_MAX_CONNECTIONS`. -/
def store (env : List (String × String)) : StoreConfig :=
  { databaseUrl := (env.lookup "SAGA_SQLITE_URL").getD "sqlite://saga.db"
    maxConnections := (value? env "SAGA_SQLITE_MAX_CONNECTIONS"
      (readUnsigned Retry.Policy.u32Max)).getD 5 }

end Settings

end Saga
