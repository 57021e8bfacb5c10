import StationHub.Address
import StationHub.Failure

/-!
The settings of a hub: where it listens, what it expects of an upgrade, and how long it waits. All
times are in milliseconds. `check` finds the first flaw of settings that are out of range or
contradict each other.
-/

namespace StationHub

/-- How dead connections are found. -/
inductive KeepAlive where
  /-- Every connection is pinged on its own, and nobody is evicted. -/
  | passive
  /-- A sweep probes all registered connections and evicts those that keep failing. -/
  | active
  deriving DecidableEq, Repr

/-- The lower-case word for the mode. -/
def KeepAlive.name : KeepAlive → String
  | .passive => "passive"
  | .active => "active"

/-- The mode that `name` is the word for. -/
def KeepAlive.ofName? (name : String) : Option KeepAlive :=
  if name = "passive" then some .passive else if name = "active" then some .active else none

/-- The settings of a hub. -/
structure Settings where
  /-- Where web sockets are accepted. -/
  listen : Address := .v4 [0, 0, 0, 0] 8010
  /-- Where health is reported, if at all. -/
  health : Option Address := none
  /-- What the paths of devices start with. -/
  devicePrefix : String := "/OCPP16"
  /-- The sub-protocol of devices. -/
  deviceProtocol : String := "ocpp1.6"
  /-- What the paths of management clients start with. -/
  managementPrefix : String := "/REST"
  /-- The sub-protocol of management clients. -/
  managementProtocol : String := "rest"
  /-- How long an outgoing call waits for its answer. -/
  callTimeout : Nat := 10000
  /-- How many outgoing calls of a session may be pending. -/
  maxPending : Nat := 100
  keepAlive : KeepAlive := .passive
  /-- The time between pings, or between sweeps. -/
  pingInterval : Nat := 30000
  /-- How long a probe waits for a pong. -/
  probeTimeout : Nat := 5000
  /-- How many probes in a row must fail before a connection is evicted. -/
  failureThreshold : Nat := 3
  /-- After how much silence a connection is closed. -/
  idleTimeout : Nat := 300000
  /-- How many waits an attempt to hold a path is good for. -/
  lockRetries : Nat := 10
  /-- The length of one such wait. -/
  lockInterval : Nat := 500
  /-- How many attempts in a row must fail before an alarm is raised. -/
  alarmThreshold : Nat := 10
  /-- The greatest size of an incoming frame or message in bytes. -/
  maxFrame : Nat := 65536
  /-- How many outbound messages a connection queues. -/
  queueCapacity : Nat := 256
  /-- The number of free places in the queue below which senders should slow down. -/
  watermark : Nat := 32
  deriving DecidableEq, Repr

namespace Settings

/-- What is wrong with settings. -/
inductive Flaw where
  /-- A path prefix is not a slash followed by a name. -/
  | badPrefix (field value : String)
  /-- Both variants have the same prefix. -/
  | samePrefix
  /-- A sub-protocol is empty. -/
  | emptyProtocol
  /-- A time or size is zero. -/
  | zero (field : String)
  /-- A count is zero. -/
  | belowOne (field : String)
  /-- Pings are too rare to keep a connection from idling out. -/
  | rarePings (interval timeout : Nat)
  /-- The watermark is not below the capacity. -/
  | highWatermark (watermark capacity : Nat)
  deriving DecidableEq, Repr

/-- The words for a flaw. -/
def Flaw.message : Flaw → String
  | badPrefix field value => field ++ " must look like \"/NAME\", got " ++ Text.quoted value
  | samePrefix => "device_path_prefix and management_path_prefix must differ"
  | emptyProtocol => "sub-protocols must not be empty"
  | zero field => field ++ " must be greater than zero"
  | belowOne field => field ++ " must be at least 1"
  | rarePings interval timeout =>
      "ping_interval_ms (" ++ toString interval ++ ") must be below idle_timeout_ms (" ++
        toString timeout ++ ")"
  | highWatermark watermark capacity =>
      "backpressure_watermark (" ++ toString watermark ++
        ") must be below outbound_queue_capacity (" ++ toString capacity ++ ")"

/-- The failure that a flaw is reported as. -/
def Flaw.failure (flaw : Flaw) : Failure := .settings flaw.message

/-- A slash followed by a name that does not end in a slash. -/
def isPrefix (text : String) : Bool :=
  match text.toList with
  | '/' :: c :: rest => (c :: rest).getLast? != some '/'
  | _ => false

/-- The demands on settings in the order in which they are checked, each with the flaw of
settings that fail it. -/
def demands (s : Settings) : List (Bool × Flaw) := [
  (isPrefix s.devicePrefix, .badPrefix "device_path_prefix" s.devicePrefix),
  (isPrefix s.managementPrefix, .badPrefix "management_path_prefix" s.managementPrefix),
  (s.devicePrefix != s.managementPrefix, .samePrefix),
  (s.deviceProtocol != "" && s.managementProtocol != "", .emptyProtocol),
  (s.callTimeout != 0, .zero "call_timeout_ms"),
  (s.pingInterval != 0, .zero "ping_interval_ms"),
  (s.probeTimeout != 0, .zero "probe_timeout_ms"),
  (s.idleTimeout != 0, .zero "idle_timeout_ms"),
  (s.lockInterval != 0, .zero "lock_retry_interval_ms"),
  (s.failureThreshold != 0, .belowOne "ping_failure_threshold"),
  (s.alarmThreshold != 0, .belowOne "lock_alarm_threshold"),
  (s.maxPending != 0, .belowOne "max_pending_requests"),
  (s.maxFrame != 0, .zero "max_frame_size"),
  (decide (s.pingInterval < s.idleTimeout), .rarePings s.pingInterval s.idleTimeout),
  (decide (s.watermark < s.queueCapacity), .highWatermark s.watermark s.queueCapacity)]

/-- The first flaw of the settings. -/
def flaw? (s : Settings) : Option Flaw := (s.demands.find? fun demand => !demand.1).map (·.2)

/-- The settings have no flaw. -/
def Valid (s : Settings) : Prop := s.flaw? = none

instance (s : Settings) : Decidable s.Valid := inferInstanceAs (Decidable (s.flaw? = none))

/-- The settings, if they have no flaw. -/
def check (s : Settings) : Except Failure Settings :=
  match s.flaw? with
  | none => .ok s
  | some flaw => .error flaw.failure

/-- The prefix of the paths of a variant. -/
def prefixOf (s : Settings) : Variant → String
  | .device => s.devicePrefix
  | .management => s.managementPrefix

/-- The sub-protocol of a variant. -/
def protocolOf (s : Settings) : Variant → String
  | .device => s.deviceProtocol
  | .management => s.managementProtocol

/-- The longest time that a single wait for a path may take, whatever the settings. -/
def longestLockWait : Nat := 24 * 60 * 60 * 1000

/-- How long an attempt to hold a path waits in all. -/
def lockBudget (s : Settings) : Nat := min (s.lockInterval * s.lockRetries) longestLockWait

theorem valid_iff {s : Settings} : s.Valid ↔ ∀ demand ∈ s.demands, demand.1 = true := by
  simp [Valid, flaw?]

theorem valid_default : Valid ({} : Settings) := by decide +kernel

end Settings

end StationHub
