import StationHub.Settings

/-!
The settings by the names of their fields, as files and programs give them. A field that is not
named keeps its default, a name that is not known is passed over, and a value of the wrong type or
out of the range of its field is refused.
-/

namespace StationHub.Settings

/-- What a field can be set to, whatever format it was written in. -/
inductive Entry where
  | text (value : String)
  | whole (value : Int)
  /-- A choice without further data, written out in full. -/
  | choice (name : String)
  /-- An explicit nothing. -/
  | nothing
  /-- A value that suits no field. -/
  | other
  deriving DecidableEq, Repr

namespace Entry

/-- A text. -/
def text? : Entry → Option String
  | text value => some value
  | _ => none

/-- A whole number from zero up to `bound`. -/
def natural? (bound : Nat) : Entry → Option Nat
  | whole (.ofNat n) => if n ≤ bound then some n else none
  | _ => none

/-- A number of 64 bits. -/
def word? : Entry → Option Nat := natural? (Nat.pow 2 64 - 1)

/-- A number of 32 bits. -/
def halfWord? : Entry → Option Nat := natural? (Nat.pow 2 32 - 1)

/-- A socket address. -/
def address? (entry : Entry) : Option Address := entry.text?.bind Address.ofText?

/-- A socket address or nothing. -/
def optionalAddress? : Entry → Option (Option Address)
  | nothing => some none
  | entry => entry.address?.map some

/-- A keep-alive mode. -/
def keepAlive? : Entry → Option KeepAlive
  | text name => KeepAlive.ofName? name
  | choice name => KeepAlive.ofName? name
  | _ => none

end Entry

/-- The names of the fields, in the order of the settings. -/
def fieldNames : List String :=
  ["listen_addr", "health_addr", "device_path_prefix", "device_subprotocol",
    "management_path_prefix", "management_subprotocol", "call_timeout_ms", "max_pending_requests",
    "keep_alive", "ping_interval_ms", "probe_timeout_ms", "ping_failure_threshold",
    "idle_timeout_ms", "lock_retry_count", "lock_retry_interval_ms", "lock_alarm_threshold",
    "max_frame_size", "outbound_queue_capacity", "backpressure_watermark"]

/-- The settings with the field `name` set to `entry`, if it suits the field. -/
def setField? (s : Settings) (name : String) (entry : Entry) : Option Settings :=
  match name with
  | "listen_addr" => entry.address?.map fun v => { s with listen := v }
  | "health_addr" => entry.optionalAddress?.map fun v => { s with health := v }
  | "device_path_prefix" => entry.text?.map fun v => { s with devicePrefix := v }
  | "device_subprotocol" => entry.text?.map fun v => { s with deviceProtocol := v }
  | "management_path_prefix" => entry.text?.map fun v => { s with managementPrefix := v }
  | "management_subprotocol" => entry.text?.map fun v => { s with managementProtocol := v }
  | "call_timeout_ms" => entry.word?.map fun v => { s with callTimeout := v }
  | "max_pending_requests" => entry.word?.map fun v => { s with maxPending := v }
  | "keep_alive" => entry.keepAlive?.map fun v => { s with keepAlive := v }
  | "ping_interval_ms" => entry.word?.map fun v => { s with pingInterval := v }
  | "probe_timeout_ms" => entry.word?.map fun v => { s with probeTimeout := v }
  | "ping_failure_threshold" => entry.halfWord?.map fun v => { s with failureThreshold := v }
  | "idle_timeout_ms" => entry.word?.map fun v => { s with idleTimeout := v }
  | "lock_retry_count" => entry.halfWord?.map fun v => { s with lockRetries := v }
  | "lock_retry_interval_ms" => entry.word?.map fun v => { s with lockInterval := v }
  | "lock_alarm_threshold" => entry.halfWord?.map fun v => { s with alarmThreshold := v }
  | "max_frame_size" => entry.word?.map fun v => { s with maxFrame := v }
  | "outbound_queue_capacity" => entry.word?.map fun v => { s with queueCapacity := v }
  | "backpressure_watermark" => entry.word?.map fun v => { s with watermark := v }
  | _ => some s

/-- The defaults with the given fields set. -/
def ofFields? (fields : List (String × Entry)) : Option Settings :=
  fields.foldlM (fun s field => setField? s field.1 field.2) {}

/-! ### From JSON -/

/-- What a JSON value can set a field to. -/
def Entry.ofJson : Json → Entry
  | .str value => .text value
  | .int value => .whole value
  | .null => .nothing
  | .obj [(name, .null)] => .choice name
  | _ => .other

/-- The settings that a JSON value gives: an object of fields, or an array of the values of the
first fields in order. -/
def ofJson? : Json → Option Settings
  | .obj fields => ofFields? (fields.map fun field => (field.1, Entry.ofJson field.2))
  | .arr items =>
      if fieldNames.length < items.length then none
      else ofFields? (fieldNames.zip (items.map Entry.ofJson))
  | _ => none

/-- The value of a health address. -/
def addressJson : Option Address → Json
  | some address => .str address.text
  | none => .null

/-- All fields of the settings. -/
def toJson (s : Settings) : Json :=
  .ofFields [
    ("listen_addr", .str s.listen.text),
    ("health_addr", addressJson s.health),
    ("device_path_prefix", .str s.devicePrefix),
    ("device_subprotocol", .str s.deviceProtocol),
    ("management_path_prefix", .str s.managementPrefix),
    ("management_subprotocol", .str s.managementProtocol),
    ("call_timeout_ms", .int s.callTimeout),
    ("max_pending_requests", .int s.maxPending),
    ("keep_alive", .str s.keepAlive.name),
    ("ping_interval_ms", .int s.pingInterval),
    ("probe_timeout_ms", .int s.probeTimeout),
    ("ping_failure_threshold", .int s.failureThreshold),
    ("idle_timeout_ms", .int s.idleTimeout),
    ("lock_retry_count", .int s.lockRetries),
    ("lock_retry_interval_ms", .int s.lockInterval),
    ("lock_alarm_threshold", .int s.alarmThreshold),
    ("max_frame_size", .int s.maxFrame),
    ("outbound_queue_capacity", .int s.queueCapacity),
    ("backpressure_watermark", .int s.watermark)]

end StationHub.Settings
