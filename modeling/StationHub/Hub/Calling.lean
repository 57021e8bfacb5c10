import StationHub.Hub

/-!
Calling a peer. A caller addresses whoever is registered under a key, or a session directly, and
waits for what the call comes to.
-/

namespace StationHub.Hub

/-- A task that waits for the outcome of a call of session number `session`. -/
def awaitCall (h : Hub) (session : Nat) (id : String) : Hub × Nat :=
  let (h, task) := h.newTask
  (h.suspend task (.calling session id), task)

/-- Calls the peer registered under `key`, as a task of its own. -/
def beginCall (h : Hub) (variant : Variant) (key : Key) (command : String) (payload : Json) :
    Hub × Nat :=
  let (h, task) := h.newTask
  match h.registered? variant key with
  | none => (h.conclude task (.answered (.error (.noSession key))), task)
  | some slot =>
      match h.sendCall slot.session command payload with
      | (h, .error failure) => (h.conclude task (.answered (.error failure)), task)
      | (h, .ok id) => (h.suspend task (.calling slot.session id), task)

end StationHub.Hub
