import StationHub.Counters
import StationHub.Json.Printer

/-!
The health endpoint. `/health` answers as long as the hub runs, and `/stats` tells the counters.
-/

namespace StationHub.Health

/-- The version that is reported. -/
def version : String := "0.1.0"

/-- What is answered: a status, and a body for all but errors and `HEAD`. -/
structure Response where
  status : Nat
  body : Option Json := none

/-- The resources. -/
inductive Resource where
  | health
  | stats
  deriving DecidableEq, Repr

/-- A character of the scheme of a request target. -/
def isSchemeChar (c : Char) : Bool :=
  c.isAlphanum || c == '+' || c == '-' || c == '.' || c == '~'

/-- What follows the scheme and the authority of a target in absolute form, such as
`http://localhost/health`. -/
def afterAuthority? (chars : List Char) : Option (List Char) :=
  match chars.dropWhile isSchemeChar with
  | ':' :: '/' :: '/' :: rest => some (rest.dropWhile fun c => c != '/' && c != '?' && c != '#')
  | _ => none

/-- `chars` up to a query or a fragment. -/
def beforeQuery (chars : List Char) : List Char := chars.takeWhile fun c => c != '?' && c != '#'

/-- The path of a request target, without query and fragment. A target in absolute form that names
no path means the root. -/
def pathOf (target : String) : String :=
  match afterAuthority? target.toList with
  | none => String.ofList (beforeQuery target.toList)
  | some rest =>
      match beforeQuery rest with
      | [] => "/"
      | path => String.ofList path

/-- The resource at a path. -/
def Resource.at? (path : String) : Option Resource :=
  if path = "/health" then some .health else if path = "/stats" then some .stats else none

/-- What a resource shows after `uptime` seconds. -/
def Resource.body (counters : Counters) (uptime : Nat) : Resource → Json
  | .health =>
      .ofFields [("status", .str "ok"), ("version", .str version), ("uptime_secs", .int uptime)]
  | .stats => .ofFields (counters.fields.map fun field => (field.1, .int field.2))

/-- The answer of the endpoint. A path without a resource is told apart from a method that its
resource does not have. -/
def respond (counters : Counters) (uptime : Nat) (method target : String) : Response :=
  match Resource.at? (pathOf target) with
  | none => { status := 404 }
  | some resource =>
      if method = "GET" then { status := 200, body := resource.body counters uptime }
      else if method = "HEAD" then { status := 200 }
      else { status := 405 }

/-- The endpoint answers whatever the counters are. -/
theorem status_health (counters : Counters) (uptime : Nat) :
    (respond counters uptime "GET" "/health").status = 200 := by
  have h : pathOf "/health" = "/health" := by decide
  simp [respond, Resource.at?, h]

end StationHub.Health
