import StationHub.Settings

/-!
Putting a hub together: settings, a directory and an executor, each of which may be given in any
order and any number of times.
-/

namespace StationHub

/-- A hub that is being put together. -/
structure Assembly where
  settings : Settings := {}
  /-- A directory has been given. -/
  hasDirectory : Bool := false
  /-- An executor has been given. -/
  hasExecutor : Bool := false
  deriving DecidableEq, Repr

namespace Assembly

/-- The time that the settings allow an outgoing call, in milliseconds. What is left of the last
millisecond is dropped, and a time too long for 64 bits is cut to the longest that fits. -/
def withCallTimeout (a : Assembly) (seconds nanoseconds : Nat) : Assembly :=
  let ms := seconds * 1000 + nanoseconds / 1000000
  { a with settings := { a.settings with callTimeout := min ms (Nat.pow 2 64 - 1) } }

/-- The words for a missing directory. -/
def noDirectory : String :=
  "Directory service is required. Use .directory() to set it.\n" ++
    "Example: Gateway::builder().directory(StaticDirectory::new())"

/-- The words for a missing executor. -/
def noExecutor : String :=
  "Command executor is required. Use .executor() to set it.\n" ++
    "Example: Gateway::builder().executor(MyExecutor)"

/-- The settings of the hub that the parts make, or the first thing that is wrong: a flaw of the
settings, then a missing directory, then a missing executor. -/
def build (a : Assembly) : Except Failure Settings := do
  let settings ← a.settings.check
  if !a.hasDirectory then throw (.settings noDirectory)
  if !a.hasExecutor then throw (.settings noExecutor)
  return settings

end Assembly

end StationHub
