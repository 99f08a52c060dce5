import Std.Time.DateTime.Timestamp
import TelemetryAutomation.Json.Printer
import TelemetryAutomation.Replay.Basic

/-!
# The command line

The program replays the fixture in the file that is its argument and prints the summary. Settings come
from environment variables. An error is printed with its causes and ends the program with 1.
-/

namespace TelemetryAutomation

/-- The variable that an entry of the environment sets. -/
def environmentVariable? (entry : List Char) : Option (String × String) :=
  (Text.cut '=' entry).map fun (name, value) => (.ofList name, .ofList value)

/-- The environment variables; none where the system does not list them in a file. -/
def readEnvironment : IO (List (String × String)) := do
  try
    let listing ← IO.FS.readFile "/proc/self/environ"
    return (Text.pieces '\x00' listing.toList).filterMap environmentVariable?
  catch _ => return []

/-- The text of a file, or why it cannot be read. -/
def readText (path : String) : IO (Except String String) := do
  try
    return .ok (← IO.FS.readFile path)
  catch error => return .error (toString error)

/-- A clock that stands still at the present time. -/
def readClock : IO Clock := do
  let time ← Std.Time.Timestamp.now
  return .still time.toNanosecondsSinceUnixEpoch.val.toNat

end TelemetryAutomation

open TelemetryAutomation in
/-- Replays the fixture named by the first argument. -/
def main (arguments : List String) : IO UInt32 := do
  let environment ← readEnvironment
  let file ← arguments.head?.mapM fun path => return (path, ← readText path)
  match Replay.runText environment file (← readClock) with
  | .ok summary =>
    IO.println (toJson summary).indented
    return 0
  | .error error =>
    for text in error.message :: error.causes do IO.eprintln text
    return 1
