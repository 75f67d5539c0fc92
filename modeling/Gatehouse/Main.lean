import Gatehouse.App.Router
import Gatehouse.Http.Wire
import Gatehouse.Service.Launch

/-!
# The program

Takes its configuration from the environment and serves the requests on standard input,
one after the other, until the input ends.  The log goes to standard error.  The program
makes no connection itself, so other services cannot be reached.
-/

namespace Gatehouse.Program

/-- The known variables that the environment sets. -/
def environment : IO Settings.Variables :=
  (Service.filterVariable :: Settings.variableNames).filterMapM fun name => do
    return (← IO.getEnv name).map fun value => (name, value)

/-- Writes the lines of the log that pass a filter. -/
def writeLog (filter : Service.Filter) (lines : List Service.LogLine) : IO Unit :=
  for line in lines.filter filter.lets do
    IO.eprintln line.text

/-- A number of octets, filled up with zeros. -/
def octetsOf (octets : ByteArray) (start count : Nat) : Vector UInt8 count :=
  Vector.ofFn fun i => octets.toList.getD (start + i) 0

/-- What is drawn at random for a request. -/
def drawRandomly : IO Oidc.Draws := do
  let octets ← IO.getRandomBytes 64
  return ⟨octetsOf octets 0 16, octetsOf octets 16 16, octetsOf octets 32 32⟩

/-- The reason why nothing can be reached. -/
def noConnection : String := "no connection"

/-- What surrounds the application. -/
def surroundings (draws : Oidc.Draws) : App.Surroundings where
  services := Http.Services.unreachable
  deliver settings message := (Mail.send settings (.unreachable noConnection) message).1
  probe connectString := (Database.probe connectString (.unreachable fun _ => noConnection)).1
  draws := draws

/-- Reads the lines in front of an empty one; none at the end of the input. -/
partial def readHead (input : IO.FS.Stream) (lines : List String) : IO (Option (List String)) := do
  let line ← input.getLine
  if line.isEmpty then return none
  let text := Text.trim line
  if text.isEmpty then return some lines.reverse
  readHead input (text :: lines)

/-- Answers requests until the input ends. -/
partial def serveAll (state : App.State) (tally : App.Tally) (input output : IO.FS.Stream) :
    IO Unit := do
  match ← readHead input [] with
  | none => return
  | some head =>
    let draws ← drawRandomly
    let (response, tally) :=
      match Http.Request.ofHead? head with
      | some request =>
        let (outcome, tally) := App.serve state .main tally (surroundings draws) request
        (outcome.response, tally)
      | none => (.empty 400, tally)
    output.putStr response.wire
    output.flush
    serveAll state tally input output

/-- Runs the program: its exit status. -/
def run : IO UInt32 := do
  let env ← environment
  let filter := Service.filterOf env
  let (prepared, lines) := Service.prepare env
  writeLog filter lines
  let result ←
    match prepared with
    | .ok state => do
      serveAll state .zero (← IO.getStdin) (← IO.getStdout)
      pure (.ok ())
    | .error error => pure (.error error)
  writeLog filter [Service.lastLine result]
  return (Service.exitStatus result).toUInt32

end Gatehouse.Program

/-- The program. -/
def main : IO UInt32 :=
  Gatehouse.Program.run
