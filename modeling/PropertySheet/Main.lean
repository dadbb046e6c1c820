import PropertySheet.App.Draw
import PropertySheet.App.Run
import PropertySheet.Client.Identity
import PropertySheet.Client.Line

/-!
# The command line

The program reads its settings from the file that the environment names, shows the screen after each
step and reads the name of one key a line. The backend is on the same streams: a request is written
as a line that starts with its method, and the line read next is its answer.
-/

namespace PropertySheet.Console

/-- Lines and columns of the screen. -/
def screenArea : Rect := { width := 80, height := 24 }

/-- Requests on the output, answers on the input. -/
def transport (input output : IO.FS.Stream) : Transport IO :=
  { send := fun q => do
      output.putStrLn q.line
      output.flush
      return Answer.ofLine? (← input.getLine) }

/-- The text of a file, if it can be read. -/
def readFile? (file : String) : IO (Option String) :=
  try return some (← IO.FS.readFile file) catch _ => return none

def readSettings : IO (Except Failure Settings) := do
  let file := (← IO.getEnv settingsVariable).getD settingsFile
  return Settings.ofFile (← readFile? file)

def newIdentity : IO String := do
  let mut bits := 0
  for _ in [0:16] do
    bits := bits * 256 + (← IO.rand 0 255)
  return identity bits

def printScreen (output : IO.FS.Stream) (a : App) : IO Unit := do
  let screen := a.draw screenArea (.blank screenArea)
  for i in [0:screenArea.height] do
    output.putStrLn (screen.lineText i)
  output.flush

/-- The steps that may follow from one key. -/
def maxSteps : Nat := 10000

/-- Show the application and take keys until it ends or the input does. -/
partial def loop (input output : IO.FS.Stream) (c : Client IO) (a : App) : IO Unit := do
  let a := (← a.flush.settle c maxSteps).fit screenArea
  printScreen output a
  if a.running then
    let line ← input.getLine
    if line.isEmpty then return
    match Key.parse? (String.ofList (line.toList.takeWhile (· ≠ '\n'))) with
    | some k => loop input output c (a.handleKey k)
    | none => loop input output c a

end PropertySheet.Console

open PropertySheet PropertySheet.Console in
def main : IO UInt32 := do
  match ← readSettings with
  | .error e =>
    (← IO.getStderr).putStrLn e.message
    return 1
  | .ok settings =>
    let input ← IO.getStdin
    let output ← IO.getStdout
    let c := Client.ofAddress settings.baseUrl (← newIdentity) (transport input output)
    loop input output c (.ofSettings settings)
    return 0
