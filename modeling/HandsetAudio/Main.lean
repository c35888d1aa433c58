import HandsetAudio.CommandLine

/-!
# The program

Reads the arguments and the environment, and prints what a run leaves behind. The
console reads its keys from the standard input, one line at a time, and draws the
screen after each line.
-/

namespace HandsetAudio

/-- Handles the keys of one line. -/
def Console.pressAll (v : Console.View) (s : Session) :
    List Console.Key → Bool × Console.View × Session
  | [] => (false, v, s)
  | key :: rest =>
    match Console.press v s key with
    | (true, v, s) => (true, v, s)
    | (false, v, s) =>
      let (v, s) := Console.look v s
      Console.pressAll v s rest

/-- Draws the screen and handles keys until the console ends or the input does. -/
partial def Console.loop (input : IO.FS.Stream) (v : Console.View) (s : Session) : IO Unit := do
  let (v, s) := Console.look v s
  for row in Console.render v do
    IO.println row
  let line ← input.getLine
  unless line.isEmpty do
    let keys := (line.toList.filter (· != '\n')).map Console.Key.char
    let (done, v, s) := Console.pressAll v s keys
    unless done do
      Console.loop input v s

/-- Prints what a run left behind, and gives its exit code. -/
def CommandLine.finish (outcome : CommandLine.Outcome) : IO UInt32 := do
  for line in outcome.output do
    IO.println line
  for line in outcome.errors do
    IO.eprintln line
  return UInt32.ofNat outcome.exit

end HandsetAudio

/-- Runs the program. -/
def main (args : List String) : IO UInt32 := do
  let card ← IO.getEnv HandsetAudio.Config.cardVariable
  let steps ← IO.getEnv HandsetAudio.Config.volumeStepsVariable
  let lookup (key : String) : Option String :=
    if key = HandsetAudio.Config.cardVariable then card
    else if key = HandsetAudio.Config.volumeStepsVariable then steps
    else none
  match HandsetAudio.CommandLine.run args lookup with
  | some outcome => HandsetAudio.CommandLine.finish outcome
  | none =>
    match HandsetAudio.CommandLine.openSession lookup with
    | .error outcome => HandsetAudio.CommandLine.finish outcome
    | .ok s =>
      HandsetAudio.Console.loop (← IO.getStdin) {} s
      return 0
