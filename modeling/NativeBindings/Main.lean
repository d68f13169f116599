import NativeBindings.Command.Run

/-!
# The command line program
-/
namespace NativeBindings.Command

def attempt {α : Type} (action : IO α) : IO (Except DiskError α) := do
  try
    return .ok (← action)
  catch e =>
    return .error (.other (toString e))

/-- The real disk. Drafts are named after the time. -/
def realDisk : Disk IO where
  read path := attempt (IO.FS.readFile path)
  readBuiltin schema := pure (.ok schema.text)
  makeDirectories path := attempt (IO.FS.createDirAll path)
  write path text := attempt (IO.FS.writeFile path text)
  rename source target := attempt (IO.FS.rename source target)
  remove path := do
    let _ ← attempt (IO.FS.removeFile path)
  beside path := do
    let number ← IO.monoNanosNow
    return s!"{path}.{number}.tmp"

def showDetail (detail : String × Detail) : String :=
  let value := match detail.2 with
    | .text value => value
    | .number value => countText value
    | .names values => String.intercalate " -> " values
  detail.1 ++ "=" ++ value

def showLine (line : String × Option (List (String × Detail))) : String :=
  match line.2 with
  | none => line.1
  | some details => String.intercalate " " (line.1 :: details.map showDetail)

end NativeBindings.Command

open NativeBindings Command in
/-- Runs the arguments, and shows the log on the standard error. -/
def main (arguments : List String) : IO UInt32 := do
  let outcome ← run realDisk arguments
  for line in shownLines standardTag outcome.level outcome.log do
    IO.eprintln (showLine line)
  IO.print outcome.output
  return outcome.exitCode.toUInt32
