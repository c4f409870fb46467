/-
The program: reads files and standard input for a run of the command line, and prints what it leaves behind.
-/
import ScopedStore.CommandLine.Session

namespace ScopedStore

/-- why a file cannot be read -/
def readingFailure : IO.Error → String
  | .noFileOrDirectory _ code details => s!"{details} (os error {code})"
  | .permissionDenied _ code details => s!"{details} (os error {code})"
  | .inappropriateType _ code details => s!"{details} (os error {code})"
  | e => toString e

/-- what is read, or why it cannot be -/
def attemptRead (read : IO String) : IO (Except String String) := do
  match ← read.toBaseIO with
  | .ok content => return .ok content
  | .error e => return .error (readingFailure e)

/-- standard input to its end -/
partial def readAll (input : IO.FS.Stream) (acc : ByteArray) : IO String := do
  let chunk ← input.read 65536
  if chunk.isEmpty then
    match String.fromUTF8? acc with
    | some text => return text
    | none => throw (IO.userError "stream did not contain valid UTF-8")
  else readAll input (acc ++ chunk)

end ScopedStore

/-- runs the command line -/
def main (words : List String) : IO UInt32 := do
  let around : ScopedStore.Surroundings IO := {
    contentOf := fun path => ScopedStore.attemptRead (IO.FS.readFile path)
    input := do ScopedStore.attemptRead (ScopedStore.readAll (← IO.getStdin) ByteArray.empty)
    configFile := ← IO.getEnv "SKV_CONFIG" }
  let result ← ScopedStore.CommandLine.run around words
  (← IO.getStdout).putStr result.output
  (← IO.getStderr).putStr result.errors
  return result.exitCode.toUInt32
