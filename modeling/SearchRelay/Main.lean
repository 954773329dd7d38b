import SearchRelay.Gateway.Message

/-!
# SearchRelay.Main

The command line: `searchrelay [FILE]`.

The settings come from the file, or from the file in the folder of the user's
settings; without a file they are the default ones.  The gateway then serves one
connection, the requests of which come from standard input and whose answers go
to standard output, as a super-server hands them over.  The connection is all
that it has, so it finds no backend.
-/

namespace SearchRelay.CommandLine

open Gateway

def refuse (reason : String) : IO UInt32 := do
  (← IO.getStderr).putStrLn ("Error: " ++ reason)
  return 1

/-- The name of the file that holds the settings. -/
def settingsFile : List String → IO String
  | name :: _ => pure name
  | [] => do
    return Settings.location (← IO.getEnv "SEARCHGATE_CONFIG_DIR") (← IO.getEnv "XDG_CONFIG_HOME")
      (← IO.getEnv "HOME")

/-- The text of a file, if it can be read. -/
def fileText? (name : String) : IO (Option String) := do
  try
    return some (← IO.FS.readFile name)
  catch _ => return none

/-- The lines up to an empty one; nothing at the end of the input. -/
partial def readHead (input : IO.FS.Stream) (lines : List String) : IO (List String) := do
  let line ← input.getLine
  if Head.isEnd line then return lines.reverse
  readHead input (line :: lines)

/-- The bytes of a body. -/
partial def readBody (input : IO.FS.Stream) (count : Nat) (bytes : ByteArray) : IO ByteArray := do
  if count ≤ bytes.size then return bytes
  let more ← input.read (count - bytes.size).toUSize
  if more.isEmpty then return bytes
  readBody input count (bytes ++ more)

/-- Answers one request after another, as long as there are answers. -/
partial def serve (input output : IO.FS.Stream) (state : State) : IO Unit := do
  let lines ← readHead input []
  if lines.isEmpty then return
  let (response?, next) ← match Head.ofLines? lines with
    | none => pure (some badRequest, state)
    | some head => do
      let body ← readBody input head.contentLength ByteArray.empty
      let handled := handle (fun _ => 0) (fun _ => .refused) state (head.request body.toList)
      pure (handled.response?, state.after handled)
  if let some response := response? then
    output.write ⟨response.bytes.toArray⟩
    output.flush
    serve input output next

/-- Reads the settings and serves a connection. -/
def run (arguments : List String) : IO UInt32 := do
  let name ← settingsFile arguments
  match Settings.ofFileOrDefault (← fileText? name) with
  | .error failure => refuse ("failed to load " ++ name ++ ": " ++ failure.message)
  | .ok settings => match Gateway.ofSettings settings with
    | .error failure => refuse ("invalid configuration: " ++ failure.message)
    | .ok gateway => do
      serve (← IO.getStdin) (← IO.getStdout) { gateway }
      return 0

end SearchRelay.CommandLine

def main (arguments : List String) : IO UInt32 := SearchRelay.CommandLine.run arguments
