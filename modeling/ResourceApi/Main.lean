/-
This file runs the command line of the demonstration server.
-/

import ResourceApi.Cli

open ResourceApi

/-- A file that cannot be opened is unreadable. One that holds no text is malformed. -/
def readText (path : String) : IO (Except OptionsError String) := do
  match ← (IO.FS.Handle.mk path .read).toBaseIO with
  | .error _ => return .error .unreadable
  | .ok handle =>
      match ← handle.readBinToEnd.toBaseIO with
      | .error _ => return .error .malformed
      | .ok bytes =>
          match String.fromUTF8? bytes with
          | none => return .error .malformed
          | some content => return .ok content

/-- Nobody can ask the server to stop. -/
partial def wait : IO UInt32 := do
  IO.sleep 1000
  wait

def main (arguments : List String) : IO UInt32 := do
  let command := Cli.Command.ofArguments arguments
  let content ← match command.path with
    | none => pure (.error .unreadable)
    | some path => readText path
  match command.run fun _ => content with
  | .serving => wait
  | .exit code message =>
      match message with
      | none => return code.toUInt32
      | some message =>
          IO.eprintln ("Error: " ++ message)
          return code.toUInt32
