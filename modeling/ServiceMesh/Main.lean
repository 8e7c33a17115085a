import ServiceMesh.CommandLine.Run

/-!
# The command line program

Reads the configuration file that the command line names, and prints what the command
answers.
-/

namespace ServiceMesh

/-- The content of a file, if it can be read. -/
def contentOfFile (path : String) : IO (Option ByteArray) := do
  try
    let bytes ← IO.FS.readBinFile path
    return some bytes
  catch _ => return none

end ServiceMesh

open ServiceMesh

def main (args : List String) : IO UInt32 := do
  let content ← match CommandLine.readArguments args with
    | .given task => contentOfFile task.path
    | _ => pure none
  let exit := CommandLine.run args {} fun _ => content
  IO.print exit.stdout
  return exit.code.toUInt32
