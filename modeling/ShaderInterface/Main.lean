import ShaderInterface.CommandLine.Run

namespace ShaderInterface.CommandLine

/-- A path through a file leads nowhere and fails to open, under its name. A directory opens, and
fails only when it is read. -/
def Found.ofError : IO.Error → Found
  | .noFileOrDirectory _ _ _ | .inappropriateType (some _) _ _ => .nothing
  | .inappropriateType none _ _ => .unreadable .directory
  | .invalidArgument _ _ _ => .unreadable .nameTooLong
  | _ => .unreadable .accessDenied

def find (args : List String) : IO Found :=
  match Request.ofArguments args with
  | .ok (.report o) =>
    try return .content (← IO.FS.readBinFile o.file).toList
    catch e => return .ofError e
  | _ => return .nothing

end ShaderInterface.CommandLine

def main (args : List String) : IO UInt32 := do
  let found ← ShaderInterface.CommandLine.find args
  match ShaderInterface.CommandLine.run args fun _ => found with
  | .ok response =>
    (← IO.getStdout).putStr response.out
    (← IO.getStderr).putStr response.err
    return response.exitCode
  | .error obstacle =>
    (← IO.getStderr).putStrLn obstacle.message
    return 1
