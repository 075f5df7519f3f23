import ShaderInterface.CommandLine.Argument
import ShaderInterface.CommandLine.Path

namespace ShaderInterface.CommandLine

structure Options where
  file : String
  bigEndian : Bool
  verbose : Bool
  deriving DecidableEq

inductive Request
  | help
  | report (options : Options)
  deriving DecidableEq

structure Progress where
  flags : List Flag
  file? : Option String
  surplus : List String
  /-- The last argument is the file. -/
  atFile : Bool

namespace Progress

def empty : Progress :=
  ⟨[], none, [], false⟩

def request (p : Progress) : Except UsageError Request :=
  match p.file?, p.surplus with
  | none, _ => .error .noFile
  | some path, [] =>
    .ok (.report ⟨Path.normalize path, p.flags.contains .bigEndian, p.flags.contains .verbose⟩)
  | some _, texts => .error (.surplus texts)

/-- A wish for help and a value for a flag decide at once. A `--` belongs to the file beside it
and is surplus elsewhere. -/
def advance : Progress → List Argument → Except UsageError Request
  | p, [] => p.request
  | p, .flags chosen :: rest =>
    if chosen.contains .help then .ok .help
    else advance ⟨p.flags ++ chosen, p.file?, p.surplus, false⟩ rest
  | _, .valued flag value :: _ => .error (.valueGiven flag value)
  | p, .separator :: rest =>
    let own := p.atFile || p.file?.isNone
    advance ⟨p.flags, p.file?, p.surplus ++ if own then [] else ["--"], false⟩ rest
  | p, .file path :: rest =>
    match p.file? with
    | none => advance ⟨p.flags, some path, p.surplus, true⟩ rest
    | some _ => advance ⟨p.flags, p.file?, p.surplus ++ [path], false⟩ rest
  | p, .unknown text :: rest =>
    advance ⟨p.flags, p.file?, p.surplus ++ [text], false⟩ rest

end Progress

def Request.ofArguments (args : List String) : Except UsageError Request := do
  Progress.empty.advance (← Argument.readAll args)

end ShaderInterface.CommandLine
