import ShaderInterface.CommandLine.Options
import ShaderInterface.Interface.Report

namespace ShaderInterface.CommandLine

structure Response where
  exitCode : UInt32
  out : String
  err : String
  deriving DecidableEq

/-- Why something under a path has no content to read. -/
inductive Obstacle
  | directory
  | nameTooLong
  | accessDenied
  deriving DecidableEq

def Obstacle.message : Obstacle → String
  | directory => "is a directory"
  | nameTooLong => "name too long"
  | accessDenied => "access denied"

inductive Found
  | nothing
  | content (data : List UInt8)
  | unreadable (obstacle : Obstacle)
  deriving DecidableEq

def joinLines (lines : List String) : String :=
  String.join (lines.map (· ++ "\n"))

def usage : String :=
  "usage: spvreflect [-h] [--big-endian] [-v] file"

def help : String :=
  joinLines
    [usage,
     "",
     "Print the interface of a SPIR-V shader module.",
     "",
     "positional arguments:",
     "  file           SPIR-V module (.spv)",
     "",
     "options:",
     "  -h, --help     show this help message and exit",
     "  --big-endian   Read the module as big endian (a byte-swapped magic number",
     "                 still flips the order)",
     "  -v, --verbose  Enable debug logging"]

def UsageError.respond (e : UsageError) : Response :=
  ⟨2, "", joinLines [usage, s!"spvreflect: error: {e.message}"]⟩

/-- The log lines that are shown: all when verbose, else warnings only. -/
def logLines (verbose : Bool) (log : List Event) : List String :=
  (Event.shown (if verbose then Level.debug else Level.warning).rank log).map Event.render

def Options.byteOrder (o : Options) : ByteOrder :=
  if o.bigEndian then .big else .little

/-- The answer to a file's content. A refusal takes the place of the whole report. -/
def respond (o : Options) (data : List UInt8) : Response :=
  let outcome := reflect o.byteOrder.name defaultLimit (.bytes data)
  let shown := logLines o.verbose outcome.log
  match outcome.result with
  | .ok r => ⟨0, joinLines r.lines, joinLines shown⟩
  | .error fault => ⟨1, "", joinLines (shown ++ [s!"{o.file}: {fault.message}"])⟩

def run (args : List String) (find : String → Found) : Except Obstacle Response :=
  match Request.ofArguments args with
  | .error e => .ok e.respond
  | .ok .help => .ok ⟨0, help, ""⟩
  | .ok (.report o) =>
    match find o.file with
    | .nothing => .ok ⟨1, "", joinLines [s!"missing input file: {o.file}"]⟩
    | .content data => .ok (respond o data)
    | .unreadable obstacle => .error obstacle

end ShaderInterface.CommandLine
