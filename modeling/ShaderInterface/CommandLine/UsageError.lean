import ShaderInterface.CommandLine.Flag
import ShaderInterface.Text.Quoted

namespace ShaderInterface.CommandLine

inductive UsageError
  | ambiguous (text : String) (meant : List Flag)
  | valueGiven (flag : Flag) (value : String)
  | noFile
  | surplus (texts : List String)
  deriving DecidableEq

def UsageError.message : UsageError → String
  | ambiguous text meant =>
    s!"ambiguous option: {text} could match " ++ ", ".intercalate (meant.map Flag.longName)
  | valueGiven flag value =>
    s!"argument {flag.title}: ignored explicit argument {Quoted.encode value}"
  | noFile => "the following arguments are required: file"
  | surplus texts => "unrecognized arguments: " ++ " ".intercalate texts

end ShaderInterface.CommandLine
