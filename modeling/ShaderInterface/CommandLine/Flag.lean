namespace ShaderInterface.CommandLine

inductive Flag
  | help
  | bigEndian
  | verbose
  deriving DecidableEq

namespace Flag

def members : List Flag := [.help, .bigEndian, .verbose]

def longName : Flag → String
  | help => "--help"
  | bigEndian => "--big-endian"
  | verbose => "--verbose"

def letter? : Flag → Option Char
  | help => some 'h'
  | bigEndian => none
  | verbose => some 'v'

def ofLetter? (letter : Char) : Option Flag :=
  members.find? (·.letter? == some letter)

/-- The flags whose long names begin so. -/
def abbreviated (name : List Char) : List Flag :=
  members.filter (name.isPrefixOf ·.longName.toList)

/-- The flag as it is called in a message, the short name first. -/
def title (flag : Flag) : String :=
  match flag.letter? with
  | some letter => s!"-{letter}/{flag.longName}"
  | none => flag.longName

end Flag

end ShaderInterface.CommandLine
