import ShaderInterface.CommandLine.UsageError
import ShaderInterface.Text.DecimalDigit

namespace ShaderInterface.CommandLine

/-- What an argument is when it is read alone. -/
inductive Argument
  | flags (chosen : List Flag)
  | valued (chosen : Flag) (value : String)
  | separator
  | file (path : String)
  | unknown (text : String)
  deriving DecidableEq

/-- Digits, or a point with digits behind it, in any script. -/
def isNumber (text : List Char) : Bool :=
  let whole := text.takeWhile DecimalDigit.isDecimalDigit
  match text.drop whole.length with
  | [] => !whole.isEmpty
  | '.' :: decimals => !decimals.isEmpty && decimals.all DecimalDigit.isDecimalDigit
  | _ => false

/-- One line break at the end does not count. -/
def withoutFinalBreak (text : List Char) : List Char :=
  if text.getLast? = some '\n' then text.dropLast else text

namespace Argument

/-- Letters that go on after a flag, each a flag. What begins with no flag is a value for the
flag before it. -/
def cluster (chosen : List Flag) (last : Flag) : List Char → Argument
  | [] => .flags (chosen ++ [last])
  | letter :: rest =>
    match Flag.ofLetter? letter with
    | some next => cluster (chosen ++ [last]) next rest
    | none => .valued last (String.ofList (letter :: rest))

/-- Letters behind a flag's own. An equals sign may stand before them, if any are there. -/
def afterLetter (flag : Flag) : List Char → Argument
  | ['='] => .valued flag ""
  | '=' :: rest => cluster [] flag rest
  | rest => cluster [] flag rest

/-- A text with a minus sign that starts no flag is a file's name if it is a number or has a
blank. -/
def ofString (text : String) : Except UsageError Argument :=
  match text.toList with
  | '-' :: '-' :: rest =>
    let (name, value) := ('-' :: '-' :: rest).span (· != '=')
    match Flag.abbreviated name, value with
    | [flag], [] => .ok (.flags [flag])
    | [flag], _ :: value => .ok (.valued flag (String.ofList value))
    | [], _ => .ok (if text.contains ' ' then .file text else .unknown text)
    | meant, _ => .error (.ambiguous text meant)
  | '-' :: letter :: rest =>
    match Flag.ofLetter? letter with
    | some flag => .ok (afterLetter flag rest)
    | none =>
      let isFile := isNumber (withoutFinalBreak (letter :: rest)) || text.contains ' '
      .ok (if isFile then .file text else .unknown text)
  | _ => .ok (.file text)

/-- Arguments behind a `--` are files whatever they look like. -/
def readAll : List String → Except UsageError (List Argument)
  | [] => .ok []
  | "--" :: rest => .ok (.separator :: rest.map .file)
  | text :: rest => do
    let first ← ofString text
    return first :: (← readAll rest)

end Argument

end ShaderInterface.CommandLine
