namespace ShaderInterface.Path

/-- What a path starts from: `/` for an absolute path, except that exactly two slashes stay. -/
def root (text : List Char) : String :=
  match (text.takeWhile (· == '/')).length with
  | 0 => ""
  | 2 => "//"
  | _ => "/"

/-- The path without empty parts and single dots; an empty path is the current directory. -/
def normalize (text : String) : String :=
  let parts := (text.splitOn "/").filter fun part => part != "" && part != "."
  let path := root text.toList ++ "/".intercalate parts
  if path.isEmpty then "." else path

end ShaderInterface.Path
