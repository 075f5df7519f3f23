import ShaderInterface.Numbered.DecorationKind

namespace ShaderInterface

structure Decoration where
  kind : DecorationKind
  literals : List Int
  deriving DecidableEq

end ShaderInterface
