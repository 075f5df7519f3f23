import ShaderInterface.ShaderType.Base

namespace ShaderInterface

/-- A type of the shading language: a base type under any number of array levels. -/
inductive ShaderType
  | base (type : BaseType)
  | array (element : ShaderType) (length : Int)
  deriving DecidableEq

namespace ShaderType

def innermost : ShaderType → BaseType
  | base t => t
  | array element _ => element.innermost

/-- The array lengths, outermost first. -/
def lengths : ShaderType → List Int
  | base _ => []
  | array element n => n :: element.lengths

/-- The base name, then each length in brackets, outermost first, as in `vec2[2][3]`. -/
def format (t : ShaderType) : String :=
  t.innermost.name ++ String.join (t.lengths.map fun n => s!"[{n}]")

def count (t : ShaderType) : Int :=
  t.lengths.foldr (· * ·) 1

/-- Array levels of these lengths, outermost first, around a base type. -/
inductive Nests : ShaderType → List Int → BaseType → Prop
  | base (t : BaseType) : Nests (.base t) [] t
  | array {element : ShaderType} {lengths : List Int} {t : BaseType} (n : Int)
    (inner : Nests element lengths t) : Nests (.array element n) (n :: lengths) t

theorem nests (t : ShaderType) : t.Nests t.lengths t.innermost := by
  induction t with
  | base t => exact .base t
  | array element n ih => exact .array n ih

end ShaderType

end ShaderInterface
