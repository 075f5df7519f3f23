import ShaderInterface.Interface.Reflection

namespace ShaderInterface

/-- A missing name shows as nothing. -/
def shownName (name? : Option String) : String :=
  name?.getD ""

/-- A location in at least three columns, to the right. -/
def LocatedVariable.line (v : LocatedVariable) : String :=
  let location := String.ofList ((toString v.location).toList.leftpad 3 ' ')
  s!"    {location} | {shownName v.name?}: {v.type.format}"

def Slot.text (s : Slot) : String :=
  s!"({s.binding}, {s.set})"

def Uniform.line (u : Uniform) : String :=
  s!"    {u.slot.text} | {shownName u.name?}: {u.type.format}"

def UniformBlock.line (b : UniformBlock) : String :=
  s!"    {b.slot.text} | {shownName b.name?}: {b.size} bytes"

def LocalSize.line (s : LocalSize) : String :=
  s!"    local size: {s.x} x {s.y} x {s.z}"

namespace Reflection

def lines (r : Reflection) : List String :=
  [s!"Entry point: {r.source.entryPoint.name} ({r.source.entryPoint.model.name})"]
    ++ r.source.localSize?.toList.map LocalSize.line
    ++ "Inputs" :: r.inputs.map LocatedVariable.line
    ++ "Outputs" :: r.outputs.map LocatedVariable.line
    ++ "Uniforms" :: r.uniforms.map Uniform.line
    ++ "Uniform Blocks" :: r.blocks.map UniformBlock.line

end Reflection

end ShaderInterface
