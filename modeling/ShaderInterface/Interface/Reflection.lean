import ShaderInterface.Interface.Descriptor
import ShaderInterface.Module.Decode
import ShaderInterface.ModuleData

namespace ShaderInterface

/-- What a shader module shows to the program that uses it. -/
structure Reflection where
  source : Module
  inputs : List LocatedVariable
  outputs : List LocatedVariable
  uniforms : List Uniform
  blocks : List UniformBlock
  sets : List (Int × List Descriptor)
  descriptors : List (String × Descriptor)
  deriving DecidableEq

def Module.reflect (m : Module) (limit : Int) : Traced Reflection := do
  let model := m.entryPoint.model
  let inputs ← m.ids.inputs limit model
  let outputs ← m.ids.outputs limit model
  let uniforms ← m.ids.uniforms limit model
  let blocks ← m.ids.uniformBlocks limit model
  let found ← Traced.collect Resource.reportedDescriptor?
    (uniforms.map Resource.uniform ++ blocks.map Resource.block)
  let sets := Descriptor.bySet found
  Traced.report [.reflected model m.entryPoint.name inputs.length outputs.length uniforms.length
    blocks.length]
  return ⟨m, inputs, outputs, uniforms, blocks, sets, Descriptor.byName sets⟩

def defaultLimit : Int := 64

def reflect (order : String) (limit : Int) (data : ModuleData) : Traced Reflection := do
  let m ← Module.decode (← data.load order)
  m.reflect limit

end ShaderInterface
