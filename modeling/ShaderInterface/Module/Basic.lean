import ShaderInterface.Header
import ShaderInterface.Instruction.Basic
import ShaderInterface.Event

namespace ShaderInterface

structure Module where
  header : Header
  ids : IdTable
  entryPoint? : Option EntryPoint
  deriving DecidableEq

namespace Module

def blank (h : Header) : Module :=
  ⟨h, .blank h.bound.toNat, none⟩

def entryPoint (m : Module) : EntryPoint :=
  m.entryPoint?.getD .default

/-- The work group size that was declared for the function of the entry point. -/
def localSize? (m : Module) : Option LocalSize :=
  (m.ids.get? m.entryPoint.function.toNat).bind (·.localSize?)

def modify (m : Module) (id : UInt32) (f : Entry → Entry) : Module :=
  { m with ids := m.ids.modify id f }

/-- What an instruction adds. Of two that say the same thing about an id, the later counts. -/
def apply (m : Module) : Instruction → Module
  | .entryPoint point => { m with entryPoint? := some point }
  | .localSize function size => m.modify function fun e => { e with localSize? := some size }
  | .otherMode _ _ => m
  | .name target text => m.modify target fun e => { e with name? := some text }
  | .memberName target member text => m.modify target (·.nameMember member.toNat (some text))
  | .decorate target d => m.modify target (·.decorate d)
  | .memberDecorate target member d => m.modify target (·.decorateMember member.toNat d)
  | .declareType target decl => m.modify target fun e => { e with type? := some decl }
  | .declareVariable target decl => m.modify target fun e => { e with var? := some decl }
  | .declareConstant target decl => m.modify target fun e => { e with const? := some decl }

/-- What is reported when an instruction replaces an earlier one. -/
def notices (m : Module) : Instruction → List Event
  | .entryPoint point => if m.entryPoint?.isSome then [.entryPointReplaced point.name] else []
  | .declareType target new =>
    match (m.ids.get? target.toNat).bind (·.type?) with
    | some old => [.typeRedefined target new old]
    | none => []
  | .declareVariable target _ =>
    match (m.ids.get? target.toNat).bind (·.var?) with
    | some _ => [.variableRedefined target]
    | none => []
  | .declareConstant target _ =>
    match (m.ids.get? target.toNat).bind (·.const?) with
    | some _ => [.constantRedefined target]
    | none => []
  | _ => []

end Module

end ShaderInterface
