import ShaderInterface.Header.Read
import ShaderInterface.Instruction.Frame
import ShaderInterface.Module.Basic

namespace ShaderInterface.Module

open Traced

def absorb (bound : Nat) (m : Module) (f : Frame) : Traced Module := do
  match ← f.instruction? bound with
  | none => return m
  | some i =>
    report (m.notices i)
    return m.apply i

def isRead (f : Frame) : Bool :=
  f.reading?.isSome

/-- A whole module in one pass. Every instruction in front of a framing fault is read first. -/
def decode (words : List UInt32) : Traced Module := do
  let (header, body) ← Header.read words
  let (frames, fault?) := Frame.split Header.size body
  let m ← frames.foldlM (absorb header.bound.toNat) (blank header)
  if let some fault := fault? then fail fault
  report [.instructionsRead (frames.countP isRead) (frames.countP (!isRead ·))]
  if m.entryPoint?.isNone then report [.noEntryPoint]
  return m

end ShaderInterface.Module
