import ShaderInterface.Interface.Variable
import ShaderInterface.LatestBy

namespace ShaderInterface

inductive DescriptorType
  | uniformBuffer
  | combinedImageSampler
  | storageImage
  | uniformTexelBuffer
  | storageTexelBuffer
  deriving DecidableEq

namespace DescriptorType

def name : DescriptorType → String
  | uniformBuffer => "UNIFORM_BUFFER"
  | combinedImageSampler => "COMBINED_IMAGE_SAMPLER"
  | storageImage => "STORAGE_IMAGE"
  | uniformTexelBuffer => "UNIFORM_TEXEL_BUFFER"
  | storageTexelBuffer => "STORAGE_TEXEL_BUFFER"

def ofBase : BaseType → Except Fault DescriptorType
  | .sampler .buffer => return uniformTexelBuffer
  | .image .buffer => return storageTexelBuffer
  | .sampler _ | .shadowSampler _ _ => return combinedImageSampler
  | .image _ => return storageImage
  | t => throw (.notADescriptor t)

end DescriptorType

structure Descriptor where
  name? : Option String
  slot : Slot
  type : DescriptorType
  count : Int
  deriving DecidableEq

/-- What a program may have to bind. -/
inductive Resource
  | uniform (u : Uniform)
  | block (b : UniformBlock)
  deriving DecidableEq

namespace Resource

def name? : Resource → Option String
  | uniform u => u.name?
  | block b => b.name?

/-- A block is one buffer. A uniform is as many images or samplers as it has elements, and no
descriptor if its elements are neither. -/
def descriptor? : Resource → Except Fault (Option Descriptor)
  | block b => return some ⟨b.name?, b.slot, .uniformBuffer, 1⟩
  | uniform u => do
    if u.type.innermost.isOpaque then
      return some ⟨u.name?, u.slot, ← DescriptorType.ofBase u.type.innermost, u.type.count⟩
    else return none

def reportedDescriptor? (r : Resource) : Traced (Option Descriptor) := do
  match ← r.descriptor? with
  | some d => return some d
  | none =>
    Traced.report [.notADescriptor r.name?]
    return none

end Resource

namespace Descriptor

/-- The descriptors of each set by ascending binding, the sets in the order in which they first
appear. -/
def bySet (l : List Descriptor) : List (Int × List Descriptor) :=
  (l.map (·.slot.set)).eraseDups.map fun set =>
    (set, (l.filter (·.slot.set == set)).mergeSort fun a b => a.slot.binding ≤ b.slot.binding)

def named? (d : Descriptor) : Option (String × Descriptor) :=
  match d.name? with
  | some "" | none => none
  | some name => some (name, d)

/-- The descriptor of each name that is not empty, the last in the order of the sets. -/
def byName (sets : List (Int × List Descriptor)) : List (String × Descriptor) :=
  latestBy Prod.fst ((sets.flatMap (·.2)).filterMap named?)

end Descriptor

end ShaderInterface
