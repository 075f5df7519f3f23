import ShaderInterface.Numbered.Basic

namespace ShaderInterface

/-- What an annotation says; `unknown` holds every kind without a number here. -/
inductive DecorationKind
  | relaxedPrecision
  | specId
  | block
  | bufferBlock
  | rowMajor
  | colMajor
  | arrayStride
  | matrixStride
  | glslShared
  | glslPacked
  | cPacked
  | builtin
  | noPerspective
  | flat
  | patch
  | centroid
  | sample
  | invariant
  | restrict
  | aliased
  | volatile
  | constant
  | coherent
  | nonWritable
  | nonReadable
  | uniform
  | stream
  | location
  | component
  | index
  | binding
  | descriptorSet
  | offset
  | xfbBuffer
  | xfbStride
  | noContraction
  | inputAttachmentIndex
  | alignment
  | unknown
  deriving DecidableEq

namespace DecorationKind

def members : List DecorationKind :=
  [.relaxedPrecision, .specId, .block, .bufferBlock, .rowMajor, .colMajor, .arrayStride,
   .matrixStride, .glslShared, .glslPacked, .cPacked, .builtin, .noPerspective, .flat, .patch,
   .centroid, .sample, .invariant, .restrict, .aliased, .volatile, .constant, .coherent,
   .nonWritable, .nonReadable, .uniform, .stream, .location, .component, .index, .binding,
   .descriptorSet, .offset, .xfbBuffer, .xfbStride, .noContraction, .inputAttachmentIndex,
   .alignment, .unknown]

def code : DecorationKind → Int
  | relaxedPrecision => 0
  | specId => 1
  | block => 2
  | bufferBlock => 3
  | rowMajor => 4
  | colMajor => 5
  | arrayStride => 6
  | matrixStride => 7
  | glslShared => 8
  | glslPacked => 9
  | cPacked => 10
  | builtin => 11
  | noPerspective => 13
  | flat => 14
  | patch => 15
  | centroid => 16
  | sample => 17
  | invariant => 18
  | restrict => 19
  | aliased => 20
  | volatile => 21
  | constant => 22
  | coherent => 23
  | nonWritable => 24
  | nonReadable => 25
  | uniform => 26
  | stream => 29
  | location => 30
  | component => 31
  | index => 32
  | binding => 33
  | descriptorSet => 34
  | offset => 35
  | xfbBuffer => 36
  | xfbStride => 37
  | noContraction => 42
  | inputAttachmentIndex => 43
  | alignment => 44
  | unknown => -1

def name : DecorationKind → String
  | relaxedPrecision => "RELAXED_PRECISION"
  | specId => "SPEC_ID"
  | block => "BLOCK"
  | bufferBlock => "BUFFER_BLOCK"
  | rowMajor => "ROW_MAJOR"
  | colMajor => "COL_MAJOR"
  | arrayStride => "ARRAY_STRIDE"
  | matrixStride => "MATRIX_STRIDE"
  | glslShared => "GLSL_SHARED"
  | glslPacked => "GLSL_PACKED"
  | cPacked => "C_PACKED"
  | builtin => "BUILTIN"
  | noPerspective => "NO_PERSPECTIVE"
  | flat => "FLAT"
  | patch => "PATCH"
  | centroid => "CENTROID"
  | sample => "SAMPLE"
  | invariant => "INVARIANT"
  | restrict => "RESTRICT"
  | aliased => "ALIASED"
  | volatile => "VOLATILE"
  | constant => "CONSTANT"
  | coherent => "COHERENT"
  | nonWritable => "NON_WRITABLE"
  | nonReadable => "NON_READABLE"
  | uniform => "UNIFORM"
  | stream => "STREAM"
  | location => "LOCATION"
  | component => "COMPONENT"
  | index => "INDEX"
  | binding => "BINDING"
  | descriptorSet => "DESCRIPTOR_SET"
  | offset => "OFFSET"
  | xfbBuffer => "XFB_BUFFER"
  | xfbStride => "XFB_STRIDE"
  | noContraction => "NO_CONTRACTION"
  | inputAttachmentIndex => "INPUT_ATTACHMENT_INDEX"
  | alignment => "ALIGNMENT"
  | unknown => "UNKNOWN"

end DecorationKind

instance : Numbered DecorationKind where
  family := "DecorationKind"
  members := DecorationKind.members
  code := DecorationKind.code
  name := DecorationKind.name
  mem_members a := by cases a <;> decide
  nodup_codes := by decide

end ShaderInterface
