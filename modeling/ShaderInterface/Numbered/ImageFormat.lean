import ShaderInterface.Numbered.Basic

namespace ShaderInterface

inductive ImageFormat
  | unknown
  | rgba32f
  | rgba16f
  | r32f
  | rgba8
  | rgba8Snorm
  | rg32f
  | rg16f
  | r11fG11fB10f
  | r16f
  | rgba16
  | rgb10A2
  | rg16
  | rg8
  | r16
  | r8
  | rgba16Snorm
  | rg16Snorm
  | rg8Snorm
  | r16Snorm
  | r8Snorm
  | rgba32i
  | rgba16i
  | rgba8i
  | r32i
  | rg32i
  | rg16i
  | rg8i
  | r16i
  | r8i
  | rgba32ui
  | rgba16ui
  | rgba8ui
  | r32ui
  | rgb10a2ui
  | rg32ui
  | rg16ui
  | rg8ui
  | r16ui
  | r8ui
  | r64ui
  | r64i
  deriving DecidableEq

namespace ImageFormat

def members : List ImageFormat :=
  [.unknown, .rgba32f, .rgba16f, .r32f, .rgba8, .rgba8Snorm, .rg32f, .rg16f, .r11fG11fB10f, .r16f,
   .rgba16, .rgb10A2, .rg16, .rg8, .r16, .r8, .rgba16Snorm, .rg16Snorm, .rg8Snorm, .r16Snorm,
   .r8Snorm, .rgba32i, .rgba16i, .rgba8i, .r32i, .rg32i, .rg16i, .rg8i, .r16i, .r8i, .rgba32ui,
   .rgba16ui, .rgba8ui, .r32ui, .rgb10a2ui, .rg32ui, .rg16ui, .rg8ui, .r16ui, .r8ui, .r64ui,
   .r64i]

def code : ImageFormat → Int
  | unknown => 0
  | rgba32f => 1
  | rgba16f => 2
  | r32f => 3
  | rgba8 => 4
  | rgba8Snorm => 5
  | rg32f => 6
  | rg16f => 7
  | r11fG11fB10f => 8
  | r16f => 9
  | rgba16 => 10
  | rgb10A2 => 11
  | rg16 => 12
  | rg8 => 13
  | r16 => 14
  | r8 => 15
  | rgba16Snorm => 16
  | rg16Snorm => 17
  | rg8Snorm => 18
  | r16Snorm => 19
  | r8Snorm => 20
  | rgba32i => 21
  | rgba16i => 22
  | rgba8i => 23
  | r32i => 24
  | rg32i => 25
  | rg16i => 26
  | rg8i => 27
  | r16i => 28
  | r8i => 29
  | rgba32ui => 30
  | rgba16ui => 31
  | rgba8ui => 32
  | r32ui => 33
  | rgb10a2ui => 34
  | rg32ui => 35
  | rg16ui => 36
  | rg8ui => 37
  | r16ui => 38
  | r8ui => 39
  | r64ui => 40
  | r64i => 41

def name : ImageFormat → String
  | unknown => "UNKNOWN"
  | rgba32f => "RGBA32F"
  | rgba16f => "RGBA16F"
  | r32f => "R32F"
  | rgba8 => "RGBA8"
  | rgba8Snorm => "RGBA8_SNORM"
  | rg32f => "RG32F"
  | rg16f => "RG16F"
  | r11fG11fB10f => "R11F_G11F_B10F"
  | r16f => "R16F"
  | rgba16 => "RGBA16"
  | rgb10A2 => "RGB10_A2"
  | rg16 => "RG16"
  | rg8 => "RG8"
  | r16 => "R16"
  | r8 => "R8"
  | rgba16Snorm => "RGBA16_SNORM"
  | rg16Snorm => "RG16_SNORM"
  | rg8Snorm => "RG8_SNORM"
  | r16Snorm => "R16_SNORM"
  | r8Snorm => "R8_SNORM"
  | rgba32i => "RGBA32I"
  | rgba16i => "RGBA16I"
  | rgba8i => "RGBA8I"
  | r32i => "R32I"
  | rg32i => "RG32I"
  | rg16i => "RG16I"
  | rg8i => "RG8I"
  | r16i => "R16I"
  | r8i => "R8I"
  | rgba32ui => "RGBA32UI"
  | rgba16ui => "RGBA16UI"
  | rgba8ui => "RGBA8UI"
  | r32ui => "R32UI"
  | rgb10a2ui => "RGB10A2UI"
  | rg32ui => "RG32UI"
  | rg16ui => "RG16UI"
  | rg8ui => "RG8UI"
  | r16ui => "R16UI"
  | r8ui => "R8UI"
  | r64ui => "R64UI"
  | r64i => "R64I"

end ImageFormat

instance : Numbered ImageFormat where
  family := "ImageFormat"
  members := ImageFormat.members
  code := ImageFormat.code
  name := ImageFormat.name
  mem_members a := by cases a <;> decide
  nodup_codes := by decide

end ShaderInterface
