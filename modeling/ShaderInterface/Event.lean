import ShaderInterface.Header
import ShaderInterface.Numbered.ExecutionModel
import ShaderInterface.TypeDecl

namespace ShaderInterface

/-- The numberings in which an unknown code is read as `unknown`. -/
inductive OpenNumbering
  | executionModel
  | storageClass
  | decorationKind
  deriving DecidableEq

def OpenNumbering.title : OpenNumbering → String
  | executionModel => "execution model"
  | storageClass => "storage class"
  | decorationKind => "decoration"

inductive Level
  | debug
  | info
  | warning
  deriving DecidableEq

namespace Level

def rank : Level → Int
  | debug => 10
  | info => 20
  | warning => 30

def name : Level → String
  | debug => "DEBUG"
  | info => "INFO"
  | warning => "WARNING"

end Level

inductive Event
  | byteOrderFlipped
  | headerRead (header : Header)
  | unknownCode (numbering : OpenNumbering) (code : Int)
  | typeRedefined (id : UInt32) (new old : TypeDecl)
  | variableRedefined (id : UInt32)
  | constantRedefined (id : UInt32)
  | entryPointReplaced (name : String)
  | instructionsRead (decoded skipped : Nat)
  | noEntryPoint
  | locationMissing (storage : StorageClass) (id : Nat)
  | bindingMissing (id : Nat)
  | notADescriptor (name? : Option String)
  | reflected (model : ExecutionModel) (name : String) (inputs outputs uniforms blocks : Nat)
  deriving DecidableEq

namespace Event

def level : Event → Level
  | typeRedefined _ _ _ | variableRedefined _ | constantRedefined _ | noEntryPoint => .warning
  | reflected _ _ _ _ _ _ => .info
  | _ => .debug

def channel : Event → String
  | byteOrderFlipped | headerRead _ => "spvreflect.header"
  | unknownCode _ _ => "spvreflect.enums"
  | typeRedefined _ _ _ | variableRedefined _ | constantRedefined _ | entryPointReplaced _
  | instructionsRead _ _ | noEntryPoint => "spvreflect.decoder"
  | locationMissing _ _ | bindingMissing _ | notADescriptor _
  | reflected _ _ _ _ _ _ => "spvreflect.reflection"

def message : Event → String
  | byteOrderFlipped => "Byte-swapped magic number, flipping byte order"
  | headerRead h =>
    s!"Header: version {h.majorVersion}.{h.minorVersion}, "
      ++ s!"generator {Word.hex h.generator}, bound {h.bound}"
  | unknownCode numbering code => s!"Unknown {numbering.title} {code}"
  | typeRedefined id new old => s!"Id {id} redefined as {new.describe} (was {old.describe})"
  | variableRedefined id => s!"Id {id} redefined as variable"
  | constantRedefined id => s!"Id {id} redefined as constant"
  | entryPointReplaced name => s!"Multiple entry points, using {name}"
  | instructionsRead decoded skipped => s!"Decoded {decoded} instructions, skipped {skipped}"
  | noEntryPoint => "Module has no entry point"
  | locationMissing storage id => s!"Skipping {storage.name} variable {id} without location"
  | bindingMissing id => s!"Skipping variable {id} without binding and descriptor set"
  | notADescriptor name? =>
    "Uniform " ++ name?.getD "None" ++ " is not an opaque resource, not a descriptor"
  | reflected model name inputs outputs uniforms blocks =>
    s!"Reflected {model.name} entry point {name}: {inputs} inputs, {outputs} outputs, "
      ++ s!"{uniforms} uniforms, {blocks} uniform blocks"

/-- The events of at least a rank. A minimum of 0 sets none, which leaves the usual one:
warnings. -/
def shown (minimum : Int) (log : List Event) : List Event :=
  let least := if minimum = 0 then Level.warning.rank else minimum
  log.filter fun e => least ≤ e.level.rank

def render (e : Event) : String :=
  s!"{e.level.name} {e.channel}: {e.message}"

end Event

end ShaderInterface
