import ShaderInterface.Fault

namespace ShaderInterface

/-- A module as it is handed over: the bytes of a file, or words already read. -/
inductive ModuleData
  | bytes (data : List UInt8)
  | words (values : List Int)

namespace ModuleData

def loadBytes (order : ByteOrder) (data : List UInt8) : Except Fault (List UInt32) :=
  if data.length % 4 = 0 then .ok (Word.readAll order data)
  else .error (.partialWord data.length)

def loadWord (value : Int) : Except Fault UInt32 :=
  match Word.ofInt? value with
  | some w => .ok w
  | none => .error (.wordOutOfRange value)

/-- The words of a module. The byte order counts for bytes only. -/
def load (order : String) : ModuleData → Except Fault (List UInt32)
  | bytes data =>
    match ByteOrder.ofName? order with
    | some o => loadBytes o data
    | none => .error (.unknownByteOrder order)
  | words values => values.mapM loadWord

end ModuleData

end ShaderInterface
