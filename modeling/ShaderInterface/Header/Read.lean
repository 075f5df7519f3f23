import ShaderInterface.Header
import ShaderInterface.Traced

namespace ShaderInterface.Header

open Traced

def accept (h : Header) (body : List UInt32) : Traced (Header × List UInt32) := do
  report [.headerRead h]
  return (h, body)

/-- The header and the words behind it. A swapped magic number tells that every word is turned. -/
def read : List UInt32 → Traced (Header × List UInt32)
  | first :: version :: generator :: bound :: schema :: body =>
    if first = magic then accept ⟨version, generator, bound, schema⟩ body
    else if first = Word.swap magic then do
      report [.byteOrderFlipped]
      accept ⟨Word.swap version, Word.swap generator, Word.swap bound, Word.swap schema⟩
        (body.map Word.swap)
    else fail (.badMagic first)
  | words => fail (.missingHeader words.length)

end ShaderInterface.Header
