namespace ShaderInterface.Utf8

/-- A character begun but not finished: the bytes still wanted, the range of the next one, and
the number read so far. -/
structure Pending where
  wanted : Nat
  low : UInt8
  high : UInt8
  number : Nat
  deriving DecidableEq

def replacement : Char := '\uFFFD'

/-- The start of a character. The range of the second byte rules out long forms, surrogates and
numbers past the last character. -/
def lead (b : UInt8) : List Char × Option Pending :=
  let n := b.toNat
  if n < 0x80 then ([Char.ofNat n], none)
  else if n < 0xC2 then ([replacement], none)
  else if n < 0xE0 then ([], some ⟨1, 0x80, 0xBF, n - 0xC0⟩)
  else if n < 0xF0 then
    ([], some ⟨2, if n = 0xE0 then 0xA0 else 0x80, if n = 0xED then 0x9F else 0xBF, n - 0xE0⟩)
  else if n < 0xF5 then
    ([], some ⟨3, if n = 0xF0 then 0x90 else 0x80, if n = 0xF4 then 0x8F else 0xBF, n - 0xF0⟩)
  else ([replacement], none)

/-- One byte more. A byte outside the range ends the pending part, which is replaced as a whole,
and starts anew. -/
def step : Option Pending → UInt8 → List Char × Option Pending
  | none, b => lead b
  | some p, b =>
    if p.low ≤ b ∧ b ≤ p.high then
      let number := 64 * p.number + (b.toNat - 0x80)
      if p.wanted ≤ 1 then ([Char.ofNat number], none)
      else ([], some ⟨p.wanted - 1, 0x80, 0xBF, number⟩)
    else
      let (out, state) := lead b
      (replacement :: out, state)

def finish : Option Pending → List Char
  | none => []
  | some _ => [replacement]

def decodeFrom (state : Option Pending) : List UInt8 → List Char
  | [] => finish state
  | b :: rest => (step state b).1 ++ decodeFrom (step state b).2 rest

/-- The text of a byte string, with one replacement for each longest ill-formed part. -/
def decode (bytes : List UInt8) : String :=
  String.ofList (decodeFrom none bytes)

end ShaderInterface.Utf8
