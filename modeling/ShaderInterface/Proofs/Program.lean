import ShaderInterface.Module.Decode

namespace ShaderInterface

theorem exists_of_map_eq_ok {ε α β : Type} {x : Except ε α} {f : α → β} {b : β}
    (h : x.map f = .ok b) : ∃ a, x = .ok a ∧ f a = b := by
  cases x with
  | error fault => cases h
  | ok a => exact ⟨a, rfl, Except.ok.inj h⟩

namespace Frame

/-- What a frame says, whatever stands around it. -/
def read (bound : Nat) (f : Frame) : Except Fault (Option Instruction) :=
  (f.instruction? bound).result

theorem read_of_reading?_eq_none {f : Frame} (h : f.reading? = none) (bound : Nat) :
    f.read bound = .ok none := by
  rw [read, instruction?, h]
  rfl

theorem read_of_reading?_eq_some {f : Frame} {reading : Reading Instruction}
    (h : f.reading? = some reading) (bound : Nat) :
    f.read bound = (reading (f.cursor bound)).result.map fun p => some p.1 := by
  rw [read, instruction?, h]
  change ((reading (f.cursor bound) >>= fun p => return p.1) >>= fun i =>
    return some i : Traced (Option Instruction)).result = _
  rw [Traced.result_bind, Traced.result_bind]
  cases (reading (f.cursor bound)).result <;> rfl

/-- The instructions in a list of frames, in order. The first refusal decides. -/
def readAll (bound : Nat) : List Frame → Except Fault (List Instruction)
  | [] => .ok []
  | f :: rest =>
    match f.read bound with
    | .error fault => .error fault
    | .ok i? => (readAll bound rest).map (i?.toList ++ ·)

theorem exists_of_readAll_cons {bound : Nat} {f : Frame} {rest : List Frame}
    {instructions : List Instruction} (h : readAll bound (f :: rest) = .ok instructions) :
    ∃ i? others, f.read bound = .ok i? ∧ readAll bound rest = .ok others ∧
      instructions = i?.toList ++ others := by
  rw [readAll] at h
  cases hread : f.read bound with
  | error fault =>
    rw [hread] at h
    cases h
  | ok i? =>
    rw [hread] at h
    obtain ⟨others, hothers, he⟩ := exists_of_map_eq_ok h
    exact ⟨i?, others, rfl, hothers, he.symm⟩

end Frame

namespace Module

/-- What the instructions make of an empty table, one after the other. -/
def build (h : Header) (instructions : List Instruction) : Module :=
  instructions.foldl apply (blank h)

def program (words : List UInt32) : Except Fault (Header × List Instruction) :=
  match (Header.read words).result with
  | .error fault => .error fault
  | .ok (header, body) =>
    match Frame.readAll header.bound.toNat (Frame.split Header.size body).1,
      (Frame.split Header.size body).2 with
    | .error fault, _ => .error fault
    | .ok _, some fault => .error fault
    | .ok instructions, none => .ok (header, instructions)

theorem result_absorb (bound : Nat) (m : Module) (f : Frame) :
    (absorb bound m f).result = (f.read bound).map fun i? => i?.toList.foldl apply m := by
  rw [absorb, Traced.result_bind, Frame.read]
  cases (f.instruction? bound).result with
  | error fault => rfl
  | ok i? => cases i? <;> rfl

/-- Reading does not look at what has been gathered: a run is a reading of all frames and then one
step for each instruction. -/
theorem result_foldlM_absorb (bound : Nat) (m : Module) (frames : List Frame) :
    (frames.foldlM (absorb bound) m).result =
      (Frame.readAll bound frames).map fun instructions => instructions.foldl apply m := by
  induction frames generalizing m with
  | nil => rfl
  | cons f rest ih =>
    rw [List.foldlM_cons, Traced.result_bind, result_absorb, Frame.readAll]
    cases f.read bound with
    | error fault => rfl
    | ok i? =>
      change (rest.foldlM (absorb bound) (i?.toList.foldl apply m)).result = _
      rw [ih]
      cases Frame.readAll bound rest with
      | error fault => rfl
      | ok instructions => simp [Except.map, List.foldl_append]

theorem result_decode_of_read {words body : List UInt32} {h : Header}
    (hread : (Header.read words).result = .ok (h, body)) :
    (decode words).result =
      ((Frame.split Header.size body).1.foldlM (absorb h.bound.toNat) (blank h)).result.bind
        fun m => ((Frame.split Header.size body).2.map Except.error).getD (.ok m) := by
  rw [decode, Traced.bind_of_ok hread]
  dsimp only
  rw [Traced.result_bind]
  refine congrArg (Except.bind _) (funext fun m => ?_)
  cases (Frame.split Header.size body).2 with
  | some fault => rfl
  | none =>
    obtain ⟨header, ids, point?⟩ := m
    cases point? <;> rfl

theorem result_decode (words : List UInt32) :
    (decode words).result = (program words).map fun p => build p.1 p.2 := by
  cases hread : (Header.read words).result with
  | error fault => rw [decode, Traced.bind_of_error hread, program, hread]; rfl
  | ok p =>
    rw [result_decode_of_read hread, result_foldlM_absorb, program, hread]
    dsimp only
    cases Frame.readAll p.1.bound.toNat (Frame.split Header.size p.2).1 with
    | error fault => rfl
    | ok instructions => cases (Frame.split Header.size p.2).2 <;> rfl

/-- Words spell a program if they have a header, are whole instructions to the end, and all of
these can be read. -/
theorem program_eq_ok_iff {words : List UInt32} {h : Header} {instructions : List Instruction} :
    program words = .ok (h, instructions) ↔
      ∃ body frames, (Header.read words).result = .ok (h, body) ∧
        Frame.split Header.size body = (frames, none) ∧
        Frame.readAll h.bound.toNat frames = .ok instructions := by
  unfold program
  cases (Header.read words).result with
  | error fault =>
    constructor
    · nofun
    · rintro ⟨_, _, hread, -⟩
      cases hread
  | ok p =>
    obtain ⟨header, body⟩ := p
    constructor
    · intro hp
      dsimp only at hp
      cases hread : Frame.readAll header.bound.toNat (Frame.split Header.size body).1 with
      | error fault => simp only [hread, reduceCtorEq] at hp
      | ok all =>
        cases hrest : (Frame.split Header.size body).2 with
        | some fault => simp only [hread, hrest, reduceCtorEq] at hp
        | none =>
          simp only [hread, hrest] at hp
          cases hp
          exact ⟨body, _, rfl, Prod.ext rfl hrest, hread⟩
    · rintro ⟨_, frames, hheader, hsplit, hread⟩
      cases hheader
      simp only [hsplit, hread]

theorem apply_header (m : Module) (i : Instruction) : (m.apply i).header = m.header := by
  cases i <;> rfl

theorem build_header (h : Header) (instructions : List Instruction) :
    (build h instructions).header = h := by
  -- For any table in front, as the fold changes it.
  have hfold : ∀ m : Module, (instructions.foldl apply m).header = m.header := by
    induction instructions with
    | nil => exact fun _ => rfl
    | cons i rest ih => exact fun m => (ih (m.apply i)).trans (m.apply_header i)
  exact hfold (blank h)

theorem exists_program_of_decode {words : List UInt32} {m : Module}
    (h : (decode words).result = .ok m) :
    ∃ instructions, program words = .ok (m.header, instructions) ∧
      m = build m.header instructions := by
  rw [result_decode] at h
  obtain ⟨⟨header, instructions⟩, hprogram, rfl⟩ := exists_of_map_eq_ok h
  have hheader : (build header instructions).header = header := build_header header instructions
  exact ⟨instructions, by rw [hheader, hprogram], by rw [hheader]⟩

end Module

end ShaderInterface
