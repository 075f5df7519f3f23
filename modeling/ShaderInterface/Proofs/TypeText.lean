import Mathlib.Data.List.Basic
import ShaderInterface.ShaderType.Basic

namespace ShaderInterface

namespace Decimal

/-- Ten digits, the shortest way, and a minus sign in front of a negative number. -/
def write : Int → List Char
  | .ofNat n => Nat.toDigits 10 n
  | .negSucc n => '-' :: Nat.toDigits 10 (n + 1)

/-- At least one digit, and none in front that could be left out. -/
def Shortest (digits : List Char) : Prop :=
  digits ≠ [] ∧ digits.all Char.isDigit = true ∧ (digits.head? = some '0' → digits = ['0'])

instance (digits : List Char) : Decidable (Shortest digits) :=
  inferInstanceAs (Decidable (_ ∧ _ ∧ _))

def readNat? (digits : List Char) : Option Nat :=
  if Shortest digits then some (Nat.ofDigitChars 10 digits 0) else none

def read? : List Char → Option Int
  | '-' :: digits =>
    match readNat? digits with
    | some (n + 1) => some (.negSucc n)
    | _ => none
  | digits => (readNat? digits).map Int.ofNat

variable {digits text : List Char} {n : Nat} {i : Int}

theorem isDigit_of_mem_toDigits {c : Char} (h : c ∈ Nat.toDigits 10 n) : c.isDigit = true :=
  Nat.isDigit_of_mem_toDigits (by decide) (by decide) h

theorem shortest_toDigits (n : Nat) : Shortest (Nat.toDigits 10 n) := by
  refine ⟨Nat.toDigits_ne_nil, List.all_eq_true.2 fun c => isDigit_of_mem_toDigits,
    fun hhead => ?_⟩
  induction n using Nat.base_induction 10 (by decide) with
  | single m hm =>
    rw [Nat.toDigits_of_lt_base hm, List.head?_cons] at hhead
    rw [Nat.toDigits_of_lt_base hm, Option.some.inj hhead]
  | digit m k hk hm ih =>
    -- The first digit is that of `m`, which would then be zero.
    rw [← Nat.toDigits_append_toDigits (by decide) hm hk,
      List.head?_append_of_ne_nil _ Nat.toDigits_ne_nil] at hhead
    have hzero := congrArg (fun l => Nat.ofDigitChars 10 l 0) (ih hhead)
    simp only [Nat.ofDigitChars_ten_toDigits] at hzero
    exact absurd hzero (Nat.ne_of_gt hm)

theorem digitChar_of_isDigit {c : Char} (h : c.isDigit = true) :
    Nat.digitChar (c.toNat - '0'.toNat) = c ∧ c.toNat - '0'.toNat < 10 := by
  have hbounds : 48 ≤ c.toNat ∧ c.toNat ≤ 57 := by
    simpa [Char.isDigit, UInt32.le_iff_toNat_le] using h
  have hlt : c.toNat - 48 < 10 := by omega
  refine ⟨Char.toNat_inj.1 ?_, hlt⟩
  show (Nat.digitChar (c.toNat - 48)).toNat = c.toNat
  rw [Nat.toNat_digitChar_of_lt_ten hlt]
  omega

theorem toDigits_ofDigitChars_of_pos (h : ∀ c ∈ digits, c.isDigit = true) (hpos : 0 < n) :
    Nat.toDigits 10 (Nat.ofDigitChars 10 digits n) = Nat.toDigits 10 n ++ digits := by
  induction digits generalizing n with
  | nil => rw [Nat.ofDigitChars_nil, List.append_nil]
  | cons c rest ih =>
    obtain ⟨hc, hrest⟩ := List.forall_mem_cons.1 h
    obtain ⟨hchar, hlt⟩ := digitChar_of_isDigit hc
    rw [Nat.ofDigitChars_cons, ih hrest (by omega),
      ← Nat.toDigits_append_toDigits (by decide) hpos hlt, Nat.toDigits_of_lt_base hlt, hchar,
      List.append_assoc, List.singleton_append]

theorem toDigits_ofDigitChars (h : Shortest digits) :
    Nat.toDigits 10 (Nat.ofDigitChars 10 digits 0) = digits := by
  obtain ⟨hne, hdigits, hzero⟩ := h
  obtain ⟨c, rest, rfl⟩ := List.exists_cons_of_ne_nil hne
  obtain ⟨hc, hrest⟩ := List.forall_mem_cons.1 (List.all_eq_true.1 hdigits)
  obtain ⟨hchar, hlt⟩ := digitChar_of_isDigit hc
  by_cases hfirst : c = '0'
  · rw [hzero (congrArg some hfirst)]
    rfl
  · have hpos : 0 < c.toNat - '0'.toNat := by
      rw [Nat.pos_iff_ne_zero]
      intro hvalue
      rw [hvalue] at hchar
      exact hfirst hchar.symm
    rw [Nat.ofDigitChars_cons, Nat.mul_zero, Nat.zero_add,
      toDigits_ofDigitChars_of_pos hrest hpos, Nat.toDigits_of_lt_base hlt, hchar,
      List.singleton_append]

theorem readNat?_eq_some_iff : readNat? digits = some n ↔ digits = Nat.toDigits 10 n := by
  constructor
  · intro h
    rw [readNat?] at h
    split at h
    · rename_i hshort
      rw [← Option.some.inj h, toDigits_ofDigitChars hshort]
    · cases h
  · rintro rfl
    rw [readNat?, if_pos (shortest_toDigits n), Nat.ofDigitChars_ten_toDigits]

theorem read?_toDigits (n : Nat) : read? (Nat.toDigits 10 n) = some n := by
  have hread := readNat?_eq_some_iff.2 (rfl : Nat.toDigits 10 n = _)
  unfold read?
  split
  · rename_i digits hminus
    have hdigit := isDigit_of_mem_toDigits (hminus ▸ List.mem_cons_self : '-' ∈ Nat.toDigits 10 n)
    exact absurd hdigit (by decide)
  · rw [hread]
    rfl

theorem read?_eq_some_iff : read? text = some i ↔ text = write i := by
  constructor
  · intro h
    unfold read? at h
    split at h
    · split at h
      · rename_i n hread
        cases h
        rw [readNat?_eq_some_iff.1 hread, write]
      · cases h
    · obtain ⟨n, hread, rfl⟩ := Option.map_eq_some_iff.1 h
      exact readNat?_eq_some_iff.1 hread
  · rintro rfl
    cases i with
    | ofNat n => exact read?_toDigits n
    | negSucc n => rw [write, read?, readNat?_eq_some_iff.2 rfl]

example : read? ['-', '1', '2'] = some (-12) ∧ read? ['0', '2'] = none ∧
    read? ['-', '0'] = none := by
  decide

theorem toList_toString (i : Int) : (toString i).toList = write i := by
  cases i with
  | ofNat n => exact Nat.toList_repr
  | negSucc n =>
    show ("-" ++ Nat.repr (n + 1)).toList = _
    rw [String.toList_append, Nat.toList_repr]
    rfl

theorem bracket_notMem_write (i : Int) : '[' ∉ write i := by
  have hdigits (n : Nat) : '[' ∉ Nat.toDigits 10 n := fun h =>
    absurd (isDigit_of_mem_toDigits h) (by decide)
  cases i with
  | ofNat n => exact hdigits n
  | negSucc n => simpa [write] using hdigits (n + 1)

end Decimal

namespace BaseType

theorem mem_members (b : BaseType) : b ∈ members := by
  cases b with
  | scalar kind => cases kind <;> decide
  | vector kind size => cases kind <;> cases size <;> decide
  | image shape => cases shape <;> decide
  | sampler shape => cases shape <;> decide
  | shadowSampler shape comparable => cases shape <;> cases comparable <;> decide

theorem ofName?_name (b : BaseType) : ofName? b.name = some b := by
  have hall : ∀ b ∈ members, ofName? b.name = some b := by decide +kernel
  exact hall b (mem_members b)

theorem ofName?_eq_some_iff {text : String} {b : BaseType} :
    ofName? text = some b ↔ text = b.name := by
  constructor
  · intro h
    have hname := List.find?_some h
    exact (eq_of_beq hname).symm
  · rintro rfl
    exact ofName?_name b

theorem bracket_notMem_name (b : BaseType) : '[' ∉ b.name.toList := by
  have hall : ∀ b ∈ members, '[' ∉ b.name.toList := by decide +kernel
  exact hall b (mem_members b)

end BaseType

namespace ShaderType

/-- A base type under array levels of these lengths, outermost first. -/
def ofLengths (type : BaseType) (lengths : List Int) : ShaderType :=
  lengths.foldr (fun n element => .array element n) (.base type)

def closed (n : Int) : List Char :=
  Decimal.write n ++ [']']

def readClosed? (part : List Char) : Option Int :=
  if part.getLast? = some ']' then Decimal.read? part.dropLast else none

/-- Reads a type from its text: the name in front of the first opening bracket, then a length
behind each. -/
def ofText? (text : String) : Option ShaderType :=
  match text.toList.splitOn '[' with
  | [] => none
  | name :: parts => do
    let type ← BaseType.ofName? (String.ofList name)
    return ofLengths type (← parts.mapM readClosed?)

variable {part : List Char} {parts : List (List Char)} {lengths : List Int} {n : Int}

theorem ofLengths_innermost_lengths (t : ShaderType) : ofLengths t.innermost t.lengths = t := by
  induction t with
  | base type => rfl
  | array element n ih => exact congrArg (array · n) ih

theorem innermost_ofLengths (type : BaseType) (lengths : List Int) :
    (ofLengths type lengths).innermost = type := by
  induction lengths with
  | nil => rfl
  | cons n rest ih => exact ih

theorem lengths_ofLengths (type : BaseType) (lengths : List Int) :
    (ofLengths type lengths).lengths = lengths := by
  induction lengths with
  | nil => rfl
  | cons n rest ih => exact congrArg (n :: ·) ih

theorem readClosed?_eq_some_iff : readClosed? part = some n ↔ part = closed n := by
  constructor
  · intro h
    rw [readClosed?] at h
    split at h
    · rename_i hlast
      obtain ⟨digits, rfl⟩ := List.getLast?_eq_some_iff.1 hlast
      rw [List.dropLast_concat] at h
      rw [closed, ← Decimal.read?_eq_some_iff.1 h]
    · cases h
  · rintro rfl
    have hlast : (closed n).getLast? = some ']' := List.getLast?_concat
    rw [readClosed?, if_pos hlast, closed, List.dropLast_concat]
    exact Decimal.read?_eq_some_iff.2 rfl

theorem mapM_readClosed?_eq_some_iff :
    parts.mapM readClosed? = some lengths ↔ parts = lengths.map closed := by
  induction parts generalizing lengths with
  | nil => cases lengths <;> simp
  | cons part rest ih =>
    cases lengths <;> simp [Option.bind_eq_some_iff, readClosed?_eq_some_iff, ih]

theorem toList_format (t : ShaderType) :
    t.format.toList = t.innermost.name.toList ++ t.lengths.flatMap fun n => '[' :: closed n := by
  rw [format, String.toList_append, String.toList_join, List.flatMap_map]
  refine congrArg (_ ++ List.flatMap · t.lengths) (funext fun n => ?_)
  show ("[" ++ toString n ++ "]").toList = _
  rw [String.toList_append, String.toList_append, Decimal.toList_toString]
  rfl

theorem intercalate_bracket (name : List Char) (parts : List (List Char)) :
    ['['].intercalate (name :: parts) = name ++ parts.flatMap ('[' :: ·) := by
  induction parts generalizing name with
  | nil => simp
  | cons part rest ih => simp [List.intercalate_cons_cons, ih]

/-- The text of a type falls into its name and its lengths at the opening brackets, and no other
text falls into the same. -/
theorem splitOn_eq_iff {text : String} {t : ShaderType} :
    text.toList.splitOn '[' = t.innermost.name.toList :: t.lengths.map closed ↔
      text = t.format := by
  have hformat : t.format.toList =
      ['['].intercalate (t.innermost.name.toList :: t.lengths.map closed) := by
    rw [toList_format, intercalate_bracket, List.flatMap_map]
  constructor
  · intro h
    rw [← String.toList_inj, hformat, ← h, List.intercalate_splitOn]
  · rintro rfl
    rw [hformat]
    refine List.splitOn_intercalate '[' ?_ (List.cons_ne_nil _ _)
    refine List.forall_mem_cons.2 ⟨t.innermost.bracket_notMem_name, List.forall_mem_map.2 ?_⟩
    intro n _
    simpa [closed] using Decimal.bracket_notMem_write n

theorem ofText?_eq_some_iff {text : String} {t : ShaderType} :
    ofText? text = some t ↔ text = t.format := by
  rw [← splitOn_eq_iff, ofText?]
  cases text.toList.splitOn '[' with
  | nil => simp
  | cons name parts =>
    simp only [Option.bind_eq_bind, Option.pure_def, Option.bind_eq_some_iff, Option.some.injEq,
      BaseType.ofName?_eq_some_iff, mapM_readClosed?_eq_some_iff]
    constructor
    · rintro ⟨type, hname, lengths, hparts, rfl⟩
      rw [innermost_ofLengths, lengths_ofLengths, ← hparts, ← hname, String.toList_ofList]
    · intro h
      obtain ⟨rfl, rfl⟩ := List.cons.inj h
      exact ⟨_, String.ofList_toList, _, rfl, t.ofLengths_innermost_lengths⟩

/-- The text of a type is read back as the type and no other text is, so no two types share one. -/
theorem format_unambiguous :
    (∀ t : ShaderType, t.format.toList =
      t.innermost.name.toList ++ t.lengths.flatMap fun n => '[' :: Decimal.write n ++ [']']) ∧
    (∀ text t, ofText? text = some t ↔ text = t.format) ∧
    ∀ a b : ShaderType, a.format = b.format → a = b := by
  refine ⟨toList_format, fun _ _ => ofText?_eq_some_iff, fun a b h => ?_⟩
  have hread := ofText?_eq_some_iff.2 h
  rw [ofText?_eq_some_iff.2 rfl] at hread
  exact Option.some.inj hread

end ShaderType

end ShaderInterface
