import ShaderInterface.Word

namespace ShaderInterface.Word

theorem toNat_ofBytes (a b c d : UInt8) : (ofBytes a b c d).toNat =
    a.toNat + 256 * b.toNat + 65536 * c.toNat + 16777216 * d.toNat := by
  have ha := a.toNat_lt
  have hb := b.toNat_lt
  have hc := c.toNat_lt
  have hd := d.toNat_lt
  simp only [ofBytes, UInt32.toNat_add, UInt32.toNat_mul, UInt8.toNat_toUInt32, UInt32.reduceToNat]
  omega

theorem bytes_ofBytes (a b c d : UInt8) : bytes (ofBytes a b c d) = [a, b, c, d] := by
  have ha := a.toNat_lt
  have hb := b.toNat_lt
  have hc := c.toNat_lt
  have hd := d.toNat_lt
  simp only [bytes, List.cons.injEq, and_true, ← UInt8.toNat_inj, UInt32.toNat_toUInt8,
    UInt32.toNat_shiftRight, UInt32.reduceToNat, Nat.reduceMod, Nat.shiftRight_eq_div_pow,
    toNat_ofBytes]
  omega

theorem exists_ofBytes (w : UInt32) : ∃ a b c d, w = ofBytes a b c d := by
  refine ⟨w.toUInt8, (w >>> 8).toUInt8, (w >>> 16).toUInt8, (w >>> 24).toUInt8, ?_⟩
  have hw := w.toNat_lt
  simp only [← UInt32.toNat_inj, toNat_ofBytes, UInt32.toNat_toUInt8, UInt32.toNat_shiftRight,
    UInt32.reduceToNat, Nat.reduceMod, Nat.shiftRight_eq_div_pow]
  omega

@[simp] theorem swap_ofBytes (a b c d : UInt8) : swap (ofBytes a b c d) = ofBytes d c b a := by
  have h := bytes_ofBytes a b c d
  simp only [bytes, List.cons.injEq, and_true] at h
  obtain ⟨ha, hb, hc, hd⟩ := h
  rw [swap, ha, hb, hc, hd]

@[simp] theorem swap_swap (w : UInt32) : swap (swap w) = w := by
  obtain ⟨a, b, c, d, rfl⟩ := exists_ofBytes w
  rw [swap_ofBytes, swap_ofBytes]

theorem map_swap_map_swap (words : List UInt32) : (words.map swap).map swap = words := by
  rw [List.map_map, show swap ∘ swap = id from funext swap_swap, List.map_id]

@[simp] theorem length_write (order : ByteOrder) (w : UInt32) : (write order w).length = 4 := by
  cases order <;> simp [write, bytes]

theorem read_of_ne {order other : ByteOrder} (h : order ≠ other) (a b c d : UInt8) :
    read other a b c d = swap (read order a b c d) := by
  cases order <;> cases other <;> simp_all [read]

theorem read_reverse (order : ByteOrder) (a b c d : UInt8) :
    read order d c b a = swap (read order a b c d) := by
  cases order <;> simp [read]

theorem write_read (order : ByteOrder) (a b c d : UInt8) :
    write order (read order a b c d) = [a, b, c, d] := by
  cases order <;> simp [write, read, bytes_ofBytes]

theorem readAll_write_append (order : ByteOrder) (w : UInt32) (rest : List UInt8) :
    readAll order (write order w ++ rest) = w :: readAll order rest := by
  obtain ⟨a, b, c, d, rfl⟩ := exists_ofBytes w
  cases order <;> simp [write, bytes_ofBytes, readAll, read]

theorem readAll_writeAll (order : ByteOrder) (words : List UInt32) :
    readAll order (writeAll order words) = words := by
  induction words with
  | nil => rfl
  | cons w rest ih =>
    rw [writeAll, List.flatMap_cons, readAll_write_append]
    exact congrArg (w :: ·) ih

theorem length_lt_four {data : List UInt8}
    (h : ∀ a b c d rest, data = a :: b :: c :: d :: rest → False) : data.length < 4 := by
  match data with
  | [] | [_] | [_, _] | [_, _, _] => simp
  | a :: b :: c :: d :: rest => exact (h a b c d rest rfl).elim

/-- Whole words are written back as the bytes they were read from. -/
theorem writeAll_readAll (order : ByteOrder) (data : List UInt8) (h : data.length % 4 = 0) :
    writeAll order (readAll order data) = data := by
  fun_induction readAll order data with
  | case1 a b c d rest ih =>
    simp only [List.length_cons] at h
    rw [writeAll, List.flatMap_cons, write_read]
    change a :: b :: c :: d :: writeAll order (readAll order rest) = _
    rw [ih (by omega)]
  | case2 data hshort =>
    have hlen := length_lt_four hshort
    have hnil : data = [] := List.length_eq_zero_iff.1 (by omega)
    rw [hnil]
    rfl

theorem length_writeAll (order : ByteOrder) (words : List UInt32) :
    (writeAll order words).length = 4 * words.length := by
  induction words with
  | nil => rfl
  | cons w rest ih =>
    rw [writeAll] at ih ⊢
    rw [List.flatMap_cons, List.length_append, ih, length_write, List.length_cons]
    omega

theorem length_flatMap_bytes (words : List UInt32) :
    (words.flatMap bytes).length = 4 * words.length :=
  length_writeAll .little words

/-- The wrong order turns every word. -/
theorem readAll_of_ne {order other : ByteOrder} (h : order ≠ other) (data : List UInt8) :
    readAll other data = (readAll order data).map swap := by
  fun_induction readAll order data with
  | case1 a b c d rest ih => rw [readAll, ih, List.map_cons, read_of_ne h]
  | case2 data hshort => rw [readAll.eq_2 other data hshort, List.map_nil]

/-- The bytes with every group of four backwards; up to three bytes at the end stay. -/
def reverseGroups : List UInt8 → List UInt8
  | a :: b :: c :: d :: rest => d :: c :: b :: a :: reverseGroups rest
  | rest => rest

@[simp] theorem length_reverseGroups (data : List UInt8) :
    (reverseGroups data).length = data.length := by
  fun_induction reverseGroups data with
  | case1 a b c d rest ih => simp only [List.length_cons, ih]
  | case2 => rfl

theorem readAll_reverseGroups (order : ByteOrder) (data : List UInt8) :
    readAll order (reverseGroups data) = (readAll order data).map swap := by
  fun_induction reverseGroups data with
  | case1 a b c d rest ih => rw [readAll, readAll, ih, List.map_cons, read_reverse]
  | case2 data hshort => rw [readAll.eq_2 order data hshort, List.map_nil]

end ShaderInterface.Word
