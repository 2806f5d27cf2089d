import StripTuner.Lib.Bytes

/-!
# Flash regions

The content of a flash region as a byte at every offset, with reads, writes and erases of a range.
-/

namespace FlashRegion

/-- The byte at every offset of the region. -/
abbrev Content : Type := Nat → UInt8

/-- The `len` bytes from offset `off`. -/
def read (f : Content) (off len : Nat) : List UInt8 := (List.range len).map fun i => f (off + i)

/-- The range `[off, off + len)` set to `0xFF`. -/
def erase (f : Content) (off len : Nat) : Content := fun i =>
  if off ≤ i ∧ i < off + len then 0xFF else f i

/-- The bytes stored from offset `off`. -/
def write (f : Content) (off : Nat) (bytes : List UInt8) : Content := fun i =>
  if off ≤ i ∧ i < off + bytes.length then bytes.getD (i - off) 0 else f i

/-- Every byte of the range is `0xFF`. -/
def Erased (f : Content) (off len : Nat) : Prop := ∀ i, off ≤ i → i < off + len → f i = 0xFF

/-- The contents differ at most in the range. -/
def SameOutside (f g : Content) (off len : Nat) : Prop :=
  ∀ i, i < off ∨ off + len ≤ i → g i = f i

@[simp] theorem length_read (f : Content) (off len : Nat) : (read f off len).length = len := by
  simp [read]

theorem getElem_read {f : Content} {off len i : Nat} (h : i < (read f off len).length) :
    (read f off len)[i] = f (off + i) := by
  simp [read]

theorem take_read (f : Content) (off : Nat) {m n : Nat} (h : m ≤ n) :
    (read f off n).take m = read f off m := by
  unfold read
  rw [← List.map_take, List.take_range, Nat.min_eq_left h]

theorem read_congr {f g : Content} {off len : Nat} (h : ∀ i, i < len → f (off + i) = g (off + i)) :
    read f off len = read g off len :=
  List.map_congr_left fun i hi => h i (List.mem_range.mp hi)

/-- A read that does not meet the changed range gives the same bytes. -/
theorem SameOutside.read_eq {f g : Content} {off len off' len' : Nat}
    (h : SameOutside f g off len) (hd : off' + len' ≤ off ∨ off + len ≤ off') :
    read g off' len' = read f off' len' :=
  read_congr fun i hi => h (off' + i) (by omega)

theorem erased_erase (f : Content) (off len : Nat) : Erased (erase f off len) off len :=
  fun i hi hi' => by rw [erase, if_pos ⟨hi, hi'⟩]

theorem sameOutside_erase (f : Content) (off len : Nat) : SameOutside f (erase f off len) off len :=
  fun i hi => by rw [erase, if_neg (by omega)]

theorem sameOutside_write (f : Content) (off : Nat) (bytes : List UInt8) :
    SameOutside f (write f off bytes) off bytes.length :=
  fun i hi => by rw [write, if_neg (by omega)]

theorem read_erased {f : Content} {off len off' len' : Nat} (h : Erased f off len)
    (hin : off ≤ off' ∧ off' + len' ≤ off + len) :
    read f off' len' = List.replicate len' 0xFF := by
  refine List.ext_getElem (by simp) fun i hi hi' => ?_
  have hlen : i < len' := by simpa using hi
  rw [getElem_read, List.getElem_replicate]
  exact h _ (by omega) (by omega)

theorem read_write_self (f : Content) (off : Nat) (bytes : List UInt8) :
    read (write f off bytes) off bytes.length = bytes := by
  refine List.ext_getElem (by simp) fun i hi hi' => ?_
  rw [getElem_read, write, if_pos (by omega), Nat.add_sub_cancel_left]
  simp [hi']

/-- Bytes written behind a prefix extend the prefix. -/
theorem read_write_append {f : Content} {before bytes : List UInt8}
    (h : read f 0 before.length = before) :
    read (write f before.length bytes) 0 (before ++ bytes).length = before ++ bytes := by
  refine List.ext_getElem (by simp) fun i hi hi' => ?_
  have hlen : i < before.length + bytes.length := by simpa using hi'
  rw [getElem_read, Nat.zero_add]
  by_cases hb : i < before.length
  · have hlen' : i < (read f 0 before.length).length := by simpa using hb
    have hread : (read f 0 before.length)[i] = before[i] := by simp only [h]
    rw [write, if_neg (by omega), List.getElem_append_left hb, ← hread, getElem_read, Nat.zero_add]
  · rw [write, if_pos (by omega), List.getElem_append_right (by omega)]
    simp [show i - before.length < bytes.length by omega]

/-- A slice of a read is a read. -/
theorem slice_read {f : Content} {base off n len : Nat} (h : off + n ≤ len) :
    ByteLayout.slice (read f base len) off n = read f (base + off) n := by
  refine List.ext_getElem (by rw [ByteLayout.length_slice (by simpa using h), length_read]) ?_
  intro i hi hi'
  simp [ByteLayout.slice, read, Nat.add_assoc]

/-! ## Programming -/

/-- The bytes programmed from offset `off`: programming only clears bits. -/
def program (f : Content) (off : Nat) (bytes : List UInt8) : Content := fun i =>
  if off ≤ i ∧ i < off + bytes.length then f i &&& bytes.getD (i - off) 0 else f i

/-- Only bits that are set are changed. -/
def OnlyClears (f g : Content) : Prop := ∀ i, f i &&& g i = g i

theorem OnlyClears.refl (f : Content) : OnlyClears f f := fun _ => UInt8.and_self

theorem OnlyClears.trans {f g h : Content} (hfg : OnlyClears f g) (hgh : OnlyClears g h) :
    OnlyClears f h := fun i => by
  rw [← hgh i, ← UInt8.and_assoc, hfg i]

theorem onlyClears_program (f : Content) (off : Nat) (bytes : List UInt8) :
    OnlyClears f (program f off bytes) := fun i => by
  unfold program
  split
  · rw [← UInt8.and_assoc, UInt8.and_self]
  · exact UInt8.and_self

theorem sameOutside_program (f : Content) (off : Nat) (bytes : List UInt8) :
    SameOutside f (program f off bytes) off bytes.length :=
  fun i hi => by rw [program, if_neg (by omega)]

/-- What is programmed into erased flash is stored. -/
theorem program_erased {f : Content} {off : Nat} {bytes : List UInt8}
    (h : Erased f off bytes.length) : program f off bytes = write f off bytes := by
  funext i
  unfold program write
  split
  · rename_i hin
    rw [h i hin.1 hin.2]
    exact UInt8.neg_one_and
  · rfl

theorem SameOutside.trans {f g h : Content} {off len : Nat} (hfg : SameOutside f g off len)
    (hgh : SameOutside g h off len) : SameOutside f h off len :=
  fun i hi => (hgh i hi).trans (hfg i hi)

end FlashRegion
