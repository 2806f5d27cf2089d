import StripTuner.Lib.Bytes

/-!
# Byte memory

A flat memory of bytes, and programs that read and write it through spans: a start address and a
size. Every access is checked against its span, and a copy against an overlap, so a program that
ends without a fault stays inside its spans.
-/

namespace ByteMemory

/-- The byte at each address. -/
abbrev Memory : Type := Nat → UInt8

/-- The bytes that a pointer and a length give access to. -/
structure Span where
  addr : Nat
  size : Nat

def Span.Contains (span : Span) (addr : Nat) : Prop :=
  span.addr ≤ addr ∧ addr < span.addr + span.size

/-- No address is in both. -/
def Span.Disjoint (a b : Span) : Prop := a.addr + a.size ≤ b.addr ∨ b.addr + b.size ≤ a.addr

/-- One buffer, or two that do not overlap. -/
def Span.MayAlias (a b : Span) : Prop := a.addr = b.addr ∨ a.Disjoint b

/-! ## Contents -/

/-- The `n` bytes from an address on. -/
def bytesAt (mem : Memory) (addr n : Nat) : List UInt8 := (List.range n).map fun i => mem (addr + i)

/-- The memory with bytes replaced from an address on. -/
def store (mem : Memory) (addr : Nat) (bytes : List UInt8) : Memory := fun a =>
  if addr ≤ a ∧ a < addr + bytes.length then bytes.getD (a - addr) 0 else mem a

/-- A list with bytes replaced from an offset on. -/
def overwrite (xs : List UInt8) (off : Nat) (bytes : List UInt8) : List UInt8 :=
  xs.take off ++ bytes ++ xs.drop (off + bytes.length)

@[simp] theorem length_bytesAt (mem : Memory) (addr n : Nat) : (bytesAt mem addr n).length = n := by
  rw [bytesAt, List.length_map, List.length_range]

theorem getElem?_bytesAt (mem : Memory) (addr : Nat) {n i : Nat} (h : i < n) :
    (bytesAt mem addr n)[i]? = some (mem (addr + i)) := by
  rw [bytesAt, List.getElem?_map, List.getElem?_range h, Option.map_some]

theorem bytesAt_congr {mem mem' : Memory} {addr addr' n : Nat}
    (h : ∀ i < n, mem (addr + i) = mem' (addr' + i)) : bytesAt mem addr n = bytesAt mem' addr' n := by
  apply List.map_congr_left
  intro i hi
  exact h i (List.mem_range.1 hi)

theorem take_bytesAt (mem : Memory) (addr : Nat) {m n : Nat} (h : m ≤ n) :
    (bytesAt mem addr n).take m = bytesAt mem addr m := by
  rw [bytesAt, bytesAt, ← List.map_take, List.take_range, Nat.min_eq_left h]

theorem bytesAt_add (mem : Memory) (addr m n : Nat) :
    bytesAt mem addr (m + n) = bytesAt mem addr m ++ bytesAt mem (addr + m) n := by
  rw [bytesAt, List.range_add, List.map_append, List.map_map]
  congr 1
  apply List.map_congr_left
  intro i _
  rw [Function.comp_apply, Nat.add_assoc]

theorem store_of_lt {mem : Memory} {addr a : Nat} {bytes : List UInt8} (h : a < addr) :
    store mem addr bytes a = mem a := by
  rw [store, if_neg (by omega)]

theorem store_of_le {mem : Memory} {addr a : Nat} {bytes : List UInt8}
    (h : addr + bytes.length ≤ a) : store mem addr bytes a = mem a := by
  rw [store, if_neg (by omega)]

/-- What was stored is there. -/
theorem bytesAt_store (mem : Memory) (addr : Nat) (bytes : List UInt8) :
    bytesAt (store mem addr bytes) addr bytes.length = bytes := by
  apply List.ext_getElem?
  intro i
  by_cases hi : i < bytes.length
  · rw [getElem?_bytesAt _ _ hi, store, if_pos (by omega), Nat.add_sub_cancel_left,
      List.getD_eq_getElem?_getD, List.getElem?_eq_getElem hi, Option.getD_some]
  · rw [List.getElem?_eq_none (by rw [length_bytesAt]; omega),
      List.getElem?_eq_none (Nat.not_lt.1 hi)]

/-- A store inside a run of bytes overwrites them. -/
theorem bytesAt_store_inside (mem : Memory) (addr : Nat) {off n : Nat} {bytes : List UInt8}
    (h : off + bytes.length ≤ n) :
    bytesAt (store mem (addr + off) bytes) addr n = overwrite (bytesAt mem addr n) off bytes := by
  obtain ⟨rest, rfl⟩ := Nat.exists_eq_add_of_le h
  have hleft : bytesAt (store mem (addr + off) bytes) addr off = bytesAt mem addr off := by
    apply bytesAt_congr
    intro i hi
    exact store_of_lt (by omega)
  have hright : bytesAt (store mem (addr + off) bytes) (addr + (off + bytes.length)) rest =
      bytesAt mem (addr + (off + bytes.length)) rest := by
    apply bytesAt_congr
    intro i _
    exact store_of_le (by omega)
  have hdrop : (bytesAt mem addr (off + bytes.length + rest)).drop (off + bytes.length) =
      bytesAt mem (addr + (off + bytes.length)) rest := by
    rw [bytesAt_add, List.drop_left' (length_bytesAt _ _ _)]
  rw [overwrite, take_bytesAt _ _ (by omega), hdrop, bytesAt_add, hright, bytesAt_add, hleft,
    bytesAt_store]

/-! ## Checked access -/

/-- An access outside of its span, or a copy onto itself. -/
inductive Fault where
  | load (off : Nat)
  | store (off size : Nat)
  | overlap
deriving DecidableEq

/-- A program on the memory, until a fault. -/
abbrev Access (α : Type) : Type := StateT Memory (Except Fault) α

/-- `span[off]`. -/
def Span.load (span : Span) (off : Nat) : Access UInt8 := fun mem =>
  if off < span.size then .ok (mem (span.addr + off), mem) else .error (.load off)

/-- Bytes assigned from `span[off]` on. -/
def Span.store (span : Span) (off : Nat) (bytes : List UInt8) : Access Unit := fun mem =>
  if off + bytes.length ≤ span.size then .ok ((), ByteMemory.store mem (span.addr + off) bytes)
  else .error (.store off bytes.length)

/-- `memcpy()` of the first `n` bytes of one span to another. -/
def Span.copy (target source : Span) (n : Nat) : Access Unit := fun mem =>
  if source.size < n then .error (.load n)
  else if target.size < n then .error (.store 0 n)
  else if source.addr < target.addr + n ∧ target.addr < source.addr + n then .error .overlap
  else .ok ((), ByteMemory.store mem target.addr (bytesAt mem source.addr n))

section Access

variable {α β : Type} {mem : Memory} {span : Span}

/-- A step that ends is followed by the rest. -/
theorem bind_ok {x : Access α} {f : α → Access β} {a : α} {mem mem' : Memory}
    (h : x mem = .ok (a, mem')) : (x >>= f) mem = f a mem' := by
  show (x mem).bind (fun r => f r.1 r.2) = _
  rw [h]
  rfl

theorem Span.load_ok {off : Nat} (h : off < span.size) (mem : Memory) :
    span.load off mem = .ok (mem (span.addr + off), mem) := if_pos h

theorem Span.store_ok {off : Nat} {bytes : List UInt8} (h : off + bytes.length ≤ span.size)
    (mem : Memory) :
    span.store off bytes mem = .ok ((), ByteMemory.store mem (span.addr + off) bytes) := if_pos h

theorem Span.copy_ok {target source : Span} {n : Nat} (hsource : n ≤ source.size)
    (htarget : n ≤ target.size) (h : source.Disjoint target) (mem : Memory) :
    target.copy source n mem =
      .ok ((), ByteMemory.store mem target.addr (bytesAt mem source.addr n)) := by
  rw [Span.copy, if_neg (Nat.not_lt.2 hsource), if_neg (Nat.not_lt.2 htarget), if_neg]
  rw [Span.Disjoint] at h
  omega

end Access

end ByteMemory
