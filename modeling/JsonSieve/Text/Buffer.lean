/-
# Buffers

A text that grows at its end and can be cut back to a size that it had before.  Whoever writes into
a buffer without knowing yet whether the text will stand remembers the size, and cuts back to it.

The characters are kept with the last one first, so that writing is cheap; `toList` is the text in
its own order, and every law of a buffer is stated through it.
-/

namespace JsonSieve.Text

/-- A text written so far, the last character first, and how many characters it has. -/
structure Buffer where
  behind : List Char
  size : Nat
  size_eq : behind.length = size

namespace Buffer

/-! ## 1. Operations -/

/-- The buffer into which nothing has been written. -/
def empty : Buffer := ⟨[], 0, rfl⟩

/-- Writes a text at the end (`push_str`). -/
def push (b : Buffer) (s : List Char) : Buffer :=
  ⟨s.reverseAux b.behind, b.size + s.length, by simp [b.size_eq, Nat.add_comm]⟩

/-- Cuts the text back to a size (`truncate`); a text that is not longer is left as it is. -/
def truncate (b : Buffer) (n : Nat) : Buffer :=
  ⟨b.behind.drop (b.size - n), b.size - (b.size - n), by simp [b.size_eq]⟩

/-- The text written so far. -/
def toList (b : Buffer) : List Char := b.behind.reverse

/-! ## 2. Laws -/

theorem ext_toList {a b : Buffer} (h : a.toList = b.toList) : a = b := by
  obtain ⟨s, n, hs⟩ := a
  obtain ⟨t, m, ht⟩ := b
  obtain rfl : s = t := List.reverse_inj.mp h
  obtain rfl : n = m := hs.symm.trans ht
  rfl

@[simp] theorem length_toList (b : Buffer) : b.toList.length = b.size := by
  simp [toList, b.size_eq]

@[simp] theorem toList_empty : empty.toList = [] := rfl

@[simp] theorem toList_push (b : Buffer) (s : List Char) : (b.push s).toList = b.toList ++ s := by
  simp [toList, push, List.reverseAux_eq]

@[simp] theorem toList_truncate (b : Buffer) (n : Nat) :
    (b.truncate n).toList = b.toList.take n := by
  simp only [toList, truncate, List.reverse_drop, b.size_eq]
  rcases Nat.le_total n b.size with h | h
  · rw [Nat.sub_sub_self h]
  · rw [Nat.sub_eq_zero_of_le h, Nat.sub_zero, List.take_of_length_le (by simp [b.size_eq]),
      List.take_of_length_le (by simp [b.size_eq, h])]

@[simp] theorem push_nil (b : Buffer) : b.push [] = b := ext_toList (by simp)

@[simp] theorem push_push (b : Buffer) (s t : List Char) : (b.push s).push t = b.push (s ++ t) :=
  ext_toList (by simp)

/-- **Cutting back takes back what was written since.** -/
@[simp] theorem truncate_push (b : Buffer) (s : List Char) : (b.push s).truncate b.size = b :=
  ext_toList (by rw [toList_truncate, toList_push, List.take_left' b.length_toList])

end Buffer
end JsonSieve.Text
