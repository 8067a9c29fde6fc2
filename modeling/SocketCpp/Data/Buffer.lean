import Mathlib.Data.List.Basic

namespace SocketCpp.Data

/-! Memory seen from one base address.

Offsets are integers, so a write below the base is a value of the model and not
an error: whether a program stays inside its window is something to prove. -/

abbrev Buffer (α : Type) := Int → α

namespace Buffer

variable {α : Type}

def read (buffer : Buffer α) (offset : Int) (count : Nat) : List α :=
  (List.range count).map fun index => buffer (offset + (index : Nat))

def write (buffer : Buffer α) (offset : Int) (values : List α) : Buffer α :=
  fun index =>
    if index < offset then buffer index
    else (values[(index - offset).toNat]?).getD (buffer index)

/-- A buffer that starts with `values` and holds `rest` everywhere else. -/
def ofList (values : List α) (rest : α) : Buffer α :=
  write (fun _ => rest) 0 values

@[simp] theorem read_length (buffer : Buffer α) (offset : Int) (count : Nat) :
    (buffer.read offset count).length = count := by
  simp [read]

@[simp] theorem read_zero (buffer : Buffer α) (offset : Int) :
    buffer.read offset 0 = [] := rfl

theorem read_add (buffer : Buffer α) (offset : Int) (first second : Nat) :
    buffer.read offset (first + second) =
      buffer.read offset first ++ buffer.read (offset + first) second := by
  simp only [read, List.range_add, List.map_append, List.map_map]
  congr 1
  apply List.map_congr_left
  intro index _
  simp [Int.add_assoc]

theorem write_nil (buffer : Buffer α) (offset : Int) : buffer.write offset [] = buffer := by
  funext index
  simp [write]

theorem write_outside (buffer : Buffer α) {offset index : Int} {values : List α}
    (outside : index < offset ∨ offset + values.length ≤ index) :
    buffer.write offset values index = buffer index := by
  by_cases below : index < offset
  · simp [write, below]
  · have beyond : values.length ≤ (index - offset).toNat := by omega
    simp [write, below, List.getElem?_eq_none beyond]

/-- A write right behind another one. -/
theorem write_append (buffer : Buffer α) (offset : Int) (first second : List α) :
    (buffer.write offset first).write (offset + first.length) second =
      buffer.write offset (first ++ second) := by
  funext index
  by_cases before : index < offset + first.length
  · rw [write_outside _ (.inl before)]
    by_cases below : index < offset
    · simp [write, below]
    · have inFirst : (index - offset).toNat < first.length := by omega
      simp [write, below, inFirst, List.getElem?_append_left]
  · have notBelow : ¬ index < offset := by omega
    have behind : first.length ≤ (index - offset).toNat := by omega
    have position : (index - (offset + first.length)).toNat =
        (index - offset).toNat - first.length := by omega
    simp [write, before, notBelow, behind, position, List.getElem?_append_right behind]

theorem read_write_before (buffer : Buffer α) {start offset : Int} {count : Nat}
    (values : List α) (before : start + count ≤ offset) :
    (buffer.write offset values).read start count = buffer.read start count := by
  apply List.map_congr_left
  intro index member
  have within := List.mem_range.mp member
  have below : start + (index : Int) < offset := by omega
  simp [write, below]

theorem read_write_self (buffer : Buffer α) (offset : Int) (values : List α) :
    (buffer.write offset values).read offset values.length = values := by
  apply List.ext_getElem (by simp)
  intro index _ within
  have notBelow : ¬ offset + (index : Int) < offset := by omega
  have position : (offset + (index : Int) - offset).toNat = index := by omega
  simp only [read, List.getElem_map, List.getElem_range, write, if_neg notBelow, position,
    List.getElem?_eq_getElem within, Option.getD_some]

theorem read_write_append (buffer : Buffer α) (filled : Nat) (values : List α) :
    (buffer.write filled values).read 0 (filled + values.length) =
      buffer.read 0 filled ++ values := by
  rw [read_add, read_write_before buffer values (by omega)]
  simp only [Int.zero_add]
  rw [read_write_self]

end Buffer

end SocketCpp.Data
