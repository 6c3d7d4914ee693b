import Mathlib.Algebra.Ring.Nat

/-! JSON as a compact writer emits it: no blanks, members in the order they are given. -/

namespace Json

abbrev Text := List UInt8

def ascii (text : String) : Text := text.toUTF8.toList

/-- Quotation marks and backslashes are escaped; control characters are none of this writer's input. -/
def quoted (text : Text) : Text :=
  34 :: text.flatMap (fun byte => if byte = 34 ∨ byte = 92 then [92, byte] else [byte]) ++ [34]

def name (text : String) : Text := quoted (ascii text)

def number (value : Nat) : Text := ascii (toString value)

def boolean (value : Bool) : Text := ascii (if value then "true" else "false")

def optional {α : Type} (write : α → Text) : Option α → Text
  | none => ascii "null"
  | some value => write value

def joined : List Text → Text
  | [] => []
  | [item] => item
  | item :: next :: rest => item ++ 44 :: joined (next :: rest)

def array (items : List Text) : Text := 91 :: joined items ++ [93]

def object (members : List (String × Text)) : Text :=
  123 :: joined (members.map fun member => name member.1 ++ 58 :: member.2) ++ [125]

def bytes (values : List UInt8) : Text := array (values.map fun value => number value.toNat)

theorem length_joined (items : List Text) :
    (joined items).length = (items.map List.length).sum + (items.length - 1) := by
  induction items using joined.induct with
  | case1 => rfl
  | case2 item => simp [joined]
  | case3 item next rest ih =>
    simp only [joined, List.length_append, List.length_cons, ih, List.map_cons, List.sum_cons]
    omega

theorem length_array (items : List Text) : (array items).length = (joined items).length + 2 := by
  simp [array]

theorem length_object (members : List (String × Text)) :
    (object members).length =
      (members.map fun member => (name member.1).length + (member.2.length + 1)).sum + (members.length - 1) + 2 := by
  simp [object, length_joined, Function.comp_def]

theorem length_bytes_replicate {count : Nat} (value : UInt8) (some : 0 < count) :
    (bytes (List.replicate count value)).length = count * ((number value.toNat).length + 1) + 1 := by
  rw [bytes, length_array, length_joined, List.map_replicate, List.map_replicate, List.sum_replicate_nat,
    List.length_replicate, Nat.mul_add]
  omega

theorem length_joined_le {items : List Text} {bound : Nat} (each : ∀ item ∈ items, item.length ≤ bound) :
    (joined items).length ≤ items.length * (bound + 1) := by
  induction items using joined.induct with
  | case1 => exact Nat.zero_le _
  | case2 item => simpa [joined] using Nat.le_succ_of_le (each item (by simp))
  | case3 item next rest ih =>
    have first := each item (by simp)
    have others := ih fun other member => each other (List.mem_cons_of_mem _ member)
    rw [List.length_cons, Nat.succ_mul]
    simp only [joined, List.length_append, List.length_cons] at others ⊢
    omega

theorem length_bytes_le (values : List UInt8) : (bytes values).length ≤ 4 * values.length + 2 := by
  have digits : ∀ value : Fin 256, (number value.val).length ≤ 3 := by decide +kernel
  have fits : (joined (values.map fun value => number value.toNat)).length ≤
      (values.map fun value => number value.toNat).length * (3 + 1) := by
    refine length_joined_le fun item member => ?_
    obtain ⟨value, -, rfl⟩ := List.mem_map.mp member
    exact digits ⟨value.toNat, value.toNat_lt⟩
  rw [List.length_map] at fits
  rw [bytes, length_array]
  omega

end Json
