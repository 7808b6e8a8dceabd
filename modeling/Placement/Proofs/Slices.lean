import Placement.Text.Basic

/-!
Slices of a text between two offsets, and what stands at an offset.
-/

namespace Placement.Text

def slice (text : Text) (start stop : Nat) : Text :=
  (text.take stop).drop start

theorem slice_infix (text : Text) (start stop : Nat) : text.slice start stop <:+: text :=
  (List.drop_suffix start _).isInfix.trans (List.take_prefix stop text).isInfix

theorem infix_iff_exists_offset (word text : Text) :
    word <:+: text ↔ ∃ offset, word <+: text.drop offset := by
  constructor
  · rintro ⟨before, after, rfl⟩
    exact ⟨before.length, after, by simp⟩
  · rintro ⟨offset, standing⟩
    exact standing.isInfix.trans (List.drop_suffix offset text).isInfix

variable {c : Char} {rest text word : Text} {offset start stop : Nat}

theorem drop_succ (standing : text.drop offset = c :: rest) : text.drop (offset + 1) = rest := by
  rw [← List.tail_drop, standing, List.tail_cons]

theorem getElem?_of_drop (standing : text.drop offset = c :: rest) : text[offset]? = some c := by
  rw [← Nat.add_zero offset, ← List.getElem?_drop, standing, List.getElem?_cons_zero]

theorem lt_length_of_drop (standing : text.drop offset = c :: rest) : offset < text.length := by
  have shorter := congrArg List.length standing
  rw [List.length_drop, List.length_cons] at shorter
  omega

theorem drop_of_getElem? (standing : text[start]? = some c) :
    text.drop start = c :: text.drop (start + 1) := by
  obtain ⟨inside, charEq⟩ := List.getElem?_eq_some_iff.1 standing
  rw [List.drop_eq_getElem_cons inside, charEq]

theorem slice_add (text : Text) (start count : Nat) :
    text.slice start (start + count) = (text.drop start).take count := by
  rw [slice, List.drop_take, Nat.add_sub_cancel_left]

theorem slice_self (text : Text) (offset : Nat) : text.slice offset offset = [] := by
  rw [slice, List.drop_eq_nil_iff]
  exact List.length_take_le offset text

theorem slice_of_drop (standing : text.drop offset = c :: rest) (before : offset < stop) :
    text.slice offset stop = c :: text.slice (offset + 1) stop := by
  obtain ⟨count, rfl⟩ := Nat.exists_eq_add_of_lt before
  have stopEq : offset + count + 1 = offset + 1 + count := by omega
  rw [Nat.add_assoc, slice_add, ← Nat.add_assoc, stopEq, slice_add, standing, drop_succ standing,
    List.take_succ_cons]

theorem length_slice (text : Text) (inside : stop ≤ text.length) :
    (text.slice start stop).length = stop - start := by
  rw [slice, List.length_drop, List.length_take]
  omega

theorem slice_append_drop (text : Text) (ordered : start ≤ stop) :
    text.slice start stop ++ text.drop stop = text.drop start := by
  obtain ⟨count, rfl⟩ := Nat.exists_eq_add_of_le ordered
  rw [slice_add, ← List.drop_drop, List.take_append_drop]

theorem slice_append_slice (text : Text) {middle : Nat} (first : start ≤ middle)
    (second : middle ≤ stop) :
    text.slice start middle ++ text.slice middle stop = text.slice start stop := by
  have shorter : min middle stop = middle := Nat.min_eq_left second
  have joined := slice_append_drop (text.take stop) first
  rwa [slice, List.take_take, shorter] at joined

end Placement.Text
