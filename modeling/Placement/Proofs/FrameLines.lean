import Placement.Report.Plain

/-!
The lines of an excerpt, one by one: their numbers ascend, each shows the line of the text with its number,
and those of the location are marked. All numbers fit into the gutter.
-/

namespace Placement

theorem Marker.getElem?_text (marker : Marker) (column : Nat) :
    marker.text[column]? = some '^' ↔
      marker.blanks ≤ column ∧ column < marker.blanks + marker.carets := by
  have blanksLength : (Text.spaces marker.blanks).length = marker.blanks := by
    rw [Text.spaces, List.length_replicate]
  rw [text, List.getElem?_append, blanksLength]
  split
  next before =>
    have notCaret : (Text.spaces marker.blanks)[column]? ≠ some '^' := by
      simp [Text.spaces, List.getElem?_replicate]
    exact iff_of_false notCaret (by omega)
  next =>
    simp only [List.getElem?_replicate, Option.ite_none_right_eq_some, and_true]
    omega

namespace Frame

variable {text : Text} {location : Location} {context : Nat}

theorem getElem?_build (text : Text) (location : Location) (context index : Nat) :
    (build text location context)[index]? =
      if firstNumber location context + index ≤ location.stop.line + context then
        ((Text.splitLines text)[firstNumber location context - 1 + index]?).map
          (FrameLine.ofLine location (firstNumber location context + index))
      else none := by
  simp only [build, List.getElem?_mapIdx, List.getElem?_take, List.getElem?_drop]
  by_cases shown : firstNumber location context + index ≤ location.stop.line + context
  · rw [if_pos shown, if_pos (by omega)]
  · rw [if_neg shown, if_neg (by omega)]
    rfl

theorem getElem?_build_eq_some {index : Nat} {line : FrameLine}
    (found : (build text location context)[index]? = some line) :
    line.number = firstNumber location context + index ∧
      (Text.splitLines text)[line.number - 1]? = some line.text ∧
      line.marker = FrameLine.markerAt location line.number line.text.length := by
  rw [getElem?_build] at found
  obtain ⟨_, shown⟩ := Option.ite_none_right_eq_some.1 found
  obtain ⟨lineText, lineEq, rfl⟩ := Option.map_eq_some_iff.1 shown
  refine ⟨rfl, ?_, rfl⟩
  have first : 1 ≤ firstNumber location context := Nat.le_max_right _ _
  have indexEq : firstNumber location context + index - 1 =
      firstNumber location context - 1 + index := by omega
  simp only [FrameLine.ofLine, indexEq]
  exact lineEq

theorem mem_build {line : FrameLine} (member : line ∈ build text location context) :
    (Text.splitLines text)[line.number - 1]? = some line.text ∧
      line.marker = FrameLine.markerAt location line.number line.text.length := by
  obtain ⟨index, found⟩ := List.mem_iff_getElem?.1 member
  exact (getElem?_build_eq_some found).2

theorem map_number_build (text : Text) (location : Location) (context : Nat) :
    (build text location context).map FrameLine.number =
      List.range' (firstNumber location context)
        (min (location.stop.line + context) (Text.splitLines text).length + 1 -
          firstNumber location context) := by
  have first : 1 ≤ firstNumber location context := Nat.le_max_right _ _
  refine List.ext_getElem? fun index => ?_
  rw [List.getElem?_map, getElem?_build]
  by_cases shown : firstNumber location context + index ≤ location.stop.line + context
  · by_cases present : firstNumber location context - 1 + index < (Text.splitLines text).length
    · rw [if_pos shown, List.getElem?_eq_getElem present, List.getElem?_range' (by omega)]
      simp [FrameLine.ofLine]
    · rw [if_pos shown, List.getElem?_eq_none (by omega), List.getElem?_eq_none]
      · rfl
      · rw [List.length_range']
        omega
  · rw [if_neg shown, List.getElem?_eq_none]
    · rfl
    · rw [List.length_range']
      omega

theorem build_ascending (text : Text) (location : Location) (context : Nat) :
    (build text location context).Pairwise fun first second => first.number < second.number := by
  rw [← List.pairwise_map, map_number_build]
  exact List.pairwise_lt_range'

theorem length_toDigits_mono {first second : Nat} (before : first ≤ second) :
    (Nat.toDigits 10 first).length ≤ (Nat.toDigits 10 second).length := by
  have positive : 0 < (Nat.toDigits 10 second).length := Nat.length_toDigits_pos
  rw [Nat.length_toDigits_le_iff (by decide) positive]
  exact Nat.lt_of_le_of_lt before
    ((Nat.length_toDigits_le_iff (by decide) positive).1 (Nat.le_refl _))

theorem length_toDigits_le_gutterWidth {line : FrameLine}
    (member : line ∈ build text location context) :
    (Nat.toDigits 10 line.number).length ≤ gutterWidth (build text location context) := by
  have ascending := build_ascending text location context
  rcases List.eq_nil_or_concat (build text location context) with empty | ⟨lines, last, split⟩
  · rw [empty] at member
    cases member
  · rw [split] at member ascending ⊢
    rw [List.concat_eq_append] at member ascending ⊢
    rw [gutterWidth, List.getLast?_concat]
    rcases List.mem_append.1 member with earlier | final
    · have before := (List.pairwise_append.1 ascending).2.2 line earlier last List.mem_cons_self
      exact length_toDigits_mono (Nat.le_of_lt before)
    · obtain rfl := List.mem_singleton.1 final
      exact Nat.le_refl _

end Frame

theorem PlainReport.write_eq (context : Nat) (violation : Violation) (text : Text) :
    write context violation text =
      ⟨written (header violation :: rows (Frame.build text violation.location context)), none⟩ := by
  have built : Frame.build? text (some violation.location) context =
      .ok (Frame.build text violation.location context) := by
    rw [Frame.build?, if_neg (by omega)]
    rfl
  rw [write, built]

end Placement
