import LSystemExplorer.CommandLine.Report
import LSystemExplorer.Text.Basic

/-!
# Reading a traced drawing back

A traced drawing is a text with one line for each segment, and four numbers on each line
with a blank between them.  The text of a number is made of few characters, and neither
blanks nor the ends of lines are among them (`Decimal.numeral_fixed`).  So whoever cuts the
text into lines, and the lines at their blanks, finds the four numbers of each segment
again, and nothing else (`Report.rows_join_segmentLine`).
-/

set_option autoImplicit false

namespace LSystemExplorer

/-! ## The characters of a number -/

namespace Decimal

/-- Digits, signs, points, and the letters of the numbers that have no digits. -/
def isNumeral (character : Char) : Bool :=
  character.isDigit || ['-', '.', 'N', 'a', 'i', 'n', 'f'].contains character

/-- The text is made of such characters. -/
def Numeral (text : List Char) : Prop :=
  ∀ character ∈ text, isNumeral character

instance (text : List Char) : Decidable (Numeral text) :=
  decidable_of_iff (text.all isNumeral) List.all_eq_true

namespace Numeral

variable {text other : List Char}

/-- Numerals hold nothing that stands between numbers. -/
theorem not_mem (numeral : Numeral text) {separator : Char}
    (separates : separator ∈ [' ', '\n', '\r']) : separator ∉ text := by
  have others : [' ', '\n', '\r'].all fun separator => !isNumeral separator := by decide
  intro member
  have other := List.all_eq_true.mp others separator separates
  rw [numeral separator member] at other
  cases other

theorem append (first : Numeral text) (second : Numeral other) : Numeral (text ++ other) := by
  intro character member
  rcases List.mem_append.mp member with before | after
  · exact first character before
  · exact second character after

theorem of_subset (numeral : Numeral text) (subset : other ⊆ text) : Numeral other :=
  fun character member => numeral character (subset member)

theorem repr (count : Nat) : Numeral (Nat.repr count).toList := by
  intro character member
  rw [Nat.toList_repr] at member
  rw [isNumeral, Nat.isDigit_of_mem_toDigits (by omega) (by omega) member]
  rfl

theorem joinPoint {pieces : List Char × List Char} (whole : Numeral pieces.1)
    (fraction : Numeral pieces.2) : Numeral (Decimal.joinPoint pieces).toList := by
  unfold Decimal.joinPoint
  split
  · rw [String.toList_ofList]
    exact whole
  · rw [String.toList_ofList]
    have point : Numeral ['.'] := by decide
    exact whole.append (point.append fraction)

theorem withSign {magnitude : Binary64.Parts → String}
    (digits : ∀ parts, Numeral (magnitude parts).toList) (number : Float) :
    Numeral (Decimal.withSign number magnitude).toList := by
  have unsigned : Numeral
      (if number.isInf then "inf" else magnitude (Binary64.parts number)).toList := by
    split
    · decide
    · exact digits _
  unfold Decimal.withSign
  split
  · decide
  · dsimp only
    split
    · rw [String.toList_append]
      have minus : Numeral "-".toList := by decide
      exact minus.append unsigned
    · exact unsigned

end Numeral

/-- **A number is written with the characters of a numeral.** -/
theorem numeral_fixed (places : Nat) (number : Float) : Numeral (fixed places number).toList := by
  have padded (zeros count : Nat) :
      Numeral (List.replicate zeros '0' ++ (Nat.repr count).toList) := by
    have zero : Numeral (List.replicate zeros '0') := by
      intro character member
      rw [List.eq_of_mem_replicate member]
      decide
    exact zero.append (.repr count)
  refine .withSign (fun parts => ?_) number
  exact .joinPoint ((padded _ _).of_subset (List.take_subset _ _))
    ((padded _ _).of_subset (List.drop_subset _ _))

end Decimal

/-! ## Lines and fields -/

/-- What is in no piece and not between them is not in the whole. -/
theorem not_mem_intercalate {α : Type} {item : α} {between : List α} {pieces : List (List α)}
    (apart : item ∉ between) (absent : ∀ piece ∈ pieces, item ∉ piece) :
    item ∉ between.intercalate pieces := by
  induction pieces with
  | nil => exact List.not_mem_nil
  | cons piece later ih =>
      have here : item ∉ piece := absent piece (List.mem_cons_self ..)
      by_cases last : later = []
      · rw [last, List.intercalate_singleton]
        exact here
      · have rest := ih fun other member => absent other (List.mem_cons_of_mem _ member)
        rw [List.intercalate_cons_of_ne_nil last]
        simp [here, apart, rest]

/-- Pieces with a mark behind each are pieces with the mark between them, and an empty last one. -/
theorem flatMap_concat_eq_intercalate {α : Type} (mark : α) (pieces : List (List α)) :
    (pieces.flatMap fun piece => piece ++ [mark]) = [mark].intercalate (pieces ++ [[]]) := by
  induction pieces with
  | nil => rfl
  | cons piece later ih =>
      have rest : later ++ [[]] ≠ [] := List.append_ne_nil_of_right_ne_nil _ (List.cons_ne_nil _ _)
      rw [List.flatMap_cons, ih, List.cons_append, List.intercalate_cons_of_ne_nil rest]

/-- Lines put together, each with a line feed at its end, are the lines of the text. -/
theorem Text.lines_flatMap {pieces : List (List Char)}
    (whole : ∀ line ∈ pieces, '\n' ∉ line ∧ '\r' ∉ line) :
    Text.lines (pieces.flatMap fun line => line ++ ['\n']) = pieces := by
  have split : (pieces.flatMap fun line => line ++ ['\n']).splitOn '\n' = pieces ++ [[]] := by
    rw [flatMap_concat_eq_intercalate]
    refine List.splitOn_intercalate '\n' ?_ (by simp)
    intro line member
    rcases List.mem_append.mp member with here | last
    · exact (whole line here).1
    · rw [List.mem_singleton.mp last]
      exact List.not_mem_nil
  have kept : pieces.map withoutReturn = pieces := by
    have each : ∀ line ∈ pieces, withoutReturn line = id line := fun line member =>
      if_neg fun ends => (whole line member).2 (List.mem_of_getLast? ends)
    rw [List.map_congr_left each, List.map_id]
  unfold Text.lines
  simp only [split, List.dropLast_concat, List.getLast?_concat, kept]

namespace Report

/-- The four numbers of a segment as they are written. -/
def fields (segment : Segment Float) : List String :=
  [segment.start.x, segment.start.y, segment.finish.x, segment.finish.y].map (Decimal.fixed 3)

/-- The lines of a text, cut at their blanks. -/
def rows (text : String) : List (List String) :=
  (Text.lines text.toList).map fun line => (line.splitOn ' ').map String.ofList

theorem numeral_of_mem_fields {segment : Segment Float} {field : String}
    (member : field ∈ fields segment) : Decimal.Numeral field.toList := by
  obtain ⟨number, -, rfl⟩ := List.mem_map.mp member
  exact Decimal.numeral_fixed 3 number

/-- The line of a segment without its end: its fields with blanks between them. -/
def spaced (segment : Segment Float) : List Char :=
  [' '].intercalate ((fields segment).map String.toList)

theorem toList_segmentLine (segment : Segment Float) :
    (segmentLine segment).toList = spaced segment ++ ['\n'] := by
  have line : segmentLine segment = String.intercalate " " (fields segment) ++ "\n" := rfl
  rw [line, String.toList_append, String.toList_intercalate]
  rfl

/-- No line ends before its end. -/
theorem not_mem_spaced {separator : Char} (ends : separator ∈ ['\n', '\r'])
    (segment : Segment Float) : separator ∉ spaced segment := by
  refine not_mem_intercalate ?_ ?_
  · intro blank
    rw [List.mem_singleton.mp blank] at ends
    exact absurd ends (by decide)
  · intro text member
    obtain ⟨field, written, rfl⟩ := List.mem_map.mp member
    exact (numeral_of_mem_fields written).not_mem (List.mem_cons_of_mem _ ends)

/-- Cut at its blanks, the line falls into its fields. -/
theorem splitOn_spaced (segment : Segment Float) :
    (spaced segment).splitOn ' ' = (fields segment).map String.toList := by
  refine List.splitOn_intercalate ' ' ?_ (List.cons_ne_nil _ _)
  intro text member
  obtain ⟨field, written, rfl⟩ := List.mem_map.mp member
  exact (numeral_of_mem_fields written).not_mem (by decide)

/-- **The lines of a traced drawing hold the four numbers of each segment.** -/
theorem rows_join_segmentLine (segments : List (Segment Float)) :
    rows (String.join (segments.map segmentLine)) = segments.map fields := by
  have text : (String.join (segments.map segmentLine)).toList =
      (segments.map spaced).flatMap fun line => line ++ ['\n'] := by
    simp only [String.toList_join, List.flatMap_map, toList_segmentLine]
  have lines : Text.lines (String.join (segments.map segmentLine)).toList =
      segments.map spaced := by
    rw [text]
    refine Text.lines_flatMap fun line member => ?_
    obtain ⟨segment, -, rfl⟩ := List.mem_map.mp member
    exact ⟨not_mem_spaced (by decide) segment, not_mem_spaced (by decide) segment⟩
  rw [rows, lines, List.map_map]
  refine List.map_congr_left fun segment _ => ?_
  show ((spaced segment).splitOn ' ').map String.ofList = fields segment
  rw [splitOn_spaced, List.map_map]
  simp

example : rows "0.500 1.000\nNaN -0.000\n" = [["0.500", "1.000"], ["NaN", "-0.000"]] := by
  decide

end Report

end LSystemExplorer
