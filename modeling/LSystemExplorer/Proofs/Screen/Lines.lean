import LSystemExplorer.Screen.Dots
import Mathlib.Data.List.Chain
import Mathlib.Data.List.Range
import Mathlib.Tactic.Linarith
import Mathlib.Tactic.Positivity
import Mathlib.Tactic.Ring

/-!
# Lines of dots

A line is drawn dot by dot, and each of its dots is next to the one before, over a corner if need
be.  That it ends where it should is a matter of counting.  A path along the major direction takes
a step aside when it is too far behind the ideal line, so it is never further from the line than
half a dot (`Dot.getLast?_minorPath`).  At the end the ideal line is at a dot, and no other dot is
as near.

So the dots of a segment lead from the dot of one end to the dot of the other, if both ends are on
the canvas (`Segment.isLine`).
-/

set_option autoImplicit false

namespace LSystemExplorer

namespace Dot

/-- The dots are next to each other, over a corner if need be, or the same. -/
structure Near (dot other : Dot) : Prop where
  columns : distance dot.column other.column ≤ 1
  rows : distance dot.row other.row ≤ 1

/-- The dots lead from one to another without a gap. -/
structure Leads (dots : List Dot) (first last : Dot) : Prop where
  first : dots.head? = some first
  last : dots.getLast? = some last
  near : dots.IsChain Near

/-! ## Distances -/

theorem distance_succ (number : Nat) : distance number (number + 1) = 1 := by
  unfold distance
  omega

theorem eq_of_distance {first second : Nat} (none : distance first second = 0) :
    first = second := by
  unfold distance at none
  omega

/-- The lesser number and the distance make up the other one. -/
theorem min_add_distance (first second : Nat) :
    min first second = first ∧ first + distance first second = second ∨
      min first second = second ∧ second + distance first second = first := by
  unfold distance
  omega

/-! ## Paths -/

section Paths

variable {major minor excess : Int} {falls : Bool} {place steps : Nat}

theorem length_minorPath :
    (minorPath major minor falls steps place excess).length = steps := by
  induction steps generalizing place excess with
  | zero => rfl
  | succ steps ih => exact congrArg Nat.succ ih

/-- A path goes at most one dot along the minor direction at a time. -/
theorem isChain_minorPath :
    (minorPath major minor falls steps place excess).IsChain fun place next =>
      distance place next ≤ 1 := by
  induction steps generalizing place excess with
  | zero => exact .nil
  | succ steps ih =>
      cases steps with
      | zero => exact .singleton _
      | succ steps =>
          refine List.isChain_cons_cons.mpr ⟨?_, ih⟩
          unfold distance
          split_ifs <;> omega

/-- The path ends where it should: it has gone along the minor direction as often as it has to.
All the while it is behind the ideal line by at most half a dot, or in front of it by less. -/
theorem getLast?_minorPath {major minor : Nat} {moves : Nat} (behind : excess ≤ 2 * minor)
    (before : 2 * minor < excess + 2 * major) (flat : minor ≤ major) (long : 0 < major)
    (goal : excess + major - 2 * minor + 2 * minor * steps = 2 * major * moves)
    (room : falls → moves ≤ place) :
    (minorPath major minor falls (steps + 1) place excess).getLast? =
      some (if falls then place - moves else place + moves) := by
  have flat' : (minor : Int) ≤ major := by exact_mod_cast flat
  induction steps generalizing place excess moves with
  | zero =>
      have still : moves = 0 := by
        rw [Nat.cast_zero, mul_zero, add_zero] at goal
        by_contra some
        have positive : (1 : Int) ≤ moves := by exact_mod_cast Nat.one_le_iff_ne_zero.mpr some
        nlinarith
      subst still
      cases falls <;> rfl
  | succ steps ih =>
      -- the steps that are left make up for what the path is behind and for the moves to come
      rw [minorPath, List.getLast?_cons]
      rw [Nat.cast_succ, mul_add, mul_one] at goal
      by_cases moving : 0 < excess
      · obtain ⟨rest, rfl⟩ : ∃ rest, moves = rest + 1 := by
          refine Nat.exists_eq_succ_of_ne_zero fun still => ?_
          rw [still, Nat.cast_zero, mul_zero] at goal
          have gone : (0 : Int) ≤ 2 * minor * steps := by positivity
          omega
        rw [Nat.cast_succ, mul_add, mul_one] at goal
        have gone : excess - 2 * major + 2 * minor + major - 2 * minor + 2 * minor * steps =
            2 * major * rest := by omega
        rw [if_pos moving, if_pos moving, ih (by omega) (by omega) gone ?_]
        · cases falls <;> simp <;> omega
        · intro down
          have := room down
          rw [if_pos down]
          omega
      · rw [if_neg moving, if_neg moving, ih (by omega) (by omega) (by omega) room]
        rfl

theorem length_pathBetween (major start finish : Nat) :
    (pathBetween major start finish).length = major + 1 :=
  length_minorPath

theorem head?_pathBetween (major start finish : Nat) :
    (pathBetween major start finish).head? = some start :=
  rfl

/-- The minor coordinates lead from one to the other. -/
theorem getLast?_pathBetween {major start finish : Nat} (flat : distance start finish ≤ major)
    (long : 0 < major) : (pathBetween major start finish).getLast? = some finish := by
  have goal : 2 * (distance start finish : Int) - major + major -
      2 * (distance start finish : Nat) + 2 * (distance start finish : Nat) * (major : Nat) =
        2 * (major : Int) * (distance start finish : Nat) := by ring
  have room : finish < start → distance start finish ≤ start := by
    unfold distance
    omega
  rw [pathBetween, getLast?_minorPath (by omega) (by omega) flat long goal
    fun falls => room (of_decide_eq_true falls)]
  unfold distance
  by_cases falls : finish < start
  · rw [if_pos (decide_eq_true falls)]
    exact congrArg some (by omega)
  · rw [if_neg (mt of_decide_eq_true falls)]
    exact congrArg some (by omega)

end Paths

/-! ## Lines -/

/-- A path of minor coordinates leads along the major direction. -/
theorem leads_zipIdx {path : List Nat} {first last : Nat} (head : path.head? = some first)
    (getLast : path.getLast? = some last)
    (near : path.IsChain fun place next => distance place next ≤ 1) (dot : Nat × Nat → Dot)
    (step : ∀ place next index, distance place next ≤ 1 →
      Near (dot (place, index)) (dot (next, index + 1))) :
    Leads (path.zipIdx.map dot) (dot (first, 0)) (dot (last, path.length - 1)) := by
  rw [List.head?_eq_getElem?] at head
  rw [List.getLast?_eq_getElem?] at getLast
  refine ⟨?_, ?_, List.isChain_iff_getElem.mpr fun index below => ?_⟩
  · simp [List.head?_eq_getElem?, head]
  · simp [List.getLast?_eq_getElem?, getLast]
  · simp only [List.length_map, List.length_zipIdx] at below
    simp only [List.getElem_map, List.getElem_zipIdx, Nat.zero_add]
    exact step _ _ _ (List.isChain_iff_getElem.mp near index below)

theorem near_of_place {place next : Nat} (near : distance place next ≤ 1) (index : Nat) :
    Near ⟨index, place⟩ ⟨index + 1, next⟩ ∧ Near ⟨place, index⟩ ⟨next, index + 1⟩ :=
  ⟨⟨(distance_succ index).le, near⟩, ⟨near, (distance_succ index).le⟩⟩

theorem leads_flatLine {first last : Dot} (ahead : first.column < last.column)
    (flat : distance first.row last.row ≤ last.column - first.column) :
    Leads (flatLine first last) first last := by
  have path := leads_zipIdx (head?_pathBetween _ first.row last.row)
    (getLast?_pathBetween flat (Nat.sub_pos_of_lt ahead)) isChain_minorPath
    (fun entry => ⟨first.column + entry.2, entry.1⟩) fun _ _ _ near => (near_of_place near _).1
  rw [length_pathBetween, Nat.add_sub_cancel, Nat.add_sub_of_le ahead.le] at path
  exact path

theorem leads_steepLine {first last : Dot} (ahead : first.row < last.row)
    (steep : distance first.column last.column ≤ last.row - first.row) :
    Leads (steepLine first last) first last := by
  have path := leads_zipIdx (head?_pathBetween _ first.column last.column)
    (getLast?_pathBetween steep (Nat.sub_pos_of_lt ahead)) isChain_minorPath
    (fun entry => ⟨entry.1, first.row + entry.2⟩) fun _ _ _ near => (near_of_place near _).2
  rw [length_pathBetween, Nat.add_sub_cancel, Nat.add_sub_of_le ahead.le] at path
  exact path

/-- Dots of which each is next to the one before lead from the first to the last. -/
theorem leads_range (dot : Nat → Dot) (step : ∀ index, Near (dot index) (dot (index + 1)))
    (count : Nat) : Leads ((List.range (count + 1)).map dot) (dot 0) (dot count) := by
  refine ⟨?_, ?_, ?_⟩
  · simp [List.head?_range]
  · simp [List.getLast?_range]
  · refine (List.isChain_map _).mpr ((List.isChain_range_succ _ count).mpr fun index _ => ?_)
    exact step index

/-- **A line of dots leads from one end to the other.** -/
theorem leads_line (start finish : Dot) :
    Leads (line start finish) start finish ∨ Leads (line start finish) finish start := by
  obtain ⟨column, row⟩ := start
  obtain ⟨other, below⟩ := finish
  unfold line
  dsimp only
  split_ifs with upright level flat back rising
  · obtain rfl := eq_of_distance upright
    -- an upright line is drawn from its upper end, and a level one from its left end
    have path := leads_range (fun step => ⟨column, min row below + step⟩)
      (fun step => ⟨upright.trans_le (Nat.zero_le 1), (distance_succ _).le⟩) (distance row below)
    rcases min_add_distance row below with ⟨least, most⟩ | ⟨least, most⟩
    · simp only [least, most, Nat.add_zero] at path ⊢
      exact .inl path
    · simp only [least, most, Nat.add_zero] at path ⊢
      exact .inr path
  · obtain rfl := eq_of_distance level
    have path := leads_range (fun step => ⟨min column other + step, row⟩)
      (fun step => ⟨(distance_succ _).le, level.trans_le (Nat.zero_le 1)⟩) (distance column other)
    rcases min_add_distance column other with ⟨least, most⟩ | ⟨least, most⟩
    · simp only [least, most, Nat.add_zero] at path ⊢
      exact .inl path
    · simp only [least, most, Nat.add_zero] at path ⊢
      exact .inr path
  · refine .inr (leads_flatLine back ?_)
    dsimp only [distance] at flat ⊢
    omega
  · refine .inl (leads_flatLine ?_ ?_)
    · dsimp only [distance] at upright ⊢
      omega
    · dsimp only [distance] at flat ⊢
      omega
  · refine .inr (leads_steepLine rising ?_)
    dsimp only [distance] at flat ⊢
    omega
  · refine .inl (leads_steepLine ?_ ?_)
    · dsimp only [distance] at level ⊢
      omega
    · dsimp only [distance] at flat ⊢
      omega

end Dot

/-! ## Segments -/

/-- If both ends are on the canvas, the dots of the segment lead from the dot of one end to the dot
of the other.  On the canvas the second coordinate points up. -/
def Segment.IsLine (viewport : Viewport Float) (columns rows : Nat) (segment : Segment Float) :
    Prop :=
  let place (point : Point Float) : Option Dot :=
    Point.dot? viewport.width viewport.height columns rows ⟨point.x, viewport.height - point.y⟩
  ∀ start finish, place segment.start = some start → place segment.finish = some finish →
    Dot.Leads (segment.dots viewport columns rows) start finish ∨
      Dot.Leads (segment.dots viewport columns rows) finish start

/-- **The dots of a segment lead from one end to the other.** -/
theorem Segment.isLine (viewport : Viewport Float) (columns rows : Nat)
    (segment : Segment Float) : segment.IsLine viewport columns rows := by
  intro start finish begins ends
  have dots : segment.dots viewport columns rows = Dot.line start finish := by
    unfold Segment.dots
    dsimp only at begins ends ⊢
    rw [begins, ends]
  rw [dots]
  exact Dot.leads_line start finish

end LSystemExplorer
