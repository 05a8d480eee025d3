import LSystemExplorer.Proofs.Turtle.Branches

/-!
# What a branch encloses

A place of a word is enclosed by a branch when a `[` before it and a `]` behind it belong
together, which is to say that the word between the two is balanced.  A `[` that is never
closed encloses nothing.

Words that nest are put together from the empty word by two steps: a symbol other than `]` is
added, or a whole branch with a balanced word in it (`Nested.induction`).  The first step
encloses nothing, and what was enclosed remains so (`unenclosed_concat`).  The second encloses
all of the branch, and again nothing else (`unenclosed_branch`): no `[` further ahead can be
closed from inside the branch, where the `]` come after their `[`.
-/

set_option autoImplicit false

namespace LSystemExplorer

/-! ## Balanced words -/

/-- The pass over the brackets of a balanced word ends where it began. -/
theorem balanced_iff {word : Word} :
    Balanced word ↔ unmatched? 0 word = none ∧ openAt 0 word = 0 := by
  rw [Balanced, nested_iff]
  refine and_congr_right fun matched => ?_
  have counted := openAt_add_count matched
  omega

theorem Balanced.nil : Balanced [] :=
  balanced_iff.mpr ⟨rfl, rfl⟩

theorem Balanced.append {front back : Word} (first : Balanced front) (second : Balanced back) :
    Balanced (front ++ back) := by
  obtain ⟨matched, closed⟩ := balanced_iff.mp first
  rw [balanced_iff, unmatched?_append_eq_none, openAt_append, closed]
  exact ⟨⟨matched, nested_iff.mp second.1⟩, second.openAt_eq 0⟩

theorem Balanced.branch {word : Word} (balanced : Balanced word) : Balanced (branch word) :=
  balanced_iff.mpr ⟨balanced.unmatched?_branch 0, balanced.openAt_branch 0⟩

/-- A symbol that is no bracket. -/
theorem Balanced.singleton {symbol : Symbol} (opens : symbol ≠ '[') (closes : symbol ≠ ']') :
    Balanced [symbol] := by
  refine balanced_iff.mpr ⟨?_, ?_⟩
  · simp [unmatched?, closes]
  · simp [openAfter, opens, closes]

theorem Nested.of_append {front back : Word} (nested : Nested (front ++ back)) : Nested front :=
  fun _ beginning => nested _ (beginning.trans (List.prefix_append front back))

/-! ## How words that nest are put together -/

/-- **When a branch is open, the word since it was opened is balanced**, for the branch that
was opened last. -/
theorem Nested.exists_open {word : Word} (nested : Nested word) (pending : 0 < openAt 0 word) :
    ∃ before inside, word = before ++ '[' :: inside ∧ Balanced inside := by
  induction length : word.length using Nat.strongRecOn generalizing word with
  | ind length ih =>
    subst length
    rcases word.eq_nil_or_concat with rfl | ⟨front, symbol, rfl⟩
    · cases pending
    · rw [List.concat_eq_append] at *
      have shorter : front.length < (front ++ [symbol]).length := by simp
      have depth : openAt 0 (front ++ [symbol]) = openAfter (openAt 0 front) symbol := by simp
      rw [depth, openAfter] at pending
      by_cases opens : symbol = '['
      · exact ⟨front, [], by rw [opens], .nil⟩
      rw [if_neg opens] at pending
      by_cases closes : symbol = ']'
      · -- the branch that is closed lies in the one that was opened before it
        rw [if_pos closes] at pending
        obtain ⟨before, inside, rfl, balanced⟩ := ih _ shorter nested.of_append (by omega) rfl
        have deeper : openAt 0 (before ++ '[' :: inside) = openAt 0 before + 1 := by
          rw [openAt_append, openAt_cons, balanced.openAt_eq]
          rfl
        rw [deeper] at pending
        have shortest : before.length < (before ++ '[' :: inside ++ [symbol]).length := by
          simp only [List.length_append, List.length_cons]
          omega
        obtain ⟨outer, within, rfl, matched⟩ :=
          ih _ shortest nested.of_append.of_append (by omega) rfl
        refine ⟨outer, within ++ branch inside, ?_, matched.append balanced.branch⟩
        rw [closes, branch]
        simp
      · rw [if_neg closes] at pending
        obtain ⟨before, inside, rfl, balanced⟩ := ih _ shorter nested.of_append pending rfl
        exact ⟨before, inside ++ [symbol], by simp, balanced.append (.singleton opens closes)⟩

/-- A word that nests and ends with `]` ends with a branch. -/
theorem Nested.exists_branch {front : Word} (nested : Nested (front ++ [']'])) :
    ∃ before inside, front ++ [']'] = before ++ branch inside ∧ Balanced inside := by
  have matched := (unmatched?_append_eq_none.mp (nested_iff.mp nested)).2
  have pending : 0 < openAt 0 front := by
    refine Nat.pos_of_ne_zero fun none => ?_
    simp [unmatched?, none] at matched
  obtain ⟨before, inside, rfl, balanced⟩ := nested.of_append.exists_open pending
  exact ⟨before, inside, (append_branch before inside).symm, balanced⟩

/-- **Words that nest are put together symbol by symbol and branch by branch.** -/
@[elab_as_elim]
theorem Nested.induction {motive : Word → Prop} (nil : motive [])
    (concat : ∀ front symbol, Nested front → symbol ≠ ']' → motive front →
      motive (front ++ [symbol]))
    (branch : ∀ front inside, Nested front → Balanced inside → motive front →
      motive (front ++ branch inside))
    {word : Word} (nested : Nested word) : motive word := by
  induction length : word.length using Nat.strongRecOn generalizing word with
  | ind length ih =>
    subst length
    rcases word.eq_nil_or_concat with rfl | ⟨front, symbol, rfl⟩
    · exact nil
    · rw [List.concat_eq_append] at *
      by_cases closes : symbol = ']'
      · subst closes
        obtain ⟨before, inside, together, balanced⟩ := nested.exists_branch
        rw [together] at nested ih ⊢
        have shorter : before.length < (before ++ LSystemExplorer.branch inside).length := by
          simp [LSystemExplorer.branch]
        exact branch before inside nested.of_append balanced (ih _ shorter nested.of_append rfl)
      · have shorter : front.length < (front ++ [symbol]).length := by simp
        exact concat front symbol nested.of_append closes (ih _ shorter nested.of_append rfl)

/-! ## Places inside of a branch -/

/-- A `[` before the place and a `]` behind it belong together. -/
def Enclosed (word : Word) (place : Nat) : Prop :=
  ∃ last < word.length, ∃ first < place, place < last ∧
    word[first]? = some '[' ∧ word[last]? = some ']' ∧
      Balanced ((word.take last).drop (first + 1))

instance (word : Word) (place : Nat) : Decidable (Enclosed word place) :=
  inferInstanceAs (Decidable (∃ last < word.length, ∃ first < place, _))

/-- What is enclosed by a branch remains so, and a word that nests encloses nothing before it:
each of its `]` closes a branch of its own. -/
theorem Nested.enclosed_append {back : Word} (nested : Nested back) {front : Word} {place : Nat}
    (within : place < front.length) : Enclosed (front ++ back) place ↔ Enclosed front place := by
  constructor
  · rintro ⟨last, bound, first, before, behind, opens, closes, balanced⟩
    have start : first < front.length := before.trans within
    rw [List.getElem?_append_left start] at opens
    by_cases inFront : last < front.length
    · rw [List.getElem?_append_left inFront] at closes
      rw [List.take_append_of_le_length inFront.le] at balanced
      exact ⟨last, inFront, first, before, behind, opens, closes, balanced⟩
    · -- the `]` stands behind the front, where a `[` is open that has to be closed before
      obtain ⟨further, rfl⟩ := Nat.exists_eq_add_of_le (Nat.not_lt.mp inFront)
      rw [List.getElem?_append_right (Nat.le_add_right ..), Nat.add_sub_cancel_left] at closes
      have between : ((front ++ back).take (front.length + further)).drop (first + 1) =
          front.drop (first + 1) ++ back.take further := by
        rw [List.take_length_add_append, List.drop_append_of_le_length start]
      rw [between] at balanced
      have atFront := balanced.1 _ (List.prefix_append ..)
      have equal := balanced.2
      have own : (back.take further).count ']' < (back.take further).count '[' := by
        by_contra outnumbered
        refine unmatched?_eq_none_iff.mp (nested_iff.mp nested) further ⟨closes, ?_⟩
        omega
      rw [List.count_append, List.count_append] at equal
      omega
  · rintro ⟨last, bound, first, before, behind, opens, closes, balanced⟩
    refine ⟨last, ?_, first, before, behind, ?_, ?_, ?_⟩
    · rw [List.length_append]
      omega
    · rw [List.getElem?_append_left (before.trans within), opens]
    · rw [List.getElem?_append_left bound, closes]
    · rw [List.take_append_of_le_length bound.le]
      exact balanced

/-- The word of a branch is enclosed by it. -/
theorem enclosed_branch (front : Word) {inside : Word} (balanced : Balanced inside) {place : Nat}
    (within : place < inside.length) :
    Enclosed (front ++ branch inside) (front.length + (place + 1)) := by
  have split := append_branch front inside
  have length : (front ++ '[' :: inside).length = front.length + (inside.length + 1) := by
    rw [List.length_append, List.length_cons]
  refine ⟨front.length + (inside.length + 1), ?_, front.length, by omega, by omega, ?_, ?_, ?_⟩
  · rw [split, List.length_append, length, List.length_singleton]
    exact Nat.lt_succ_self _
  · rw [List.getElem?_append_right (Nat.le_refl _), Nat.sub_self]
    rfl
  · rw [split, List.getElem?_append_right length.le, length, Nat.sub_self]
    rfl
  · rw [split, ← length, List.take_left, ← List.drop_drop, List.drop_left]
    exact balanced

/-- How often a symbol occurs in a word outside of its branches that are closed. -/
def unenclosed (word : Word) (symbol : Symbol) : Nat :=
  (List.range word.length).countP fun place => word[place]? = some symbol ∧ ¬ Enclosed word place

@[simp] theorem unenclosed_nil (symbol : Symbol) : unenclosed [] symbol = 0 := rfl

/-- A word that nests only adds what it does not enclose itself. -/
theorem Nested.unenclosed_append {back : Word} (nested : Nested back) (front : Word)
    (symbol : Symbol) :
    unenclosed (front ++ back) symbol =
      unenclosed front symbol + (List.range back.length).countP fun place =>
        back[place]? = some symbol ∧ ¬ Enclosed (front ++ back) (front.length + place) := by
  rw [unenclosed, List.length_append, List.range_add, List.countP_append, List.countP_map]
  congr 1
  · refine List.countP_congr fun place member => ?_
    have within : place < front.length := List.mem_range.mp member
    rw [decide_eq_true_iff, decide_eq_true_iff, List.getElem?_append_left within,
      nested.enclosed_append within]
  · refine List.countP_congr fun place _ => ?_
    rw [Function.comp_apply, decide_eq_true_iff, decide_eq_true_iff,
      List.getElem?_append_right (Nat.le_add_right ..), Nat.add_sub_cancel_left]

/-- **A symbol other than `]` counts where it is added, and encloses nothing.** -/
theorem unenclosed_concat (front : Word) {added : Symbol} (closes : added ≠ ']')
    (symbol : Symbol) :
    unenclosed (front ++ [added]) symbol =
      unenclosed front symbol + if added = symbol then 1 else 0 := by
  have nested : Nested [added] := nested_iff.mpr (by simp [unmatched?, closes])
  have outside : ¬ Enclosed (front ++ [added]) (front.length + 0) := by
    rintro ⟨last, bound, -, -, behind, -⟩
    rw [List.length_append, List.length_singleton] at bound
    omega
  rw [nested.unenclosed_append, List.length_singleton, List.range_one, List.countP_singleton]
  congr 1
  by_cases same : added = symbol
  · subst same
    rw [if_pos rfl, if_pos (decide_eq_true ⟨rfl, outside⟩)]
  · have other : ¬ [added][0]? = some symbol := fun here => same (Option.some.inj here)
    rw [if_neg same, if_neg fun counted => other (of_decide_eq_true counted).1]

/-- **A branch adds nothing**, and its brackets are all that is to be seen of it. -/
theorem unenclosed_branch (front : Word) {inside : Word} (balanced : Balanced inside)
    {symbol : Symbol} (opens : symbol ≠ '[') (closes : symbol ≠ ']') :
    unenclosed (front ++ branch inside) symbol = unenclosed front symbol := by
  rw [balanced.branch.1.unenclosed_append, Nat.add_eq_left, List.countP_eq_zero]
  intro place _ counted
  obtain ⟨here, outside⟩ := of_decide_eq_true counted
  cases place with
  | zero => exact opens (Option.some.inj here).symm
  | succ place =>
      rw [branch, List.getElem?_cons_succ] at here
      by_cases within : place < inside.length
      · exact outside (enclosed_branch front balanced within)
      · rw [List.getElem?_append_right (Nat.not_lt.mp within)] at here
        exact closes (List.mem_singleton.mp (List.mem_of_getElem? here))

/-- Of a branch in an open branch the latter counts. -/
example : (unenclosed "-[+-[-]|".toList '-', unenclosed "-[+-[-]|".toList '+') = (2, 1) := by
  decide

end LSystemExplorer
