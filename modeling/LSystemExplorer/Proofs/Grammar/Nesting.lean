import Mathlib.Data.List.Induction
import Mathlib.Order.Bounds.Basic
import LSystemExplorer.Proofs.Grammar.Expansion

/-!
# Words whose branches nest

In a word `[` opens a branch and `]` closes the branch that was opened last.  A
`]` is unmatched when no branch is open, which can be told from the symbols
before it alone: they hold no more `[` than `]`.  A word nests when no `]` in it
is unmatched, so when each of its prefixes holds at least as many `[` as `]`.

The first unmatched `]` is found by one pass that keeps the number of open
branches (`unmatched?`), and the pass is right about it
(`unmatched?_eq_some_iff`).  The pass starts from any number of open branches, so
that it can be taken apart where a word is put together (`unmatched?_append`).

A rule set that has no rule for `[` and `]`, and only words that nest, keeps
words nested (`nested_rewrite`); if these words also hold as many `[` as `]`,
rewriting does not change by how much the one outnumber the other
(`balanced_rewrite`).  So both pass from the seed of a model to its word.
-/

set_option autoImplicit false

namespace LSystemExplorer

/-! ## Unmatched symbols -/

/-- The `]` at some place of a word closes nothing, when `depth` branches are open
before the word. -/
def Unmatched (depth : Nat) (word : Word) (place : Nat) : Prop :=
  word[place]? = some ']' ∧
    depth + (word.take place).count '[' ≤ (word.take place).count ']'

/-- The number of open branches after a symbol. -/
def openAfter (depth : Nat) (symbol : Symbol) : Nat :=
  if symbol = '[' then depth + 1 else if symbol = ']' then depth - 1 else depth

/-- The number of open branches after a word. -/
def openAt (depth : Nat) (word : Word) : Nat :=
  word.foldl openAfter depth

/-- The place of the first `]` that closes nothing. -/
def unmatched? : Nat → Word → Option Nat
  | _, [] => none
  | depth, symbol :: later =>
    if symbol = ']' ∧ depth = 0 then some 0
    else (unmatched? (openAfter depth symbol) later).map (· + 1)

theorem unmatched_zero {depth : Nat} {symbol : Symbol} {later : Word} :
    Unmatched depth (symbol :: later) 0 ↔ symbol = ']' ∧ depth = 0 := by
  simp [Unmatched]

/-- Unless the first symbol is itself unmatched, it only counts for the symbols
after it by the number of branches it leaves open. -/
theorem unmatched_succ {depth : Nat} {symbol : Symbol} {later : Word} {place : Nat}
    (matched : ¬ (symbol = ']' ∧ depth = 0)) :
    Unmatched depth (symbol :: later) (place + 1) ↔
      Unmatched (openAfter depth symbol) later place := by
  have positive : symbol = ']' → 0 < depth := fun closes =>
    Nat.pos_of_ne_zero fun noneOpen => matched ⟨closes, noneOpen⟩
  simp only [Unmatched, List.getElem?_cons_succ, List.take_succ_cons, List.count_cons,
    openAfter, beq_iff_eq]
  refine and_congr_right fun _ => ?_
  by_cases opens : symbol = '['
  · subst opens
    simp
    omega
  · by_cases closes : symbol = ']'
    · have := positive closes
      subst closes
      simp
      omega
    · simp [opens, closes]

theorem unmatched?_eq_none_iff {depth : Nat} {word : Word} :
    unmatched? depth word = none ↔ ∀ place, ¬ Unmatched depth word place := by
  induction word generalizing depth with
  | nil => simp [unmatched?, Unmatched]
  | cons symbol later ih =>
      by_cases first : symbol = ']' ∧ depth = 0
      · simp only [unmatched?, if_pos first, reduceCtorEq, false_iff, not_forall, not_not]
        exact ⟨0, unmatched_zero.mpr first⟩
      · simp only [unmatched?, if_neg first, Option.map_eq_none_iff, ih]
        constructor
        · intro matched place
          cases place with
          | zero => exact fun here => first (unmatched_zero.mp here)
          | succ place => exact fun here => matched place ((unmatched_succ first).mp here)
        · intro matched place here
          exact matched (place + 1) ((unmatched_succ first).mpr here)

/-- **The pass finds the least place of an unmatched `]`.** -/
theorem unmatched?_eq_some_iff {depth : Nat} {word : Word} {place : Nat} :
    unmatched? depth word = some place ↔ IsLeast {i | Unmatched depth word i} place := by
  induction word generalizing depth place with
  | nil =>
      constructor
      · intro found
        cases found
      · intro least
        exact absurd least.1 (by simp [Unmatched])
  | cons symbol later ih =>
      by_cases first : symbol = ']' ∧ depth = 0
      · have here : Unmatched depth (symbol :: later) 0 := unmatched_zero.mpr first
        simp only [unmatched?, if_pos first, Option.some.injEq]
        constructor
        · rintro rfl
          exact ⟨here, fun _ _ => Nat.zero_le _⟩
        · intro least
          exact (Nat.le_zero.mp (least.2 here)).symm
      · simp only [unmatched?, if_neg first, Option.map_eq_some_iff]
        constructor
        · rintro ⟨before, found, rfl⟩
          obtain ⟨here, least⟩ := ih.mp found
          refine ⟨(unmatched_succ first).mpr here, fun other there => ?_⟩
          cases other with
          | zero => exact absurd (unmatched_zero.mp there) first
          | succ other => exact Nat.succ_le_succ (least ((unmatched_succ first).mp there))
        · rintro ⟨here, least⟩
          cases place with
          | zero => exact absurd (unmatched_zero.mp here) first
          | succ place =>
              refine ⟨place, ih.mpr ⟨(unmatched_succ first).mp here, fun other there => ?_⟩, rfl⟩
              exact Nat.le_of_succ_le_succ (least ((unmatched_succ first).mpr there))

/-- No `]` is unmatched when the first symbol is not, nor any after it. -/
theorem unmatched?_cons_eq_none {depth : Nat} {symbol : Symbol} {later : Word} :
    unmatched? depth (symbol :: later) = none ↔
      ¬ (symbol = ']' ∧ depth = 0) ∧ unmatched? (openAfter depth symbol) later = none := by
  by_cases first : symbol = ']' ∧ depth = 0
  · simp [unmatched?, first]
  · rw [unmatched?, if_neg first, Option.map_eq_none_iff, and_iff_right first]

/-! ## Words put together -/

@[simp] theorem openAt_nil (depth : Nat) : openAt depth [] = depth := rfl

@[simp] theorem openAt_cons (depth : Nat) (symbol : Symbol) (later : Word) :
    openAt depth (symbol :: later) = openAt (openAfter depth symbol) later := rfl

@[simp] theorem openAt_append (depth : Nat) (front back : Word) :
    openAt depth (front ++ back) = openAt (openAt depth front) back :=
  List.foldl_append

/-- The first unmatched `]` of two words in a row is that of the first word, or else
that of the second word, which starts with the branches the first one left open. -/
theorem unmatched?_append (depth : Nat) (front back : Word) :
    unmatched? depth (front ++ back) =
      (unmatched? depth front).or
        ((unmatched? (openAt depth front) back).map (front.length + ·)) := by
  induction front generalizing depth with
  | nil => simp [unmatched?]
  | cons symbol later ih =>
      by_cases first : symbol = ']' ∧ depth = 0
      · simp [unmatched?, if_pos first]
      · simp only [List.cons_append, unmatched?, if_neg first, ih, openAt_cons,
          List.length_cons, Option.map_or, Option.map_map]
        congr 2
        funext place
        simp only [Function.comp_apply]
        omega

theorem unmatched?_append_eq_none {depth : Nat} {front back : Word} :
    unmatched? depth (front ++ back) = none ↔
      unmatched? depth front = none ∧ unmatched? (openAt depth front) back = none := by
  simp [unmatched?_append, Option.or_eq_none_iff]

/-- As long as every `]` is matched, the open branches are those that were opened and
not closed. -/
theorem openAt_add_count {depth : Nat} {word : Word} (matched : unmatched? depth word = none) :
    openAt depth word + word.count ']' = depth + word.count '[' := by
  induction word generalizing depth with
  | nil => simp
  | cons symbol later ih =>
      obtain ⟨first, matched⟩ := unmatched?_cons_eq_none.mp matched
      have rest := ih matched
      simp only [openAt_cons, List.count_cons, beq_iff_eq]
      unfold openAfter at rest ⊢
      by_cases opens : symbol = '['
      · subst opens
        simp at rest ⊢
        omega
      · by_cases closes : symbol = ']'
        · subst closes
          simp at rest first ⊢
          omega
        · simp [opens, closes] at rest ⊢
          omega

/-- Branches that were open before a word do no harm to it, and stay open. -/
theorem unmatched?_add {depth : Nat} {word : Word} (more : Nat)
    (matched : unmatched? depth word = none) :
    unmatched? (depth + more) word = none ∧
      openAt (depth + more) word = openAt depth word + more := by
  induction word generalizing depth with
  | nil => exact ⟨rfl, rfl⟩
  | cons symbol later ih =>
      obtain ⟨first, matched⟩ := unmatched?_cons_eq_none.mp matched
      have positive : symbol = ']' → 0 < depth := fun closes =>
        Nat.pos_of_ne_zero fun noneOpen => first ⟨closes, noneOpen⟩
      have still : ¬ (symbol = ']' ∧ depth + more = 0) := by
        rintro ⟨closes, noneOpen⟩
        have := positive closes
        omega
      have shifted : openAfter (depth + more) symbol = openAfter depth symbol + more := by
        unfold openAfter
        split
        · omega
        · split
          · next closes =>
              have := positive closes
              omega
          · rfl
      obtain ⟨matchedBehind, openBehind⟩ := ih matched
      rw [unmatched?_cons_eq_none, openAt_cons, openAt_cons, shifted]
      exact ⟨⟨still, matchedBehind⟩, openBehind⟩

/-! ## Nested and balanced words -/

/-- No prefix of the word holds more `]` than `[`. -/
def Nested (word : Word) : Prop :=
  ∀ front, front <+: word → front.count ']' ≤ front.count '['

/-- The word nests, and all branches it opens are closed. -/
def Balanced (word : Word) : Prop :=
  Nested word ∧ word.count '[' = word.count ']'

/-- A word nests when none of its `]` is unmatched. -/
theorem nested_iff {word : Word} : Nested word ↔ unmatched? 0 word = none := by
  rw [unmatched?_eq_none_iff]
  constructor
  · rintro nested place ⟨closes, outnumbered⟩
    have within : place < word.length := (List.getElem?_eq_some_iff.mp closes).1
    have symbol : word[place] = ']' := (List.getElem?_eq_some_iff.mp closes).2
    have enough := nested _ (List.take_prefix (place + 1) word)
    rw [List.take_add_one, List.getElem?_eq_getElem within, symbol] at enough
    simp at enough
    omega
  · intro matched front beginning
    induction front using List.reverseRecOn with
    | nil => exact Nat.le_refl _
    | append_singleton earlier symbol ih =>
        obtain ⟨later, rfl⟩ := beginning
        have enough := ih ⟨symbol :: later, by simp⟩
        have here := matched earlier.length
        simp only [Unmatched, List.append_assoc, List.getElem?_append_right (Nat.le_refl _),
          Nat.sub_self, List.singleton_append, List.getElem?_cons_zero, Option.some.injEq,
          List.take_left', not_and] at here
        simp only [List.count_append, List.count_singleton, beq_iff_eq]
        by_cases closes : symbol = ']'
        · have := here closes
          simp [closes]
          omega
        · simp [closes]
          omega

instance (word : Word) : Decidable (Nested word) :=
  decidable_of_iff _ nested_iff.symm

instance (word : Word) : Decidable (Balanced word) :=
  inferInstanceAs (Decidable (_ ∧ _))

/-- A word that nests does so in any surroundings. -/
theorem Nested.unmatched?_eq_none {word : Word} (nested : Nested word) (depth : Nat) :
    unmatched? depth word = none := by
  have shifted := (unmatched?_add depth (nested_iff.mp nested)).1
  rwa [Nat.zero_add] at shifted

/-- A word that nests leaves at least as many branches open as there were before it. -/
theorem Nested.le_openAt {word : Word} (nested : Nested word) (depth : Nat) :
    depth ≤ openAt depth word := by
  have shifted := (unmatched?_add depth (nested_iff.mp nested)).2
  rw [Nat.zero_add] at shifted
  rw [shifted]
  exact Nat.le_add_left _ _

/-- A balanced word leaves as many branches open as there were before it. -/
theorem Balanced.openAt_eq {word : Word} (balanced : Balanced word) (depth : Nat) :
    openAt depth word = depth := by
  have counted := openAt_add_count (balanced.1.unmatched?_eq_none depth)
  have equal := balanced.2
  omega

/-! ## Rewriting -/

namespace Rules

/-- There is no rule for `[` and `]`, and all words of the rules nest. -/
def KeepNesting (rules : Rules) : Prop :=
  ∀ rule ∈ rules.entries, rule.1 ≠ '[' ∧ rule.1 ≠ ']' ∧ Nested rule.2

/-- All words of the rules hold as many `[` as `]`. -/
def KeepBalance (rules : Rules) : Prop :=
  ∀ rule ∈ rules.entries, rule.2.count '[' = rule.2.count ']'

instance (rules : Rules) : Decidable rules.KeepNesting :=
  inferInstanceAs (Decidable (∀ rule ∈ rules.entries, _))

instance (rules : Rules) : Decidable rules.KeepBalance :=
  inferInstanceAs (Decidable (∀ rule ∈ rules.entries, _))

/-- What stands in the place of a symbol is the word of a rule for it, or the symbol. -/
theorem replacement_cases (rules : Rules) (symbol : Symbol) :
    (symbol, rules.replacement symbol) ∈ rules.entries ∨
      rules.replacement symbol = [symbol] := by
  unfold replacement find?
  cases found : rules.entries.lookup symbol with
  | none => exact .inr rfl
  | some word =>
      obtain ⟨front, back, split, -⟩ := List.lookup_eq_some_iff.mp found
      exact .inl (split ▸ List.mem_append_right _ (List.mem_cons_self ..))

variable {rules : Rules}

/-- One symbol more or less in a word and what stands in its place: the latter has no
unmatched `]` either, and leaves no fewer branches open. -/
theorem KeepNesting.replacement (keeps : rules.KeepNesting) {symbol : Symbol}
    {depth more : Nat} (matched : ¬ (symbol = ']' ∧ depth = 0)) (least : depth ≤ more) :
    unmatched? more (rules.replacement symbol) = none ∧
      openAfter depth symbol ≤ openAt more (rules.replacement symbol) := by
  rcases rules.replacement_cases symbol with rule | same
  · obtain ⟨notOpening, notClosing, nested⟩ := keeps _ rule
    simp only [openAfter, if_neg notOpening, if_neg notClosing]
    exact ⟨nested.unmatched?_eq_none more, least.trans (nested.le_openAt more)⟩
  · rw [same]
    have still : ¬ (symbol = ']' ∧ more = 0) := fun ⟨closes, noneOpen⟩ =>
      matched ⟨closes, by omega⟩
    refine ⟨by simp [unmatched?, if_neg still], ?_⟩
    simp only [openAt_cons, openAt_nil, openAfter]
    split
    · omega
    · split <;> omega

/-- **Rewriting keeps words nested**, also when more branches are open before the
rewritten word than before the word itself. -/
theorem KeepNesting.rewrite (keeps : rules.KeepNesting) {word : Word} {depth more : Nat}
    (matched : unmatched? depth word = none) (least : depth ≤ more) :
    unmatched? more (rules.rewrite word) = none := by
  induction word generalizing depth more with
  | nil => rfl
  | cons symbol later ih =>
      obtain ⟨first, matched⟩ := unmatched?_cons_eq_none.mp matched
      obtain ⟨here, enough⟩ := keeps.replacement first least
      exact unmatched?_append_eq_none.mpr ⟨here, ih matched enough⟩

theorem nested_rewrite (keeps : rules.KeepNesting) {word : Word} (nested : Nested word) :
    Nested (rules.rewrite word) :=
  nested_iff.mpr (keeps.rewrite (nested_iff.mp nested) (Nat.le_refl 0))

/-- Rewriting does not change by how much `[` outnumbers `]`. -/
theorem balanced_rewrite (nesting : rules.KeepNesting) (balance : rules.KeepBalance)
    (word : Word) :
    (rules.rewrite word).count '[' + word.count ']' =
      (rules.rewrite word).count ']' + word.count '[' := by
  induction word with
  | nil => rfl
  | cons symbol later ih =>
      have split : rules.rewrite (symbol :: later) =
          rules.replacement symbol ++ rules.rewrite later := rfl
      simp only [split, List.count_append, List.count_cons, beq_iff_eq]
      rcases rules.replacement_cases symbol with rule | same
      · obtain ⟨notOpening, notClosing, -⟩ := nesting _ rule
        have equal := balance _ rule
        simp only [if_neg notOpening, if_neg notClosing]
        simp only at equal
        omega
      · rw [same]
        simp only [List.count_singleton, beq_iff_eq]
        omega

/-- Several passes keep a word nested. -/
theorem nested_rewriteTimes (keeps : rules.KeepNesting) (passes : Nat) {word : Word}
    (nested : Nested word) : Nested (rules.rewriteTimes passes word) := by
  induction passes generalizing word with
  | zero => exact nested
  | succ passes ih => exact ih (nested_rewrite keeps nested)

theorem count_rewriteTimes (nesting : rules.KeepNesting) (balance : rules.KeepBalance)
    (passes : Nat) {word : Word} (equal : word.count '[' = word.count ']') :
    (rules.rewriteTimes passes word).count '[' = (rules.rewriteTimes passes word).count ']' := by
  induction passes generalizing word with
  | zero => exact equal
  | succ passes ih =>
      refine ih ?_
      have same := balanced_rewrite nesting balance word
      omega

end Rules

/-! ## The word of a model -/

namespace Model

variable {α : Type}

/-- The seed of the model and all words of its rules nest, and no rule replaces `[` or
`]`. -/
structure KeepsNesting (model : Model α) : Prop where
  seed : Nested model.seed
  rules : model.rules.KeepNesting
  finalRules : model.finalRules.KeepNesting

/-- The seed of the model and all words of its rules hold as many `[` as `]`. -/
structure KeepsBalance (model : Model α) : Prop where
  seed : model.seed.count '[' = model.seed.count ']'
  rules : model.rules.KeepBalance
  finalRules : model.finalRules.KeepBalance

instance (model : Model α) : Decidable model.KeepsNesting :=
  decidable_of_iff
    (Nested model.seed ∧ model.rules.KeepNesting ∧ model.finalRules.KeepNesting)
    ⟨fun ⟨seed, rules, finalRules⟩ => ⟨seed, rules, finalRules⟩,
      fun keeps => ⟨keeps.seed, keeps.rules, keeps.finalRules⟩⟩

instance (model : Model α) : Decidable model.KeepsBalance :=
  decidable_of_iff
    (model.seed.count '[' = model.seed.count ']' ∧ model.rules.KeepBalance ∧
      model.finalRules.KeepBalance)
    ⟨fun ⟨seed, rules, finalRules⟩ => ⟨seed, rules, finalRules⟩,
      fun keeps => ⟨keeps.seed, keeps.rules, keeps.finalRules⟩⟩

/-- **The word of a model whose rules nest is nested.** -/
theorem KeepsNesting.generate {model : Model α} (keeps : model.KeepsNesting) :
    Nested model.generate := by
  rw [generate_eq_rewrite]
  exact Rules.nested_rewrite keeps.finalRules
    (Rules.nested_rewriteTimes keeps.rules model.iterations keeps.seed)

/-- The word of a model whose rules nest and balance is balanced. -/
theorem KeepsNesting.balanced {model : Model α} (keeps : model.KeepsNesting)
    (balance : model.KeepsBalance) : Balanced model.generate := by
  refine ⟨keeps.generate, ?_⟩
  rw [generate_eq_rewrite]
  have passes := Rules.count_rewriteTimes keeps.rules balance.rules model.iterations balance.seed
  have final := Rules.balanced_rewrite keeps.finalRules balance.finalRules
    (model.rules.rewriteTimes model.iterations model.seed)
  omega

end Model

end LSystemExplorer
