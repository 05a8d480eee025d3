import LSystemExplorer.Grammar.Model
import Mathlib.Data.List.Nodup

/-!
# The entries of a rule set

A rule set has an entry for each symbol that it replaces, and for no symbol two.  So what is
found for a symbol says which entries there are (`Rules.mem_entries_iff`), and as their order
is fixed as well, rule sets in which the same words are found are the same
(`Rules.eq_of_find?`).

For the same reason nothing is left of the order in which rules are written down, as long as
no symbol has two of them (`Rules.ofList_eq_of_perm`).  A table may give out the rules of a
set in any order (`Rules.ListedBy`); sorted by their symbols they are the entries of the set
(`Rules.ListedBy.mergeSort_eq`).
-/

set_option autoImplicit false

namespace LSystemExplorer

/-! ## Rules as a table

A rule set is a list of entries in the order of their symbols, but what counts is the word
it has for each symbol.  Adding a rule changes this word for one symbol and for no other
(`find?_insert`).  So of the rules in a list the last one for a symbol is the one that is
found, wherever it stands (`find?_ofList`).
-/

theorem lookup_insertEntry_self (symbol : Symbol) (word : Word)
    (entries : List (Symbol × Word)) :
    (insertEntry symbol word entries).lookup symbol = some word := by
  induction entries with
  | nil => simp [insertEntry]
  | cons first later ih =>
      obtain ⟨other, older⟩ := first
      unfold insertEntry
      split
      · simp
      · split
        · rename_i above
          have different : (symbol == other) = false :=
            beq_eq_false_iff_ne.mpr (Char.ne_of_lt above).symm
          simp [List.lookup_cons, different, ih]
        · simp

theorem lookup_insertEntry_of_ne {symbol other : Symbol} (different : other ≠ symbol)
    (word : Word) (entries : List (Symbol × Word)) :
    (insertEntry symbol word entries).lookup other = entries.lookup other := by
  have passed : (other == symbol) = false := beq_eq_false_iff_ne.mpr different
  induction entries with
  | nil => simp [insertEntry, List.lookup_cons, passed]
  | cons first later ih =>
      obtain ⟨key, older⟩ := first
      unfold insertEntry
      split
      · simp [List.lookup_cons, passed]
      · rename_i notBelow
        split
        · simp [List.lookup_cons, ih]
        · rename_i notAbove
          have same : key = symbol :=
            Char.le_antisymm (Char.not_lt.1 notBelow) (Char.not_lt.1 notAbove)
          simp [List.lookup_cons, passed, same]

namespace Rules

@[simp] theorem find?_empty (symbol : Symbol) : (∅ : Rules).find? symbol = none := rfl

/-- **Adding a rule changes the word of its symbol, and of no other.** -/
theorem find?_insert (rules : Rules) (symbol : Symbol) (word : Word) (other : Symbol) :
    (rules.insert symbol word).find? other =
      if other = symbol then some word else rules.find? other := by
  split
  · rename_i same
    rw [same]
    exact lookup_insertEntry_self symbol word rules.entries
  · rename_i different
    exact lookup_insertEntry_of_ne different word rules.entries

/-- Of the rules that are added one after the other the last one for a symbol counts; a
symbol without any keeps the word it had. -/
theorem find?_foldl_insert (rules : Rules) (added : List (Symbol × Word)) (symbol : Symbol) :
    (added.foldl (fun earlier rule => earlier.insert rule.1 rule.2) rules).find? symbol =
      (added.reverse.lookup symbol).or (rules.find? symbol) := by
  induction added generalizing rules with
  | nil => simp
  | cons rule later ih =>
      obtain ⟨key, word⟩ := rule
      rw [List.foldl_cons, ih, find?_insert, List.reverse_cons, List.lookup_append,
        Option.or_assoc]
      by_cases same : symbol = key
      · simp [same]
      · simp [List.lookup_cons, same, beq_eq_false_iff_ne.mpr same]

/-- **Of the rules in a list the last one for a symbol is found.** -/
theorem find?_ofList (rules : List (Symbol × Word)) (symbol : Symbol) :
    (ofList rules).find? symbol = rules.reverse.lookup symbol := by
  rw [ofList, find?_foldl_insert, find?_empty, Option.or_none]

end Rules

/-! ## The entries of a rule set

A rule set has an entry for each symbol that it replaces, and for no symbol two.  So what is
found for a symbol says which entries there are (`Rules.mem_entries_iff`), and as their order
is fixed as well, rule sets in which the same words are found are the same
(`Rules.eq_of_find?`).

For the same reason nothing is left of the order in which rules are written down, as long as
no symbol has two of them (`Rules.ofList_eq_of_perm`).  A table may give out the rules of a
set in any order (`Rules.ListedBy`); sorted by their symbols they are the entries of the set
(`Rules.ListedBy.mergeSort_eq`).
-/

section Lists

variable {entries others : List (Symbol × Word)}

/-- When no symbol stands in two entries, the entry of a symbol is found wherever it is. -/
theorem lookup_eq_some_iff_mem (distinct : (entries.map Prod.fst).Nodup) {symbol : Symbol}
    {word : Word} : entries.lookup symbol = some word ↔ (symbol, word) ∈ entries := by
  induction entries with
  | nil => simp
  | cons first later ih =>
      obtain ⟨key, older⟩ := first
      obtain ⟨fresh, laterDistinct⟩ := List.nodup_cons.mp distinct
      rw [List.lookup_cons, List.mem_cons, Prod.mk.injEq]
      by_cases same : symbol = key
      · subst same
        have notLater : (symbol, word) ∉ later :=
          fun member => fresh (List.mem_map.mpr ⟨_, member, rfl⟩)
        simp [notLater, eq_comm]
      · rw [beq_eq_false_iff_ne.mpr same]
        simp [same, ih laterDistinct]

/-- Without two entries for a symbol, the order of the entries does not matter. -/
theorem lookup_eq_of_perm (reordered : entries.Perm others)
    (distinct : (entries.map Prod.fst).Nodup) (symbol : Symbol) :
    entries.lookup symbol = others.lookup symbol := by
  have othersDistinct : (others.map Prod.fst).Nodup :=
    (reordered.map Prod.fst).nodup_iff.mp distinct
  refine Option.ext fun word => ?_
  rw [lookup_eq_some_iff_mem distinct, lookup_eq_some_iff_mem othersDistinct,
    reordered.mem_iff]

end Lists

namespace Rules

/-! ### Entries and words -/

theorem distinct (rules : Rules) : (rules.entries.map Prod.fst).Nodup :=
  List.pairwise_map.mpr (rules.ascending.imp fun below => Char.ne_of_lt below)

/-- A rule set has the entries that are found. -/
theorem mem_entries_iff (rules : Rules) {symbol : Symbol} {word : Word} :
    (symbol, word) ∈ rules.entries ↔ rules.find? symbol = some word :=
  (lookup_eq_some_iff_mem rules.distinct).symm

/-- Some rules, in any order: one for each symbol that the rule set replaces. -/
structure ListedBy (rules : Rules) (listing : List (Symbol × Word)) : Prop where
  distinct : (listing.map Prod.fst).Nodup
  found : ∀ symbol word, (symbol, word) ∈ listing ↔ rules.find? symbol = some word

theorem listedBy_entries (rules : Rules) : rules.ListedBy rules.entries :=
  ⟨rules.distinct, fun _ _ => rules.mem_entries_iff⟩

namespace ListedBy

variable {rules : Rules} {listing another : List (Symbol × Word)}

theorem of_perm (listed : rules.ListedBy listing) (reordered : listing.Perm another) :
    rules.ListedBy another where
  distinct := (reordered.map Prod.fst).nodup_iff.mp listed.distinct
  found symbol word := by rw [← reordered.mem_iff, listed.found]

/-- Two lists of the same rules differ in their order only. -/
theorem perm (listed : rules.ListedBy listing) (also : rules.ListedBy another) :
    listing.Perm another := by
  refine (List.perm_ext_iff_of_nodup (.of_map _ listed.distinct)
    (.of_map _ also.distinct)).mpr ?_
  rintro ⟨symbol, word⟩
  rw [listed.found, also.found]

/-- Of the entries of a list, one symbol has one. -/
theorem eq_of_symbol_eq (listed : rules.ListedBy listing) {first second : Symbol × Word}
    (here : first ∈ listing) (there : second ∈ listing) (same : first.1 = second.1) :
    first = second := by
  have firstWord := (listed.found _ _).mp here
  have secondWord := (listed.found _ _).mp there
  rw [same, secondWord] at firstWord
  exact Prod.ext same (Option.some.inj firstWord).symm

/-- **Sorted by their symbols, the rules are the entries of the set**, in whatever order
they were. -/
theorem mergeSort_eq (listed : rules.ListedBy listing) :
    (listing.mergeSort fun earlier later => earlier.1 ≤ later.1) = rules.entries := by
  let below (earlier later : Symbol × Word) : Bool := earlier.1 ≤ later.1
  have reordered : (listing.mergeSort below).Perm rules.entries :=
    (List.mergeSort_perm listing below).trans (listed.perm rules.listedBy_entries)
  have sorted : (listing.mergeSort below).Pairwise fun earlier later => below earlier later :=
    List.pairwise_mergeSort
      (fun _ _ _ first second => by
        simp only [below, decide_eq_true_eq] at first second ⊢
        exact Char.le_trans first second)
      (fun earlier later => by simpa [below] using Char.le_total earlier.1 later.1) listing
  have entriesSorted : rules.entries.Pairwise fun earlier later => below earlier later :=
    rules.ascending.imp fun ascending => decide_eq_true (Char.not_lt.mp (Char.lt_asymm ascending))
  refine reordered.eq_of_pairwise (fun first second here there upward downward => ?_) sorted
    entriesSorted
  refine rules.listedBy_entries.eq_of_symbol_eq (reordered.mem_iff.mp here) there ?_
  exact Char.le_antisymm (of_decide_eq_true upward) (of_decide_eq_true downward)

end ListedBy

/-- **Rule sets in which the same words are found are the same.** -/
theorem eq_of_find? {left right : Rules}
    (same : ∀ symbol, left.find? symbol = right.find? symbol) : left = right := by
  have listed : left.ListedBy right.entries :=
    ⟨right.distinct, fun symbol _ => by rw [right.mem_entries_iff, same symbol]⟩
  have entries : left.entries = right.entries :=
    listed.mergeSort_eq.symm.trans right.listedBy_entries.mergeSort_eq
  cases left
  cases right
  cases entries
  rfl

/-! ### Written down in any order -/

/-- Without two rules for a symbol, each of the rules in a list is found. -/
theorem find?_ofList_of_distinct {rules : List (Symbol × Word)}
    (distinct : (rules.map Prod.fst).Nodup) (symbol : Symbol) :
    (ofList rules).find? symbol = rules.lookup symbol := by
  rw [find?_ofList]
  exact (lookup_eq_of_perm (List.reverse_perm rules).symm distinct symbol).symm

/-- **Without two rules for a symbol, the order of the rules in a list does not matter.** -/
theorem ofList_eq_of_perm {rules others : List (Symbol × Word)} (reordered : rules.Perm others)
    (distinct : (rules.map Prod.fst).Nodup) : ofList rules = ofList others := by
  refine eq_of_find? fun symbol => ?_
  rw [find?_ofList_of_distinct distinct,
    find?_ofList_of_distinct ((reordered.map Prod.fst).nodup_iff.mp distinct),
    lookup_eq_of_perm reordered distinct]

/-- With two rules for a symbol the later one counts, so their order matters. -/
example : ofList [('F', ['A']), ('F', ['B'])] ≠ ofList [('F', ['B']), ('F', ['A'])] := by
  decide

end Rules

end LSystemExplorer
