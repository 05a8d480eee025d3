/-!
# Rewrite rules

A grammar rewrites words, which are lists of symbols, and every symbol is one
character.  A rule set gives some symbols a word to put in their place.  It is
kept in the order of its symbols, each at most once, so two rule sets that
replace every symbol in the same way are equal, and the order in which rules
were written down cannot be told from the result.
-/

set_option autoImplicit false

namespace LSystemExplorer

/-- One letter of a grammar. -/
abbrev Symbol := Char

/-- What a grammar rewrites. -/
abbrev Word := List Symbol

/-- How long a word is when it is written as text in eight-bit units. -/
def Word.encodedLength (word : Word) : Nat :=
  word.foldl (fun total symbol => total + symbol.utf8Size) 0

/-- The symbols of the entries go strictly upward. -/
def Ascending (entries : List (Symbol × Word)) : Prop :=
  entries.Pairwise fun earlier later => earlier.1 < later.1

instance (entries : List (Symbol × Word)) : Decidable (Ascending entries) :=
  inferInstanceAs (Decidable (List.Pairwise _ entries))

/-- Put an entry in its place, instead of an older one for the same symbol. -/
def insertEntry (symbol : Symbol) (word : Word) : List (Symbol × Word) → List (Symbol × Word)
  | [] => [(symbol, word)]
  | entry :: later =>
    if symbol < entry.1 then (symbol, word) :: entry :: later
    else if entry.1 < symbol then entry :: insertEntry symbol word later
    else (symbol, word) :: later

/-- Whatever is above every symbol of the entries and above the new one stays
above all of them. -/
theorem forall_insertEntry {property : Symbol → Prop} {symbol : Symbol} {word : Word}
    {entries : List (Symbol × Word)} (new : property symbol)
    (old : ∀ entry ∈ entries, property entry.1) :
    ∀ entry ∈ insertEntry symbol word entries, property entry.1 := by
  induction entries with
  | nil =>
      intro entry member
      rw [insertEntry, List.mem_singleton] at member
      exact member ▸ new
  | cons first later ih =>
      have laterOld : ∀ entry ∈ later, property entry.1 :=
        fun entry member => old entry (List.mem_cons_of_mem _ member)
      have firstOld : property first.1 := old first (List.mem_cons_self ..)
      intro entry member
      unfold insertEntry at member
      split at member
      · rcases List.mem_cons.1 member with rfl | member
        · exact new
        · exact old entry member
      · split at member
        · rcases List.mem_cons.1 member with rfl | member
          · exact firstOld
          · exact ih laterOld entry member
        · rcases List.mem_cons.1 member with rfl | member
          · exact new
          · exact laterOld entry member

/-- Putting an entry in its place keeps the entries in order. -/
theorem Ascending.insertEntry {entries : List (Symbol × Word)} (ascending : Ascending entries)
    (symbol : Symbol) (word : Word) : Ascending (insertEntry symbol word entries) := by
  induction entries with
  | nil => exact List.pairwise_singleton _ _
  | cons first later ih =>
      have above := (List.pairwise_cons.1 ascending).1
      have laterAscending := (List.pairwise_cons.1 ascending).2
      unfold LSystemExplorer.insertEntry
      split
      · next before =>
          refine List.pairwise_cons.2 ⟨?_, ascending⟩
          intro entry member
          rcases List.mem_cons.1 member with rfl | member
          · exact before
          · exact Char.lt_trans before (above entry member)
      · next notBefore =>
          split
          · next after =>
              exact List.pairwise_cons.2 ⟨forall_insertEntry after above, ih laterAscending⟩
          · next notAfter =>
              have same : first.1 = symbol :=
                Char.le_antisymm (Char.not_lt.1 notBefore) (Char.not_lt.1 notAfter)
              exact List.pairwise_cons.2 ⟨same ▸ above, laterAscending⟩

/-- A rule for some of the symbols. -/
structure Rules where
  entries : List (Symbol × Word)
  /-- No symbol has two rules, and the order of the symbols is fixed. -/
  ascending : Ascending entries
  deriving DecidableEq

namespace Rules

/-- The rule set without rules. -/
def empty : Rules := ⟨[], List.Pairwise.nil⟩

instance : EmptyCollection Rules := ⟨empty⟩

instance : Inhabited Rules := ⟨∅⟩

/-- Add a rule, instead of an older one for the same symbol. -/
def insert (rules : Rules) (symbol : Symbol) (word : Word) : Rules :=
  ⟨insertEntry symbol word rules.entries, rules.ascending.insertEntry symbol word⟩

/-- The rules of a list, in which a later rule replaces an earlier one. -/
def ofList (rules : List (Symbol × Word)) : Rules :=
  rules.foldl (fun earlier rule => earlier.insert rule.1 rule.2) ∅

/-- The number of symbols that are replaced. -/
def size (rules : Rules) : Nat :=
  rules.entries.length

/-- No symbol is replaced. -/
def isEmpty (rules : Rules) : Bool :=
  rules.entries.isEmpty

/-- The word a symbol is replaced by, if it has a rule. -/
def find? (rules : Rules) (symbol : Symbol) : Option Word :=
  rules.entries.lookup symbol

/-- What stands in the place of a symbol after one pass: its word, or the symbol
itself when it has no rule. -/
def replacement (rules : Rules) (symbol : Symbol) : Word :=
  (rules.find? symbol).getD [symbol]

/-- Replace all symbols of a word at once. -/
def rewrite (rules : Rules) (word : Word) : Word :=
  word.flatMap rules.replacement

/-- Replace all symbols of a word, several times over. -/
def rewriteTimes (rules : Rules) : Nat → Word → Word
  | 0, word => word
  | passes + 1, word => rules.rewriteTimes passes (rules.rewrite word)

@[simp] theorem rewrite_nil (rules : Rules) : rules.rewrite [] = [] := rfl

/-- Symbols are replaced without regard to their neighbours. -/
@[simp] theorem rewrite_append (rules : Rules) (front back : Word) :
    rules.rewrite (front ++ back) = rules.rewrite front ++ rules.rewrite back :=
  List.flatMap_append

end Rules

end LSystemExplorer
