import Mathlib
import LSystemExplorer.Proofs.CommandLine.Rows
import LSystemExplorer.Proofs.Grammar.Alphabet

/-!
# Lines that are printed

A listing is meant to have one line for each model, and the word of a model to be one line.  The
end of each line is printed with it, and the numbers on it hold no line feed
(`Decimal.numeral_plain`).  But names and words are printed as they are, and a document may put line
feeds into them.  So a listing has as many lines more than models as there are line feeds in the
names (`Report.length_listedLines`), and a word falls into one line more than it has line feeds
(`Report.fallsInto_generate`).

The lines are therefore as they are meant to be exactly if no name, and no symbol of the word, is a
line feed (`Report.printed_line_by_line`).  For the word it is enough that none is written in the
grammar.  A document with a line feed in a name and in a seed is loaded, and then both have two
lines (`Report.printed_over_two_lines`).
-/

set_option autoImplicit false

namespace LSystemExplorer

/-! ## Texts cut at their line feeds -/

namespace Text

/-- Cut at its line feeds, the text falls into these lines.  A line feed at the end opens no
further line. -/
def FallsInto (text : String) (lines : List (List Char)) : Prop :=
  text.toList.splitOn '\n' = lines ++ [[]]

instance (text : String) (lines : List (List Char)) : Decidable (FallsInto text lines) :=
  inferInstanceAs (Decidable (_ = _))

theorem FallsInto.unique {text : String} {lines others : List (List Char)}
    (falls : FallsInto text lines) (also : FallsInto text others) : lines = others :=
  List.append_cancel_right (falls.symm.trans also)

/-- There is one piece more than there are line feeds. -/
theorem length_splitOn (text : List Char) :
    (text.splitOn '\n').length = text.count '\n' + 1 := by
  induction text with
  | nil => rfl
  | cons character later ih =>
      by_cases feed : character = '\n'
      · simp [List.splitOn_cons_eq_if_modifyHead, feed, ih]
      · simp [List.splitOn_cons_eq_if_modifyHead, feed, ih]

/-- Rows with a line feed behind each fall into the pieces of each. -/
theorem splitOn_flatMap (rows : List (List Char)) :
    (rows.flatMap fun row => row ++ ['\n']).splitOn '\n' =
      (rows.flatMap fun row => row.splitOn '\n') ++ [[]] := by
  induction rows with
  | nil => rfl
  | cons row later ih =>
      rw [List.flatMap_cons, List.flatMap_cons, List.append_assoc, List.singleton_append,
        List.splitOn_append_cons_self, ih, List.append_assoc]

/-- Rows without line feeds are the lines themselves. -/
theorem flatMap_splitOn_of_not_mem {rows : List (List Char)} (whole : ∀ row ∈ rows, '\n' ∉ row) :
    (rows.flatMap fun row => row.splitOn '\n') = rows := by
  induction rows with
  | nil => rfl
  | cons row later ih =>
      obtain ⟨here, there⟩ := List.forall_mem_cons.mp whole
      rw [List.flatMap_cons, List.splitOn_eq_singleton here, ih there, List.singleton_append]

end Text

/-! ## Numbers -/

namespace Decimal

theorem Numeral.replicate_zero (count : Nat) : Numeral (List.replicate count '0') := by
  intro character member
  rw [List.eq_of_mem_replicate member]
  decide

/-- Both parts of a number that is written out in full are numerals. -/
theorem Scaled.numeral_positional (number : Scaled) :
    Numeral number.positional.1 ∧ Numeral number.positional.2 := by
  have characters : Numeral number.characters := .repr number.digits
  have zero : Numeral ['0'] := by decide
  unfold Scaled.positional
  dsimp only
  split
  · exact ⟨zero, (Numeral.replicate_zero _).append characters⟩
  · exact ⟨(characters.of_subset (List.take_subset _ _)).append (.replicate_zero _),
      characters.of_subset (List.drop_subset _ _)⟩

/-- **A number is written out with the characters of a numeral.** -/
theorem numeral_plain (number : Float) : Numeral (plain number).toList := by
  refine .withSign (fun parts => ?_) number
  obtain ⟨whole, fraction⟩ := (shortest parts.significand parts.exponent).numeral_positional
  exact .joinPoint whole fraction

end Decimal

namespace Report

/-! ## Listings -/

section Listing

variable {place : Nat} {model : Model Float}

/-- The line of a model without its end. -/
def row (place : Nat) (model : Model Float) : List Char :=
  (padLeft 2 (toString place)).toList ++
    ("  ".toList ++ (model.name.toList ++ (List.replicate (16 - model.name.length) ' ' ++
      (" iterations=".toList ++ ((Nat.repr model.iterations).toList ++
        (" angle=".toList ++ ((Decimal.plain model.angleStep).toList ++ ['°'])))))))

theorem toList_pushn (text : String) (character : Char) (count : Nat) :
    (text.pushn character count).toList = text.toList ++ List.replicate count character := by
  induction count with
  | zero => simp [String.pushn_eq_repeat_push, Nat.repeat]
  | succ count ih =>
      rw [String.pushn_eq_repeat_push] at ih ⊢
      rw [Nat.repeat, String.toList_push, ih, List.replicate_succ', List.append_assoc]

theorem toList_modelLine (place : Nat) (model : Model Float) :
    (modelLine place model).toList = row place model ++ ['\n'] := by
  have ending : "°\n".toList = ['°'] ++ ['\n'] := by decide
  have line : modelLine place model = padLeft 2 (toString place) ++ "  " ++
      padRight 16 model.name ++ (" iterations=" ++ Nat.repr model.iterations ++ " angle=" ++
        Decimal.plain model.angleStep ++ "°\n") := rfl
  rw [line, row]
  simp only [String.toList_append, padRight, toList_pushn, ending, List.append_assoc]

/-- Nothing before the name of a model is a line feed. -/
theorem not_mem_padLeft (width count : Nat) : '\n' ∉ (padLeft width (toString count)).toList := by
  have digits : '\n' ∉ (Nat.repr count).toList := (Decimal.Numeral.repr count).not_mem (by decide)
  rw [padLeft, String.toList_append, toList_pushn, List.mem_append, List.mem_append]
  rintro ((empty | blank) | digit)
  · exact absurd empty List.not_mem_nil
  · exact absurd (List.eq_of_mem_replicate blank) (by decide)
  · exact digits digit

/-- The line feeds on the line of a model, before its end, are those of the name. -/
theorem count_row (place : Nat) (model : Model Float) :
    (row place model).count '\n' = model.name.toList.count '\n' := by
  have place := List.count_eq_zero.mpr (not_mem_padLeft 2 place)
  have blanks : (List.replicate (16 - model.name.length) ' ').count '\n' = 0 := by
    rw [List.count_replicate]
    rfl
  have passes : (Nat.repr model.iterations).toList.count '\n' = 0 :=
    List.count_eq_zero.mpr ((Decimal.Numeral.repr _).not_mem (by decide))
  have angle : (Decimal.plain model.angleStep).toList.count '\n' = 0 :=
    List.count_eq_zero.mpr ((Decimal.numeral_plain _).not_mem (by decide))
  have labels : "  ".toList.count '\n' = 0 ∧ " iterations=".toList.count '\n' = 0 ∧
      " angle=".toList.count '\n' = 0 ∧ ['°'].count '\n' = 0 := by decide
  obtain ⟨gap, iterations, degrees, sign⟩ := labels
  simp only [row, List.count_append, place, blanks, passes, angle, gap, iterations, degrees, sign,
    Nat.zero_add, Nat.add_zero]

/-- The rows of a listing, in the order of the catalog. -/
def listing (catalog : Catalog Float) : List (List Char) :=
  catalog.models.zipIdx.map fun entry => row entry.2 entry.1

theorem toList_list (catalog : Catalog Float) :
    (list catalog).written.toList = (listing catalog).flatMap fun row => row ++ ['\n'] := by
  have written : (list catalog).written =
      String.join (catalog.models.zipIdx.map fun entry => modelLine entry.2 entry.1) := rfl
  rw [written, listing]
  simp only [String.toList_join, List.flatMap_map, toList_modelLine]

/-- How many line feeds there are in the names of the catalog. -/
def feedsInNames (catalog : Catalog Float) : Nat :=
  (catalog.models.map fun model => model.name.toList.count '\n').sum

theorem feedsInNames_eq_zero_iff {catalog : Catalog Float} :
    feedsInNames catalog = 0 ↔ ∀ model ∈ catalog.models, '\n' ∉ model.name.toList := by
  rw [feedsInNames, List.sum_eq_zero_iff_forall_eq_nat, List.forall_mem_map]
  simp only [List.count_eq_zero]

/-- The lines of a listing. -/
def listedLines (catalog : Catalog Float) : List (List Char) :=
  (listing catalog).flatMap fun row => row.splitOn '\n'

theorem length_flatMap_splitOn (entries : List (Model Float × Nat)) :
    ((entries.map fun entry => row entry.2 entry.1).flatMap fun row => row.splitOn '\n').length =
      entries.length + (entries.map fun entry => entry.1.name.toList.count '\n').sum := by
  induction entries with
  | nil => rfl
  | cons entry later ih =>
      rw [List.map_cons, List.flatMap_cons, List.length_append, Text.length_splitOn, count_row, ih,
        List.length_cons, List.map_cons, List.sum_cons]
      omega

/-- A listing has as many lines more than models as there are line feeds in the names. -/
theorem length_listedLines (catalog : Catalog Float) :
    (listedLines catalog).length = catalog.size + feedsInNames catalog := by
  have names : (catalog.models.zipIdx.map fun entry => entry.1.name.toList.count '\n') =
      catalog.models.map fun model => model.name.toList.count '\n' := by
    conv_rhs => rw [← List.zipIdx_map_fst 0 catalog.models, List.map_map]
    rfl
  rw [listedLines, listing, length_flatMap_splitOn, names, List.length_zipIdx]
  rfl

/-- **A listing falls into the pieces of its rows.** -/
theorem fallsInto_list (catalog : Catalog Float) :
    Text.FallsInto (list catalog).written (listedLines catalog) := by
  rw [Text.FallsInto, toList_list]
  exact Text.splitOn_flatMap (listing catalog)

/-- Without line feeds in the names the rows are the lines. -/
theorem listedLines_eq {catalog : Catalog Float}
    (plain : ∀ model ∈ catalog.models, '\n' ∉ model.name.toList) :
    listedLines catalog = listing catalog := by
  refine Text.flatMap_splitOn_of_not_mem fun line member => ?_
  obtain ⟨entry, listed, rfl⟩ := List.mem_map.mp member
  have named := plain entry.1 (List.fst_mem_of_mem_zipIdx listed)
  rw [← List.count_eq_zero, count_row]
  exact List.count_eq_zero.mpr named

theorem listing_getElem? {catalog : Catalog Float} (here : catalog.get? place = some model) :
    (listing catalog)[place]? = some (row place model) := by
  have found : catalog.models[place]? = some model := here
  simp [listing, found]

end Listing

/-! ## Words -/

/-- **The word of a model falls into one line more than it has line feeds.** -/
theorem fallsInto_generate (model : Model Float) :
    Text.FallsInto (generate model).written (model.generate.splitOn '\n') ∧
      (model.generate.splitOn '\n').length = model.generate.count '\n' + 1 := by
  refine ⟨?_, Text.length_splitOn _⟩
  have written : (generate model).written.toList = model.generate ++ ['\n'] := by
    rw [generate, writing, String.toList_ofList]
  rw [Text.FallsInto, written]
  exact List.splitOn_append_cons_self _ _

/-! ## Line by line -/

/-- **When the output is line by line.**  The lines of a listing are as many as the models and
the line feeds in their names.  So there is one for each model just if no name has a line feed, and
then they are in the order of the catalog, and each begins with the place of its model, written
to the right.  The word of a model is on one line just if it has no line feed, and it has none if
none is written in the grammar. -/
theorem printed_line_by_line (catalog : Catalog Float) (model : Model Float) :
    (∃ lines, Text.FallsInto (list catalog).written lines ∧
        lines.length = catalog.size + feedsInNames catalog ∧
        (lines.length = catalog.size ↔
          ∀ listed ∈ catalog.models, '\n' ∉ listed.name.toList) ∧
        ((∀ listed ∈ catalog.models, '\n' ∉ listed.name.toList) →
          ∀ place listed, catalog.get? place = some listed →
            ∃ line, lines[place]? = some line ∧
              (padLeft 2 (toString place)).toList <+: line ∧
              line ++ ['\n'] = (modelLine place listed).toList)) ∧
      ∃ lines, Text.FallsInto (generate model).written lines ∧
        lines.length = model.generate.count '\n' + 1 ∧
        (lines = [model.generate] ↔ '\n' ∉ model.generate) ∧
        (model.Writes (· ≠ '\n') → lines = [model.generate]) := by
  constructor
  · have size := length_listedLines catalog
    refine ⟨listedLines catalog, fallsInto_list catalog, size, ?_,
      fun plain place listed here => ?_⟩
    · rw [size, Nat.add_eq_left, feedsInNames_eq_zero_iff]
    · refine ⟨row place listed, ?_, List.prefix_append _ _, (toList_modelLine _ _).symm⟩
      rw [listedLines_eq plain]
      exact listing_getElem? here
  · obtain ⟨falls, size⟩ := fallsInto_generate model
    have whole : model.generate.splitOn '\n' = [model.generate] ↔ '\n' ∉ model.generate := by
      constructor
      · intro single
        rw [single, List.length_singleton] at size
        exact List.count_eq_zero.mp (by omega)
      · exact List.splitOn_eq_singleton
    refine ⟨_, falls, size, whole, fun writes => whole.mpr fun member => ?_⟩
    exact writes.generate '\n' member rfl

/-- A catalog of two models, one of which has an accent in its name, is listed on two lines. -/
theorem printed_line_by_line_of_two :
    let weed : Model Float :=
      { Model.blank "Weed" with
        iterations := 2
        rules := Rules.ofList [('F', "F[+F]F".toList)]
        segments := 3.0 }
    let lievre : Model Float := { Model.blank "Lièvre" with segments := 2.0, angleStep := 22.5 }
    let catalog : Catalog Float := ⟨[weed, lievre], List.cons_ne_nil _ _⟩
    (∀ listed ∈ catalog.models, '\n' ∉ listed.name.toList) ∧ weed.Writes (· ≠ '\n') ∧
      catalog.get? 1 = some lievre ∧
      (∃ lines, Text.FallsInto (list catalog).written lines ∧ lines.length = 2 ∧
        ∃ line, lines[1]? = some line ∧ " 1".toList <+: line) ∧
      Text.FallsInto (generate weed).written [weed.generate] := by
  intro weed lievre catalog
  have plain : ∀ listed ∈ catalog.models, '\n' ∉ listed.name.toList := by decide
  have writes : weed.Writes (· ≠ '\n') := by decide
  obtain ⟨⟨lines, falls, -, single, rows⟩, word, wordFalls, -, -, whole⟩ :=
    printed_line_by_line catalog weed
  obtain ⟨line, here, begins, -⟩ := rows plain 1 lievre rfl
  refine ⟨plain, writes, rfl, ⟨lines, falls, single.mpr plain, line, here, begins⟩, ?_⟩
  rw [← whole writes]
  exact wordFalls

/-- A model with a line feed in its name and one in its seed. -/
def twoLines : Model Float :=
  { Model.blank "First\nSecond" with seed := "F\nF".toList, segments := 2.0 }

/-- A document that describes this model. -/
def twoLinesText : String :=
  "- name: \"First\\nSecond\"\n  initial_value: \"F\\nF\"\n  segments: 2.0\n"

/-- **Documents can put line feeds into names and words.**  The catalog of this document has one
model.  Its listing falls into two lines and not into one, and the word of the model is on two. -/
theorem printed_over_two_lines :
    ∃ catalog, Catalog.ofText twoLinesText = .ok catalog ∧ catalog.models = [twoLines] ∧
      Text.FallsInto (list catalog).written
        [" 0  First".toList, "Second     iterations=4 angle=0°".toList] ∧
      Text.FallsInto (generate twoLines).written ["F".toList, "F".toList] ∧
      ¬ ∃ lines, Text.FallsInto (list catalog).written lines ∧ lines.length = catalog.size := by
  have read : (Catalog.ofText twoLinesText).toOption.map Catalog.models = some [twoLines] := by
    decide +kernel
  have listed : Text.FallsInto (list ⟨[twoLines], List.cons_ne_nil _ _⟩).written
      [" 0  First".toList, "Second     iterations=4 angle=0°".toList] := by decide +kernel
  have generated : Text.FallsInto (generate twoLines).written ["F".toList, "F".toList] := by
    decide +kernel
  cases loaded : Catalog.ofText twoLinesText with
  | error refusal =>
      rw [loaded] at read
      cases read
  | ok catalog =>
      rw [loaded] at read
      obtain ⟨models, occupied⟩ := catalog
      obtain rfl : models = [twoLines] := Option.some.inj read
      refine ⟨_, rfl, rfl, listed, generated, ?_⟩
      rintro ⟨lines, falls, size⟩
      rw [falls.unique listed] at size
      exact absurd (show 2 = 1 from size) (by decide)

end Report

end LSystemExplorer
