import LSystemExplorer.CommandLine.Report
import LSystemExplorer.Proofs.Catalog.Faults
import LSystemExplorer.Proofs.Grammar.Entries
import LSystemExplorer.Viewer.Display

/-!
# Rules in another order

The rules of a record are written down in some order, and nothing depends on it as long as no
symbol has two of them.

**Models.** Records that differ in the order of their rules only (`Record.Reordered`) describe
the same model (`Record.Reordered.draft_eq`), so they are converted to the same model or refused
for the same reason.  Catalogs of such records are the same, and so is all that is printed about
them.

**Lines.** The rules of a model are shown in the order of their symbols, with one line for each
that has the symbol and what it is replaced by (`ModelPane.ListsRules`).  They stand in the pane
below their heading, and an empty line follows them (`ModelPane.rules_isInfix_lines`).  A table
that gives out its rules in any order leads to the same lines once they are sorted
(`ModelPane.ruleLines_eq_of_listedBy`).
-/

set_option autoImplicit false

namespace LSystemExplorer

variable {α : Type}

/-! ## Records -/

/-- The records differ in the order of their rules only, and have no two rules for a symbol. -/
structure Record.Reordered (record other : Record α) : Prop where
  mapping : record.mapping.Perm other.mapping
  finalMapping : record.finalMapping.Perm other.finalMapping
  distinct : (record.mapping.map Prod.fst).Nodup
  finalDistinct : (record.finalMapping.map Prod.fst).Nodup
  rest : other =
    { record with mapping := other.mapping, finalMapping := other.finalMapping }

namespace Record.Reordered

variable {record other : Record α}

theorem draft_eq (reordered : record.Reordered other) : record.draft = other.draft := by
  have rules : Rules.ofList record.mapping = Rules.ofList other.mapping :=
    Rules.ofList_eq_of_perm reordered.mapping reordered.distinct
  have finalRules : Rules.ofList record.finalMapping = Rules.ofList other.finalMapping :=
    Rules.ofList_eq_of_perm reordered.finalMapping reordered.finalDistinct
  rw [reordered.rest]
  simp only [Record.draft, rules, finalRules]

/-- **Such records are converted to the same model, or refused for the same reason.** -/
theorem toModel_eq [Scalar α] (reordered : record.Reordered other) :
    record.toModel = other.toModel := by
  have name : record.name = other.name := by rw [reordered.rest]
  have iterations : record.iterations = other.iterations := by rw [reordered.rest]
  have settings : record.settings.foldl Model.apply (Model.blank other.name) =
      other.settings.foldl Model.apply (Model.blank other.name) := by
    rw [← name, record.foldl_settings, name, other.foldl_settings, reordered.draft_eq]
  simp only [Record.toModel, Model.build, name, iterations, settings]

end Record.Reordered

/-- Records that are converted alike make the same catalog, or none for the same reason. -/
theorem Catalog.ofRecords_congr [Scalar α] {records others : List (Record α)}
    (same : records.map Record.toModel = others.map Record.toModel) :
    Catalog.ofRecords records = Catalog.ofRecords others := by
  have converted : records.mapM Record.toModel = others.mapM Record.toModel := by
    have each : ∀ list : List (Record α),
        list.mapM Record.toModel = (list.map Record.toModel).mapM id := by
      intro list
      rw [List.mapM_map]
      rfl
    rw [each, each, same]
  rw [Catalog.ofRecords, Catalog.ofRecords, converted]

/-- What can be seen of two records: the models that they make, and what is generated and drawn
for them. -/
structure Record.LookAlike (record other : Record Float) : Prop where
  models : record.toModel = other.toModel
  patterns : record.toModel.map Model.generate = other.toModel.map Model.generate
  scenes : ∀ angle viewport,
    (record.toModel.map fun model => Scene.render model angle viewport) =
      other.toModel.map fun model => Scene.render model angle viewport

theorem Record.Reordered.lookAlike {record other : Record Float}
    (reordered : record.Reordered other) : record.LookAlike other := by
  have models := reordered.toModel_eq
  exact ⟨models, by rw [models], fun angle viewport => by rw [models]⟩

/-! ## Lines -/

namespace ModelPane

/-- The line shows the rule: its symbol, an arrow, and its replacement, where `ε` stands for the
empty word. -/
def ShowsRule (rule : Symbol × Word) (line : Line) : Prop :=
  line.map Span.text =
    ["  ", String.singleton rule.1, " → ", if rule.2 = [] then "ε" else String.ofList rule.2]

/-- The lines show the rules, one for each of them, with the symbols strictly upward. -/
def ListsRules (rules : Rules) (lines : List Line) : Prop :=
  ∃ entries : List (Symbol × Word),
    (entries.Pairwise fun earlier later => earlier.1.toNat < later.1.toNat) ∧
      (∀ symbol word, (symbol, word) ∈ entries ↔ rules.find? symbol = some word) ∧
      List.Forall₂ ShowsRule entries lines

theorem showsRule_ruleLine (rule : Symbol × Word) : ShowsRule rule (ruleLine rule) := by
  obtain ⟨symbol, word⟩ := rule
  cases word with
  | nil => rfl
  | cons first later => rfl

theorem listsRules_ruleLines (rules : Rules) : ListsRules rules (ruleLines rules) := by
  refine ⟨rules.entries, rules.ascending.imp fun below => below, fun _ _ => rules.mem_entries_iff,
    ?_⟩
  exact List.forall₂_map_right_iff.mpr (List.forall₂_same.mpr fun rule _ => showsRule_ruleLine rule)

/-- The pane has the lines of the rules between their heading and an empty line. -/
theorem rules_isInfix_lines (frame : Frame Float) :
    heading "Rules" :: (ruleLines frame.model.rules ++ [emptyLine]) <:+: lines frame := by
  have next : ∃ later, finalRuleLines frame.model.finalRules ++
      emptyLine :: sceneLines frame.scene = emptyLine :: later := by
    unfold finalRuleLines
    split
    · exact ⟨_, rfl⟩
    · exact ⟨_, rfl⟩
  obtain ⟨later, next⟩ := next
  refine ⟨numberLines frame ++ [emptyLine, heading "Axiom",
    [⟨s!"  {String.ofList frame.model.seed}", .colored Palette.text⟩], emptyLine], later, ?_⟩
  simp only [lines, List.append_assoc, List.cons_append, List.nil_append, next]

/-- So it has those of the final rules, if there are any. -/
theorem finalRules_isInfix_lines (frame : Frame Float)
    (some : frame.model.finalRules.entries ≠ []) :
    heading "Final rules" :: (ruleLines frame.model.finalRules ++ [emptyLine]) <:+:
      lines frame := by
  have shown : finalRuleLines frame.model.finalRules =
      emptyLine :: heading "Final rules" :: ruleLines frame.model.finalRules :=
    if_neg (mt List.isEmpty_iff.mp some)
  refine ⟨numberLines frame ++ [emptyLine, heading "Axiom",
    [⟨s!"  {String.ofList frame.model.seed}", .colored Palette.text⟩], emptyLine,
    heading "Rules"] ++ ruleLines frame.model.rules ++ [emptyLine], sceneLines frame.scene, ?_⟩
  simp only [lines, shown, List.append_assoc, List.cons_append, List.nil_append]

/-- Whatever order the rules are given out in, sorting them leads to the same lines. -/
theorem ruleLines_eq_of_listedBy {rules : Rules} {yielded : List (Symbol × Word)}
    (listed : rules.ListedBy yielded) :
    (yielded.mergeSort fun earlier later => earlier.1 ≤ later.1).map ruleLine =
      ruleLines rules := by
  rw [listed.mergeSort_eq, ruleLines]

end ModelPane

/-! ## The order of rules -/

/-- **The order in which rules are written down cannot be observed.**  Records that differ in
nothing else look alike, and so do catalogs of them, whatever is printed.  The lines about a rule
set show its rules with the symbols strictly upward, in whatever order a table gives them out, and
they are what the pane lists under the headings of the rules. -/
theorem rule_order_unobservable :
    (∀ records others : List (Record Float), List.Forall₂ Record.Reordered records others →
      List.Forall₂ Record.LookAlike records others ∧
      Catalog.ofRecords records = Catalog.ofRecords others ∧
      ∀ subcommand, (Catalog.ofRecords records).map (Report.run · subcommand) =
        (Catalog.ofRecords others).map (Report.run · subcommand)) ∧
    (∀ rules : Rules, ModelPane.ListsRules rules (ModelPane.ruleLines rules) ∧
      ∀ yielded, rules.ListedBy yielded →
        (yielded.mergeSort fun earlier later => earlier.1 ≤ later.1).map ModelPane.ruleLine =
          ModelPane.ruleLines rules) ∧
    ∀ frame : Frame Float,
      ModelPane.heading "Rules" ::
          (ModelPane.ruleLines frame.model.rules ++ [ModelPane.emptyLine]) <:+:
        ModelPane.lines frame ∧
      (frame.model.finalRules.entries ≠ [] →
        ModelPane.heading "Final rules" ::
            (ModelPane.ruleLines frame.model.finalRules ++ [ModelPane.emptyLine]) <:+:
          ModelPane.lines frame) := by
  refine ⟨fun records others reordered => ?_, fun rules => ?_, fun frame => ?_⟩
  · have models : records.map Record.toModel = others.map Record.toModel :=
      List.forall₂_eq_eq_eq ▸ List.forall₂_map_left_iff.mpr
        (List.forall₂_map_right_iff.mpr (reordered.imp fun _ _ pair => pair.toModel_eq))
    have catalogs := Catalog.ofRecords_congr models
    exact ⟨reordered.imp fun _ _ pair => pair.lookAlike, catalogs,
      fun subcommand => by rw [catalogs]⟩
  · exact ⟨ModelPane.listsRules_ruleLines rules,
      fun _ listed => ModelPane.ruleLines_eq_of_listedBy listed⟩
  · exact ⟨ModelPane.rules_isInfix_lines frame, ModelPane.finalRules_isInfix_lines frame⟩

/-- A record with three rules and two final rules, and the same in another order.  A table may
give the rules out with `é` before `A`, although `A` is shown first. -/
theorem rule_order_unobservable_of_hedge :
    let record : Record Float :=
      ⟨"Hedge", [('é', "F[+é]".toList), ('F', "FF".toList), ('A', [])],
        [('é', "F".toList), ('A', "-".toList)], 2, "éA".toList, 90.0, (0.5, 1.0), 25.0, 2.0⟩
    let other : Record Float :=
      { record with
        mapping := [('A', []), ('é', "F[+é]".toList), ('F', "FF".toList)]
        finalMapping := [('A', "-".toList), ('é', "F".toList)] }
    let yielded := [('F', "FF".toList), ('é', "F[+é]".toList), ('A', [])]
    let sorted := yielded.mergeSort fun earlier later => earlier.1 ≤ later.1
    record.Reordered other ∧ record.toModel = other.toModel ∧
      other.toModel.map Model.generate = .ok "FF[+F[+F]]".toList ∧
      Catalog.ofRecords [record] = Catalog.ofRecords [other] ∧
      sorted.map ModelPane.ruleLine =
        [('A', []), ('F', "FF".toList), ('é', "F[+é]".toList)].map ModelPane.ruleLine ∧
      (sorted.map fun rule => (ModelPane.ruleLine rule).map Span.text) =
        [["  ", "A", " → ", "ε"], ["  ", "F", " → ", "FF"], ["  ", "é", " → ", "F[+é]"]] := by
  intro record other yielded sorted
  have reordered : record.Reordered other :=
    ⟨by decide, by decide, by decide, by decide, rfl⟩
  have listed : (Rules.ofList record.mapping).ListedBy yielded :=
    (Rules.listedBy_entries _).of_perm (by decide)
  obtain ⟨records, lines, -⟩ := rule_order_unobservable
  obtain ⟨alike, catalogs, -⟩ := records [record] [other] (.cons reordered .nil)
  obtain ⟨models, patterns, -⟩ := (List.forall₂_cons.mp alike).1
  have shown := (lines _).2 yielded listed
  have texts := congrArg (List.map (List.map Span.text)) shown
  rw [List.map_map] at texts
  refine ⟨reordered, models, ?_, catalogs, shown, texts⟩
  rw [← patterns]
  decide +kernel

end LSystemExplorer
