import BenchCharts.Proofs.Aggregation.Sheet
import BenchCharts.Proofs.Number.RoundTrip

namespace BenchCharts

namespace Cells

variable {cell : String} {cells : List String} {x : Float}

theorem number_written (x : Float) : number? (Number.write .plain x) = some x := by
  have read := Number.read_write x
  have filled : (Number.write .plain x).isEmpty = false := by
    rw [Bool.eq_false_iff]
    intro empty
    rw [String.isEmpty_iff.mp empty] at read
    cases read
  rw [number?, filled]
  exact read

theorem rewritten_rewritten (cell : String) : rewritten (rewritten cell) = rewritten cell := by
  cases number : number? cell with
  | none =>
    have same : rewritten cell = cell := by simp [rewritten, number]
    rw [same, same]
  | some x => rw [rewritten_number number, rewritten_number (number_written x)]

theorem isSome_rewritten (number : (number? cell).isSome = true) : (number? (rewritten cell)).isSome = true := by
  obtain ⟨x, number⟩ := Option.isSome_iff_exists.mp number
  rw [rewritten_number number, number_written]
  rfl

theorem id_not_number : ∀ p ∈ Project.all, number? p.id = none := by decide +kernel

theorem displayName_number (number : (number? cell).isSome = true) : Project.displayName cell = cell := by
  have unknown : Project.byId? cell = none := by
    rw [Project.byId?, List.find?_eq_none]
    intro p member same
    rw [← beq_iff_eq.mp same, id_not_number p member] at number
    cases number
  rw [Project.displayName, unknown]
  rfl

-- Numbers written again are the same labels only if none of them changes.
theorem same_labels_iff (numbers : ∀ cell ∈ cells, (number? cell).isSome = true) :
    (∀ label, label ∈ cells.map (fun cell => Project.displayName (rewritten cell)) ↔
      label ∈ cells.map Project.displayName) ↔ ∀ cell ∈ cells, rewritten cell = cell := by
  have named : cells.map Project.displayName = cells.map id :=
    List.map_congr_left fun cell member => displayName_number (numbers cell member)
  have written : cells.map (fun cell => Project.displayName (rewritten cell)) = cells.map rewritten :=
    List.map_congr_left fun cell member => displayName_number (isSome_rewritten (numbers cell member))
  rw [named, written, List.map_id]
  constructor
  · intro same cell member
    obtain ⟨other, _, rfl⟩ := List.mem_map.mp ((same cell).mpr member)
    exact rewritten_rewritten other
  · intro kept label
    have same : cells.map rewritten = cells.map id := List.map_congr_left kept
    rw [same, List.map_id]

end Cells

namespace Aggregation

variable {labels cells : List String} {g : Grouped} {s : Summary} {a : Aggregation}

theorem mem_rowsOf {label : String} {row : Nat} : row ∈ rowsOf labels label ↔ labels[row]? = some label := by
  simp [rowsOf, Groups.valuesOf, List.mk_mem_zipIdx_iff_getElem?]

def Grouped.Together (g : Grouped) (i j : Nat) : Prop := ∃ group ∈ g.rows, i ∈ group.2 ∧ j ∈ group.2

theorem together_labels {i j : Nat} {c d : String} (made : g.rows = rowsByLabel labels) (first : labels[i]? = some c)
    (second : labels[j]? = some d) : g.Together i j ↔ c = d := by
  rw [Grouped.Together, made]
  constructor
  · rintro ⟨⟨label, rows⟩, entered, one, two⟩
    obtain ⟨_, rfl⟩ := (mem_rowsByLabel labels label rows).mp entered
    rw [mem_rowsOf] at one two
    rw [first] at one
    rw [second] at two
    cases one
    cases two
    rfl
  · rintro rfl
    refine ⟨(c, rowsOf labels c), ?_, mem_rowsOf.mpr first, mem_rowsOf.mpr second⟩
    exact (mem_rowsByLabel labels c _).mpr ⟨List.mem_of_getElem? first, rfl⟩

structure GroupsBy (label : String → String) (cells : List String) (g : Grouped) (summary : Summary) : Prop where
  groups : ∀ name, name ∈ summary.labels ↔ name ∈ cells.map label
  together : ∀ i j c d, cells[i]? = some c → cells[j]? = some d → (g.Together i j ↔ label c = label d)

theorem groupsBy_labels {label : String → String} (made : g.rows = rowsByLabel (cells.map label)) :
    GroupsBy label cells g ⟨a.metrics, collect g.columns g.rows⟩ := by
  constructor
  · intro name
    rw [Summary.labels, (keys_collect _ _).mem_iff, made, (keys_rowsByLabel _).2]
  · intro i j c d first second
    exact together_labels made (by simp [first]) (by simp [second])

theorem GroupsBy.congr {label other : String → String} {summary : Summary} (grouped : GroupsBy label cells g summary)
    (same : ∀ cell ∈ cells, label cell = other cell) : GroupsBy other cells g summary := by
  constructor
  · intro name
    rw [grouped.groups, List.map_congr_left same]
  · intro i j c d first second
    rw [grouped.together i j c d first second, same c (List.mem_of_getElem? first), same d (List.mem_of_getElem? second)]

theorem kept_whole {s : Sheet} (whole : a.warmup = none) : s.kept a = s.rows := by
  rw [Sheet.kept, List.filter_eq_self]
  intro row _
  simp [Sheet.counts, whole]

theorem group_whole {s : Sheet} (ran : a.group s.table = .ok g) (whole : a.warmup = none) :
    a.groupBy ∈ s.header ∧ g.rows = rowsByLabel ((s.column a.groupBy).map fun cell =>
      Project.displayName (Cells.shown (s.column a.groupBy) cell)) := by
  obtain ⟨member, rows, _⟩ := group_sheet ran
  rw [kept_whole whole] at rows
  exact ⟨member, by rw [rows, Sheet.column, List.map_map]; rfl⟩

theorem identifiers_kept_iff {source : String} {bytes : List UInt8} {t : Table} {summary : Summary}
    (read : Table.ofBytes source bytes = .ok t) (whole : a.warmup = none) (ran : a.summarise t = .ok summary) :
    ∃ (s : Sheet) (g : Grouped), s.HeldBy bytes ∧ a.groupBy ∈ s.header ∧ a.group t = .ok g ∧
      summary = ⟨a.metrics, collect g.columns g.rows⟩ ∧
      GroupsBy (fun cell => Project.displayName (Cells.shown (s.column a.groupBy) cell)) (s.column a.groupBy) g summary ∧
      (GroupsBy Project.displayName (s.column a.groupBy) g summary ↔
        (Cells.allNumbers (s.column a.groupBy) = true →
          ∀ cell ∈ s.column a.groupBy, Cells.rewritten cell = cell)) := by
  obtain ⟨s, held, rfl⟩ := Table.ofBytes_exact.mp read
  obtain ⟨g, grouped, rfl⟩ := summarise_ok ran
  obtain ⟨member, rows⟩ := group_whole grouped whole
  have shown := groupsBy_labels (a := a) rows
  refine ⟨s, g, held, member, grouped, rfl, shown, ?_⟩
  constructor
  · intro named numbers
    have all : ∀ cell ∈ s.column a.groupBy, (Cells.number? cell).isSome = true := List.all_eq_true.mp numbers
    apply (Cells.same_labels_iff all).mp
    intro label
    rw [← named.groups, shown.groups]
    simp only [Cells.shown, numbers, if_true]
  · intro kept
    refine shown.congr fun cell member => ?_
    rw [Cells.shown]
    split
    · rename_i numbers
      rw [kept numbers cell member]
    · rfl

-- Sizes under some names, one row each.
def sizesOf (names : List String) (trimmed : ∀ name ∈ names, Text.Trimmed name) : Sheet where
  header := ["name", "bytes"]
  rows := names.map fun name => [name, "5"]
  named := ⟨"name", by simp, by decide⟩
  rectangular := by simp
  trimmed := by
    have fixed : ∀ text ∈ ["name", "bytes", "5"], Text.Trimmed text := by decide
    simp_all

-- One text among the names keeps the two spellings of a number apart.
theorem identifiers_kept_sample : ∃ (t : Table) (summary : Summary) (s : Sheet) (g : Grouped),
    Table.ofBytes "size.csv" (Text.Utf8.encode "name,bytes\n1.0,5\n jvm ,5\n1,5\njvm,5\n") = .ok t ∧
      (Aggregation.of "name" ["bytes"]).summarise t = .ok summary ∧ s.column "name" = ["1.0", "jvm", "1", "jvm"] ∧
      GroupsBy Project.displayName (s.column "name") g summary ∧ g.Together 1 3 ∧ ¬g.Together 0 2 := by
  have held : (sizesOf ["1.0", "jvm", "1", "jvm"] (by decide)).HeldBy
      (Text.Utf8.encode "name,bytes\n1.0,5\n jvm ,5\n1,5\njvm,5\n") := by
    unfold Sheet.HeldBy
    decide +kernel
  have gave : ((Aggregation.of "name" ["bytes"]).summarise
      (sizesOf ["1.0", "jvm", "1", "jvm"] (by decide)).table).toOption.map Summary.metrics = some ["bytes"] := by
    decide +kernel
  obtain ⟨summary, found, _⟩ := Option.map_eq_some_iff.mp gave
  have ran := toOption_ok.mp found
  have read : Table.ofBytes "size.csv" _ = .ok _ := Table.ofBytes_exact.mpr ⟨_, held, rfl⟩
  obtain ⟨s, g, other, _, _, _, _, faithful⟩ := identifiers_kept_iff read rfl ran
  cases held.unique other
  have mixed : Cells.allNumbers ["1.0", "jvm", "1", "jvm"] = false := by decide +kernel
  have named := faithful.mpr fun numbers => nomatch mixed.symm.trans numbers
  refine ⟨_, summary, _, g, read, ran, rfl, named, ?_, ?_⟩
  · exact (named.together 1 3 "jvm" "jvm" rfl rfl).mpr rfl
  · rw [named.together 0 2 "1.0" "1" rfl rfl]
    decide

theorem spellings_merged : ∃ (t : Table) (summary : Summary) (s : Sheet) (g : Grouped),
    Table.ofBytes "size.csv" (Text.Utf8.encode "name,bytes\n1.0,5\n1,5\n") = .ok t ∧
      s.HeldBy (Text.Utf8.encode "name,bytes\n1.0,5\n1,5\n") ∧ (Aggregation.of "name" ["bytes"]).group t = .ok g ∧
      (Aggregation.of "name" ["bytes"]).summarise t = .ok summary ∧ s.column "name" = ["1.0", "1"] ∧
      summary.labels = ["1"] ∧ ¬GroupsBy Project.displayName (s.column "name") g summary := by
  have held : (sizesOf ["1.0", "1"] (by decide)).HeldBy (Text.Utf8.encode "name,bytes\n1.0,5\n1,5\n") := by
    unfold Sheet.HeldBy
    decide +kernel
  have gave : ((Aggregation.of "name" ["bytes"]).summarise (sizesOf ["1.0", "1"] (by decide)).table).toOption.map
      Summary.labels = some ["1"] := by decide +kernel
  obtain ⟨summary, found, labels⟩ := Option.map_eq_some_iff.mp gave
  have ran := toOption_ok.mp found
  obtain ⟨g, grouped, _⟩ := summarise_ok ran
  refine ⟨_, summary, _, g, Table.ofBytes_exact.mpr ⟨_, held, rfl⟩, held, grouped, ran, rfl, labels, ?_⟩
  intro faithful
  have member := (faithful.groups "1.0").mpr (by decide)
  rw [labels] at member
  revert member
  decide

end Aggregation
end BenchCharts
