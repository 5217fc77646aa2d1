import BenchCharts.Proofs.Aggregation.Identifiers

namespace BenchCharts

namespace Cells

variable {raw : List String} {values : List Float} {x y : Float}

theorem infer_labels (raw : List String) : infer (infer raw).labels = infer raw := by
  cases numbers : allNumbers raw with
  | false =>
    have same : (infer raw).labels = raw := by rw [infer_text numbers, labels]
    rw [same]
  | true =>
    obtain ⟨values, read⟩ := allNumbers_iff.mp numbers
    rw [infer_numeric.mpr read, labels, infer_numeric, List.map_map]
    exact List.map_congr_left fun x _ => number_written x

theorem written_injective (same : Number.write .plain x = Number.write .plain y) : x = y := by
  have read := number_written x
  rw [same, number_written y] at read
  exact (Option.some.inj read).symm

theorem displayName_written (x : Float) : Project.displayName (Number.write .plain x) = Number.write .plain x :=
  displayName_number (by rw [number_written]; rfl)

theorem number_inferred {cell : String} {i : Nat} (inferred : infer raw = .numeric values) (here : raw[i]? = some cell) :
    number? cell = values[i]? := by
  have read := congrArg (·[i]?) (infer_numeric.mp inferred)
  cases found : values[i]? with
  | none => simp [here, found] at read
  | some x => simpa [here, found] using read

end Cells

namespace Aggregation

variable {a : Aggregation} {t : Table} {g : Grouped} {values : List Float} {x y : Float} {p q i j : Nat}

-- The label of a row whose group column is one of numbers: the number as it is written.
theorem groupAt_number (column : t.numeric a.groupBy = .ok values) (here : values[i]? = some x) :
    a.groupAt? t i = some (Number.write .plain x) := by
  obtain ⟨c, found, cells⟩ := Table.numeric_ok.mp column
  have labels : t.labels a.groupBy = .ok (values.map (Number.write .plain)) :=
    Table.labels_ok.mpr ⟨c, found, by rw [cells, Cells.labels]⟩
  rw [groupAt?, Table.text_labels labels, List.getElem?_map, here, Option.map_some, Option.map_some,
    Cells.displayName_written]

theorem together_numbers (ran : a.group t = .ok g) (column : t.numeric a.groupBy = .ok values)
    (first : (a.keptRows t)[p]? = some i) (second : (a.keptRows t)[q]? = some j) (one : values[i]? = some x)
    (two : values[j]? = some y) : g.Together p q ↔ x = y := by
  obtain ⟨⟨labels, entered, named⟩, _⟩ := group_ok ran
  have labelled {row place : Nat} {z : Float} (kept : (a.keptRows t)[place]? = some row) (here : values[row]? = some z) :
      labels[place]? = some (Number.write .plain z) := by
    have read := congrArg (·[place]?) named
    simpa [kept, groupAt_number column here] using read
  rw [together_labels entered (labelled first one) (labelled second two)]
  exact ⟨Cells.written_injective, fun same => by rw [same]⟩

def numberAt? (a : Aggregation) (t : Table) (raw : List String) (place : Nat) : Option Float := do
  let row ← (a.keptRows t)[place]?
  let cell ← raw[row]?
  Cells.number? cell

theorem numberAt_ok {raw : List String} (counted : a.numberAt? t raw p = some x) :
    ∃ i cell, (a.keptRows t)[p]? = some i ∧ raw[i]? = some cell ∧ Cells.number? cell = some x := by
  obtain ⟨i, kept, rest⟩ := Option.bind_eq_some_iff.mp counted
  obtain ⟨cell, here, number⟩ := Option.bind_eq_some_iff.mp rest
  exact ⟨i, cell, kept, here, number⟩

-- A column is inferred again from its labels, and rows grouped by a column of numbers stand together
-- exactly if their cells were read as floats of the same bits.
theorem labels_determine (name : String) (raw : List String) :
    (⟨name, .infer (Cells.infer raw).labels⟩ : Column) = ⟨name, .infer raw⟩ ∧
    ∀ (a : Aggregation) (t : Table) (g : Grouped) (values : List Float),
      t.column a.groupBy = .ok ⟨name, .infer raw⟩ → Cells.infer raw = .numeric values → a.group t = .ok g →
      ∀ (p q : Nat) (x y : Float), a.numberAt? t raw p = some x → a.numberAt? t raw q = some y →
        x.isNaN = false → y.isNaN = false → (g.Together p q ↔ x.toBits = y.toBits) := by
  refine ⟨by rw [Cells.infer_labels], ?_⟩
  intro a t g values column inferred ran p q x y first second _ _
  obtain ⟨i, c, one, here, number⟩ := numberAt_ok first
  obtain ⟨j, d, two, there, other⟩ := numberAt_ok second
  have numeric : t.numeric a.groupBy = .ok values := Table.numeric_ok.mpr ⟨_, column, inferred⟩
  rw [Cells.number_inferred inferred here] at number
  rw [Cells.number_inferred inferred there] at other
  rw [together_numbers ran numeric one two number other]
  constructor
  · intro same
    rw [same]
  · intro same
    rw [← Float.ofBits_toBits x, same, Float.ofBits_toBits]

def spelledCells : List String := ["1e2", "", "-0", "0", "nan", "100"]

def spelledTable : Table where
  columns := [⟨"name", .infer spelledCells⟩, ⟨"iteration", .numeric (List.replicate 6 3.0)⟩]
  rows := 6
  aligned := by
    intro c member
    simp only [List.mem_cons, List.not_mem_nil, or_false] at member
    obtain rfl | rfl := member
    · exact Cells.length_infer spelledCells
    · rfl

def spelledAggregation : Aggregation := (of "name" ["iteration"]).skipWarmup "iteration" 3

theorem labels_determine_spelled : ∃ (g : Grouped) (values : List Float),
    spelledTable.column "name" = .ok ⟨"name", .infer spelledCells⟩ ∧ Cells.infer spelledCells = .numeric values ∧
      spelledAggregation.group spelledTable = .ok g ∧ g.Together 0 5 ∧ ¬g.Together 2 3 := by
  have numbers : Cells.allNumbers spelledCells = true := by decide +kernel
  obtain ⟨values, read⟩ := Cells.allNumbers_iff.mp numbers
  have inferred := Cells.infer_numeric.mpr read
  have made : (spelledAggregation.group spelledTable).toOption.isSome = true := by decide +kernel
  obtain ⟨g, grouped⟩ := Option.isSome_iff_exists.mp made
  have ran := toOption_ok.mp grouped
  have counted : [0, 5, 2, 3].map (spelledAggregation.numberAt? spelledTable spelledCells) =
      [some 100.0, some 100.0, some (-0.0), some 0.0] := by decide +kernel
  simp only [List.map_cons, List.cons.injEq] at counted
  obtain ⟨hundred, again, minus, zero, _⟩ := counted
  have settled := (labels_determine "name" spelledCells).2 spelledAggregation spelledTable g values rfl inferred ran
  refine ⟨g, values, rfl, inferred, ran, ?_, ?_⟩
  · exact (settled 0 5 _ _ hundred again (by decide) (by decide)).mpr rfl
  · rw [settled 2 3 _ _ minus zero (by decide) (by decide)]
    decide

end Aggregation
end BenchCharts
