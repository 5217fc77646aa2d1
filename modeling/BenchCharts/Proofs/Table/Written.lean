import BenchCharts.Proofs.Csv.Written
import BenchCharts.Proofs.Table.Sheet

namespace BenchCharts.Sheet
open Csv Text Text.Utf8

variable {s : Sheet} {bytes : List UInt8} {row : List String} {contents : List (List UInt8)}

theorem blanks_of_spaces {text : String} (spaces : Spaces text) : Blanks text := by
  intro c member
  rcases spaces c member with rfl | rfl <;> decide

theorem cell_padded {text : String} {content : List UInt8} (trimmed : Trimmed text) (padded : Padded text content) :
    cell? content = some text := by
  obtain ⟨before, after, front, back, same⟩ := padded
  exact cell_exact.mpr ⟨_, same, trim_padded trimmed (blanks_of_spaces front) (blanks_of_spaces back)⟩

theorem row_padded (trimmed : ∀ text ∈ row, Trimmed text) (padded : List.Forall₂ Padded row contents) :
    contents.map cell? = row.map some := by
  induction padded with
  | nil => rfl
  | cons first others ih =>
    obtain ⟨top, later⟩ := List.forall_mem_cons.mp trimmed
    rw [List.map_cons, List.map_cons, cell_padded top first, ih later]

theorem rows_padded {rows : List (List String)} {records : List (List (List UInt8))}
    (trimmed : ∀ row ∈ rows, ∀ text ∈ row, Trimmed text) (padded : List.Forall₂ (List.Forall₂ Padded) rows records) :
    records.map (·.map cell?) = rows.map (·.map some) := by
  induction padded with
  | nil => rfl
  | cons first others ih =>
    obtain ⟨top, later⟩ := List.forall_mem_cons.mp trimmed
    rw [List.map_cons, List.map_cons, row_padded top first, ih later]

theorem heldBy_written (written : WritesRows (s.header :: s.rows) bytes) :
    s.HeldBy (mark ++ bytes) ∧ (¬mark <+: bytes → s.HeldBy bytes) := by
  have read := rows_padded s.trimmed written.read
  unfold HeldBy
  constructor
  · rw [← read, ← records_marked, List.map_map]
    rfl
  · intro unmarked
    rw [← read, ← records_unmarked unmarked, List.map_map]
    rfl

-- A mark is needed only before a first name that looks like one.
theorem load_written (source : String) (written : WritesRows (s.header :: s.rows) bytes) :
    ∃ t : Table, Table.ofBytes source (mark ++ bytes) = .ok t ∧
      (¬mark <+: bytes → Table.ofBytes source bytes = .ok t) ∧
      (mark <+: bytes → ∃ name ∈ s.header.head?, name.toList.head? = some '\uFEFF') ∧
      t.names = s.header ∧ t.rows = s.rows.length ∧
      ∀ (place : Nat) (name : String), s.header[place]? = some name →
        ∃ cells : List String, s.rows.map (·[place]?) = cells.map some ∧
          t.columns[place]? = some ⟨name, .infer cells⟩ := by
  obtain ⟨marked, plain⟩ := heldBy_written written
  refine ⟨s.table, Table.ofBytes_exact.mpr ⟨s, marked, rfl⟩, ?_, ?_, s.table_names, s.table_rows, ?_⟩
  · intro unmarked
    exact Table.ofBytes_exact.mpr ⟨s, plain unmarked, rfl⟩
  · intro looks
    obtain ⟨row, first, found⟩ := written.marked looks
    cases first
    exact found
  · intro place name here
    obtain ⟨inside, _⟩ := List.getElem?_eq_some_iff.mp here
    exact ⟨s.cells place, cells_rows inside, by rw [table_column, here]; rfl⟩

-- A name that looks like a mark, and a cell that holds everything a reader could stop at.
def sampleSheet : Sheet where
  header := ["\uFEFFname", "note"]
  rows := [["jvm", ""], ["", "a,\"b\"\r\nc"]]
  named := by decide
  rectangular := by decide
  trimmed := by decide +kernel

theorem load_written_sample : ∃ t : Table,
    Table.ofBytes "size.csv" (mark ++ encode "\uFEFFname ,\tnote\r\njvm,\r\n\n,\"a,\"\"b\"\"\r\nc\"") = .ok t ∧
      t.names = sampleSheet.header ∧ t.rows = 2 ∧
      t.columns[1]? = some ⟨"note", .infer ["", "a,\"b\"\r\nc"]⟩ := by
  have header : WritesRow ["\uFEFFname", "note"] (encode "\uFEFFname ,\tnote") :=
    .more (.bare "" " " (by decide) (by decide) (by decide)) (.last (.bare "\t" "" (by decide) (by decide) (by decide)))
  have first : WritesRow ["jvm", ""] (encode "jvm,") :=
    .more (.bare "" "" (by decide) (by decide) (by decide)) (.last (.bare "" "" (by decide) (by decide) (by decide)))
  have second : WritesRow ["", "a,\"b\"\r\nc"] (encode ",\"a,\"\"b\"\"\r\nc\"") :=
    .more (.bare "" "" (by decide) (by decide) (by decide)) (.last .quoted)
  have written : WritesRows (sampleSheet.header :: sampleSheet.rows) _ :=
    .row header (by decide) .crlf (.row first (by decide) .crlf (.emptyLine .lf (.last second (by decide))))
  obtain ⟨t, loaded, _, _, names, rows, columns⟩ := load_written "size.csv" written
  obtain ⟨cells, listed, column⟩ := columns 1 "note" rfl
  have same : cells.map some = ["", "a,\"b\"\r\nc"].map some := listed.symm
  rw [(List.map_inj_right fun _ _ => Option.some.inj).mp same] at column
  exact ⟨t, loaded, names, rows, column⟩

end BenchCharts.Sheet
