import BenchCharts.Proofs.Outcome
import BenchCharts.Table.Basic

namespace BenchCharts

namespace Cells

variable {α β : Type}

theorem pick_map (f : α → β) (mask : List Bool) (xs : List α) : pick mask (xs.map f) = (pick mask xs).map f := by
  induction mask generalizing xs with
  | nil => simp [pick]
  | cons keep mask ih =>
    cases xs with
    | nil => cases keep <;> simp [pick]
    | cons x xs => cases keep <;> simp [pick, ih]

theorem labels_retain (mask : List Bool) (cells : Cells) : (cells.retain mask).labels = pick mask cells.labels := by
  cases cells with
  | numeric values => exact (pick_map _ mask values).symm
  | text values => rfl

theorem length_labels (cells : Cells) : cells.labels.length = cells.length := by
  cases cells <;> simp [labels, length]

-- The mask comes from a test of row numbers, which start anywhere in a longer list.
theorem pick_from (keep : Nat → Bool) (whole xs : List α) (start : Nat)
    (here : ∀ i, whole[start + i]? = xs[i]?) :
    (pick ((List.range' start xs.length).map keep) xs).map some =
      ((List.range' start xs.length).filter keep).map (whole[·]?) := by
  induction xs generalizing start with
  | nil => simp [pick]
  | cons x xs ih =>
    have first : whole[start]? = some x := by simpa using here 0
    have rest := ih (start + 1) fun i => by simpa [Nat.add_assoc, Nat.add_comm 1] using here (i + 1)
    simp only [List.length_cons, List.range'_succ, List.map_cons]
    cases kept : keep start <;> simp [pick, kept, first, rest]

theorem pick_rows (keep : Nat → Bool) (xs : List α) :
    (pick ((List.range xs.length).map keep) xs).map some =
      ((List.range xs.length).filter keep).map (xs[·]?) := by
  rw [List.range_eq_range']
  exact pick_from keep xs xs 0 fun i => by simp

end Cells

namespace Table

variable {t s : Table} {name : String} {names : List String} {c : Column}
  {values : List Float} {texts : List String}

theorem column_ok : t.column name = .ok c ↔ t.columns.find? (·.name == name) = some c := by
  unfold column
  split
  · rename_i d found
    simp [found]
  · rename_i missing
    simp [missing]

theorem column_name (found : t.column name = .ok c) : c.name = name := by
  simpa using List.find?_some (column_ok.mp found)

theorem numeric_ok : t.numeric name = .ok values ↔ ∃ c, t.column name = .ok c ∧ c.cells = .numeric values := by
  unfold numeric
  rw [bind_ok]
  constructor
  · rintro ⟨c, found, read⟩
    cases cells : c.cells with
    | numeric given => rw [cells] at read; cases read; exact ⟨c, found, cells⟩
    | text given => rw [cells] at read; cases read
  · rintro ⟨c, found, cells⟩
    exact ⟨c, found, by rw [cells]⟩

theorem labels_ok : t.labels name = .ok texts ↔ ∃ c, t.column name = .ok c ∧ c.cells.labels = texts := by
  unfold labels
  rw [bind_ok]
  constructor
  · rintro ⟨c, found, same⟩
    cases same
    exact ⟨c, found, rfl⟩
  · rintro ⟨c, found, rfl⟩
    exact ⟨c, found, rfl⟩

theorem length_numeric (found : t.numeric name = .ok values) : values.length = t.rows := by
  obtain ⟨c, column, cells⟩ := numeric_ok.mp found
  have aligned := t.aligned c (column_mem column)
  rwa [cells] at aligned

theorem length_texts (found : t.labels name = .ok texts) : texts.length = t.rows := by
  obtain ⟨c, column, rfl⟩ := labels_ok.mp found
  rw [Cells.length_labels]
  exact t.aligned c (column_mem column)

theorem column_filter (keep : Nat → Bool) (found : t.column name = .ok c) :
    (t.filter keep).column name = .ok { c with cells := c.cells.retain (t.mask keep) } := by
  rw [column_ok] at found ⊢
  rw [filter, List.find?_map]
  simpa [Function.comp_def] using ⟨c, found, rfl, rfl⟩

theorem numeric_filter (keep : Nat → Bool) (found : t.numeric name = .ok values) :
    (t.filter keep).numeric name = .ok (Cells.pick (t.mask keep) values) := by
  obtain ⟨c, column, cells⟩ := numeric_ok.mp found
  exact numeric_ok.mpr ⟨_, column_filter keep column, by rw [cells]; rfl⟩

theorem labels_filter (keep : Nat → Bool) (found : t.labels name = .ok texts) :
    (t.filter keep).labels name = .ok (Cells.pick (t.mask keep) texts) := by
  obtain ⟨c, column, rfl⟩ := labels_ok.mp found
  exact labels_ok.mpr ⟨_, column_filter keep column, Cells.labels_retain _ _⟩

theorem selected_columns {chosen : { cs : List Column // ∀ c ∈ cs, c ∈ t.columns }}
    (ran : t.selected names = .ok chosen) : names.map t.column = chosen.1.map .ok := by
  induction names generalizing chosen with
  | nil => cases ran; rfl
  | cons name names ih =>
    unfold selected at ran
    split at ran
    · cases ran
    · rename_i c found
      split at ran
      · cases ran
      · rename_i cs members rest
        cases ran
        simp [found, ih rest]

theorem select_ok (ran : t.select names = .ok s) : names.map t.column = s.columns.map .ok ∧ s.rows = t.rows := by
  unfold select at ran
  obtain ⟨chosen, picked, same⟩ := bind_ok.mp ran
  cases same
  exact ⟨selected_columns picked, rfl⟩

-- Whether all columns are there is the only thing a selection depends on.
theorem select_total (present : ∀ name ∈ names, ∃ c, t.column name = .ok c) : ∃ s, t.select names = .ok s := by
  suffices all : ∃ chosen, t.selected names = .ok chosen by
    obtain ⟨chosen, picked⟩ := all
    exact ⟨_, bind_ok.mpr ⟨chosen, picked, rfl⟩⟩
  induction names with
  | nil => exact ⟨_, rfl⟩
  | cons name names ih =>
    obtain ⟨c, found⟩ := present name List.mem_cons_self
    obtain ⟨⟨cs, members⟩, rest⟩ := ih fun other member => present other (List.mem_cons_of_mem _ member)
    unfold selected
    split
    · rename_i fault missing
      rw [found] at missing
      cases missing
    · rw [rest]
      exact ⟨_, rfl⟩

theorem column_select (ran : t.select names = .ok s) (member : name ∈ names) : s.column name = t.column name := by
  obtain ⟨same, _⟩ := select_ok ran
  suffices found : ∃ c, s.columns.find? (·.name == name) = some c ∧ t.column name = .ok c by
    obtain ⟨c, first, column⟩ := found
    rw [column, column_ok.mpr first]
  -- Earlier columns of the selection carry the earlier names, so the first hit is the asked one.
  generalize s.columns = chosen at same
  clear ran
  induction names generalizing chosen with
  | nil => cases member
  | cons other names ih =>
    cases chosen with
    | nil => simp at same
    | cons c chosen =>
      simp only [List.map_cons, List.cons.injEq] at same
      by_cases hit : other = name
      · subst hit
        exact ⟨c, by simp [column_name same.1], same.1⟩
      · have miss : (c.name == name) = false := by simpa [column_name same.1] using hit
        rcases List.mem_cons.mp member with rfl | later
        · exact absurd rfl hit
        · obtain ⟨d, first, column⟩ := ih later chosen same.2
          exact ⟨d, by rw [List.find?_cons, miss]; exact first, column⟩

theorem numeric_select (ran : t.select names = .ok s) (member : name ∈ names) : s.numeric name = t.numeric name := by
  unfold numeric
  rw [column_select ran member]

theorem labels_select (ran : t.select names = .ok s) (member : name ∈ names) : s.labels name = t.labels name := by
  unfold labels
  rw [column_select ran member]

end Table
end BenchCharts
