import BenchCharts.Proofs.Table.Sheet

namespace BenchCharts.Table
open Csv Text Text.Utf8

variable {field : List UInt8} {fields : List (List UInt8)} {record first : Record} {rest : List Record} {flaw : Flaw}
  {index readable width number : Nat}

def Unreadable (fields : List (List UInt8)) (index readable : Nat) : Prop := ∃ before field later,
  fields = before ++ field :: later ∧ (∀ earlier ∈ before, IsText earlier) ∧ before.length = index ∧ Broken field readable

theorem unreadable_first {other : Nat} (broken : Broken field other) :
    Unreadable (field :: fields) index readable ↔ index = 0 ∧ readable = other := by
  constructor
  · rintro ⟨before, here, later, split, early, rfl, reason⟩
    cases before with
    | nil =>
      cases split
      exact ⟨rfl, reason.unique broken⟩
    | cons b before =>
      cases split
      exact absurd (early field List.mem_cons_self) broken.unreadable
  · rintro ⟨rfl, rfl⟩
    exact ⟨[], field, fields, rfl, nofun, rfl, broken⟩

theorem unreadable_later (text : IsText field) :
    Unreadable (field :: fields) index readable ↔ ∃ place, index = place + 1 ∧ Unreadable fields place readable := by
  constructor
  · rintro ⟨before, here, later, split, early, rfl, reason⟩
    cases before with
    | nil =>
      cases split
      exact absurd text reason.unreadable
    | cons b before =>
      cases split
      exact ⟨_, rfl, before, here, later, rfl, (List.forall_mem_cons.mp early).2, rfl, reason⟩
  · rintro ⟨_, rfl, before, here, later, rfl, early, rfl, reason⟩
    exact ⟨field :: before, here, later, rfl, List.forall_mem_cons.mpr ⟨text, early⟩, rfl, reason⟩

theorem decodeFields_error (start place : Nat) : decodeFields start fields = .error (place, readable) ↔
    ∃ index, place = start + index ∧ Unreadable fields index readable := by
  induction fields generalizing start with
  | nil => simp [decodeFields, Unreadable]
  | cons field fields ih =>
    unfold decodeFields
    cases decoded : decode field with
    | error other =>
      simp only [unreadable_first (decode_error.mp decoded), Except.error.injEq, Prod.mk.injEq]
      constructor
      · rintro ⟨rfl, rfl⟩
        exact ⟨0, rfl, rfl, rfl⟩
      · rintro ⟨_, rfl, rfl, rfl⟩
        exact ⟨rfl, rfl⟩
    | ok text =>
      simp only [unreadable_later ⟨text, decode_exact.mp decoded⟩, map_error, ih]
      constructor
      · rintro ⟨index, rfl, reason⟩
        exact ⟨index + 1, by omega, index, rfl, reason⟩
      · rintro ⟨_, rfl, index, rfl, reason⟩
        exact ⟨index, by omega, reason⟩

theorem unreadable_iff : decodeFields 0 fields = .error (index, readable) ↔ Unreadable fields index readable := by
  simp [decodeFields_error]

theorem cell_isSome : (Sheet.cell? field).isSome = true ↔ IsText field := by
  simp only [Option.isSome_iff_exists, Sheet.cell_exact]
  exact ⟨fun ⟨_, whole, same, _⟩ => ⟨whole, same⟩, fun ⟨whole, same⟩ => ⟨_, whole, same, rfl⟩⟩

theorem texts_iff : (∃ texts : List String, fields.map Sheet.cell? = texts.map some) ↔
    ∀ field ∈ fields, IsText field := by
  constructor
  · rintro ⟨texts, same⟩ field member
    have listed : Sheet.cell? field ∈ texts.map some := same ▸ List.mem_map_of_mem member
    obtain ⟨text, _, found⟩ := List.mem_map.mp listed
    exact cell_isSome.mp (found ▸ rfl)
  · intro all
    refine ⟨fields.map fun field => (Sheet.cell? field).getD "", ?_⟩
    rw [List.map_map]
    apply List.map_congr_left
    intro field member
    obtain ⟨text, found⟩ := Option.isSome_iff_exists.mp (cell_isSome.mpr (all field member))
    simp [found]

def Headed (record : Record) : Prop :=
  (∀ field ∈ record.fields, IsText field) ∧ ∃ field ∈ record.fields, Sheet.cell? field ≠ some ""

def Fits (width : Nat) (record : Record) : Prop :=
  record.fields.length = width ∧ ∀ field ∈ record.fields, IsText field

inductive HeaderFlaw (record : Record) : Flaw → Prop where
  | encoding {field readable : Nat} :
      Unreadable record.fields field readable → HeaderFlaw record (.encoding 0 record.start field readable)
  | blank : (∀ field ∈ record.fields, Sheet.cell? field = some "") → HeaderFlaw record .missingHeader

-- The number of fields is looked at first.
inductive RowFlaw (width number : Nat) (record : Record) : Flaw → Prop where
  | width : record.fields.length ≠ width →
      RowFlaw width number record (.width number record.start record.fields.length width)
  | encoding {field readable : Nat} : record.fields.length = width →
      Unreadable (record.fields.map (trimBoth isByteBlank)) field readable →
      RowFlaw width number record (.encoding number record.start field readable)

-- The header comes before the rows, and a row before the rows behind it.
inductive FirstFlaw : List Record → Flaw → Prop where
  | none : FirstFlaw [] .missingHeader
  | header {first : Record} {rest : List Record} {flaw : Flaw} : HeaderFlaw first flaw → FirstFlaw (first :: rest) flaw
  | row {first record : Record} {before later : List Record} {flaw : Flaw} : Headed first →
      (∀ earlier ∈ before, Fits first.fields.length earlier) →
      RowFlaw first.fields.length (before.length + 1) record flaw → FirstFlaw (first :: (before ++ record :: later)) flaw

theorem all_blank {names : List String} (same : fields.map Sheet.cell? = names.map some) :
    names.all (·.isEmpty) = true ↔ ∀ field ∈ fields, Sheet.cell? field = some "" := by
  have both : (∀ cell ∈ names.map some, cell = some "") ↔ ∀ cell ∈ fields.map Sheet.cell?, cell = some "" := by
    rw [same]
  simpa using both

theorem headerFlaw_iff : HeaderFlaw record flaw ↔
    (∃ field readable, decodeFields 0 record.fields = .error (field, readable) ∧
      .encoding 0 record.start field readable = flaw) ∨
    ∃ names, decodeFields 0 record.fields = .ok names ∧ names.all (·.isEmpty) = true ∧ .missingHeader = flaw := by
  constructor
  · intro found
    cases found with
    | encoding broken => exact .inl ⟨_, _, unreadable_iff.mpr broken, rfl⟩
    | blank empty =>
      have same : record.fields.map Sheet.cell? = (record.fields.map fun _ => "").map some := by
        rw [List.map_map]
        exact List.map_congr_left empty
      exact .inr ⟨_, (decodeFields_ok 0).mpr same, (all_blank same).mpr empty, rfl⟩
  · rintro (⟨field, readable, failed, rfl⟩ | ⟨names, decoded, empty, rfl⟩)
    · exact .encoding (unreadable_iff.mp failed)
    · exact .blank ((all_blank ((decodeFields_ok 0).mp decoded)).mp empty)

theorem header_error : header record = .error flaw ↔ HeaderFlaw record flaw := by
  rw [headerFlaw_iff, header]
  cases decodeFields 0 record.fields with
  | error place =>
    obtain ⟨field, readable⟩ := place
    simp
  | ok names =>
    simp only [reduceCtorEq, false_and, exists_false, false_or, Except.ok.injEq, exists_eq_left']
    cases names.all (·.isEmpty) <;> simp

theorem rowFlaw_iff : RowFlaw width number record flaw ↔
    (record.fields.length ≠ width ∧ .width number record.start record.fields.length width = flaw) ∨
    record.fields.length = width ∧ ∃ field readable,
      decodeFields 0 (record.fields.map (trimBoth isByteBlank)) = .error (field, readable) ∧
        .encoding number record.start field readable = flaw := by
  constructor
  · intro found
    cases found with
    | width ragged => exact .inl ⟨ragged, rfl⟩
    | encoding even broken => exact .inr ⟨even, _, _, unreadable_iff.mpr broken, rfl⟩
  · rintro (⟨ragged, rfl⟩ | ⟨even, field, readable, failed, rfl⟩)
    · exact .width ragged
    · exact .encoding even (unreadable_iff.mp failed)

theorem row_error : row width (record, number) = .error flaw ↔ RowFlaw width number record flaw := by
  rw [rowFlaw_iff, row]
  by_cases even : record.fields.length = width
  · cases decodeFields 0 (record.fields.map (trimBoth isByteBlank)) with
    | error place =>
      obtain ⟨field, readable⟩ := place
      simp [even]
    | ok cells => simp [even]
  · simp [even]

theorem headed_iff : (∃ names, header record = .ok names) ↔ Headed record := by
  simp only [header_ok, Headed, ← texts_iff]
  constructor
  · rintro ⟨names, same, name, member, filled⟩
    have listed : some name ∈ record.fields.map Sheet.cell? := same ▸ List.mem_map_of_mem member
    obtain ⟨field, inside, found⟩ := List.mem_map.mp listed
    exact ⟨⟨names, same⟩, field, inside, by simpa [found] using filled⟩
  · rintro ⟨⟨names, same⟩, field, inside, filled⟩
    have listed : Sheet.cell? field ∈ names.map some := same ▸ List.mem_map_of_mem inside
    obtain ⟨name, member, found⟩ := List.mem_map.mp listed
    exact ⟨names, same, name, member, by simpa [← found] using filled⟩

theorem fits_iff : (∃ cells, row width (record, number) = .ok cells) ↔ Fits width record := by
  simp only [row_ok, Fits, ← texts_iff]
  constructor
  · rintro ⟨texts, same, rfl⟩
    exact ⟨by simpa using congrArg List.length same, texts, same⟩
  · rintro ⟨rfl, texts, same⟩
    exact ⟨texts, same, by simpa using (congrArg List.length same).symm⟩

theorem rows_error (width start : Nat) : (rest.zipIdx start).mapM (row width) = .error flaw ↔
    ∃ before record later, rest = before ++ record :: later ∧ (∀ earlier ∈ before, Fits width earlier) ∧
      RowFlaw width (before.length + start) record flaw := by
  rw [mapM_error]
  constructor
  · rintro ⟨entries, ⟨record, number⟩, later, split, early, failed⟩
    have whole : rest = entries.map (·.1) ++ record :: later.map (·.1) := by
      simpa using congrArg (List.map Prod.fst) split
    have place : number = entries.length + start := by
      have here : (rest.zipIdx start)[entries.length]? = some (record, number) := by simp [split]
      rw [List.getElem?_zipIdx, Option.map_eq_some_iff] at here
      obtain ⟨_, _, same⟩ := here
      cases same
      exact Nat.add_comm _ _
    refine ⟨_, record, _, whole, ?_, ?_⟩
    · intro earlier member
      obtain ⟨⟨_, n⟩, entered, rfl⟩ := List.mem_map.mp member
      exact fits_iff.mp (early _ entered)
    · rw [List.length_map, ← place]
      exact row_error.mp failed
  · rintro ⟨before, record, later, rfl, early, failed⟩
    refine ⟨before.zipIdx start, (record, before.length + start), later.zipIdx (before.length + start + 1), ?_, ?_,
      row_error.mpr failed⟩
    · rw [List.zipIdx_append, List.zipIdx_cons, Nat.add_comm start]
    · rintro ⟨earlier, n⟩ entered
      exact fits_iff.mpr (early earlier (List.fst_mem_of_mem_zipIdx entered))

theorem firstFlaw_iff : FirstFlaw (first :: rest) flaw ↔ HeaderFlaw first flaw ∨ Headed first ∧
    ∃ before record later, rest = before ++ record :: later ∧
      (∀ earlier ∈ before, Fits first.fields.length earlier) ∧
        RowFlaw first.fields.length (before.length + 1) record flaw := by
  constructor
  · intro found
    cases found with
    | header wrong => exact .inl wrong
    | row headed early wrong => exact .inr ⟨headed, _, _, _, rfl, early, wrong⟩
  · rintro (wrong | ⟨headed, before, record, later, rfl, early, wrong⟩)
    · exact .header wrong
    · exact .row headed early wrong

theorem length_header {names : List String} (named : header first = .ok names) : names.length = first.fields.length := by
  simpa using (congrArg List.length (header_ok.mp named).1).symm

theorem ofRecords_error {list : List Record} : ofRecords list = .error flaw ↔ FirstFlaw list flaw := by
  cases list with
  | nil =>
    constructor
    · intro same
      cases same
      exact .none
    · intro found
      cases found
      rfl
  | cons first rest =>
    rw [ofRecords, bind_error, firstFlaw_iff, header_error, ← headed_iff]
    refine or_congr_right ?_
    simp only [bind_error, ← rows_error]
    constructor
    · rintro ⟨names, named, failed | ⟨_, _, made⟩⟩
      · exact ⟨⟨names, named⟩, length_header named ▸ failed⟩
      · cases made
    · rintro ⟨⟨names, named⟩, failed⟩
      exact ⟨names, named, .inl (length_header named ▸ failed)⟩

theorem ofRecords_ok : (∃ t, ofRecords (first :: rest) = .ok t) ↔
    Headed first ∧ ∀ record ∈ rest, Fits first.fields.length record := by
  simp only [ofRecords, bind_ok]
  constructor
  · rintro ⟨t, names, named, rows, filled, _⟩
    refine ⟨headed_iff.mp ⟨names, named⟩, ?_⟩
    intro record member
    obtain ⟨same, wide⟩ := rows_ok.mp filled
    have listed : record.fields.map Sheet.cell? ∈ rows.map (·.map some) := same ▸ List.mem_map_of_mem member
    obtain ⟨texts, inside, found⟩ := List.mem_map.mp listed
    have read : row names.length (record, 0) = .ok texts := row_ok.mpr ⟨found.symm, wide texts inside⟩
    rw [← length_header named]
    exact fits_iff.mp ⟨texts, read⟩
  · rintro ⟨headed, fits⟩
    obtain ⟨names, named⟩ := headed_iff.mpr headed
    have filled : ∃ rows, (rest.zipIdx 1).mapM (row names.length) = .ok rows := by
      apply mapM_total
      rintro ⟨record, number⟩ entered
      rw [length_header named]
      exact fits_iff.mpr (fits record (List.fst_mem_of_mem_zipIdx entered))
    obtain ⟨rows, filled⟩ := filled
    exact ⟨_, names, named, rows, filled, rfl⟩

-- The cells of every column are the fields at its place, one for each record and without blanks.
structure Holds (t : Table) (first : Record) (rest : List Record) : Prop where
  rows : t.rows = rest.length
  width : t.columns.length = first.fields.length
  columns : ∀ (j : Nat) (field : List UInt8), first.fields[j]? = some field → ∃ (name : String) (cells : List String),
    Sheet.cell? field = some name ∧ t.columns[j]? = some ⟨name, .infer cells⟩ ∧
      cells.map some = rest.map fun record => (record.fields[j]?).bind Sheet.cell?

theorem holds_sheet {s : Sheet} {bytes : List UInt8} (held : s.HeldBy bytes) (split : records bytes = first :: rest) :
    Holds s.table first rest := by
  unfold Sheet.HeldBy at held
  simp only [split, List.map_cons, List.cons.injEq] at held
  obtain ⟨top, below⟩ := held
  have wide : first.fields.length = s.header.length := by simpa using congrArg List.length top
  refine ⟨by simpa using (congrArg List.length below).symm, ?_, ?_⟩
  · rw [wide]
    simpa [Table.names] using congrArg List.length s.table_names
  · intro j field here
    have inside : j < s.header.length := wide ▸ (List.getElem?_eq_some_iff.mp here).1
    have named := congrArg (fun cells => cells[j]?) top
    simp only [List.getElem?_map, here, List.getElem?_eq_getElem inside, Option.map_some, Option.some.injEq] at named
    refine ⟨s.header[j], s.cells j, named, ?_, ?_⟩
    · rw [s.table_column, List.getElem?_eq_getElem inside]
      rfl
    · have places := congrArg (List.map fun cells : List (Option String) => (cells[j]?).bind id) below
      rw [← Sheet.cells_rows inside]
      simpa [Function.comp_def, Option.bind_map] using places.symm

theorem ofBytes_loads {source : String} {bytes : List UInt8} : (∃ t, ofBytes source bytes = .ok t) ↔
    ∃ first rest, records bytes = first :: rest ∧ Headed first ∧ ∀ record ∈ rest, Fits first.fields.length record := by
  simp only [ofBytes, mapError_ok]
  cases records bytes with
  | nil => simp [ofRecords]
  | cons first rest =>
    rw [ofRecords_ok]
    constructor
    · intro fine
      exact ⟨first, rest, rfl, fine⟩
    · rintro ⟨_, _, same, fine⟩
      cases same
      exact fine

theorem ofBytes_error {source : String} {bytes : List UInt8} {fault : Fault} :
    ofBytes source bytes = .error fault ↔ ∃ flaw, fault = .parse source flaw ∧ FirstFlaw (records bytes) flaw := by
  rw [ofBytes, mapError_error]
  simp only [ofRecords_error]
  constructor
  · rintro ⟨flaw, found, rfl⟩
    exact ⟨flaw, rfl, found⟩
  · rintro ⟨flaw, rfl, found⟩
    exact ⟨flaw, found, rfl⟩

-- Bytes load if and only if no record breaks a rule, then with every field at its place, and otherwise
-- the first record that breaks one is named with the rule.
theorem ofBytes_flaws (source : String) (bytes : List UInt8) :
    ((∃ t, ofBytes source bytes = .ok t) ↔ ∃ first rest, records bytes = first :: rest ∧ Headed first ∧
      ∀ record ∈ rest, Fits first.fields.length record) ∧
    (∀ t first rest, ofBytes source bytes = .ok t → records bytes = first :: rest → Holds t first rest) ∧
    ∀ fault, ofBytes source bytes = .error fault ↔
      ∃ flaw, fault = .parse source flaw ∧ FirstFlaw (records bytes) flaw := by
  refine ⟨ofBytes_loads, ?_, fun fault => ofBytes_error⟩
  intro t first rest read split
  obtain ⟨s, held, rfl⟩ := ofBytes_exact.mp read
  exact holds_sheet held split

-- The second row has a field too many and one that is no text, and the third has too few.
def raggedBytes : List UInt8 := encode "name,bytes\njvm,1\n" ++ [0xFF] ++ encode ",2,3\ngwt\n"

theorem ofBytes_flaws_ragged : ofBytes "size.csv" raggedBytes = .error (.parse "size.csv" (.width 2 ⟨17, 3⟩ 3 2)) ∧
    ∃ flaw, Fault.parse "size.csv" (.width 2 ⟨17, 3⟩ 3 2) = .parse "size.csv" flaw ∧
      FirstFlaw (records raggedBytes) flaw := by
  have failed : (match ofBytes "size.csv" raggedBytes with
      | .error fault => some fault
      | .ok _ => none) = some (.parse "size.csv" (.width 2 ⟨17, 3⟩ 3 2)) := by decide +kernel
  cases read : ofBytes "size.csv" raggedBytes with
  | ok t => simp [read] at failed
  | error fault =>
    rw [read] at failed
    cases failed
    exact ⟨rfl, ((ofBytes_flaws "size.csv" raggedBytes).2.2 _).mp read⟩

end BenchCharts.Table
