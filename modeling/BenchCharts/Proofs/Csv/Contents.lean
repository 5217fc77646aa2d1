import BenchCharts.Csv.Record

namespace BenchCharts.Csv

def doubled (bytes : List UInt8) : List UInt8 := bytes.flatMap fun b => if b = quote then [quote, quote] else [b]

def isPlain (b : UInt8) : Bool := b != quote && b != comma && !endsRecord b

theorem plain_iff {b : UInt8} : isPlain b = true ↔ b ≠ quote ∧ b ≠ comma ∧ endsRecord b = false := by
  simp [isPlain, and_assoc]

namespace Reader

variable {mode : Mode} {fields : List (List UInt8)} {field bytes : List UInt8} {b : UInt8}

def contents (r : Reader) (bytes : List UInt8) : List (List (List UInt8)) := (r.records bytes).map (·.fields)

theorem contents_cons (r : Reader) (b : UInt8) (rest : List UInt8) :
    r.contents (b :: rest) = (r.feed b).2.toList.map (·.fields) ++ (r.feed b).1.contents rest := by
  unfold contents
  rw [records]
  split <;> rename_i fed <;> simp [fed]

def standing (mode : Mode) (fields : List (List UInt8)) (field : List UInt8) : Reader :=
  ⟨mode, .start, .start, fields, field⟩

def placeless (r : Reader) : Reader := standing r.mode r.fields r.field

theorem bareByte_placeless (r : Reader) (b : UInt8) (begun here : Position) :
    ({ r with begun, here }.bareByte b).1.placeless = (r.bareByte b).1.placeless ∧
      ({ r with begun, here }.bareByte b).2.map Record.fields = (r.bareByte b).2.map Record.fields := by
  unfold bareByte
  split
  · exact ⟨rfl, rfl⟩
  split
  · exact ⟨rfl, rfl⟩
  · exact ⟨rfl, rfl⟩

theorem feed_placeless (r : Reader) (b : UInt8) :
    (r.placeless.feed b).1.placeless = (r.feed b).1.placeless ∧
      (r.placeless.feed b).2.map Record.fields = (r.feed b).2.map Record.fields := by
  obtain ⟨mode, begun, here, fields, field⟩ := r
  have outside := bareByte_placeless ⟨mode, begun, here.past b, fields, field⟩ b .start (Position.start.past b)
  cases mode with
  | between =>
    simp only [placeless, standing, feed]
    split
    · exact ⟨rfl, rfl⟩
    split
    · exact ⟨rfl, rfl⟩
    · exact outside
  | opening =>
    simp only [placeless, standing, feed]
    split
    · exact ⟨rfl, rfl⟩
    · exact outside
  | bare => exact outside
  | quoted =>
    simp only [placeless, standing, feed]
    split <;> exact ⟨rfl, rfl⟩
  | closing =>
    simp only [placeless, standing, feed]
    split
    · exact ⟨rfl, rfl⟩
    · exact outside

theorem contents_placeless (r : Reader) (bytes : List UInt8) : r.placeless.contents bytes = r.contents bytes := by
  induction bytes generalizing r with
  | nil =>
    obtain ⟨mode, begun, here, fields, field⟩ := r
    cases mode <;> rfl
  | cons b rest ih =>
    obtain ⟨next, made⟩ := feed_placeless r b
    have records : (r.placeless.feed b).2.toList.map (·.fields) = (r.feed b).2.toList.map (·.fields) := by
      simpa [Option.toList_map] using congrArg Option.toList made
    rw [contents_cons, contents_cons, records, ← ih (r.feed b).1, ← next, ih]

-- What one byte leads to, when it ends no record.
theorem contents_fed {r next : Reader} (silent : (r.feed b).2 = none) (fed : (r.feed b).1.placeless = next)
    (rest : List UInt8) : r.contents (b :: rest) = next.contents rest := by
  rw [contents_cons, silent, ← fed, contents_placeless]
  rfl

theorem contents_plain (outside : mode ≠ .quoted) (plain : isPlain b = true) (rest : List UInt8) :
    (standing mode fields field).contents (b :: rest) = (standing .bare fields (b :: field)).contents rest := by
  obtain ⟨quotes, commas, ends⟩ := plain_iff.mp plain
  cases mode with
  | quoted => exact absurd rfl outside
  | _ => apply contents_fed <;> simp [standing, feed, bareByte, quotes, commas, ends, keep, placeless]

theorem contents_comma (outside : mode ≠ .quoted) (rest : List UInt8) :
    (standing mode fields field).contents (comma :: rest) =
      (standing .opening (field.reverse :: fields) []).contents rest := by
  cases mode with
  | quoted => exact absurd rfl outside
  | _ => apply contents_fed <;> rfl

theorem contents_quote (ready : mode = .between ∨ mode = .opening) (rest : List UInt8) :
    (standing mode fields field).contents (quote :: rest) = (standing .quoted fields field).contents rest := by
  rcases ready with rfl | rfl <;> apply contents_fed <;> rfl

theorem contents_close (rest : List UInt8) :
    (standing .quoted fields field).contents (quote :: rest) = (standing .closing fields field).contents rest := by
  apply contents_fed <;> rfl

theorem contents_blank (ends : endsRecord b = true) (rest : List UInt8) :
    (standing .between fields field).contents (b :: rest) = (standing .between fields field).contents rest := by
  apply contents_fed <;> simp [standing, feed, ends, placeless]

-- The line end closes the field and its record.
theorem contents_end (outside : mode ≠ .quoted) (begun : mode ≠ .between) (ends : endsRecord b = true)
    (rest : List UInt8) : (standing mode fields field).contents (b :: rest) =
      (field.reverse :: fields).reverse :: (standing .between [] []).contents rest := by
  have quotes : b ≠ quote := by rintro rfl; exact absurd ends (by decide)
  have commas : b ≠ comma := by rintro rfl; exact absurd ends (by decide)
  have fed : (standing mode fields field).feed b =
      (initial (Position.start.past b) (Position.start.past b), some ⟨.start, (field.reverse :: fields).reverse⟩) := by
    cases mode with
    | quoted => exact absurd rfl outside
    | between => exact absurd rfl begun
    | _ => simp [standing, feed, bareByte, quotes, commas, ends, record]
  rw [contents_cons, fed, ← contents_placeless]
  rfl

theorem contents_finish (begun : mode ≠ .between) :
    (standing mode fields field).contents [] = [(field.reverse :: fields).reverse] := by
  simp [contents, records, finish, standing, begun, record]

theorem contents_run (outside : mode ≠ .quoted) (plain : ∀ b ∈ bytes, isPlain b = true) (rest : List UInt8) :
    (standing mode fields field).contents (bytes ++ rest) =
      (standing (if bytes = [] then mode else .bare) fields (bytes.reverse ++ field)).contents rest := by
  induction bytes generalizing mode field with
  | nil => rfl
  | cons b bytes ih =>
    obtain ⟨first, others⟩ := List.forall_mem_cons.mp plain
    rw [List.cons_append, contents_plain outside first, ih (by decide) others]
    simp

theorem contents_doubled (bytes rest : List UInt8) :
    (standing .quoted fields field).contents (doubled bytes ++ rest) =
      (standing .quoted fields (bytes.reverse ++ field)).contents rest := by
  induction bytes generalizing field with
  | nil => rfl
  | cons b bytes ih =>
    have step : (standing .quoted fields field).contents (doubled (b :: bytes) ++ rest) =
        (standing .quoted fields (b :: field)).contents (doubled bytes ++ rest) := by
      by_cases quotes : b = quote
      · subst quotes
        rw [show doubled (quote :: bytes) = quote :: quote :: doubled bytes from rfl, List.cons_append,
          contents_close]
        apply contents_fed <;> rfl
      · rw [show doubled (b :: bytes) = b :: doubled bytes by simp [doubled, quotes], List.cons_append]
        apply contents_fed <;> simp [standing, feed, quotes, keep, placeless]
    rw [step, ih]
    simp

end Reader
end BenchCharts.Csv
