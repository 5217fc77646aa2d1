import BenchCharts.Text.Character

namespace BenchCharts.Text

variable {α : Type} {p : α → Bool} {xs before after : List α}

-- Nothing to take off: neither the first nor the last element satisfies `p`.
structure Edged (p : α → Bool) (xs : List α) : Prop where
  first : ∀ x, xs.head? = some x → p x = false
  last : ∀ x, xs.getLast? = some x → p x = false

instance (p : α → Bool) (xs : List α) : Decidable (Edged p xs) :=
  decidable_of_iff ((∀ x ∈ xs.head?, p x = false) ∧ ∀ x ∈ xs.getLast?, p x = false)
    ⟨fun ⟨first, last⟩ => ⟨first, last⟩, fun edged => ⟨edged.first, edged.last⟩⟩

theorem Edged.reverse (edged : Edged p xs) : Edged p xs.reverse :=
  ⟨by simpa using edged.last, by simpa using edged.first⟩

theorem dropWhile_before (edge : ∀ x, xs.head? = some x → p x = false) (all : ∀ x ∈ before, p x = true) :
    (before ++ xs).dropWhile p = xs := by
  rw [List.dropWhile_append_of_pos all]
  cases xs with
  | nil => rfl
  | cons x xs => simp [edge x rfl]

theorem trimBoth_padded (edged : Edged p xs) (front : ∀ x ∈ before, p x = true) (back : ∀ x ∈ after, p x = true) :
    trimBoth p (before ++ xs ++ after) = xs := by
  unfold trimBoth
  cases xs with
  | nil =>
    have all : ∀ x ∈ before ++ after, p x = true := by
      intro x member
      rcases List.mem_append.mp member with early | late
      · exact front x early
      · exact back x late
    have nothing := dropWhile_before (nofun : ∀ x, ([] : List α).head? = some x → _) all
    simp only [List.append_nil] at nothing ⊢
    rw [nothing]
    rfl
  | cons x xs =>
    have edge : ∀ y, (x :: xs ++ after).head? = some y → p y = false := edged.first
    have others : ∀ y ∈ after.reverse, p y = true := by simpa using back
    rw [List.append_assoc, dropWhile_before edge front, List.reverse_append,
      dropWhile_before edged.reverse.first others, List.reverse_reverse]

theorem head_dropWhile {x : α} (head : (xs.dropWhile p).head? = some x) : p x = false := by
  have stopped := List.head?_dropWhile_not p xs
  rwa [head] at stopped

theorem edged_trimBoth (p : α → Bool) (xs : List α) : Edged p (trimBoth p xs) := by
  constructor
  · intro x head
    -- What is taken off the end leaves the beginning as it was.
    obtain ⟨taken, split⟩ : trimBoth p xs <+: xs.dropWhile p := by
      rw [← List.reverse_suffix, trimBoth, List.reverse_reverse]
      exact List.dropWhile_suffix p
    apply head_dropWhile
    rw [← split]
    simp [head]
  · intro x last
    rw [trimBoth, List.getLast?_reverse] at last
    exact head_dropWhile last

theorem trimBoth_split (p : α → Bool) (xs : List α) : ∃ before after, xs = before ++ trimBoth p xs ++ after ∧
    (∀ x ∈ before, p x = true) ∧ ∀ x ∈ after, p x = true := by
  have inner : (xs.dropWhile p).reverse.takeWhile p ++ (xs.dropWhile p).reverse.dropWhile p =
      (xs.dropWhile p).reverse := List.takeWhile_append_dropWhile
  refine ⟨xs.takeWhile p, ((xs.dropWhile p).reverse.takeWhile p).reverse, ?_, ?_, ?_⟩
  · rw [trimBoth, List.append_assoc, ← List.reverse_append, inner, List.reverse_reverse,
      List.takeWhile_append_dropWhile]
  · exact List.all_eq_true.mp List.all_takeWhile
  · intro x member
    exact List.all_eq_true.mp List.all_takeWhile x (List.mem_reverse.mp member)

theorem trimBoth_around (xs : List α) (front : ∀ x ∈ before, p x = true) (back : ∀ x ∈ after, p x = true) :
    trimBoth p (before ++ xs ++ after) = trimBoth p xs := by
  obtain ⟨early, late, split, blank, blanks⟩ := trimBoth_split p xs
  have joined : before ++ xs ++ after = (before ++ early) ++ trimBoth p xs ++ (late ++ after) := by
    calc before ++ xs ++ after = before ++ (early ++ trimBoth p xs ++ late) ++ after := by rw [← split]
      _ = (before ++ early) ++ trimBoth p xs ++ (late ++ after) := by simp only [List.append_assoc]
  rw [joined]
  apply trimBoth_padded (edged_trimBoth p xs)
  · exact fun x member => (List.mem_append.mp member).elim (front x) (blank x)
  · exact fun x member => (List.mem_append.mp member).elim (blanks x) (back x)

section Parts

variable {β : Type} {q : β → Bool} {f : α → List β}

theorem dropWhile_flatMap (filled : ∀ a, f a ≠ []) (same : ∀ a, ∀ b ∈ f a, q b = p a) (as : List α) :
    (as.flatMap f).dropWhile q = (as.dropWhile p).flatMap f := by
  induction as with
  | nil => rfl
  | cons a as ih =>
    cases taken : p a with
    | true =>
      have all : ∀ b ∈ f a, q b = true := fun b member => (same a b member).trans taken
      rw [List.flatMap_cons, List.dropWhile_append_of_pos all, ih, List.dropWhile_cons, if_pos taken]
    | false =>
      obtain ⟨b, rest, split⟩ := List.exists_cons_of_ne_nil (filled a)
      have stops : q b = false := (same a b (by simp [split])).trans taken
      simp [split, stops, taken]

-- Trimming parts of elements trims the elements, where all parts of one are alike.
theorem trimBoth_flatMap (filled : ∀ a, f a ≠ []) (same : ∀ a, ∀ b ∈ f a, q b = p a) (as : List α) :
    trimBoth q (as.flatMap f) = (trimBoth p as).flatMap f := by
  unfold trimBoth
  rw [dropWhile_flatMap filled same, List.reverse_flatMap, dropWhile_flatMap (p := p), List.reverse_flatMap]
  · simp [Function.comp_def]
  · simpa using filled
  · simpa using same

end Parts

def Trimmed (text : String) : Prop := Edged isBlank text.toList

instance (text : String) : Decidable (Trimmed text) := inferInstanceAs (Decidable (Edged isBlank text.toList))

def Blanks (text : String) : Prop := ∀ c ∈ text.toList, isBlank c = true

theorem trim_padded {text before after : String} (trimmed : Trimmed text) (front : Blanks before)
    (back : Blanks after) : trim (before ++ text ++ after) = text := by
  rw [trim, String.toList_append, String.toList_append, trimBoth_padded trimmed front back, String.ofList_toList]

theorem trim_around {before after : String} (text : String) (front : Blanks before) (back : Blanks after) :
    trim (before ++ text ++ after) = trim text := by
  rw [trim, String.toList_append, String.toList_append, trimBoth_around _ front back]
  rfl

theorem trimmed_trim (text : String) : Trimmed (trim text) := by
  rw [Trimmed, trim, String.toList_ofList]
  exact edged_trimBoth isBlank text.toList

end BenchCharts.Text
