import LinkedCharts.Text.Split

/-!
# Where a text is split

Results:
* `takeWhile_append_eq`, `dropWhile_append_eq`: a text of two halves is split between them if the
  first has characters of a kind and the second does not begin with one.
* `subset_of_mem_splitBy`: a part of a text has only characters of the text.
-/

namespace LinkedCharts.Text

variable {kind : Char → Bool} {front back : List Char}

theorem takeWhile_append_eq (hfront : ∀ c ∈ front, kind c = true)
    (hback : ∀ c ∈ back.head?, kind c = false) : (front ++ back).takeWhile kind = front := by
  rw [List.takeWhile_append_of_pos hfront]
  cases back with
  | nil => exact List.append_nil front
  | cons c rest =>
    rw [List.takeWhile_cons_of_neg (by simp [hback c rfl]), List.append_nil]

theorem dropWhile_append_eq (hfront : ∀ c ∈ front, kind c = true)
    (hback : ∀ c ∈ back.head?, kind c = false) : (front ++ back).dropWhile kind = back := by
  rw [List.dropWhile_append_of_pos hfront]
  cases back with
  | nil => rfl
  | cons c rest => exact List.dropWhile_cons_of_neg (by simp [hback c rfl])

/-- A part of a text has only characters of the text. -/
theorem subset_of_mem_splitBy {cs part : List Char} (h : part ∈ splitBy kind cs) : part ⊆ cs := by
  induction cs generalizing part with
  | nil =>
    obtain rfl := List.mem_singleton.1 h
    exact List.Subset.refl _
  | cons c rest ih =>
    unfold splitBy at h
    split at h
    · rcases List.mem_cons.1 h with rfl | h
      · exact List.nil_subset _
      · exact List.subset_cons_of_subset c (ih h)
    · split at h
      · obtain rfl := List.mem_singleton.1 h
        exact List.cons_subset_cons _ (List.nil_subset _)
      · rename_i part' parts hparts
        rw [hparts] at ih
        rcases List.mem_cons.1 h with rfl | h
        · exact List.cons_subset_cons _ (ih List.mem_cons_self)
        · exact List.subset_cons_of_subset c (ih (List.mem_cons_of_mem _ h))

end LinkedCharts.Text
