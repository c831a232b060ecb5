/-!
# Interleavings

A list that holds the items of two others, each of them in its order: the second list is inserted into the first
one, at any positions. What is done to every item on its own, such as filtering and mapping, is done to the
parts alike.
-/

namespace ServiceTopology

variable {α β : Type}

/-- The last list holds the items of the other two, those of each in their order. -/
inductive Interleaved : List α → List α → List α → Prop
  | nil : Interleaved [] [] []
  | kept {items inserted all : List α} (item : α) (h : Interleaved items inserted all) :
      Interleaved (item :: items) inserted (item :: all)
  | insert {items inserted all : List α} (item : α) (h : Interleaved items inserted all) :
      Interleaved items (item :: inserted) (item :: all)

namespace Interleaved

variable {items inserted all : List α}

/-- Nothing is inserted into a list as it is. -/
theorem refl (items : List α) : Interleaved items [] items := by
  induction items with
  | nil => exact nil
  | cons item rest ih => exact ih.kept item

/-- A list into which nothing is inserted is as before. -/
theorem eq_of_nil (h : Interleaved items [] all) : all = items := by
  generalize hinserted : ([] : List α) = inserted at h
  induction h with
  | nil => rfl
  | kept item _ ih => rw [ih hinserted]
  | insert item _ _ => cases hinserted

/-- Choosing from the items and choosing from what is inserted is choosing from all. -/
theorem filterMap (h : Interleaved items inserted all) (f : α → Option β) :
    Interleaved (items.filterMap f) (inserted.filterMap f) (all.filterMap f) := by
  induction h with
  | nil => exact nil
  | kept item _ ih =>
    cases hitem : f item with
    | none => simpa only [List.filterMap_cons_none hitem] using ih
    | some image => simpa only [List.filterMap_cons_some hitem] using ih.kept image
  | insert item _ ih =>
    cases hitem : f item with
    | none => simpa only [List.filterMap_cons_none hitem] using ih
    | some image => simpa only [List.filterMap_cons_some hitem] using ih.insert image

/-- Filtering the items and what is inserted is filtering all. -/
theorem filter (h : Interleaved items inserted all) (p : α → Bool) :
    Interleaved (items.filter p) (inserted.filter p) (all.filter p) := by
  simpa only [List.filterMap_eq_filter] using h.filterMap (Option.guard p)

/-- Mapping the items and what is inserted is mapping all. -/
theorem map (h : Interleaved items inserted all) (f : α → β) :
    Interleaved (items.map f) (inserted.map f) (all.map f) := by
  simpa only [List.filterMap_eq_map'] using h.filterMap (fun item => some (f item))

/-- A filter that refuses all that is inserted sees the items alone. -/
theorem filter_eq (h : Interleaved items inserted all) {p : α → Bool}
    (hrefused : ∀ item ∈ inserted, p item = false) : all.filter p = items.filter p := by
  have hnone : inserted.filter p = [] :=
    List.filter_eq_nil_iff.mpr fun item hitem => Bool.not_eq_true _ ▸ hrefused item hitem
  exact eq_of_nil (hnone ▸ h.filter p)

/-- What follows the items follows all. -/
theorem append_right (h : Interleaved items inserted all) (rest : List α) :
    Interleaved (items ++ rest) inserted (all ++ rest) := by
  induction h with
  | nil => exact refl rest
  | kept item _ ih => exact ih.kept item
  | insert item _ ih => exact ih.insert item

end Interleaved

end ServiceTopology
