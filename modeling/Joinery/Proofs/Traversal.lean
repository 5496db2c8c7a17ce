import Mathlib.Data.List.Forall2

/-!
# Lists that are worked through item by item

Work on a list that stops at the first item for which it fails.
-/

namespace Joinery

variable {α β ε : Type} {work : α → Except ε β} {items : List α}

/-- All items give values, in their order. -/
theorem mapM_eq_ok_iff {values : List β} :
    items.mapM work = .ok values ↔
      List.Forall₂ (fun item value => work item = .ok value) items values := by
  induction items generalizing values with
  | nil => simp [pure, Except.pure, eq_comm]
  | cons item rest ih =>
      rw [List.mapM_cons, List.forall₂_cons_left_iff]
      cases first : work item with
      | error fault => simp [bind, Except.bind]
      | ok value =>
          cases later : rest.mapM work with
          | error fault => simp [bind, Except.bind, later, ← ih]
          | ok others => simp [bind, Except.bind, pure, Except.pure, later, ← ih, eq_comm]

theorem exists_mapM_eq_ok_iff :
    (∃ values, items.mapM work = .ok values) ↔ ∀ item ∈ items, ∃ value, work item = .ok value := by
  simp only [mapM_eq_ok_iff]
  induction items with
  | nil => simp
  | cons item rest ih =>
      simp only [List.forall_mem_cons, ← ih, List.forall₂_cons_left_iff]
      constructor
      · rintro ⟨-, value, values, first, later, rfl⟩
        exact ⟨⟨value, first⟩, values, later⟩
      · rintro ⟨⟨value, first⟩, values, later⟩
        exact ⟨_, value, values, first, later, rfl⟩

/-- Some item fails, after others that gave values; what comes after it is not looked at. -/
theorem mapM_eq_error_iff {fault : ε} :
    items.mapM work = .error fault ↔ ∃ before item after, items = before ++ item :: after ∧
      (∀ earlier ∈ before, ∃ value, work earlier = .ok value) ∧ work item = .error fault := by
  induction items with
  | nil => simp [pure, Except.pure]
  | cons first rest ih =>
      simp only [List.cons_eq_append_iff]
      cases worked : work first with
      | error fault' =>
          rw [List.mapM_cons, worked]
          constructor
          · intro failed
            refine ⟨[], first, rest, Or.inl ⟨rfl, rfl⟩, by simp, ?_⟩
            rw [worked, Except.error.inj failed]
          · rintro ⟨before, item, after, ⟨rfl, split⟩ | ⟨more, rfl, -⟩, done, failed⟩
            · obtain ⟨rfl, -⟩ := List.cons.inj split
              rw [worked] at failed
              rw [Except.error.inj failed]
              rfl
            · obtain ⟨value, done⟩ := done first List.mem_cons_self
              exact nomatch worked.symm.trans done
      | ok value =>
          have passed :
              (first :: rest).mapM work = .error fault ↔ rest.mapM work = .error fault := by
            rw [List.mapM_cons, worked]
            cases rest.mapM work <;> simp [bind, Except.bind, pure, Except.pure]
          rw [passed, ih]
          constructor
          · rintro ⟨before, item, after, rfl, done, failed⟩
            refine ⟨first :: before, item, after, Or.inr ⟨before, rfl, rfl⟩, ?_, failed⟩
            simpa [worked] using done
          · rintro ⟨before, item, after, ⟨rfl, split⟩ | ⟨more, rfl, rfl⟩, done, failed⟩
            · obtain ⟨rfl, -⟩ := List.cons.inj split
              exact nomatch worked.symm.trans failed
            · exact ⟨more, item, after, rfl, (List.forall_mem_cons.mp done).2, failed⟩

end Joinery
