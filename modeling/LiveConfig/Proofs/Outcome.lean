import Mathlib.Data.List.Forall2

/-!
# Outcomes in turn

Steps that may fail follow each other, and so do the steps of a list. What is known of such a
sequence where it succeeds is known of each of its steps, and a sequence succeeds where each of its
steps does.
-/

namespace LiveConfig.Outcome

variable {ε δ α β : Type}

/-- Two steps succeed if the first one does and the second one does with its result. -/
theorem bind_ok_iff (first : Except ε α) (second : α → Except ε β) (result : β) :
    (first >>= second) = .ok result ↔ ∃ a, first = .ok a ∧ second a = .ok result := by
  cases first <;> simp [bind, Except.bind]

/-- A step that only changes the result succeeds where it did before. -/
theorem map_ok_iff (first : Except ε α) (change : α → β) (result : β) :
    first.map change = .ok result ↔ ∃ a, first = .ok a ∧ change a = result := by
  cases first <;> simp [Except.map]

/-- A step that only changes the result fails where it did before. -/
theorem map_error_iff (first : Except ε α) (change : α → β) (error : ε) :
    first.map change = .error error ↔ first = .error error := by
  cases first <;> simp [Except.map]

/-- A step whose error is put in another way succeeds where it did before. -/
theorem mapError_ok_iff (first : Except ε α) (change : ε → δ) (result : α) :
    first.mapError change = .ok result ↔ first = .ok result := by
  cases first with
  | error e => exact ⟨nofun, nofun⟩
  | ok a =>
    show Except.ok a = Except.ok result ↔ _
    simp

/-- A step whose error is put in another way fails where it did before. -/
theorem mapError_error_iff (first : Except ε α) (change : ε → δ) (error : δ) :
    first.mapError change = .error error ↔ ∃ e, first = .error e ∧ change e = error := by
  cases first with
  | error e =>
    show Except.error (change e) = Except.error error ↔ _
    simp
  | ok a => exact ⟨nofun, nofun⟩

/-- The steps of a list succeed exactly with one result for each element, in order. -/
theorem mapM_ok_iff (step : α → Except ε β) (xs : List α) (ys : List β) :
    xs.mapM step = .ok ys ↔ List.Forall₂ (fun x y => step x = .ok y) xs ys := by
  induction xs generalizing ys with
  | nil =>
    rw [List.forall₂_nil_left_iff]
    exact ⟨fun done => (Except.ok.inj done).symm, fun none => none ▸ rfl⟩
  | cons x rest inductionHypothesis =>
    simp only [List.mapM_cons, bind_ok_iff, List.forall₂_cons_left_iff, inductionHypothesis]
    constructor
    · rintro ⟨first, here, others, there, all⟩
      exact ⟨first, others, here, there, (Except.ok.inj all).symm⟩
    · rintro ⟨first, others, here, there, rfl⟩
      exact ⟨first, here, others, there, rfl⟩

/-- The steps of a list result in one result for each element, in order. -/
theorem mapM_ok (step : α → Except ε β) (xs : List α) (ys : List β)
    (succeeded : xs.mapM step = .ok ys) : List.Forall₂ (fun x y => step x = .ok y) xs ys :=
  (mapM_ok_iff step xs ys).mp succeeded

/-- Whatever the steps of a list result in, each result is that of a step. -/
theorem mem_of_mapM_ok (step : α → Except ε β) (xs : List α) (ys : List β)
    (succeeded : xs.mapM step = .ok ys) : ∀ y ∈ ys, ∃ x ∈ xs, step x = .ok y := by
  have related := mapM_ok step xs ys succeeded
  clear succeeded
  induction related with
  | nil => simp
  | @cons x first rest others here _ inductionHypothesis =>
    intro y member
    rcases List.mem_cons.mp member with rfl | late
    · exact ⟨x, List.mem_cons_self, here⟩
    · obtain ⟨source, among, result⟩ := inductionHypothesis y late
      exact ⟨source, List.mem_cons_of_mem x among, result⟩

/-- Each step of a list has its result among those that the steps result in. -/
theorem exists_of_mapM_ok (step : α → Except ε β) (xs : List α) (ys : List β)
    (succeeded : xs.mapM step = .ok ys) : ∀ x ∈ xs, ∃ y ∈ ys, step x = .ok y := by
  have related := mapM_ok step xs ys succeeded
  clear succeeded
  induction related with
  | nil => simp
  | @cons first y rest others here _ inductionHypothesis =>
    intro x member
    rcases List.mem_cons.mp member with rfl | late
    · exact ⟨y, List.mem_cons_self, here⟩
    · obtain ⟨result, among, gives⟩ := inductionHypothesis x late
      exact ⟨result, List.mem_cons_of_mem y among, gives⟩

/-- Where every element comes from a form that a step takes back to it, the steps of all forms give
the elements in order. -/
theorem mapM_map_ok (form : β → α) (step : α → Except ε β) (ys : List β)
    (back : ∀ y ∈ ys, step (form y) = .ok y) : (ys.map form).mapM step = .ok ys := by
  induction ys with
  | nil => rfl
  | cons y rest inductionHypothesis =>
    obtain ⟨first, others⟩ := List.forall_mem_cons.mp back
    rw [List.map_cons, List.mapM_cons, first, inductionHypothesis others]
    rfl

end LiveConfig.Outcome
