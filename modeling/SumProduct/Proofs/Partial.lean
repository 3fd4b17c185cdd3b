/-
Computations that may fail: when a sequence of them succeeds, and with which result.

These are the facts by which a computation written step by step is taken apart.  A run succeeds
exactly when every step does, and a failure is the failure of the first step that fails.
-/

import Mathlib.Data.List.Forall2

set_option autoImplicit false

namespace SumProduct.Partial

variable {ε α β : Type}

@[simp]
theorem ok_bind (value : α) (next : α → Except ε β) :
    ((Except.ok value : Except ε α) >>= next) = next value := rfl

@[simp]
theorem error_bind (fault : ε) (next : α → Except ε β) :
    ((Except.error fault : Except ε α) >>= next) = .error fault := rfl

@[simp]
theorem pure_eq_ok (value : α) : (pure value : Except ε α) = .ok value := rfl

@[simp]
theorem throw_eq_error (fault : ε) : (throw fault : Except ε α) = .error fault := rfl

@[simp]
theorem map_ok (f : α → β) (value : α) : (Except.ok value : Except ε α).map f = .ok (f value) := rfl

@[simp]
theorem map_error (f : α → β) (fault : ε) :
    (Except.error fault : Except ε α).map f = .error fault := rfl

theorem bind_eq_ok {first : Except ε α} {next : α → Except ε β} {result : β} :
    (first >>= next) = .ok result ↔ ∃ value, first = .ok value ∧ next value = .ok result := by
  cases first with
  | error fault => simp
  | ok value => simp

theorem bind_eq_error {first : Except ε α} {next : α → Except ε β} {fault : ε} :
    (first >>= next) = .error fault ↔
      first = .error fault ∨ ∃ value, first = .ok value ∧ next value = .error fault := by
  cases first with
  | error other => simp
  | ok value => simp

theorem map_eq_ok {first : Except ε α} {f : α → β} {result : β} :
    first.map f = .ok result ↔ ∃ value, first = .ok value ∧ f value = result := by
  cases first with
  | error fault => simp
  | ok value => simp

theorem map_eq_error {first : Except ε α} {f : α → β} {fault : ε} :
    first.map f = .error fault ↔ first = .error fault := by
  cases first with
  | error other => simp
  | ok value => simp

theorem mapError_eq_ok {first : Except ε α} {f : ε → ε} {result : α} :
    first.mapError f = .ok result ↔ first = .ok result := by
  cases first with
  | error fault => simp [Except.mapError]
  | ok value => simp [Except.mapError]

theorem mapError_eq_error {first : Except ε α} {f : ε → ε} {fault : ε} :
    first.mapError f = .error fault ↔ ∃ raised, first = .error raised ∧ f raised = fault := by
  cases first with
  | error other => simp [Except.mapError]
  | ok value => simp [Except.mapError]

/-- Applying a partial function along a list succeeds exactly when it succeeds at every item. -/
theorem mapM_eq_ok {f : α → Except ε β} {items : List α} {results : List β} :
    items.mapM f = .ok results ↔ List.Forall₂ (fun item result => f item = .ok result) items results := by
  induction items generalizing results with
  | nil =>
      simp [eq_comm]
  | cons item rest ih =>
      rw [List.mapM_cons, bind_eq_ok]
      constructor
      · rintro ⟨first, atItem, remaining⟩
        obtain ⟨others, atRest, same⟩ := bind_eq_ok.mp remaining
        cases same
        exact .cons atItem (ih.mp atRest)
      · rintro (_ | ⟨atItem, atRest⟩)
        exact ⟨_, atItem, bind_eq_ok.mpr ⟨_, ih.mpr atRest, rfl⟩⟩

theorem exists_of_mem_left {related : α → β → Prop} {items : List α} {results : List β}
    (each : List.Forall₂ related items results) {item : α} (member : item ∈ items) :
    ∃ result ∈ results, related item result := by
  induction each with
  | nil => cases member
  | cons here _ ih =>
      rcases List.mem_cons.mp member with rfl | later
      · exact ⟨_, List.mem_cons_self, here⟩
      · obtain ⟨result, found, holds⟩ := ih later
        exact ⟨result, List.mem_cons_of_mem _ found, holds⟩

theorem exists_of_mem_right {related : α → β → Prop} {items : List α} {results : List β}
    (each : List.Forall₂ related items results) {result : β} (member : result ∈ results) :
    ∃ item ∈ items, related item result :=
  exists_of_mem_left each.flip member

/-- Where it fails, some item is the reason. -/
theorem mapM_eq_error {f : α → Except ε β} {items : List α} {fault : ε}
    (failed : items.mapM f = .error fault) : ∃ item ∈ items, f item = .error fault := by
  induction items with
  | nil => cases failed
  | cons item rest ih =>
      rw [List.mapM_cons] at failed
      rcases bind_eq_error.mp failed with here | ⟨first, _, remaining⟩
      · exact ⟨item, List.mem_cons_self, here⟩
      · rcases bind_eq_error.mp remaining with later | ⟨others, _, impossible⟩
        · obtain ⟨other, member, atOther⟩ := ih later
          exact ⟨other, List.mem_cons_of_mem item member, atOther⟩
        · cases impossible

/-- Partial functions that agree on the items of a list give the same result along it. -/
theorem mapM_congr {f g : α → Except ε β} {items : List α} (same : ∀ item ∈ items, f item = g item) :
    items.mapM f = items.mapM g := by
  induction items with
  | nil => rfl
  | cons item rest ih =>
      rw [List.mapM_cons, List.mapM_cons, same item List.mem_cons_self,
        ih fun other member => same other (List.mem_cons_of_mem item member)]

end SumProduct.Partial
