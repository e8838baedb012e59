import Mathlib.Data.List.Forall2

/-! Computations that refuse: guards, and what a successful sequence says of its parts. -/

namespace FortifyLab

variable {ε α β : Type}

/-- Refuse with `error` unless the condition holds. -/
def check (condition : Prop) [Decidable condition] (error : ε) : Except ε Unit :=
  if condition then .ok () else .error error

@[simp] theorem check_ok {condition : Prop} [Decidable condition] {error : ε} {result : Unit} :
    check condition error = .ok result ↔ condition := by
  unfold check
  split <;> simp_all

theorem bind_ok {first : Except ε α} {rest : α → Except ε β} {result : β} :
    (first >>= rest) = .ok result ↔ ∃ value, first = .ok value ∧ rest value = .ok result := by
  cases first with
  | ok value =>
      constructor
      · intro finished
        exact ⟨value, rfl, finished⟩
      · intro parts
        rcases parts with ⟨other, same, finished⟩
        cases same
        exact finished
  | error error =>
      constructor
      · intro finished
        cases finished
      · intro parts
        rcases parts with ⟨other, same, finished⟩
        cases same

theorem pure_ok {value result : α} :
    (pure value : Except ε α) = .ok result ↔ value = result :=
  Iff.of_eq (Except.ok.injEq value result)

theorem mapM_ok {f : α → Except ε β} {items : List α} {results : List β} :
    items.mapM f = .ok results ↔
      List.Forall₂ (fun item result => f item = .ok result) items results := by
  induction items generalizing results with
  | nil =>
      rw [List.mapM_nil, pure_ok, List.forall₂_nil_left_iff]
      exact eq_comm
  | cons item items ih =>
      simp only [List.mapM_cons, bind_ok, pure_ok, List.forall₂_cons_left_iff, ih]
      constructor
      · intro parts
        rcases parts with ⟨result, made, others, later, same⟩
        exact ⟨result, others, made, later, same.symm⟩
      · intro parts
        rcases parts with ⟨result, others, made, later, same⟩
        exact ⟨result, made, others, later, same.symm⟩

end FortifyLab
