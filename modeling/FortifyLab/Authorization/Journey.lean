import FortifyLab.Authorization.Approval

/-! The life of one approval: from its request it is approved at most once, and then
consumed or revoked for good. -/

namespace FortifyLab.Authorization

/-- The moves of an approval. -/
inductive MovesTo : ApprovalState → ApprovalState → Prop where
  | approve : MovesTo .pending .approved
  | withdraw : MovesTo .pending .revoked
  | consume : MovesTo .approved .consumed
  | revoke : MovesTo .approved .revoked

/-- The moves of an approval from its request to a state. -/
inductive Journey : ApprovalState → List (ApprovalState × ApprovalState) → Prop where
  | requested : Journey .pending []
  | moved {state next : ApprovalState} {moves : List (ApprovalState × ApprovalState)}
      (before : Journey state moves) (move : MovesTo state next) :
      Journey next (moves ++ [(state, next)])

theorem Journey.eq_of_pending {moves : List (ApprovalState × ApprovalState)}
    (journey : Journey .pending moves) : moves = [] := by
  cases journey with
  | requested => rfl
  | moved _ move => cases move

theorem Journey.eq_of_approved {moves : List (ApprovalState × ApprovalState)}
    (journey : Journey .approved moves) : moves = [(.pending, .approved)] := by
  cases journey with
  | moved before move =>
      cases move
      rw [before.eq_of_pending]
      rfl

/-- Only five journeys are possible; each move is made at most once. -/
theorem Journey.five {state : ApprovalState} {moves : List (ApprovalState × ApprovalState)}
    (journey : Journey state moves) :
    (state = .pending ∧ moves = []) ∨
    (state = .approved ∧ moves = [(.pending, .approved)]) ∨
    (state = .revoked ∧ moves = [(.pending, .revoked)]) ∨
    (state = .consumed ∧ moves = [(.pending, .approved), (.approved, .consumed)]) ∨
    (state = .revoked ∧ moves = [(.pending, .approved), (.approved, .revoked)]) := by
  cases journey with
  | requested => simp
  | moved before move =>
      cases move with
      | approve => simp [before.eq_of_pending]
      | withdraw => simp [before.eq_of_pending]
      | consume => simp [before.eq_of_approved]
      | revoke => simp [before.eq_of_approved]

theorem Journey.consumed_once {state : ApprovalState} {moves : List (ApprovalState × ApprovalState)}
    (journey : Journey state moves) : moves.count (.approved, .consumed) ≤ 1 := by
  rcases journey.five with ⟨_, rfl⟩ | ⟨_, rfl⟩ | ⟨_, rfl⟩ | ⟨_, rfl⟩ | ⟨_, rfl⟩ <;> decide

end FortifyLab.Authorization
