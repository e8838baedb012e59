import Mathlib.Data.List.Basic

/-! A thing that parties use in turn: one takes it, and gives it back or uses it up. -/

namespace FortifyLab

inductive Usage (Party : Type) where
  | taken (party : Party)
  | returned (party : Party)
  | spent (party : Party)
  deriving DecidableEq, Repr

inductive Standing (Party : Type) where
  | free
  | held (party : Party)
  | spent (party : Party)
  deriving DecidableEq, Repr

variable {Party : Type}

/-- The last uses, by where the thing stands. -/
def Standing.uses : Standing Party → List (Usage Party)
  | .free => []
  | .held party => [.taken party]
  | .spent party => [.taken party, .spent party]

/-- Parties that each took the thing and gave it back. -/
def rounds : List Party → List (Usage Party)
  | [] => []
  | party :: rest => .taken party :: .returned party :: rounds rest

theorem rounds_concat (parties : List Party) (party : Party) :
    rounds (parties ++ [party]) = rounds parties ++ [.taken party, .returned party] := by
  induction parties with
  | nil => rfl
  | cons first rest ih => simp [rounds, ih]

/-- The uses are in turn, and leave the thing at a standing. -/
def InTurn (uses : List (Usage Party)) (standing : Standing Party) : Prop :=
  ∃ parties, uses = rounds parties ++ standing.uses

namespace InTurn

variable {uses : List (Usage Party)} {standing : Standing Party} {party other : Party}

theorem start : InTurn ([] : List (Usage Party)) .free := ⟨[], rfl⟩

theorem take (turns : InTurn uses .free) (party : Party) :
    InTurn (uses ++ [.taken party]) (.held party) := by
  rcases turns with ⟨parties, rfl⟩
  exact ⟨parties, by simp [Standing.uses]⟩

theorem giveBack (turns : InTurn uses (.held party)) :
    InTurn (uses ++ [.returned party]) .free := by
  rcases turns with ⟨parties, rfl⟩
  exact ⟨parties ++ [party], by simp [Standing.uses, rounds_concat]⟩

theorem spend (turns : InTurn uses (.held party)) :
    InTurn (uses ++ [.spent party]) (.spent party) := by
  rcases turns with ⟨parties, rfl⟩
  exact ⟨parties, by simp [Standing.uses]⟩

theorem mem_rounds {parties : List Party} (took : .taken party ∈ rounds parties) :
    .returned party ∈ rounds parties := by
  induction parties with
  | nil => cases took
  | cons first rest ih =>
      simp only [rounds, List.mem_cons] at took ⊢
      rcases took with same | absent | later
      · cases same
        exact .inr (.inl rfl)
      · cases absent
      · exact .inr (.inr (ih later))

/-- Who took the thing and neither gave it back nor used it up holds it. -/
theorem holds (turns : InTurn uses standing) (took : .taken party ∈ uses)
    (kept : .returned party ∉ uses) (unspent : .spent party ∉ uses) : standing = .held party := by
  rcases turns with ⟨parties, rfl⟩
  rw [List.mem_append] at took
  rcases took with early | last
  · exact absurd (List.mem_append_left _ (mem_rounds early)) kept
  · cases standing with
    | free => cases last
    | held holder =>
        simp only [Standing.uses, List.mem_singleton, Usage.taken.injEq] at last
        rw [last]
    | spent holder =>
        simp only [Standing.uses, List.mem_cons, Usage.taken.injEq, List.not_mem_nil, or_false,
          reduceCtorEq] at last
        subst last
        exact absurd (List.mem_append_right _ (by simp [Standing.uses])) unspent

/-- Between two takings the first party gives the thing back. -/
theorem between {before middle after : List (Usage Party)} (turns : InTurn uses standing)
    (parts : uses = before ++ .taken party :: middle ++ .taken other :: after) :
    .returned party ∈ middle := by
  rcases turns with ⟨parties, rfl⟩
  rw [List.append_assoc, List.cons_append] at parts
  induction parties generalizing before with
  | nil =>
      have short : (Standing.uses standing).length = before.length + (middle.length + 1 +
          (after.length + 1)) := by
        simpa [rounds, Nat.add_assoc, Nat.add_comm, Nat.add_left_comm] using
          congrArg List.length parts
      cases standing with
      | free => simp [Standing.uses] at short
      | held holder =>
          simp only [Standing.uses, List.length_singleton] at short
          omega
      | spent holder =>
          simp only [Standing.uses, List.length_cons, List.length_nil] at short
          have none : before = [] := List.eq_nil_of_length_eq_zero (by omega)
          have alone : middle = [] := List.eq_nil_of_length_eq_zero (by omega)
          subst none alone
          simp [rounds, Standing.uses] at parts
  | cons first rest ih =>
      simp only [rounds, List.cons_append] at parts
      rcases before with _ | ⟨head, before⟩
      · rcases middle with _ | ⟨next, middle⟩
        · simp at parts
        · simp only [List.nil_append, List.cons_append, List.cons.injEq,
            Usage.taken.injEq] at parts
          rw [← parts.2.1, parts.1]
          exact List.mem_cons_self
      · rcases before with _ | ⟨second, before⟩
        · simp at parts
        · simp only [List.cons_append, List.cons.injEq] at parts
          exact ih parts.2.2

end InTurn

end FortifyLab
