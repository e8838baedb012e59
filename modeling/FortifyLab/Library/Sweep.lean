import FortifyLab.Library.Checks
import Mathlib.Data.List.Basic

/-! A sweep over nodes: each result is made from its node and the results before it. -/

namespace FortifyLab

variable {α β ε : Type}

def sweep (step : α → List β → Except ε β) : List α → List β → Except ε (List β)
  | [], results => .ok results
  | node :: rest, results => do
      let result ← step node results
      sweep step rest (results ++ [result])

/-- The results of a sweep over the nodes. -/
inductive Swept (step : α → List β → Except ε β) : List α → List β → Prop where
  | nil : Swept step [] []
  | snoc {nodes : List α} {results : List β} {node : α} {result : β} :
      Swept step nodes results → step node results = .ok result →
      Swept step (nodes ++ [node]) (results ++ [result])

variable {step : α → List β → Except ε β}

theorem swept_of_sweep {nodes rest : List α} {results all : List β}
    (before : Swept step nodes results) (run : sweep step rest results = .ok all) :
    Swept step (nodes ++ rest) all := by
  induction rest generalizing nodes results with
  | nil =>
      cases run
      simpa using before
  | cons node rest ih =>
      rcases bind_ok.mp run with ⟨result, stepped, later⟩
      simpa using ih (before.snoc stepped) later

theorem sweep_swept {nodes : List α} {all : List β} (run : sweep step nodes [] = .ok all) :
    Swept step nodes all := by
  simpa using swept_of_sweep .nil run

theorem sweep_append {front back : List α} {results : List β} :
    sweep step (front ++ back) results = sweep step front results >>= sweep step back := by
  induction front generalizing results with
  | nil => rfl
  | cons node front ih =>
      simp only [List.cons_append, sweep, ih]
      cases step node results <;> rfl

namespace Swept

theorem length {nodes : List α} {results : List β} (swept : Swept step nodes results) :
    results.length = nodes.length := by
  induction swept with
  | nil => rfl
  | snoc _ _ ih => simp [ih]

/-- Results carry the names of their nodes. -/
theorem map_name {κ : Type} {key : α → κ} {name : β → κ}
    (named : ∀ node results result, step node results = .ok result → name result = key node)
    {nodes : List α} {results : List β} (swept : Swept step nodes results) :
    results.map name = nodes.map key := by
  induction swept with
  | nil => rfl
  | snoc _ stepped ih => simp [ih, named _ _ _ stepped]

/-- Every result was made by a step. -/
theorem of_mem {nodes : List α} {results : List β} (swept : Swept step nodes results) {result : β}
    (member : result ∈ results) :
    ∃ node ∈ nodes, ∃ earlier, step node earlier = .ok result := by
  induction swept with
  | nil => cases member
  | @snoc nodes results node last _ stepped ih =>
      rcases List.mem_append.mp member with before | final
      · rcases ih before with ⟨other, inside, earlier, made⟩
        exact ⟨other, List.mem_append_left _ inside, earlier, made⟩
      · rcases List.mem_singleton.mp final with rfl
        exact ⟨node, by simp, results, stepped⟩

/-- A sweep up to a node, the result of the node, and the results after it. -/
theorem split {nodes : List α} {results : List β} (swept : Swept step nodes results)
    {front back : List α} {node : α} (parts : nodes = front ++ node :: back) :
    ∃ earlier result later, results = earlier ++ result :: later ∧
      Swept step front earlier ∧ step node earlier = .ok result := by
  induction swept generalizing back with
  | nil => simp at parts
  | @snoc nodes results last result before stepped ih =>
      rcases List.eq_nil_or_concat back with rfl | ⟨rest, final, rfl⟩
      · obtain ⟨rfl, rfl⟩ : nodes = front ∧ last = node := by
          simpa using List.append_inj' parts rfl
        exact ⟨results, result, [], rfl, before, stepped⟩
      · have shorter : nodes = front ++ node :: rest := by
          have regroup : nodes ++ [last] = (front ++ node :: rest) ++ [final] := by
            simpa using parts
          exact (List.append_inj' regroup rfl).1
        rcases ih shorter with ⟨earlier, found, later, rfl, swept, made⟩
        exact ⟨earlier, found, later ++ [result], by simp, swept, made⟩

/-- The last step of a sweep. -/
theorem concat {nodes : List α} {node : α} {results : List β}
    (swept : Swept step (nodes ++ [node]) results) :
    ∃ earlier result, results = earlier ++ [result] ∧ Swept step nodes earlier ∧
      step node earlier = .ok result := by
  rcases swept.split rfl with ⟨earlier, result, later, rfl, before, stepped⟩
  have lengths := swept.length
  have front := before.length
  simp only [List.length_append, List.length_cons, List.length_nil] at lengths
  have none : later = [] := List.eq_nil_of_length_eq_zero (by omega)
  exact ⟨earlier, result, by rw [none], before, stepped⟩

/-- A sweep ends with results when no step fails after a sweep over the nodes before it. -/
theorem exists_of_steps {nodes : List α}
    (steps : ∀ front node back results, nodes = front ++ node :: back →
      Swept step front results → ∃ result, step node results = .ok result) :
    ∃ results, sweep step nodes [] = .ok results := by
  suffices run : ∀ rest front results, nodes = front ++ rest → Swept step front results →
      ∃ all, sweep step rest results = .ok all from run nodes [] [] rfl .nil
  intro rest
  induction rest with
  | nil => exact fun _ results _ _ => ⟨results, rfl⟩
  | cons node rest ih =>
      intro front results parts before
      rcases steps front node rest results parts before with ⟨result, stepped⟩
      rcases ih (front ++ [node]) (results ++ [result]) (by simp [parts]) (before.snoc stepped)
        with ⟨all, later⟩
      exact ⟨all, bind_ok.mpr ⟨result, stepped, later⟩⟩

end Swept

end FortifyLab
