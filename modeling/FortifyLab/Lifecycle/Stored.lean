import FortifyLab.Lifecycle.Deeds

/-! Rows and events after each kind of write. -/

namespace FortifyLab.Lifecycle

open Registry

namespace ManagerState

variable {state : ManagerState}

@[simp] theorem write_events (document : Document) :
    (state.write document).events = state.events := rfl

@[simp] theorem write_workers (document : Document) :
    (state.write document).workers = state.workers := rfl

theorem mem_write {document : Document} {row : Row} :
    row ∈ (state.write document).rows ↔
      (row ∈ state.rows ∧ row.payload.id ≠ document.id) ∨
        (row = ⟨document.state, document⟩ ∧
          ∃ old ∈ state.rows, old.payload.id = document.id) := by
  constructor
  · intro member
    rcases List.mem_map.mp member with ⟨old, known, written⟩
    unfold updateRow at written
    split at written
    · next same => exact .inr ⟨written.symm, old, known, same⟩
    · next other =>
      subst written
      exact .inl ⟨known, other⟩
  · intro cases_
    rcases cases_ with ⟨known, other⟩ | ⟨written, old, known, same⟩
    · exact List.mem_map.mpr ⟨row, known, if_neg other⟩
    · exact List.mem_map.mpr ⟨old, known, (if_pos same).trans written.symm⟩

/-- No write changes the ids. -/
theorem ids_write (document : Document) :
    (state.write document).rows.map (fun row => row.payload.id) =
      state.rows.map (fun row => row.payload.id) := by
  show (state.rows.map (updateRow document)).map _ = _
  rw [List.map_map]
  apply List.map_congr_left
  intro row _
  show (updateRow document row).payload.id = row.payload.id
  unfold updateRow
  split
  · next same => exact same.symm
  · rfl

theorem ids_updatePayload (document : Document) :
    (state.rows.map (updatePayload document)).map (fun row => row.payload.id) =
      state.rows.map (fun row => row.payload.id) := by
  rw [List.map_map]
  apply List.map_congr_left
  intro row _
  show (updatePayload document row).payload.id = row.payload.id
  unfold updatePayload
  split
  · next same => exact same.symm
  · rfl

theorem ids_interrupt (now : Timestamp) :
    (state.rows.map (interruptRow now)).map (fun row => row.payload.id) =
      state.rows.map (fun row => row.payload.id) := by
  rw [List.map_map]
  apply List.map_congr_left
  intro row _
  show (interruptRow now row).payload.id = row.payload.id
  unfold interruptRow
  split <;> rfl

/-- An id is in use. -/
def Stored (state : ManagerState) (operationId : OperationId) : Prop :=
  operationId ∈ state.rows.map (fun row => row.payload.id)

theorem stored_iff {operationId : OperationId} :
    state.Stored operationId ↔ ∃ row ∈ state.rows, row.payload.id = operationId :=
  List.mem_map

theorem stored_of_mem {row : Row} (member : row ∈ state.rows) : state.Stored row.payload.id :=
  List.mem_map_of_mem member

theorem row?_eq_some {operationId : OperationId} {document : Document}
    (found : state.row? operationId = some document) :
    ∃ row ∈ state.rows, row.payload = document ∧ document.id = operationId := by
  rcases Option.map_eq_some_iff.mp found with ⟨row, first, rfl⟩
  have matches_ := List.find?_some first
  exact ⟨row, List.mem_of_find?_eq_some first, rfl, of_decide_eq_true matches_⟩

/-- With unique ids a row is determined by its id. -/
theorem eq_of_id (unique : (state.rows.map (fun row => row.payload.id)).Nodup) {left right : Row}
    (leftKnown : left ∈ state.rows) (rightKnown : right ∈ state.rows)
    (same : left.payload.id = right.payload.id) : left = right :=
  List.inj_on_of_nodup_map unique leftKnown rightKnown same

theorem eventsOf_withEvent_self (operationId : OperationId) (event : Event) :
    (state.withEvent operationId event).eventsOf operationId =
      state.eventsOf operationId ++ [event] := by
  unfold eventsOf withEvent
  rw [List.filter_append, List.map_append]
  congr 1
  have kept : [(operationId, event)].filter (fun entry => decide (entry.1 = operationId)) =
      [(operationId, event)] := by
    rw [List.filter_cons_of_pos]
    · rfl
    · exact decide_eq_true rfl
  rw [kept]
  rfl

theorem eventsOf_withEvent_of_ne {operationId other : OperationId} (different : other ≠ operationId)
    (event : Event) : (state.withEvent operationId event).eventsOf other = state.eventsOf other := by
  unfold eventsOf withEvent
  rw [List.filter_append, List.map_append]
  have skipped : [(operationId, event)].filter (fun entry => decide (entry.1 = other)) = [] := by
    rw [List.filter_cons_of_neg]
    · rfl
    · intro impossible
      exact different (of_decide_eq_true impossible).symm
  rw [skipped]
  exact List.append_nil _

theorem completedKeys_append (left right : List Event) :
    completedKeys (left ++ right) = completedKeys left ++ completedKeys right :=
  List.filterMap_append

/-- An event that reports nothing completed. -/
theorem completedKeys_withEvent_plain {event : Event} (plain : event.completedKey = none)
    (operationId other : OperationId) :
    completedKeys ((state.withEvent operationId event).eventsOf other) =
      completedKeys (state.eventsOf other) := by
  by_cases same : other = operationId
  · subst same
    rw [eventsOf_withEvent_self, completedKeys_append]
    have nothing : completedKeys [event] = [] := by
      unfold completedKeys
      rw [List.filterMap_cons_none plain]
      rfl
    rw [nothing]
    exact List.append_nil _
  · rw [eventsOf_withEvent_of_ne same]

/-- An event that reports a completed pair. -/
theorem completedKeys_withEvent_self {event : Event} {key : StepKey}
    (reports : event.completedKey = some key) (operationId : OperationId) :
    completedKeys ((state.withEvent operationId event).eventsOf operationId) =
      completedKeys (state.eventsOf operationId) ++ [key] := by
  rw [eventsOf_withEvent_self, completedKeys_append]
  congr 1
  unfold completedKeys
  rw [List.filterMap_cons_some reports]
  rfl

end ManagerState

end FortifyLab.Lifecycle
