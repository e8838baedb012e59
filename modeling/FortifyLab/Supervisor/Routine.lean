import FortifyLab.Supervisor.Ordinary

/-! What the supervisor's functions may ask: everything but a merge and the report of a
stalled runner is routine. -/

namespace FortifyLab.Supervisor

open Program

def Routine : SupervisorRequest → Prop
  | .store (.upsertNotification _ kind _ _ _ _ _) => kind ≠ "runner.stalled"
  | .outside (.merge _ _) => False
  | _ => True

/-- Whatever most functions may ask is routine. -/
theorem Ordinary.routine {config : Config} {request : SupervisorRequest}
    (ordinary : Ordinary config request) : Routine request := by
  unfold Routine
  split
  · rintro rfl
    cases ordinary
  · exact ordinary
  · trivial

variable {library : Library} {config : Config}

/-! ## Notices and the policy -/

theorem Notifies.routine {kind : String} (other : kind ≠ "runner.stalled")
    (request : SupervisorRequest) (notifies : Notifies kind request) : Routine request := by
  unfold Routine
  split
  · cases notifies
    exact other
  · exact notifies
  · trivial

theorem notifyOnce_routine {notice : Notice} (other : notice.kind ≠ "runner.stalled") :
    OnlyAsks Routine (notifyOnce config notice).run :=
  (notifyOnce_notifies notice).mono (Notifies.routine other)

/-! ## The status card -/

theorem statusText_routine : OnlyAsks Routine (statusText library config).run :=
  statusText_ordinary.mono (fun _ => Ordinary.routine)

theorem updateStatusCard_routine (given : List InlineAction) :
    OnlyAsks Routine (updateStatusCard library config given).run :=
  (updateStatusCard_ordinary _).mono (fun _ => Ordinary.routine)

end FortifyLab.Supervisor
