import FortifyLab.Lifecycle.ShownBoundary
import FortifyLab.Secrets.GuardedWorkflow
import FortifyLab.Secrets.Truthful
import FortifyLab.Secrets.WriteOnly

/-! What a replacement makes of its approval: it is consumed before the workflow's lock is
taken, and a refusal under the lock leaves it consumed without a record. -/

namespace FortifyLab.Secrets

open Program
open Registry (ComponentId)
open Authorization (ActorIdentity ApprovalId ApprovalState AuthorizationService OperationPlan)

abbrev GuardedExchange := Exchange GuardedRequest GuardedAnswer

/-- What an exchange does to the ledger, the lock and the store of updates. -/
inductive Mark where
  | ledger (approvalId : ApprovalId) (state : ApprovalState)
  | locked
  | unlocked
  | refused
  | recorded (document : SecretUpdate)
  deriving DecidableEq

/-- A statement that fails, an update that is active, and an id that is taken are refusals. -/
def secretMark : (request : SecretRequest) → SecretAnswer request → Option Mark
  | .acquire, _ => some .locked
  | .release, _ => some .unlocked
  | .statement, answer => if returns (α := Unit) answer then none else some .refused
  | .activeTarget _, active => if (show Bool from active) then some .refused else none
  | .create document, answer =>
      some (if returns (α := Unit) answer then .recorded document else .refused)
  | _, _ => none

/-- A row of the ledger that is inserted, or changed from the state that was expected. -/
def ledgerMark : (request : Lifecycle.Request) → Lifecycle.Answer request → Option Mark
  | .insertApproval document, inserted =>
      if inserted then some (.ledger document.id document.state) else none
  | .transition approvalId _ state _, changed =>
      if changed then some (.ledger approvalId state) else none
  | _, _ => none

def mark : GuardedExchange → Option Mark
  | ⟨.secret request, answer⟩ => secretMark request answer
  | ⟨.authority request, answer⟩ => ledgerMark request answer

/-- The approvals that were consumed. -/
def consumed (marks : List Mark) : List ApprovalId :=
  marks.filterMap (fun mark => match mark with
    | .ledger approvalId .consumed => some approvalId
    | _ => none)

/-- The rows of the ledger that were written. -/
def ledgerWrites (marks : List Mark) : List ApprovalId :=
  marks.filterMap (fun mark => match mark with
    | .ledger approvalId _ => some approvalId
    | _ => none)

/-- The records that were created. -/
def records (marks : List Mark) : List SecretUpdate :=
  marks.filterMap (fun mark => match mark with
    | .recorded document => some document
    | _ => none)

/-- A call that raises without a record has written no approval, and a consumed approval is
one of exactly one record. -/
structure KeepsApproval (marks : List Mark) (result : Except SecretRaised SecretUpdate) : Prop where
  kept : ∀ raised, result = .error raised → records marks = [] → ledgerWrites marks = []
  matched : consumed marks ≠ [] → (consumed marks).length = 1 ∧ (records marks).length = 1

/-- What happened between the lock and its release. -/
def underLock (marks : List Mark) : List Mark :=
  (marks.dropWhile (fun mark => mark ≠ .locked)).takeWhile (fun mark => mark ≠ .unlocked)

/-- The store refused the block under the lock: another update of the target is active, a
statement fails, or the id of the new record is taken. -/
def RefusedUnderLock (marks : List Mark) : Prop := Mark.refused ∈ underLock marks

/-! ## The course of a replacement -/

def OnlyRefusals (marks : List Mark) : Prop := ∀ mark ∈ marks, mark = .refused

/-- Denied before the lock, refused under it, or carried out. -/
inductive Course (approvalId : ApprovalId) : List Mark → Except SecretRaised SecretUpdate → Prop
  | denied {marks : List Mark} (raised : SecretRaised) (only : OnlyRefusals marks) :
      Course approvalId marks (.error raised)
  | spent {front : List Mark} (raised : SecretRaised) (only : OnlyRefusals front) :
      Course approvalId (front ++ [.ledger approvalId .consumed, .locked, .refused, .unlocked])
        (.error raised)
  | carried {front rest : List Mark} (document : SecretUpdate)
      (result : Except SecretRaised SecretUpdate) (only : OnlyRefusals front)
      (later : OnlyRefusals rest) :
      Course approvalId (front ++
        [.ledger approvalId .consumed, .locked, .recorded document, .unlocked] ++ rest) result

variable {settings : WorkflowSettings} {service : AuthorizationService} {target : SecretTarget}
  {sourceType : String}

theorem onlyRefusals_append {first second : List Mark} (one : OnlyRefusals first)
    (two : OnlyRefusals second) : OnlyRefusals (first ++ second) :=
  List.forall_mem_append.mpr ⟨one, two⟩

/-- Requests whose answers mark refusals at most. -/
def Minor : SecretRequest → Prop
  | .authorize _ _ _ | .acquire | .release | .activeTarget _ | .create _ => False
  | _ => True

theorem minor_refusals {request : SecretRequest} (minor : Minor request)
    (answer : SecretAnswer request) : OnlyRefusals (secretMark request answer).toList := by
  cases request with
  | statement =>
      cases (answer : Except SecretRaised Unit) <;> simp [OnlyRefusals, secretMark, returns]
  | acquire | release | activeTarget | create | authorize => exact minor.elim
  | _ => exact List.forall_mem_nil _

/-- But for the authorization, the workflow's requests stay what they are. -/
theorem guard_marks {request : SecretRequest}
    (other : ∀ plan identity approvalId, request ≠ .authorize plan identity approvalId) :
    Ends (fun segment reply => segment.filterMap mark = (secretMark request reply).toList)
      (guard service target sourceType request) := by
  have performed : Ends (fun segment reply =>
      segment.filterMap mark = (secretMark request reply).toList)
      (Program.perform (GuardedRequest.secret request)) := by
    apply ends_ask
    intro answer
    apply ends_done
    have single : [(⟨.secret request, answer⟩ : GuardedExchange)].filterMap mark =
        (mark ⟨.secret request, answer⟩).toList := by
      cases known : mark ⟨.secret request, answer⟩ <;> simp [known]
    exact single
  cases request with
  | authorize plan identity approvalId => exact absurd rfl (other plan identity approvalId)
  | _ => exact performed

def Unauthorized : SecretRequest → Prop
  | .authorize _ _ _ => False
  | _ => True

/-- A part of the workflow that does not authorize marks what it marks on its own. -/
theorem guarded_ends {α : Type} (post : List Mark → α → Prop) {program : SecretProgram α}
    (only : OnlyAsks Unauthorized program)
    (ends : Ends (fun inner result =>
      post (inner.filterMap (fun exchange => secretMark exchange.1 exchange.2)) result) program) :
    Ends (fun outer result => post (outer.filterMap mark) result)
      (program.expand (guard service target sourceType)) := by
  refine ends_expand ?_ only ends
  intro request unauthorized
  apply guard_marks
  rintro plan identity approvalId rfl
  exact unauthorized

abbrev secretMarks (exchanges : List (Exchange SecretRequest SecretAnswer)) : List Mark :=
  exchanges.filterMap (fun exchange => secretMark exchange.1 exchange.2)

theorem minor_ends {α : Type} {program : SecretProgram α} (only : OnlyAsks Minor program) :
    Ends (fun exchanges _ => OnlyRefusals (secretMarks exchanges)) program := by
  intro exchanges result reached mark member
  obtain ⟨⟨request, answer⟩, inside, marks⟩ := List.mem_filterMap.mp member
  have minor := only.reached reached _ inside
  apply minor_refusals minor answer mark
  rw [Option.mem_toList]
  exact marks

theorem minor_unauthorized {α : Type} {program : SecretProgram α} (only : OnlyAsks Minor program) :
    OnlyAsks Unauthorized program := by
  apply only.mono
  intro request minor
  cases request <;> trivial

theorem minor_marks {α : Type} {program : SecretProgram α} (only : OnlyAsks Minor program) :
    Ends (fun exchanges _ => OnlyRefusals (exchanges.filterMap mark))
      (program.expand (guard service target sourceType)) :=
  guarded_ends (fun marks _ => OnlyRefusals marks) (minor_unauthorized only) (minor_ends only)

/-! ## The authorization -/

/-- A provider that raises marks a statement that failed. -/
def providedMark : (request : Lifecycle.Request) → Lifecycle.Answer request → Option Mark
  | .currentState _, observed => if observed.isNone then some .refused else none
  | request, answer => ledgerMark request answer

theorem provideState_marks :
    Ends (fun segment reply => segment.filterMap mark =
        (if reply.isNone then some Mark.refused else none).toList)
      (provideState target sourceType) := by
  apply ends_ask
  intro statement
  cases (statement : Except SecretRaised Unit) with
  | error raised => exact ends_done rfl
  | ok value =>
      apply ends_ask
      intro state
      exact ends_done rfl

theorem performAuthority_marks (request : Lifecycle.Request) :
    Ends (fun segment reply => segment.filterMap mark = (providedMark request reply).toList)
      (performAuthority target sourceType request) := by
  have performed : Ends (fun segment reply =>
      segment.filterMap mark = (ledgerMark request reply).toList)
      (Program.perform (GuardedRequest.authority request)) := by
    apply ends_ask
    intro answer
    apply ends_done
    have single : [(⟨.authority request, answer⟩ : GuardedExchange)].filterMap mark =
        (mark ⟨.authority request, answer⟩).toList := by
      cases known : mark ⟨.authority request, answer⟩ <;> simp [known]
    exact single
  cases request with
  | currentState targets => exact provideState_marks
  | _ => exact performed

abbrev providedMarks (exchanges : List (Exchange Lifecycle.Request Lifecycle.Answer)) :
    List Mark :=
  exchanges.filterMap (fun exchange => providedMark exchange.1 exchange.2)

/-- The approval is consumed, or nothing is written. -/
def Decided (approvalId : ApprovalId) (marks : List Mark) : Except Lifecycle.Failure Unit → Prop
  | .ok _ => marks = [.ledger approvalId .consumed]
  | .error _ => OnlyRefusals marks

@[simp] theorem providedMark_now (now : Authorization.Instant) :
    providedMark .authorizationNow now = none := rfl

@[simp] theorem providedMark_record (entry : Authorization.AuditEntry) (answer : Unit) :
    providedMark (.record entry) answer = none := rfl

@[simp] theorem providedMark_find (approvalId : ApprovalId)
    (found : Option Authorization.Approval) :
    providedMark (.findApproval approvalId) found = none := rfl

theorem onlyRefusals_nil : OnlyRefusals [] := List.forall_mem_nil _

/-- The end of an authorization that was denied. -/
theorem denied_marks {approvalId audited : ApprovalId} {actor reason : String}
    {failure : Lifecycle.Failure} :
    Ends (fun exchanges result => Decided approvalId (providedMarks exchanges) result)
      (do
        Authorization.audit (some audited) "authorize" actor "denied" reason
        throw failure : Lifecycle.Attempt Unit).run := by
  apply ends_ask
  intro now
  apply ends_ask
  intro recorded
  exact ends_done onlyRefusals_nil

/-- The end of an authorization, once the state of the targets was read. -/
theorem consume_marks {plan : OperationPlan} {risk : Authorization.Risk} {identity : ActorIdentity}
    {approvalId : ApprovalId} {document : Authorization.Approval}
    {currentState : List (String × String)} :
    Ends (fun exchanges result => Decided approvalId (providedMarks exchanges) result)
      (service.consume plan risk identity approvalId document (some currentState)).run := by
  apply ends_askExcept
  intro now
  dsimp only
  split
  · exact denied_marks
  · apply ends_askExcept
    intro consumed
    apply ends_askExcept
    intro changed
    cases (changed : Bool) with
    | false => exact denied_marks
    | true =>
        apply ends_ask
        intro audited
        apply ends_ask
        intro recorded
        exact ends_done rfl

/-- `authorize` of an operation that needs an approval consumes this one, or nothing. -/
theorem authorize_marks {plan : OperationPlan} {risk : Authorization.Risk}
    (known : plan.risk = some risk) (required : risk.approvalRequired = true)
    (identity : ActorIdentity) (approvalId : ApprovalId) (targets : List ComponentId) :
    Ends (fun exchanges result => Decided approvalId (providedMarks exchanges) result)
      (service.authorize plan identity (some approvalId) (some targets)).run := by
  have policy : Ends (fun exchanges result => exchanges = [] ∧ result = .ok risk)
      (Authorization.planRisk plan).run := by
    unfold Authorization.planRisk
    rw [known]
    exact ends_done ⟨rfl, rfl⟩
  refine ends_bindExcept policy ?_ (fun _ _ holds => nomatch holds.2)
  rintro early _ ⟨rfl, same⟩
  cases same
  rw [if_neg (by simp [required])]
  apply ends_ask
  intro found
  cases (found : Option Authorization.Approval) with
  | none => exact ends_done onlyRefusals_nil
  | some document =>
      apply ends_ask
      intro observed
      cases (observed : Option (List (String × String))) with
      | some currentState => exact consume_marks
      | none =>
          apply ends_ask
          intro now
          apply ends_ask
          intro recorded
          apply ends_done
          intro mark member
          exact List.mem_singleton.mp member

/-- The call of `authorize` in `replace`. -/
theorem authorizeSecret_marks {plan : OperationPlan} {risk : Authorization.Risk}
    (known : plan.risk = some risk) (required : risk.approvalRequired = true)
    (identity : ActorIdentity) (approvalId : ApprovalId) :
    Ends (fun exchanges result => match (result : Except SecretRaised Unit) with
        | .ok _ => exchanges.filterMap mark = [.ledger approvalId .consumed]
        | .error _ => OnlyRefusals (exchanges.filterMap mark))
      (authorizeSecret service target sourceType plan identity approvalId) := by
  have expanded : Ends (fun exchanges result => Decided approvalId (exchanges.filterMap mark) result)
      ((service.authorize plan identity (some approvalId) (some plan.targets)).run.expand
        (performAuthority target sourceType)) := by
    exact ends_expand (fun request _ => performAuthority_marks request) (onlyAsks_any _)
      (authorize_marks known required identity approvalId plan.targets)
  refine ends_bind expanded ?_
  intro early result decided
  apply ends_done
  rw [List.append_nil]
  cases result <;> exact decided

/-! ## The block under the lock -/

/-- What the block under the lock leaves: a record, or a refusal. -/
def Claims (marks : List Mark) : Except SecretRaised SecretUpdate → Prop
  | .ok document => marks = [.locked, .recorded document, .unlocked]
  | .error _ => marks = [.locked, .refused, .unlocked]

theorem createRecord_marks (target : SecretTarget) (sourceType actor : String)
    (impact : SecretImpact) :
    Ends (fun exchanges result => Claims (.locked :: secretMarks exchanges) result)
      (createRecord target sourceType actor impact) := by
  apply ends_perform
  intro now
  apply ends_perform
  intro id
  apply ends_ask
  intro statement
  cases (statement : Except SecretRaised Unit) with
  | error raised =>
      apply ends_ask
      intro released
      exact ends_done rfl
  | ok value =>
      apply ends_ask
      intro created
      cases (created : Except SecretRaised Unit) <;>
      · apply ends_ask
        intro released
        exact ends_done rfl

theorem claim_marks (target : SecretTarget) (sourceType actor : String) (impact : SecretImpact) :
    Ends (fun exchanges result => Claims (secretMarks exchanges) result)
      (claim target sourceType actor impact) := by
  apply ends_perform
  intro acquired
  apply ends_ask
  intro statement
  cases (statement : Except SecretRaised Unit) with
  | error raised =>
      apply ends_ask
      intro released
      exact ends_done rfl
  | ok value =>
      apply ends_ask
      intro active
      cases (active : Bool) with
      | false => exact createRecord_marks target sourceType actor impact
      | true =>
          apply ends_ask
          intro released
          exact ends_done rfl

/-! ## A whole replacement -/

/-- The marks of a run of the workflow that the authorization service guards. -/
abbrev marksOf (exchanges : List GuardedExchange) : List Mark := exchanges.filterMap mark

theorem guardedAuthorize_marks (target : SecretTarget) (request : Replacement) :
    Ends (fun exchanges result => match (result : Except SecretRaised Unit) with
        | .ok _ => ∃ front, OnlyRefusals front ∧
            marksOf exchanges = front ++ [.ledger request.approvalId .consumed]
        | .error _ => OnlyRefusals (marksOf exchanges))
      ((authorize target sourceType request).expand (guard service target sourceType)) := by
  have stated : OnlyAsks Minor (currentState target) :=
    currentState_asks target trivial (fun _ => trivial)
  unfold authorize
  rw [expand_bind]
  refine ends_bind (minor_marks stated) ?_
  intro early state front
  cases state with
  | error raised =>
      apply ends_done
      rw [List.append_nil]
      exact front
  | ok state =>
      have high : (authorizationPlan target sourceType state).risk = some .high := rfl
      refine ends_bind (authorizeSecret_marks high rfl request.identity request.approvalId) ?_
      intro late result decided
      apply ends_done
      rw [List.append_nil, marksOf, List.filterMap_append]
      cases result with
      | ok value => exact ⟨_, front, congrArg _ decided⟩
      | error raised => exact onlyRefusals_append front decided

theorem validateSource_minor (source : SecretSource) :
    OnlyAsks Minor (validateSource settings target source) := by
  unfold validateSource
  split
  · unfold validateExternal
    split
    · refine ⟨trivial, ?_⟩
      intro resolved
      cases (resolved : Option String) <;> trivial
    · trivial
  · trivial

theorem runUpdate_marks (source : SecretSource) (document : SecretUpdate) :
    Ends (fun exchanges _ => OnlyRefusals (marksOf exchanges))
      ((runUpdate settings target source document).expand (guard service target sourceType)) := by
  apply minor_marks
  apply (runUpdate_updating settings target source document).mono
  intro request updating
  cases request <;> trivial

theorem guardedClaim_marks (actor : String) (impact : SecretImpact) :
    Ends (fun exchanges result => Claims (marksOf exchanges) result)
      ((claim target sourceType actor impact).expand (guard service target sourceType)) := by
  have unauthorized : OnlyAsks Unauthorized (claim target sourceType actor impact) := by
    apply (claim_locking target sourceType actor impact).mono
    intro request locking
    cases request <;> trivial
  exact guarded_ends _ unauthorized (claim_marks target sourceType actor impact)

/-- From an accepted source on. -/
theorem replaceWith_course (source : SecretSource) (impact : SecretImpact) (request : Replacement)
    {front : List Mark} (only : OnlyRefusals front) (same : source.sourceType = sourceType) :
    Ends (fun exchanges result => Course request.approvalId (front ++ marksOf exchanges) result)
      ((replaceWith settings target source impact request).expand
        (guard service target sourceType)) := by
  subst same
  unfold replaceWith
  rw [expand_bind]
  refine ends_bind (guardedAuthorize_marks target request) ?_
  intro authorized result decided
  cases result with
  | error raised =>
      apply ends_done
      rw [List.append_nil]
      exact .denied raised (onlyRefusals_append only decided)
  | ok value =>
      obtain ⟨more, refusals, written⟩ := decided
      have early := onlyRefusals_append only refusals
      dsimp only
      rw [expand_bind]
      refine ends_bind (guardedClaim_marks request.identity.actor impact) ?_
      intro claimed result claims
      cases result with
      | error raised =>
          apply ends_done
          have marks : front ++ marksOf (authorized ++ (claimed ++ [])) = front ++ more ++
              [.ledger request.approvalId .consumed, .locked, .refused, .unlocked] := by
            simp only [marksOf, List.filterMap_append] at written claims ⊢
            rw [written, show List.filterMap mark claimed = _ from claims]
            simp
          rw [marks]
          exact .spent raised early
      | ok document =>
          refine (runUpdate_marks source document).mono ?_
          intro ran result later
          have marks : front ++ marksOf (authorized ++ (claimed ++ ran)) = front ++ more ++
              [.ledger request.approvalId .consumed, .locked, .recorded document, .unlocked] ++
                marksOf ran := by
            simp only [marksOf, List.filterMap_append] at written claims ⊢
            rw [written, show List.filterMap mark claimed = _ from claims]
            simp
          rw [marks]
          exact .carried document result early later

/-- The source that was accepted has the type that the state provider names. -/
theorem guardedValidate_marks (source : SecretSource) :
    Ends (fun exchanges result => OnlyRefusals (marksOf exchanges) ∧
        ∀ accepted, result = .ok accepted → accepted.sourceType = source.sourceType)
      ((validateSource settings target source).expand (guard service target sourceType)) := by
  have minor : OnlyAsks Minor (validateSource settings target source) := validateSource_minor source
  apply guarded_ends (fun marks result => OnlyRefusals marks ∧
    ∀ accepted, result = .ok accepted → accepted.sourceType = source.sourceType)
    (minor_unauthorized minor)
  intro exchanges result reached
  exact ⟨minor_ends minor _ _ reached,
    validateSource_sourceType settings target source _ _ reached⟩

theorem replaceTarget_course (request : Replacement) :
    Ends (fun exchanges result => Course request.approvalId (marksOf exchanges) result)
      ((replaceTarget settings target request).expand
        (guard service target request.source.sourceType)) := by
  unfold replaceTarget
  rw [expand_bind]
  refine ends_bind (guardedValidate_marks request.source) ?_
  rintro early result ⟨only, types⟩
  have denied (raised : SecretRaised) :
      Ends (fun late result => Course request.approvalId (marksOf (early ++ late)) result)
        (.done (.error raised) : GuardedProgram (Except SecretRaised SecretUpdate)) := by
    apply ends_done
    rw [List.append_nil]
    exact .denied raised only
  cases result with
  | error raised => exact denied raised
  | ok source =>
      dsimp only
      split
      · exact denied _
      · split
        · exact denied _
        · refine (replaceWith_course source _ request only (types source rfl)).mono ?_
          intro late result course
          rw [marksOf, List.filterMap_append]
          exact course

/-- Every replacement is denied before the lock, refused under it, or carried out. -/
theorem guardedReplace_course (request : Replacement) :
    Ends (fun exchanges result => Course request.approvalId (marksOf exchanges) result)
      (guardedReplace settings service request) := by
  unfold guardedReplace
  split
  · exact ends_done (.denied _ onlyRefusals_nil)
  · exact replaceTarget_course request

/-! ## When the approval is kept -/

theorem underLock_skip {front rest : List Mark} (only : OnlyRefusals front) :
    underLock (front ++ rest) = underLock rest := by
  unfold underLock
  rw [List.dropWhile_append_of_pos]
  intro mark member
  rw [only mark member]
  rfl

/-- Refusals neither write approvals nor create records. -/
theorem refusals_silent {marks : List Mark} (only : OnlyRefusals marks) :
    consumed marks = [] ∧ ledgerWrites marks = [] ∧ records marks = [] := by
  refine ⟨?_, ?_, ?_⟩ <;>
  · apply List.filterMap_eq_nil_iff.mpr
    intro mark member
    rw [only mark member]

/-- The approval is kept exactly where the store does not refuse the block under the lock. -/
theorem course_keeps_iff {approvalId : ApprovalId} {marks : List Mark}
    {result : Except SecretRaised SecretUpdate} (course : Course approvalId marks result) :
    KeepsApproval marks result ↔ ¬ RefusedUnderLock marks := by
  cases course with
  | denied raised only =>
      obtain ⟨unconsumed, unwritten, _⟩ := refusals_silent only
      have outside : ¬ RefusedUnderLock marks := by
        have skipped := @underLock_skip marks [] only
        rw [List.append_nil] at skipped
        rw [RefusedUnderLock, skipped]
        simp [underLock]
      exact iff_of_true ⟨fun _ _ _ => unwritten, fun some => absurd unconsumed some⟩ outside
  | @spent front raised only =>
      obtain ⟨_, unwritten, unrecorded⟩ := refusals_silent only
      have inside : RefusedUnderLock
          (front ++ [.ledger approvalId .consumed, .locked, .refused, .unlocked]) := by
        rw [RefusedUnderLock, underLock_skip only]
        simp [underLock]
      refine iff_of_false (fun keeps => ?_) (not_not.mpr inside)
      have none := keeps.kept raised rfl (by simp [records] at unrecorded ⊢; exact unrecorded)
      simp [ledgerWrites] at none
  | @carried front rest document result only later =>
      obtain ⟨unconsumed, _, unrecorded⟩ := refusals_silent only
      obtain ⟨after, _, unrecordedAfter⟩ := refusals_silent later
      have outside : ¬ RefusedUnderLock (front ++
          [.ledger approvalId .consumed, .locked, .recorded document, .unlocked] ++ rest) := by
        rw [RefusedUnderLock, List.append_assoc, underLock_skip only]
        simp [underLock]
      have one : records (front ++
          [.ledger approvalId .consumed, .locked, .recorded document, .unlocked] ++ rest) =
            [document] := by
        simp only [records, List.filterMap_append] at unrecorded unrecordedAfter ⊢
        rw [unrecorded, unrecordedAfter]
        rfl
      have spent : consumed (front ++
          [.ledger approvalId .consumed, .locked, .recorded document, .unlocked] ++ rest) =
            [approvalId] := by
        simp only [consumed, List.filterMap_append] at unconsumed after ⊢
        rw [unconsumed, after]
        rfl
      refine iff_of_true ⟨fun _ _ without => ?_, fun _ => ?_⟩ outside
      · rw [one] at without
        cases without
      · rw [one, spent]
        exact ⟨rfl, rfl⟩

/-- Whatever the stores, the clocks and the other threads answer, a replacement that has
ended kept its approval, or used it for one record, exactly where the store did not refuse
the block under the lock. -/
theorem replace_keeps_approval_iff {settings : WorkflowSettings} {service : AuthorizationService}
    {request : Replacement} {exchanges : List GuardedExchange}
    {result : Except SecretRaised SecretUpdate}
    (ran : Reaches (guardedReplace settings service request) exchanges (.done result)) :
    KeepsApproval (marksOf exchanges) result ↔ ¬ RefusedUnderLock (marksOf exchanges) :=
  course_keeps_iff (guardedReplace_course request _ _ ran)

/-! ## One replacement, and two of one secret -/

/-- The owner's credential is generated anew under an approval. -/
def regenerateUnder (approvalId : ApprovalId) : Replacement :=
  { regeneration with approvalId := approvalId }

def approvedRegeneration : Authorization.Approval where
  id := "approval-1"
  state := .approved
  actor := administrator.actor
  source := administrator.source
  sessionId := administrator.sessionId
  risk := .high
  operation := "replace-secret"
  targets := ["postgresql/database-owner"]
  planDigest := "sha256:0"
  createdAt := 0
  expiresAt := 600000000
  decidedAt := some 0
  consumedAt := none
  revokedAt := none

/-- The approval is there, and nothing fails. -/
def guardedCalm : (request : GuardedRequest) → GuardedAnswer request
  | .secret request => calmAnswer (fun _ => true) request
  | .authority (.findApproval _) => some approvedRegeneration
  | .authority request => Lifecycle.calmAnswer request

def calmRun : List GuardedExchange × Except SecretRaised SecretUpdate :=
  (guardedReplace databaseSettings ledgerService (regenerateUnder "approval-1")).play guardedCalm

/-- The approval is consumed for the one record. -/
theorem replace_keeps_approval_calm :
    consumed (marksOf calmRun.1) = ["approval-1"] ∧ (records (marksOf calmRun.1)).length = 1 ∧
      (KeepsApproval (marksOf calmRun.1) calmRun.2 ↔ ¬ RefusedUnderLock (marksOf calmRun.1)) := by
  refine ⟨by decide +kernel, by decide +kernel, ?_⟩
  exact replace_keeps_approval_iff (play_reaches guardedCalm
    (guardedReplace databaseSettings ledgerService (regenerateUnder "approval-1")))

/-- A replacement of the owner's credential is requested and approved. -/
def approved (thread : Nat) (approvalId : ApprovalId) : List GuardedAction :=
  [.receive (.requestApproval "postgresql" "database-owner" "generated" administrator)] ++
    proceed thread 3 (.instant 0) ++ proceed thread 1 (.text approvalId) ++
    proceed thread 3 (.instant 0) ++
    [.receive (.approve approvalId administrator (some Authorization.highRiskConfirmation))] ++
    proceed (thread + 1) 5 (.instant 0)

/-- The second replacement is approved and submitted while the first one is being applied. -/
def conflictScript : List GuardedAction :=
  proceed 0 4 (.instant 0) ++ approved 1 "approval-1" ++
    [.receive (.replace (regenerateUnder "approval-1"))] ++ proceed 3 18 (.instant 0) ++
    approved 4 "approval-2" ++
    [.receive (.replace (regenerateUnder "approval-2"))] ++ proceed 6 14 (.instant 0)

abbrev GuardedLog := List (Entry GuardedCall GuardedRequest GuardedAnswer)

/-- The thread's replacement raised, created no record and consumed its approval. -/
def spends (thread : Nat) (run : GuardedLog × GuardedPool) : Bool :=
  match run.2.threads[thread]? with
  | some ⟨.replace _, .done (.updated (.error _))⟩ =>
      (records (marksOf (own run.1 thread))).isEmpty &&
        !(consumed (marksOf (own run.1 thread))).isEmpty
  | _ => false

theorem keeps_of_spends {thread : Nat} {log : GuardedLog} {pool : GuardedPool}
    (spent : spends thread (log, pool) = true) :
    ∃ request result, pool.threads[thread]? = some ⟨.replace request, .done (.updated result)⟩ ∧
      ¬ KeepsApproval (marksOf (own log thread)) result := by
  unfold spends at spent
  split at spent
  · next request raised found =>
    rw [Bool.and_eq_true_iff, List.isEmpty_iff, Bool.not_eq_true', List.isEmpty_eq_false_iff]
      at spent
    refine ⟨request, .error raised, found, fun keeps => ?_⟩
    have matched := (keeps.matched spent.2).2
    rw [spent.1] at matched
    cases matched
  · cases spent

/-- A replacement of a secret whose last update is still active raises `SecretUpdateConflict`
after its approval was consumed. -/
theorem conflict_spends_approval :
    ¬ ∀ (settings : WorkflowSettings) (service : AuthorizationService) (log : GuardedLog)
      (pool : GuardedPool) (thread : Nat) (request : Replacement)
      (result : Except SecretRaised SecretUpdate),
      (guardedWorkflow settings service).Reachable (fun _ _ => True) log pool →
        pool.threads[thread]? = some ⟨.replace request, .done (.updated result)⟩ →
          KeepsApproval (marksOf (own log thread)) result := by
  intro always
  have played : ((guardedWorkflow databaseSettings ledgerService).playLog (fun _ _ => true) []
      (guardedWorkflow databaseSettings ledgerService).initial
      (conflictScript.map (fun action _ => action))).any (spends 6) = true := by
    decide +kernel
  obtain ⟨⟨log, pool⟩, run, spent⟩ := (Option.any_eq_true _ _).mp played
  have sound : ∀ (pool : GuardedPool) (action : GuardedAction), true = true → True :=
    fun _ _ _ => trivial
  have reached := Machine.reachable_playLog sound _ .initial run
  obtain ⟨request, result, found, loses⟩ := keeps_of_spends spent
  exact loses (always databaseSettings ledgerService log pool 6 request result reached found)

end FortifyLab.Secrets
