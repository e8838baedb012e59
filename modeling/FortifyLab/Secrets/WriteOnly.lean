import FortifyLab.Library.Lockstep
import FortifyLab.Secrets.GuardedWorkflow
import FortifyLab.Secrets.SharedSecrets

/-! Secret values are write-only: two runs whose sources differ in value and key only leave
the same rows, approvals, documents and messages. -/

namespace FortifyLab.Secrets

open Program
open Registry (ComponentId)
open Authorization (ActorIdentity AuthorizationService)

/-- Equal requests, up to the source that the adapter gets and the path that is resolved. -/
inductive AlikeRequests : SecretRequest → SecretRequest → Prop
  | same (request : SecretRequest) : AlikeRequests request request
  | replaced (target : SecretTarget) (left right : SecretSource) (deadline : ℚ) :
      AlikeRequests (.adapterReplace target left deadline) (.adapterReplace target right deadline)
  | resolved (left right : String) : AlikeRequests (.resolveExternal left) (.resolveExternal right)

/-- Equal answers, up to the file that a path resolves to. -/
inductive AlikeAnswers :
    (left right : SecretRequest) → SecretAnswer left → SecretAnswer right → Prop
  | same (request : SecretRequest) (answer : SecretAnswer request) :
      AlikeAnswers request request answer answer
  | replaced (target : SecretTarget) (left right : SecretSource) (deadline : ℚ)
      (answer : Except SecretRaised (Option String)) :
      AlikeAnswers (.adapterReplace target left deadline) (.adapterReplace target right deadline)
        answer answer
  | resolved (left right : String) (one two : Option String) (both : one.isSome = two.isSome) :
      AlikeAnswers (.resolveExternal left) (.resolveExternal right) one two

def secretLikeness : Likeness SecretRequest SecretAnswer := ⟨AlikeRequests, AlikeAnswers⟩

/-- Every request but the resolution of a path. -/
def Plain : SecretRequest → Prop
  | .resolveExternal _ => False
  | _ => True

theorem alike_plain {request : SecretRequest} {one two : SecretAnswer request}
    (plain : Plain request) (alike : AlikeAnswers request request one two) : one = two := by
  cases alike with
  | same => rfl
  | replaced => rfl
  | resolved => exact plain.elim

theorem coupled_plain {α : Type} {program : SecretProgram α} (only : OnlyAsks Plain program) :
    Coupled secretLikeness Eq program program :=
  only.coupled (fun request _ => .same request) (fun _ _ _ => alike_plain)

theorem coupled_updating {α : Type} {program : SecretProgram α} (only : OnlyAsks Updating program) :
    Coupled secretLikeness Eq program program := by
  apply coupled_plain (only.mono _)
  intro request updating
  cases request <;> trivial

/-! ## One replacement in both runs -/

/-- `_validate_source` accepts the source, as far as that does not depend on a file. -/
def Accepts (settings : WorkflowSettings) (target : SecretTarget) (source : SecretSource) : Prop :=
  if source.sourceType = "external-path" then ∃ path, source.value = .text path
  else checkSource settings target source = .ok source

/-- The same error, or sources of one type. -/
inductive AlikeSources : Except SecretRaised SecretSource → Except SecretRaised SecretSource → Prop
  | raised (raised : SecretRaised) : AlikeSources (.error raised) (.error raised)
  | accepted {left right : SecretSource} (same : left.sourceType = right.sourceType) :
      AlikeSources (.ok left) (.ok right)

variable {settings : WorkflowSettings} {service : AuthorizationService} {target : SecretTarget}

theorem validateExternal_coupled {left right : SecretSource} (first : ∃ path, left.value = .text path)
    (second : ∃ path, right.value = .text path) :
    Coupled secretLikeness AlikeSources (validateExternal left) (validateExternal right) := by
  obtain ⟨path, known⟩ := first
  obtain ⟨other, named⟩ := second
  unfold validateExternal
  rw [known, named]
  apply coupled_perform
  · exact .resolved path other
  · intro one two alike
    have both : (one : Option String).isSome = (two : Option String).isSome := by
      cases alike <;> trivial
    cases one <;> cases two
    · exact .raised _
    · cases both
    · cases both
    · exact .accepted rfl

theorem validateSource_coupled {left right : SecretSource} (same : left.sourceType = right.sourceType)
    (first : Accepts settings target left) (second : Accepts settings target right) :
    Coupled secretLikeness AlikeSources (validateSource settings target left)
      (validateSource settings target right) := by
  unfold Accepts at first second
  unfold validateSource
  rw [same] at first ⊢
  split
  · next external =>
    rw [if_pos external] at first second
    exact validateExternal_coupled first second
  · next inside =>
    rw [if_neg inside] at first second
    rw [first, second]
    exact .accepted same

theorem applyUpdate_coupled (left right : SecretSource) (deadline : ℚ) (document : SecretUpdate) :
    Coupled secretLikeness Eq (applyUpdate target left deadline document)
      (applyUpdate target right deadline document) := by
  apply coupled_perform
  · exact .replaced target left right deadline
  intro one two answered
  have same : (one : Except SecretRaised (Option String)) = two := by
    cases answered <;> rfl
  cases same
  cases (one : Except SecretRaised (Option String)) with
  | error raised => exact coupled_updating (recover_updating target deadline none raised document)
  | ok revision =>
      have updating := (applyUpdate_updating target left deadline document).2 (.ok revision)
      exact coupled_updating updating

theorem runUpdate_coupled (left right : SecretSource) (document : SecretUpdate) :
    Coupled secretLikeness Eq (runUpdate settings target left document)
      (runUpdate settings target right document) := by
  have plain : Plain .monotonic := trivial
  apply coupled_perform
  · exact .same _
  intro started other alike
  cases alike_plain plain alike
  apply coupled_bind (applyUpdate_coupled left right _ document)
  rintro final _ rfl
  exact coupled_updating (concludeUpdate_updating final)

theorem authorize_plain (sourceType : String) (request : Replacement) :
    OnlyAsks Plain (authorize target sourceType request) := by
  apply onlyAsks_bind (currentState_asks target trivial (fun _ => trivial))
  intro state
  cases state with
  | error raised => trivial
  | ok state => exact ⟨trivial, fun _ => trivial⟩

theorem replaceWith_coupled {left right : SecretSource} (same : left.sourceType = right.sourceType)
    (impact : SecretImpact) (request : Replacement) (other : SecretSource) :
    Coupled secretLikeness Eq (replaceWith settings target left impact request)
      (replaceWith settings target right impact { request with source := other }) := by
  unfold replaceWith
  rw [same]
  apply coupled_bind (coupled_plain (authorize_plain right.sourceType request))
  rintro authorized _ rfl
  cases authorized with
  | error raised => exact rfl
  | ok value =>
      have claimed : OnlyAsks Plain
          (claim target right.sourceType request.identity.actor impact) := by
        apply (claim_locking target right.sourceType request.identity.actor impact).mono
        intro request locking
        cases request <;> trivial
      apply coupled_bind (coupled_plain claimed)
      rintro result _ rfl
      cases result with
      | error raised => exact rfl
      | ok document => exact runUpdate_coupled left right document

theorem replaceTarget_coupled (request : Replacement) {other : SecretSource}
    (same : request.source.sourceType = other.sourceType)
    (first : Accepts settings target request.source) (second : Accepts settings target other) :
    Coupled secretLikeness Eq (replaceTarget settings target request)
      (replaceTarget settings target { request with source := other }) := by
  apply coupled_bind (validateSource_coupled same first second)
  intro one two sources
  cases sources with
  | raised raised => exact rfl
  | @accepted left right types =>
      dsimp only
      rw [types]
      split
      · exact rfl
      · split
        · exact rfl
        · exact replaceWith_coupled types _ request other

/-! ## With the authorization service -/

inductive AlikeGuarded : GuardedRequest → GuardedRequest → Prop
  | secret {left right : SecretRequest} (alike : AlikeRequests left right) :
      AlikeGuarded (.secret left) (.secret right)
  | authority (request : Lifecycle.Request) : AlikeGuarded (.authority request) (.authority request)

inductive AlikeReplies :
    (left right : GuardedRequest) → GuardedAnswer left → GuardedAnswer right → Prop
  | secret {left right : SecretRequest} {one : SecretAnswer left} {two : SecretAnswer right}
      (alike : AlikeAnswers left right one two) :
      AlikeReplies (.secret left) (.secret right) one two
  | authority (request : Lifecycle.Request) (answer : Lifecycle.Answer request) :
      AlikeReplies (.authority request) (.authority request) answer answer

def guardedLikeness : Likeness GuardedRequest GuardedAnswer := ⟨AlikeGuarded, AlikeReplies⟩

/-- Every request but the resolution of a path. -/
def PlainGuarded : GuardedRequest → Prop
  | .secret request => Plain request
  | .authority _ => True

theorem coupled_guarded {α : Type} {program : GuardedProgram α}
    (only : OnlyAsks PlainGuarded program) : Coupled guardedLikeness Eq program program := by
  apply only.coupled
  · intro request plain
    cases request with
    | secret request => exact .secret (.same request)
    | authority request => exact .authority request
  · intro request one two plain answered
    cases request with
    | secret request =>
        cases answered with
        | secret alike => exact alike_plain plain alike
    | authority request =>
        cases answered
        rfl

theorem unguarded_plain {α : Type} {program : SecretProgram α} (only : OnlyAsks Plain program) :
    OnlyAsks PlainGuarded (unguarded program) := by
  induction program with
  | done result => trivial
  | ask request next ih => exact ⟨only.1, fun answer => ih answer (only.2 answer)⟩

theorem authority_plain {α : Type} (program : Lifecycle.Act α) :
    OnlyAsks PlainGuarded (authority program) := by
  induction program with
  | done result => trivial
  | ask request next ih => exact ⟨trivial, ih⟩

theorem provideState_plain (target : SecretTarget) (sourceType : String) :
    OnlyAsks PlainGuarded (provideState target sourceType) := by
  apply onlyAsks_bind (unguarded_plain (currentState_asks target trivial (fun _ => trivial)))
  intro state
  cases state <;> trivial

theorem authorizeSecret_plain (sourceType : String) (plan : Authorization.OperationPlan)
    (identity : ActorIdentity) (approvalId : Authorization.ApprovalId) :
    OnlyAsks PlainGuarded (authorizeSecret service target sourceType plan identity approvalId) := by
  apply onlyAsks_bind
  · apply onlyAsks_expand
    intro request
    cases request <;> first
      | exact provideState_plain target sourceType
      | exact ⟨trivial, fun _ => trivial⟩
  · exact fun _ => trivial

theorem coupled_secret {left right : SecretRequest} (alike : AlikeRequests left right) :
    Coupled guardedLikeness (AlikeAnswers left right)
      (Program.perform (GuardedRequest.secret left))
      (Program.perform (GuardedRequest.secret right)) := by
  refine ⟨.secret alike, ?_⟩
  intro one two answered
  cases answered with
  | secret answers => exact answers

/-- What a request of the workflow becomes is the same program, but for source and path. -/
theorem guard_coupled (sourceType : String) (left right : SecretRequest)
    (alike : AlikeRequests left right) :
    Coupled guardedLikeness (AlikeAnswers left right) (guard service target sourceType left)
      (guard service target sourceType right) := by
  cases alike with
  | replaced known one two deadline => exact coupled_secret (.replaced known one two deadline)
  | resolved one two => exact coupled_secret (.resolved one two)
  | same =>
      cases left with
      | authorize plan identity approvalId =>
          apply (coupled_guarded (authorizeSecret_plain sourceType plan identity approvalId)).mono
          rintro one _ rfl
          exact .same _ _
      | _ => exact coupled_secret (.same _)

theorem guardedReplace_coupled (request : Replacement) {other : SecretSource}
    (same : request.source.sourceType = other.sourceType)
    (accepted : ∀ target,
      settings.registry.target request.componentId request.secretId = .ok target →
        Accepts settings target request.source ∧ Accepts settings target other) :
    Coupled guardedLikeness Eq (guardedReplace settings service request)
      (guardedReplace settings service { request with source := other }) := by
  unfold guardedReplace
  dsimp only
  cases known : settings.registry.target request.componentId request.secretId with
  | error raised => exact rfl
  | ok target =>
      dsimp only
      rw [same]
      have both := accepted target known
      exact coupled_expand (guard_coupled other.sourceType)
        (replaceTarget_coupled request same both.1 both.2)

/-! ## Every sequence of calls -/

/-- The same call, with a source of the same type that is accepted as well. -/
inductive AlikeCalls (settings : WorkflowSettings) : GuardedCall → GuardedCall → Prop
  | same {call : GuardedCall} (other : ∀ request, call ≠ .replace request) :
      AlikeCalls settings call call
  | replaced (request : Replacement) (other : SecretSource)
      (types : request.source.sourceType = other.sourceType)
      (accepted : ∀ target,
        settings.registry.target request.componentId request.secretId = .ok target →
          Accepts settings target request.source ∧ Accepts settings target other) :
      AlikeCalls settings (.replace request) (.replace { request with source := other })

/-- The same clocks, identifiers, adapter and consumers; a path leads to a file in both or
in neither. -/
structure AlikeOffers (left right : GuardedOffer) : Prop where
  authority : left.authority = right.authority
  surroundings : right.secret = { left.secret with resolved := right.secret.resolved }
  files : left.secret.resolved.isSome = right.secret.resolved.isSome

theorem requestApproval_plain (componentId : ComponentId) (secretId sourceType : String)
    (identity : ActorIdentity) :
    OnlyAsks PlainGuarded
      (requestApproval settings service componentId secretId sourceType identity) := by
  unfold requestApproval
  split
  · trivial
  · next target _ =>
    split
    · trivial
    · apply onlyAsks_bind (unguarded_plain (currentState_asks target trivial (fun _ => trivial)))
      intro state
      cases state with
      | error raised => trivial
      | ok state => exact onlyAsks_bind (authority_plain _) (fun _ => trivial)

theorem openStore_plain : OnlyAsks Plain openStore := by
  refine ⟨trivial, ?_⟩
  intro now
  apply onlyAsks_bind (execute_asks trivial trivial)
  intro result
  cases result with
  | error raised => trivial
  | ok value => exact ⟨trivial, fun _ => trivial⟩

theorem cancel_plain (operationId : String) (identity : ActorIdentity) :
    OnlyAsks Plain (cancel operationId identity) := by
  apply onlyAsks_bind (execute_asks trivial trivial)
  rintro (raised | _ | document)
  · trivial
  · trivial
  · dsimp only
    split
    · trivial
    · split
      · exact ⟨trivial, fun _ => trivial⟩
      · trivial

theorem body_plain {call : GuardedCall} (other : ∀ request, call ≠ .replace request) :
    OnlyAsks PlainGuarded (guardedBody settings service call) := by
  cases call with
  | openStore => exact onlyAsks_bind (unguarded_plain openStore_plain) (fun _ => trivial)
  | plan componentId secretId sourceType => trivial
  | requestApproval componentId secretId sourceType identity =>
      exact onlyAsks_bind (requestApproval_plain componentId secretId sourceType identity)
        (fun _ => trivial)
  | approve approvalId identity confirmation =>
      exact onlyAsks_bind (authority_plain _) (fun _ => trivial)
  | revoke approvalId identity => exact onlyAsks_bind (authority_plain _) (fun _ => trivial)
  | replace request => exact absurd rfl (other request)
  | cancel operationId identity =>
      exact onlyAsks_bind (unguarded_plain (cancel_plain operationId identity)) (fun _ => trivial)

theorem body_coupled (left right : GuardedCall) (alike : AlikeCalls settings left right) :
    Coupled guardedLikeness Eq (guardedBody settings service left)
      (guardedBody settings service right) := by
  cases alike with
  | same other => exact coupled_guarded (body_plain other)
  | replaced request source types accepted =>
      apply coupled_bind (guardedReplace_coupled request types accepted)
      rintro result _ rfl
      exact rfl

/-- But for a path, the answer does not depend on where the path leads. -/
theorem reply_resolved {request : SecretRequest} (plain : Plain request) (state : SecretState)
    (offer : Offer) (resolved : Option String) :
    reply state { offer with resolved := resolved } request = reply state offer request := by
  cases request <;> first | rfl | cases plain

theorem reply_same {state : SecretState} {offer other : Offer}
    (surroundings : other = { offer with resolved := other.resolved })
    (files : offer.resolved.isSome = other.resolved.isSome) (request : SecretRequest) :
    Option.Rel (AlikeAnswers request request) (reply state offer request)
      (reply state other request) := by
  by_cases plain : Plain request
  · rw [surroundings, reply_resolved plain state offer other.resolved]
    cases reply state offer request with
    | none => exact .none
    | some answer => exact .some (.same request answer)
  · cases request with
    | resolveExternal path => exact .some (.resolved path path _ _ files)
    | _ => exact absurd trivial plain

theorem replies_alike {state : GuardedState} {thread : Nat} {offer other : GuardedOffer}
    {left right : GuardedRequest} (offers : AlikeOffers offer other)
    (alike : AlikeGuarded left right) :
    Option.Rel (AlikeReplies left right) (state.reply thread offer left)
      (state.reply thread other right) := by
  have secret {one two : SecretRequest} {first : Option (SecretAnswer one)}
      {second : Option (SecretAnswer two)} (rel : Option.Rel (AlikeAnswers one two) first second) :
      Option.Rel (AlikeReplies (.secret one) (.secret two)) first second := by
    cases rel with
    | none => exact .none
    | some answers => exact .some (.secret answers)
  cases alike with
  | authority request =>
      unfold GuardedState.reply
      dsimp only
      rw [offers.authority]
      cases state.authority.reply thread other.authority request with
      | none => exact .none
      | some answer => exact .some (.authority request answer)
  | secret requests =>
      apply secret
      cases requests with
      | same => exact reply_same offers.surroundings offers.files _
      | resolved one two => exact .some (.resolved one two _ _ offers.files)
      | replaced target one two deadline =>
          have revisions : other.secret.revision = offer.secret.revision := by
            rw [offers.surroundings]
          show Option.Rel _ (some offer.secret.revision) (some other.secret.revision)
          rw [revisions]
          exact .some (.replaced target one two deadline offer.secret.revision)

/-- The workflow cannot tell two accepted sources of one type apart. -/
def writeOnlyLockstep (settings : WorkflowSettings) (service : AuthorizationService) :
    Lockstep (guardedWorkflow settings service) where
  likeness := guardedLikeness
  labels := AlikeCalls settings
  offers := AlikeOffers
  bodies := body_coupled
  replies _ _ _ _ _ _ := replies_alike
  effects _ _ _ _ alike := by
    cases alike with
    | authority => rfl
    | secret requests => cases requests <;> rfl
  spawns _ _ _ := .none
  admits state left right alike := by cases alike <;> rfl
  boots := .same (by simp [guardedWorkflow])

/-- Two runs of the same calls from the same stores, whose sources differ in value and key
only, end with the same rows, approvals, audit, documents and messages. -/
theorem sources_write_only {settings : WorkflowSettings} {service : AuthorizationService}
    {start : GuardedState} {left right : List GuardedAction} {ended : GuardedPool}
    (alike : List.Forall₂ (writeOnlyLockstep settings service).Actions left right)
    (ran : (guardedWorkflow settings service).run ⟨start, []⟩ left = some ended) :
    ∃ other, (guardedWorkflow settings service).run ⟨start, []⟩ right = some other ∧
      other.shared = ended.shared ∧ other.outcomes = ended.outcomes := by
  have pools : (writeOnlyLockstep settings service).Pools ⟨start, []⟩ ⟨start, []⟩ := ⟨rfl, .nil⟩
  have runs := Lockstep.run_alike pools alike
  rw [ran] at runs
  generalize (guardedWorkflow settings service).run ⟨start, []⟩ right = second at runs
  cases runs with
  | @some _ other same => exact ⟨other, rfl, same.shared.symm, same.outcomes.symm⟩

/-! ## Two uploads -/

/-- A service in which only equal plans are ever compared, so that one digest does. -/
def ledgerService : AuthorizationService := ⟨600000000, 300000000, fun _ => "0"⟩

/-- A thread goes on for a number of requests with nothing going wrong. -/
def proceed (thread count : Nat) (authority : Lifecycle.Offer) : List GuardedAction :=
  List.replicate count (.advance thread ⟨.smooth "update-1", authority⟩)

def uploadOf (content : List UInt8) : Replacement :=
  ⟨"postgresql", "database-owner", ⟨"upload", .bytes content, none⟩, administrator, "approval-1",
    none, false⟩

/-- An upload is approved and carried out. -/
def uploadScript (content : List UInt8) : List GuardedAction :=
  [.receive (.requestApproval "postgresql" "database-owner" "upload" administrator)] ++
    proceed 0 3 (.instant 0) ++ proceed 0 1 (.text "approval-1") ++ proceed 0 3 (.instant 0) ++
    [.receive (.approve "approval-1" administrator
      (some Authorization.highRiskConfirmation))] ++ proceed 1 5 (.instant 0) ++
    [.receive (.replace (uploadOf content))] ++ proceed 2 46 (.instant 0)

/-- A workflow that has been opened, without updates and approvals. -/
def servedState : GuardedState := ⟨{ SecretState.empty with serving := true }, .empty⟩

theorem accepts_upload {content : List UInt8} {target : SecretTarget}
    (bounded : 0 < content.length ∧ content.length ≤ databaseSettings.maxUpload) :
    Accepts databaseSettings target ⟨"upload", .bytes content, none⟩ := by
  simp [Accepts, checkSource, bounded]

theorem uploadScript_alike {first second : List UInt8}
    (bounded : 0 < first.length ∧ first.length ≤ databaseSettings.maxUpload)
    (limited : 0 < second.length ∧ second.length ≤ databaseSettings.maxUpload) :
    List.Forall₂ (writeOnlyLockstep databaseSettings ledgerService).Actions (uploadScript first)
      (uploadScript second) := by
  have going (thread count : Nat) (authority : Lifecycle.Offer) :
      List.Forall₂ (writeOnlyLockstep databaseSettings ledgerService).Actions
        (proceed thread count authority) (proceed thread count authority) := by
    apply List.forall₂_same.mpr
    intro action member
    rw [List.eq_of_mem_replicate member]
    exact .advance thread ⟨rfl, rfl, rfl⟩
  have asked (call : GuardedCall) (other : ∀ request, call ≠ .replace request) :
      List.Forall₂ (writeOnlyLockstep databaseSettings ledgerService).Actions
        [.receive call] [.receive call] := .cons (.receive (.same other)) .nil
  have uploaded : AlikeCalls databaseSettings (.replace (uploadOf first))
      (.replace (uploadOf second)) :=
    .replaced (uploadOf first) ⟨"upload", .bytes second, none⟩ rfl
      (fun _ _ => ⟨accepts_upload bounded, accepts_upload limited⟩)
  apply List.rel_append _ (going 2 46 _)
  apply List.rel_append _ (.cons (.receive uploaded) .nil)
  apply List.rel_append _ (going 1 5 _)
  apply List.rel_append _ (asked _ (by simp))
  apply List.rel_append _ (going 0 3 _)
  apply List.rel_append _ (going 0 1 _)
  exact List.rel_append (asked _ (by simp)) (going 0 3 _)

/-- Two uploads of different bytes succeed alike. -/
theorem sources_write_only_uploads :
    ∃ ended other, (guardedWorkflow databaseSettings ledgerService).run ⟨servedState, []⟩
        (uploadScript [1]) = some ended ∧
      (guardedWorkflow databaseSettings ledgerService).run ⟨servedState, []⟩
        (uploadScript [2, 3]) = some other ∧
      ended.shared.secrets.rows.map SecretUpdate.state = [.succeeded] ∧
      other.shared = ended.shared ∧ other.outcomes = ended.outcomes := by
  have succeeded : ((guardedWorkflow databaseSettings ledgerService).run ⟨servedState, []⟩
      (uploadScript [1])).map (fun pool => pool.shared.secrets.rows.map SecretUpdate.state) =
        some [.succeeded] := by decide +kernel
  obtain ⟨ended, ran, states⟩ := Option.map_eq_some_iff.mp succeeded
  have alike := @uploadScript_alike [1] [2, 3] (by decide) (by decide)
  obtain ⟨other, also, shared, outcomes⟩ := sources_write_only alike ran
  exact ⟨ended, other, ran, also, states, shared, outcomes⟩

end FortifyLab.Secrets
