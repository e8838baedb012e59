import FortifyLab.Upgrade.Service

/-! What a worker of the upgrade service saves: every document goes on from the one stored
before it, and the last one has ended. -/

namespace FortifyLab.Upgrade.Roles

open Program Registry Authorization

/-- A document that goes on from another one: nothing recorded in it is gone. -/
structure Continues (held document : UpgradeOperation) : Prop where
  id : document.id = held.id
  planId : document.planId = held.planId
  evidence : held.evidence <+: document.evidence
  completed : held.completedComponents <+: document.completedComponents

theorem Continues.refl (held : UpgradeOperation) : Continues held held :=
  ⟨rfl, rfl, List.prefix_refl _, List.prefix_refl _⟩

theorem Continues.trans {first second third : UpgradeOperation} (early : Continues first second)
    (late : Continues second third) : Continues first third :=
  ⟨late.id.trans early.id, late.planId.trans early.planId, early.evidence.trans late.evidence,
    early.completed.trans late.completed⟩

/-- Other fields may change. -/
theorem Continues.beside {held document later : UpgradeOperation}
    (continues : Continues held document) (id : later.id = document.id)
    (planId : later.planId = document.planId) (evidence : later.evidence = document.evidence)
    (completed : later.completedComponents = document.completedComponents) :
    Continues held later :=
  ⟨id.trans continues.id, planId.trans continues.planId, evidence ▸ continues.evidence,
    completed ▸ continues.completed⟩

theorem Continues.record {held document : UpgradeOperation} (continues : Continues held document)
    (evidence : UpgradeEvidence) : Continues held (document.record evidence) :=
  ⟨continues.id, continues.planId, continues.evidence.trans (List.prefix_append _ _),
    continues.completed⟩

/-- The saves of a worker: `held` is the document that it stored last, until it has ended. -/
inductive Saves : Option UpgradeOperation → (request : UpgradeRequest) → UpgradeAnswer request →
    Option UpgradeOperation → Prop
  | silent (held : UpgradeOperation) {request : UpgradeRequest} (answer : UpgradeAnswer request)
      (quiet : ∀ document, request ≠ .put document) : Saves (some held) request answer (some held)
  | saved {held document : UpgradeOperation} (continues : Continues held document)
      (running : document.state = .running) :
      Saves (some held) (.put document) (.ok () : Except Unit Unit) (some document)
  | failed {held document : UpgradeOperation} :
      Saves (some held) (.put document) (.error () : Except Unit Unit) (some held)
  | ended {held document : UpgradeOperation} (continues : Continues held document)
      (terminal : document.state.terminal = true) (answer : Except Unit Unit) :
      Saves (some held) (.put document) answer none

/-- The worker has not ended, and its document goes on from what it stored last. -/
structure Holds (after : Option UpgradeOperation) (document : UpgradeOperation) : Prop where
  copied : ∃ held, after = some held ∧ Continues held document
  running : document.state = .running

variable {after : Option UpgradeOperation} {α : Type}

theorem Holds.onward {document later : UpgradeOperation} (holds : Holds after document)
    (continues : Continues document later) (running : later.state = .running) :
    Holds after later := by
  rcases holds.copied with ⟨held, same, before⟩
  exact ⟨⟨held, same, before.trans continues⟩, running⟩

theorem Holds.ask {document : UpgradeOperation} (holds : Holds after document)
    {request : UpgradeRequest} {post : Option UpgradeOperation → α → Prop}
    {rest : UpgradeAnswer request → UpgradeProgram α}
    (quiet : ∀ document, request ≠ .put document)
    (next : ∀ answer, Follows Saves post after (rest answer)) :
    Follows Saves post after (ask request >>= rest) := by
  rcases holds.copied with ⟨held, rfl, _⟩
  intro answer
  exact ⟨some held, .silent held answer quiet, next answer⟩

/-- A program that goes on with a document. -/
abbrev Carries (program : UpgradeProgram α) (document : α → UpgradeOperation)
    (after : Option UpgradeOperation) : Prop :=
  Follows Saves (fun later result => Holds later (document result)) after program

theorem save_carries {operation : UpgradeOperation} (holds : Holds after operation) :
    Carries (save operation) Prod.snd after := by
  refine holds.ask (by simp) fun now => ?_
  rcases holds.copied with ⟨held, rfl, continues⟩
  have dated : Continues held { operation with updatedAt := now } :=
    continues.beside rfl rfl rfl rfl
  intro answer
  cases (answer : Except Unit Unit) with
  | error raised => exact ⟨some held, .failed, ⟨held, rfl, dated⟩, holds.running⟩
  | ok stored =>
      exact ⟨_, .saved dated holds.running, ⟨_, rfl, Continues.refl _⟩, holds.running⟩

theorem saveProgress_carries {progress : Progress} (holds : Holds after progress.operation) :
    Carries (saveProgress progress) (fun result => result.2.operation) after :=
  follows_bind (save_carries holds) fun _ _ later => later

variable {plan : ProfileUpgradePlan} {target : PlatformProfile} {deadline : Int}
  {step : UpgradeStep} {progress : Progress}

theorem applyUpgrade_carries (holds : Holds after progress.operation) :
    Carries (applyUpgrade plan target deadline step progress)
      (fun result => result.2.operation) after := by
  unfold applyUpgrade
  split
  · split
    · exact holds
    · refine holds.ask (by simp) fun answer => ?_
      cases (answer : Except Unit Unit) with
      | error raised => exact holds
      | ok done =>
          refine holds.ask (by simp) fun now => saveProgress_carries ?_
          exact holds.onward ((Continues.refl _).record _) holds.running
  · exact holds

theorem verifyStep_carries (holds : Holds after progress.operation) :
    Carries (verifyStep deadline step progress) (fun result => result.2.operation) after := by
  refine holds.ask (by simp) fun time => ?_
  unfold verifyAt
  split
  · exact holds
  · refine holds.ask (by simp) fun answer => ?_
    rcases (answer : Except Unit Bool) with raised | verified
    · exact holds
    · cases verified with
      | false => exact holds
      | true =>
          refine holds.ask (by simp) fun now => ?_
          refine follows_bind (saveProgress_carries ?_) fun _ _ later => later
          refine holds.onward ⟨rfl, rfl, List.prefix_append _ _, List.prefix_append _ _⟩ ?_
          exact holds.running

theorem runStep_carries (holds : Holds after progress.operation) :
    Carries (runStep plan target deadline step progress) (fun result => result.2.operation)
      after := by
  refine holds.ask (by simp) fun cancelled => ?_
  cases (cancelled : Bool) with
  | true => exact holds
  | false =>
      have announced : Holds after { progress.operation with
          currentComponent := some step.component } :=
        holds.onward ((Continues.refl _).beside rfl rfl rfl rfl) holds.running
      refine follows_bind (saveProgress_carries announced) ?_
      rintro later ⟨stored, started⟩ holds
      cases stored with
      | false => exact holds
      | true =>
          refine follows_bind (applyUpgrade_carries holds) ?_
          rintro last ⟨applied, onward⟩ holds
          cases applied with
          | false => exact holds
          | true => exact verifyStep_carries holds

theorem runSteps_carries (steps : List UpgradeStep) (holds : Holds after progress.operation) :
    Carries (runSteps plan target deadline steps progress) (fun result => result.2.operation)
      after := by
  induction steps generalizing after progress with
  | nil => exact holds
  | cons step rest ih =>
      refine follows_bind (runStep_carries holds) ?_
      rintro later ⟨ending, onward⟩ holds
      cases ending with
      | none => exact ih holds
      | some ending => exact holds

/-! ### Recovery -/

/-- What the recovery makes of a document, without saving it. -/
structure Recovered (document result : UpgradeOperation) : Prop extends
    Continues document result where
  state : result.state = document.state

theorem Recovered.refl (document : UpgradeOperation) : Recovered document document :=
  ⟨Continues.refl document, rfl⟩

theorem Recovered.trans {first second third : UpgradeOperation} (early : Recovered first second)
    (late : Recovered second third) : Recovered first third :=
  ⟨early.toContinues.trans late.toContinues, late.state.trans early.state⟩

theorem Recovered.record {document result : UpgradeOperation}
    (recovered : Recovered document result) (evidence : UpgradeEvidence) :
    Recovered document (result.record evidence) :=
  ⟨recovered.toContinues.record evidence, recovered.state⟩

/-- A program that asks for no save, and goes on with a document. -/
abbrev Recovers (program : UpgradeProgram α) (document : α → UpgradeOperation)
    (held start : UpgradeOperation) : Prop :=
  Follows Saves (fun later result => later = some held ∧ Recovered start (document result))
    (some held) program

variable {held operation : UpgradeOperation}

theorem recovers_ask {request : UpgradeRequest} {document : α → UpgradeOperation}
    {rest : UpgradeAnswer request → UpgradeProgram α}
    (quiet : ∀ document, request ≠ .put document)
    (next : ∀ answer, Recovers (rest answer) document held operation) :
    Recovers (ask request >>= rest) document held operation :=
  fun answer => ⟨some held, .silent held answer quiet, next answer⟩

theorem restoreEach_recovers (components restored : List ComponentId)
    {start : UpgradeOperation} (recovered : Recovered start operation) :
    Recovers (restoreEach plan deadline components restored operation)
      (fun result => result.2.2) held start := by
  induction components generalizing restored operation with
  | nil => exact ⟨rfl, recovered⟩
  | cons component rest ih =>
      unfold restoreEach
      split
      · exact ⟨rfl, recovered⟩
      · refine recovers_ask (by simp) fun answer => ?_
        cases (answer : Except Unit Unit) with
        | error raised => exact ⟨rfl, recovered⟩
        | ok done =>
            refine recovers_ask (by simp) fun verified => ?_
            rcases (verified : Except Unit Bool) with raised | verified
            · exact ⟨rfl, recovered⟩
            · cases verified with
              | false => exact ⟨rfl, recovered⟩
              | true =>
                  exact recovers_ask (by simp) fun now => ih _ (recovered.record _)

theorem rollBack_recovers (touched : List ComponentId) :
    Recovers (rollBack plan deadline touched operation) id held operation := by
  refine recovers_ask (by simp) fun callable => ?_
  cases (callable : Bool) with
  | false => exact ⟨rfl, (Continues.refl operation).beside rfl rfl rfl rfl, rfl⟩
  | true =>
      refine follows_bind (restoreEach_recovers _ _ (Recovered.refl operation)) ?_
      rintro later ⟨verified, restored, result⟩ ⟨rfl, recovered⟩
      cases verified with
      | true =>
          exact ⟨rfl, recovered.beside rfl rfl rfl rfl, recovered.state⟩
      | false =>
          refine recovers_ask (by simp) fun now => ⟨rfl, Recovered.record ?_ _⟩
          exact ⟨recovered.beside rfl rfl rfl rfl, recovered.state⟩

theorem recover_recovers (progress : Progress) :
    Recovers (recover plan deadline progress) id held progress.operation := by
  have same : ∀ recovery : Recovery,
      Recovered progress.operation { progress.operation with recovery := recovery } := fun _ =>
    ⟨(Continues.refl _).beside rfl rfl rfl rfl, rfl⟩
  unfold recover
  split
  · exact recovers_ask (by simp) fun now => ⟨rfl, (same _).record _⟩
  · unfold recoverTouched
    split
    · refine (rollBack_recovers _).mono ?_
      rintro later result ⟨rfl, recovered⟩
      exact ⟨rfl, (same _).trans recovered⟩
    · exact recovers_ask (by simp) fun now => ⟨rfl, (same _).record _⟩

theorem conclude_follows (ending : Ending) (holds : Holds (some held) progress.operation) :
    Follows Saves (fun later result => later = some held ∧ Continues held result ∧
      result.state.terminal = true) (some held) (conclude plan deadline ending progress) := by
  rcases holds.copied with ⟨same, known, continues⟩
  cases known
  have recovers : ∀ stopped : Progress, Continues held stopped.operation →
      stopped.operation.state.terminal = true →
      Follows Saves (fun later result => later = some held ∧ Continues held result ∧
        result.state.terminal = true) (some held) (recover plan deadline stopped) := by
    intro stopped goes terminal
    refine (recover_recovers stopped).mono ?_
    rintro later result ⟨rfl, recovered⟩
    refine ⟨rfl, goes.trans recovered.toContinues, ?_⟩
    have state : result.state = stopped.operation.state := recovered.state
    rw [state, terminal]
  have stopped : ∀ (state : UpgradeState) (error : Option String),
      Continues held { progress.operation with state := state, error := error } :=
    fun _ _ => continues.beside rfl rfl rfl rfl
  cases ending with
  | finished => exact ⟨rfl, continues.beside rfl rfl rfl rfl, rfl⟩
  | cancelled => exact recovers _ (stopped .cancelled _) rfl
  | timedOut => exact recovers _ (stopped .timedOut _) rfl
  | raised => exact recovers _ (stopped .failed _) rfl

/-- A worker saves documents that go on from the one it read, the last one ended. -/
theorem run_saves (operation : UpgradeOperation) :
    Follows Saves (fun _ _ => True) (some operation) (run plan target operation) := by
  have holds : Holds (some operation) { operation with state := .running } :=
    ⟨⟨operation, rfl, (Continues.refl _).beside rfl rfl rfl rfl⟩, rfl⟩
  refine follows_bind (save_carries holds) ?_
  rintro later ⟨stored, started⟩ holds
  cases stored with
  | false => trivial
  | true =>
      refine holds.ask (by simp) fun time => ?_
      refine follows_bind (runSteps_carries _ holds) ?_
      rintro last ⟨ending, onward⟩ holds
      rcases holds.copied with ⟨held, rfl, _⟩
      refine follows_bind (conclude_follows ending holds) ?_
      rintro done result ⟨rfl, continues, terminal⟩
      intro now
      refine ⟨some held, .silent held now (by simp), ?_⟩
      intro answer
      have dated : Continues held { result with updatedAt := now } :=
        continues.beside rfl rfl rfl rfl
      exact ⟨none, .ended dated terminal answer, trivial⟩

end FortifyLab.Upgrade.Roles
