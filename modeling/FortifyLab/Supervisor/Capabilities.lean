import FortifyLab.Supervisor.Tokens

/-! A callback token is a capability: in every run it is consumed at most once, by an actor it
is bound to, after its approval was revalidated, and nothing of its action comes before. -/

namespace FortifyLab.Supervisor

open Program Automaton

variable {library : Library} {config : Config} {start : Site} {process : Nat}
  {token actor : String} {request : SiteRequest}

abbrev Exchanges := List (Exchange SiteRequest SiteAnswer)

/-! ## The steps of a consumption -/

section Steps

attribute [local simp] Store.consumeBlock Store.withConnection Store.select Store.ask
  Store.execute Store.rollback Store.commit Store.raiseError Store.written ExceptT.lift
  ExceptT.run ExceptT.mk ExceptT.bind ExceptT.bindCont ExceptT.pure ExceptT.tryCatch tryCatch
  tryCatchThe MonadExceptOf.tryCatch Bind.bind Pure.pure Program.bind Functor.map throw throwThe
  MonadExceptOf.throw Program.perform Program.expand singleStatement siteStep

def raises (message : String) : SiteProgram (Except Raised TokenRow) :=
  .done (.error (.supervisor message))

/-- Once the row is consumed it is read again. -/
def readAgain (hash : String) : Except SqlError Nat → SiteProgram (Except Raised TokenRow)
  | .error error => .done (.error (.sql error))
  | .ok changed =>
      if changed ≠ 1 then raises "This action was already used"
      else .ask (.query (.callbackToken hash)) (fun (found : Option TokenRow) =>
        match found with
        | none => .done (.error .other)
        | some row => .done (.ok row))

/-- The checks of the row, and its conditional update. -/
def consumeRow (hash actor : String) (now : Int) :
    Option TokenRow → SiteProgram (Except Raised TokenRow)
  | none => raises "This action is invalid or no longer available"
  | some row =>
      if row.consumedAt.isSome then raises "This action was already used"
      else if row.expiresAt ≤ now then raises "This action has expired"
      else if row.actor.any (fun owner => owner ≠ actor) then
        raises "This action belongs to another identity"
      else .ask (.change (.consumeToken hash now actor)) (readAgain hash)

theorem consume_steps :
    storeSteps library (.consumeCallbackToken token actor) =
      .ask (.outside .now) (fun (time : ℚ) =>
        .ask (.query (.callbackToken (library.tokenHash token)))
          (consumeRow (library.tokenHash token) actor (seconds time))) := by
  show Program.ask _ _ = _
  congr 1
  funext time
  show Program.ask _ _ = _
  congr 1
  funext found
  cases found with
  | none => rfl
  | some row =>
    by_cases used : row.consumedAt.isSome
    · simp [consumeRow, raises, used]
    · by_cases late : row.expiresAt ≤ seconds time
      · simp [consumeRow, raises, used, late]
      · by_cases foreign : row.actor.any (fun owner => !decide (owner = actor)) = true
        · simp [consumeRow, raises, used, late, foreign]
        · simp [consumeRow, used, late, foreign]
          funext changed
          cases changed with
          | error error => rfl
          | ok changed =>
            by_cases once : changed = 1
            · subst once
              show Program.ask _ _ = Program.ask _ _
              congr 1
              funext found
              cases found <;> rfl
            · simp [readAgain, raises, once]

end Steps

/-- The row may be consumed by the actor at the time. -/
structure Consumable (row : TokenRow) (actor : String) (now : Int) : Prop where
  fresh : row.consumedAt = none
  early : now < row.expiresAt
  bound : ∀ owner ∈ row.actor, owner = actor

/-- What a call has asked when it may consume the token. -/
def consulted (hash : String) (time : ℚ) (row : TokenRow) : Exchanges :=
  [⟨.outside .now, time⟩, ⟨.query (.callbackToken hash), some row⟩]

/-- The consumption that succeeded. -/
def consumption (hash : String) (now : Int) (actor : String) : Exchange SiteRequest SiteAnswer :=
  ⟨.change (.consumeToken hash now actor), .ok 1⟩

/-- Where the checks are over only a row that may be consumed is updated. -/
theorem consumeRow_reaches {hash : String} {now : Int} {found : Option TokenRow}
    {exchanges : Exchanges} {rest : SiteProgram (Except Raised TokenRow)}
    (reached : Reaches (consumeRow hash actor now found) exchanges rest) :
    (exchanges = [] ∧ ∃ message, rest = raises message) ∨
      ∃ row, found = some row ∧ Consumable row actor now ∧
        Reaches (.ask (.change (.consumeToken hash now actor)) (readAgain hash)) exchanges rest := by
  unfold consumeRow at reached
  split at reached
  · have stopped := reaches_done reached
    exact .inl ⟨stopped.1, _, stopped.2⟩
  · next row =>
    split at reached
    · have stopped := reaches_done reached
      exact .inl ⟨stopped.1, _, stopped.2⟩
    · split at reached
      · have stopped := reaches_done reached
        exact .inl ⟨stopped.1, _, stopped.2⟩
      · split at reached
        · have stopped := reaches_done reached
          exact .inl ⟨stopped.1, _, stopped.2⟩
        · next used late foreign =>
          refine .inr ⟨row, rfl, ⟨by simpa using used, by omega, ?_⟩, reached⟩
          intro owner member
          rw [Option.mem_def] at member
          simpa [member] using foreign

/-- What a consumption asks, and after what. -/
theorem consume_asks {exchanges : Exchanges}
    {next : SiteAnswer request → SiteProgram (Except Raised TokenRow)}
    (reached : Reaches (storeSteps library (.consumeCallbackToken token actor)) exchanges
      (.ask request next)) :
    (exchanges = [] ∧ request = .outside .now) ∨
      (∃ time : ℚ, exchanges = [⟨.outside .now, time⟩] ∧
        request = .query (.callbackToken (library.tokenHash token))) ∨
      ∃ (time : ℚ) (row : TokenRow), Consumable row actor (seconds time) ∧
        (exchanges = consulted (library.tokenHash token) time row ∧
            request = .change (.consumeToken (library.tokenHash token) (seconds time) actor) ∨
          exchanges = consulted (library.tokenHash token) time row ++
              [consumption (library.tokenHash token) (seconds time) actor] ∧
            request = .query (.callbackToken (library.tokenHash token))) := by
  rw [consume_steps] at reached
  rcases reaches_ask reached with ⟨rfl, same⟩ | ⟨time, more, rfl, later⟩
  · cases same
    exact .inl ⟨rfl, rfl⟩
  rcases reaches_ask later with ⟨rfl, same⟩ | ⟨found, more, rfl, checks⟩
  · cases same
    exact .inr (.inl ⟨time, rfl, rfl⟩)
  rcases consumeRow_reaches checks with ⟨_, _, stopped⟩ | ⟨row, rfl, consumable, updates⟩
  · cases stopped
  rcases reaches_ask updates with ⟨rfl, same⟩ | ⟨changed, more, rfl, last⟩
  · cases same
    exact .inr (.inr ⟨time, row, consumable, .inl ⟨rfl, rfl⟩⟩)
  unfold readAgain at last
  split at last
  · have stopped := reaches_done last
    cases stopped.2
  · split at last
    · have stopped := reaches_done last
      cases stopped.2
    · next once =>
      rcases reaches_ask last with ⟨rfl, same⟩ | ⟨written, more, rfl, ends⟩
      · cases same
        rw [not_not.mp once]
        exact .inr (.inr ⟨time, row, consumable, .inr ⟨rfl, rfl⟩⟩)
      · split at ends
        · have stopped := reaches_done ends
          cases stopped.2
        · have stopped := reaches_done ends
          cases stopped.2

/-- A consumption that returns has consumed a row that it may. -/
theorem consume_done {exchanges : Exchanges} {spent : TokenRow}
    (reached : Reaches (storeSteps library (.consumeCallbackToken token actor)) exchanges
      (.done (.ok spent))) :
    ∃ (time : ℚ) (row : TokenRow), Consumable row actor (seconds time) ∧
      exchanges = consulted (library.tokenHash token) time row ++
        [consumption (library.tokenHash token) (seconds time) actor,
          ⟨.query (.callbackToken (library.tokenHash token)), some spent⟩] := by
  rw [consume_steps] at reached
  rcases reaches_ask reached with ⟨_, same⟩ | ⟨time, more, rfl, later⟩
  · cases same
  rcases reaches_ask later with ⟨_, same⟩ | ⟨found, more, rfl, checks⟩
  · cases same
  rcases consumeRow_reaches checks with ⟨_, _, stopped⟩ | ⟨row, rfl, consumable, updates⟩
  · cases stopped
  rcases reaches_ask updates with ⟨_, same⟩ | ⟨changed, more, rfl, last⟩
  · cases same
  unfold readAgain at last
  split at last
  · have stopped := reaches_done last
    cases stopped.2
  · split at last
    · have stopped := reaches_done last
      cases stopped.2
    · next once =>
      rcases reaches_ask last with ⟨_, same⟩ | ⟨written, more, rfl, ends⟩
      · cases same
      split at ends
      · have stopped := reaches_done ends
        cases stopped.2
      · have stopped := reaches_done ends
        rcases stopped with ⟨rfl, same⟩
        cases same
        rw [not_not.mp once]
        exact ⟨time, row, consumable, rfl⟩

/-! ## The stages of a callback -/

theorem stepsOf_call (process : Nat) (made : StoreCall) :
    stepsOf library process (call made) = storeSteps library made := by
  show (storeSteps library made >>= Program.done) = _
  exact bind_done _

/-- A callback reads the token, prepares, consumes the token and performs its action. -/
theorem callback_asks {told : Exchanges} {next : SiteAnswer request →
      SiteProgram (Except Raised String)}
    (reached : Reaches (stepsOf library process (executeCallback library config token actor)) told
      (.ask request next)) :
    (told = [] ∧ request = .query (.callbackToken (library.tokenHash token))) ∨
      ∃ candidate rest, told =
          ⟨.query (.callbackToken (library.tokenHash token)), some candidate⟩ :: rest ∧
        ((∃ others, Reaches (stepsOf library process (prepareCallback library config candidate))
            rest (.ask request others)) ∨
          ∃ checks pr later, rest = checks ++ later ∧
            Reaches (stepsOf library process (prepareCallback library config candidate)) checks
              (.done (.ok pr)) ∧
            ((∃ others, Reaches (storeSteps library (.consumeCallbackToken token actor)) later
                (.ask request others)) ∨
              ∃ consumed spent performed others, later = consumed ++ performed ∧
                Reaches (storeSteps library (.consumeCallbackToken token actor)) consumed
                  (.done (.ok spent)) ∧
                Reaches (stepsOf library process (performCallback library config spent actor pr))
                  performed (.ask request others))) := by
  unfold executeCallback at reached
  rcases reaches_expandBind reached with ⟨_, reads⟩ | ⟨early, late, found, rfl, reads, goes⟩
  · rcases reaches_ask reads with ⟨rfl, same⟩ | ⟨found, more, rfl, ends⟩
    · cases same
      exact .inl ⟨rfl, rfl⟩
    · have stopped := reaches_done ends
      cases stopped.2
  · rcases reaches_ask reads with ⟨_, same⟩ | ⟨answer, more, rfl, ends⟩
    · cases same
    · rcases reaches_done ends with ⟨rfl, same⟩
      cases same
      cases found with
      | none =>
          have stopped := reaches_done goes
          cases stopped.2
      | some candidate =>
          refine .inr ⟨candidate, late, rfl, ?_⟩
          rcases reaches_expandBind goes with prepares | ⟨checks, later, pr, rfl, passed, goes⟩
          · exact .inl prepares
          · refine .inr ⟨checks, pr, later, rfl, passed, ?_⟩
            rcases reaches_expandBind goes with ⟨others, consumes⟩ |
              ⟨consumed, performed, spent, rfl, done, performs⟩
            · rw [← stepsOf_call process]
              exact .inl ⟨others, consumes⟩
            · rw [← stepsOf_call process]
              exact .inr ⟨consumed, spent, performed, next, rfl, done, performs⟩

/-! ## What comes before a consumption -/

/-- A step of the preparation: it leaves tokens and approvals alone and acts on nothing
outside but the notices and the file of a lease that ended. -/
def Prepares : SiteRequest → Prop
  | .query _ => True
  | .change (.setSetting key _) =>
      key ∈ policySettings ∨ ∃ role : String, key = s!"process_policy:{role}"
  | .change (.insertEvent row) => row.kind ∈ policyKinds
  | .change (.insertNotification row) => row.kind ∈ policyKinds
  | .change (.repeatNotification _ _ _ _) => True
  | .change (.markNotification _ _ _ _) => True
  | .policy _ => True
  | .adopt _ _ => True
  | .policyFile => True
  | .install policy => policy.profile = .assisted ∧ policy.expiresAt = none
  | .outside (.installPolicy policy) => policy.profile = .assisted ∧ policy.expiresAt = none
  | .outside .now => True
  | .outside .tokenHex => True
  | .outside .tokenUrlsafe => True
  | .outside (.pullRequest _) => True
  | .outside .milestones => True
  | .outside (.issueList _) => True
  | .outside (.send _ _) => True
  | .outside (.edit _ _ _) => True
  | _ => False

theorem Preparatory.prepares {asked : SupervisorRequest} (preparatory : Preparatory config asked)
    {step : SiteRequest} (steps : asked.Steps library process step) : Prepares step := by
  cases asked with
  | outside asked =>
      cases asked with
      | installPolicy policy => rcases steps with rfl | rfl <;> exact preparatory
      | policy => cases steps; trivial
      | adopt policy => cases steps; trivial
      | policyFile => cases steps; trivial
      | _ => cases steps; first | exact preparatory | exact preparatory.elim
  | store call =>
      cases step with
      | query query => trivial
      | change change =>
          rcases steps with ⟨single, makes⟩
          cases call with
          | set key value =>
              cases makes
              exact preparatory
          | event fingerprint kind payload =>
              rcases makes with ⟨created, rfl⟩
              exact preparatory
          | upsertNotification =>
              rcases makes with ⟨now, rfl⟩ | ⟨row, rfl, rfl⟩
              · trivial
              · exact preparatory
          | markNotification =>
              rcases makes with ⟨now, rfl⟩
              trivial
          | get => exact makes.elim
          | approval => exact makes.elim
          | _ => exact preparatory.elim
      | outside asked => rcases steps with rfl | rfl | rfl <;> trivial
      | claim issue title milestone created =>
          cases steps
          exact preparatory.elim
      | advance expected following initial payload created =>
          cases steps
          exact preparatory.elim
      | _ => exact steps.elim

theorem prepareCallback_prepares (candidate : TokenRow) :
    OnlyAsks Prepares (stepsOf library process (prepareCallback library config candidate)) := by
  refine onlyAsks_expandOnly (fun asked preparatory => ?_) (prepareCallback_preparatory candidate)
  exact (siteSteps_steps process asked).mono (fun _ => preparatory.prepares)

/-- Tokens and approvals are as before. -/
def Untouched (site next : Site) : Prop :=
  next.database.callbackTokens = site.database.callbackTokens ∧
    next.database.approvals = site.database.approvals

theorem Prepares.untouched (prepares : Prepares request) (site : Site) :
    Untouched site (site.effect library request) := by
  constructor
  · rw [Site.effect_tokens]
    unfold Site.tokensAfter
    split
    · exact prepares.elim
    · exact prepares.elim
    · rfl
  · cases request with
    | change change =>
        cases change with
        | insertEvent row =>
            simp only [Site.effect, Database.write]
            split
            · next written => split at written <;> cases written; rfl
            · rfl
        | insertNotification row =>
            simp only [Site.effect, Database.write]
            split
            · next written => split at written <;> cases written; rfl
            · rfl
        | setSetting key value => rfl
        | repeatNotification => rfl
        | markNotification => rfl
        | _ => exact prepares.elim
    | claim => exact prepares.elim
    | advance => exact prepares.elim
    | _ => rfl

/-- The update of a consumption concerns at most one row. -/
theorem countP_isOpen_le {site : Site} (keyed : Keyed site) (hash : String) (now : Int) :
    site.database.callbackTokens.countP (Database.isOpen hash now) ≤ 1 := by
  have keys : (site.database.callbackTokens.filter (Database.isOpen hash now)).map
      TokenRow.tokenHash = List.replicate
        (site.database.callbackTokens.countP (Database.isOpen hash now)) hash := by
    rw [List.countP_eq_length_filter, ← List.length_map (f := TokenRow.tokenHash)]
    apply List.eq_replicate_of_mem
    intro key member
    rcases List.mem_map.mp member with ⟨row, inside, rfl⟩
    have opened := (List.mem_filter.mp inside).2
    simp only [Database.isOpen, Bool.and_eq_true, decide_eq_true_eq] at opened
    exact opened.1.1
  have distinct : (List.replicate
      (site.database.callbackTokens.countP (Database.isOpen hash now)) hash).Nodup := by
    rw [← keys]
    exact keyed.sublist (List.filter_sublist.map _)
  exact List.nodup_replicate.mp distinct

/-- A consumption that succeeds finds an open row and closes it. -/
theorem consumed_row (library : Library) {site : Site} (keyed : Keyed site) {hash : String} {now : Int}
    (counted : site.database.callbackTokens.countP (Database.isOpen hash now) = 1)
    (actor : String) :
    ∃ row, site.database.callbackToken hash = some row ∧ row.consumedAt = none ∧
      now < row.expiresAt ∧
      (site.effect library (.change (.consumeToken hash now actor))).database.callbackToken hash =
        some { row with consumedAt := some now, consumedBy := some actor } := by
  have some : 0 < site.database.callbackTokens.countP (Database.isOpen hash now) := by omega
  rcases List.countP_pos_iff.mp some with ⟨row, member, opened⟩
  have parts := opened
  simp only [Database.isOpen, Bool.and_eq_true, decide_eq_true_eq,
    Option.isNone_iff_eq_none] at parts
  rcases parts with ⟨⟨rfl, fresh⟩, early⟩
  refine ⟨row, callbackToken_of_mem keyed member, fresh, early, ?_⟩
  have changed : { row with consumedAt := Option.some now, consumedBy := Option.some actor } ∈
      (site.effect library
        (.change (.consumeToken row.tokenHash now actor))).database.callbackTokens := by
    rw [Site.effect_tokens]
    refine List.mem_map.mpr ⟨row, member, ?_⟩
    rw [if_pos opened]
  exact callbackToken_of_mem (effect_keyed library keyed _) changed

/-! ## Who consumes -/

def sparing : Automaton SiteRequest SiteAnswer Unit where
  permits _ request := ∀ hash now actor, request ≠ .change (.consumeToken hash now actor)
  after _ _ _ := ()

/-- Which requests consume a token. -/
theorem consumeToken_request {asked : SupervisorRequest} {hash : String} {now : Int}
    (steps : asked.Steps library process (.change (.consumeToken hash now actor))) :
    ∃ token, asked = .store (.consumeCallbackToken token actor) := by
  cases asked with
  | outside asked =>
      rcases outside_steps steps with same | same | ⟨_, _, same⟩ | same | ⟨_, _, same⟩ <;> cases same
  | store call =>
      rcases steps with ⟨single, makes⟩
      cases call with
      | consumeCallbackToken token actor =>
          rcases makes with ⟨_, same⟩
          cases same
          exact ⟨token, rfl⟩
      | claimIssue => cases single
      | advanceMilestone => cases single
      | upsertNotification => rcases makes with ⟨_, same⟩ | ⟨_, same, _⟩ <;> cases same
      | decide => rcases makes with same | ⟨_, same⟩ <;> cases same
      | createApproval => rcases makes with ⟨_, same, _⟩; cases same
      | createCallbackToken => rcases makes with ⟨_, same, _⟩; cases same
      | supersedeMergeApprovals => rcases makes with ⟨_, _, _, same⟩; cases same
      | supersedeApprovalsForPullRequest => rcases makes with ⟨_, _, _, same⟩; cases same
      | markNotification => rcases makes with ⟨_, same⟩; cases same
      | event => rcases makes with ⟨_, same⟩; cases same
      | set => cases makes
      | unset => cases makes
      | _ => exact makes.elim

theorem sparing_permits {asked : SupervisorRequest}
    (other : ∀ token actor, asked ≠ .store (.consumeCallbackToken token actor)) :
    Permits sparing library process asked := by
  rintro _ step steps hash now actor rfl
  rcases consumeToken_request steps with ⟨token, same⟩
  exact other token actor same

theorem sparing_free : Unrestrictive sparing library config process := by
  intro asked ordinary
  apply sparing_permits
  rintro token actor rfl
  exact ordinary

theorem queueNextIssue_sparing (depth : Nat) (completedIssue : Option Int)
    (operatorApproved : Bool) :
    Roams sparing library process
      (queueNextIssue library config depth completedIssue operatorApproved) :=
  queueNextIssue_roams sparing_free
    (startIssue_roams sparing_free (fun _ _ _ => sparing_permits nofun)
      (fun _ => sparing_permits nofun))
    (fun _ queue _ _ =>
      transitionMilestone_roams sparing_free (fun _ _ _ _ => sparing_permits nofun) queue _ _)
    depth completedIssue operatorApproved

theorem approve_sparing (approvalId actor : String) :
    Roams sparing library process (approve library config approvalId actor) :=
  approve_roams sparing_free
    (mergeApproved_roams sparing_free (fun _ _ => sparing_permits nofun) · · actor)
    (queueNextIssue_sparing _ · _) approvalId

theorem transitionMilestone_sparing (payload : Value) (actor : String) :
    Roams sparing library process (transitionMilestone library config
      (queueNextIssue library config library.recursionLimit none false) payload actor) :=
  transitionMilestone_roams sparing_free (fun _ _ _ _ => sparing_permits nofun)
    (queueNextIssue_sparing _ _ _) payload actor

theorem approveMilestoneRollover_sparing (approvalId actor : String) :
    Roams sparing library process (approveMilestoneRollover library config approvalId actor) :=
  approveMilestoneRollover_roams sparing_free (fun _ _ => sparing_permits nofun)
    transitionMilestone_sparing approvalId actor

/-- The action of a token consumes no other one. -/
theorem performCallback_sparing (row : TokenRow) (pr : Option PullRequest) :
    Roams sparing library process (performCallback library config row actor pr) :=
  performCallback_roams sparing_free (fun _ _ => sparing_permits nofun) row actor pr
    (performApproval_roams sparing_free (approveMilestoneRollover_sparing · actor)
      (approve_sparing · actor) row pr)

/-- Only callbacks consume. -/
theorem body_sparing {duty : Duty} (other : ∀ token actor, duty ≠ .callback token actor) :
    Roams sparing library process (duty.body library config) :=
  body_roams sparing_free (queueNextIssue_sparing _)
    (offerMilestoneRollover_roams sparing_free (fun _ _ => transitionMilestone_sparing _ _))
    approve_sparing duty (fun approvalId actor _ => approveMilestoneRollover_sparing approvalId actor)
    (fun token actor same => absurd same (other token actor)) (fun _ _ _ => sparing_permits nofun)

end FortifyLab.Supervisor
