import FortifyLab.Supervisor.Ordinary
import FortifyLab.Supervisor.Processes

/-! What each request of a process asks of the site, and the settings after each step. -/

namespace FortifyLab.Supervisor

open Connection Program

variable {library : Library} {config : Config}

abbrev SiteLog := List (Entry Task SiteRequest SiteAnswer)

abbrev SitePool := Pool Site Task SiteRequest SiteAnswer (Except Raised String)

abbrev SiteAction := Action Task ((asked : Outside) → Reply asked)

/-- The calls that are explicit transactions. -/
def StoreCall.isTransaction : StoreCall → Bool
  | .claimIssue _ _ _ => true
  | .advanceMilestone _ _ _ _ => true
  | _ => false

/-- What a call of the store may ask of the site. -/
def StoreCall.Steps (library : Library) (call : StoreCall) : SiteRequest → Prop
  | .query (.setting key) => ∃ default, call = .get key default
  | .query _ => True
  | .change change => call.isTransaction = false ∧ call.Makes library change
  | .claim issue title milestone _ => call = .claimIssue issue title milestone
  | .advance expected following initial payload _ =>
      call = .advanceMilestone expected following initial payload
  | .outside asked => asked = .now ∨ asked = .tokenHex ∨ asked = .tokenUrlsafe
  | _ => False

/-- What a request of a process may ask of the site. -/
def SupervisorRequest.Steps (library : Library) (process : Nat) :
    SupervisorRequest → SiteRequest → Prop
  | .store call, step => call.Steps library step
  | .outside .policy, step => step = .policy process
  | .outside (.adopt policy), step => step = .adopt process policy
  | .outside .policyFile, step => step = .policyFile
  | .outside (.installPolicy policy), step =>
      step = .outside (.installPolicy policy) ∨ step = .install policy
  | .outside asked, step => step = .outside asked

theorem singleStatement_steps {call : StoreCall} {asked : Request}
    (single : call.isTransaction = false)
    (reads : ∀ key, call.ReadsSetting key → ∃ default, call = .get key default)
    (allowed : call.Allows library asked) :
    OnlyAsks (call.Steps library) (singleStatement asked) := by
  cases asked with
  | outside request => exact ⟨allowed, fun _ => trivial⟩
  | statement statement =>
      cases statement with
      | query query =>
          cases query with
          | setting key => exact ⟨reads key allowed, fun _ => trivial⟩
          | _ => exact ⟨trivial, fun _ => trivial⟩
      | change change => exact ⟨⟨single, allowed⟩, fun _ => trivial⟩
      | beginImmediate => trivial
      | commit => trivial
      | rollback => trivial

theorem storeSteps_steps (call : StoreCall) :
    OnlyAsks (call.Steps library) (storeSteps library call) := by
  have plain : call.isTransaction = false →
      (∀ key, call.ReadsSetting key → ∃ default, call = .get key default) →
      OnlyAsks (call.Steps library) ((call.perform library).expand singleStatement) :=
    fun single reads =>
      onlyAsks_expandOnly (fun _ => singleStatement_steps single reads) (StoreCall.makes call)
  cases call with
  | claimIssue issue title milestone =>
      exact ⟨.inl rfl, fun _ => ⟨rfl, fun _ => trivial⟩⟩
  | advanceMilestone expected following initial payload =>
      exact ⟨.inl rfl, fun _ => ⟨rfl, fun _ => trivial⟩⟩
  | get key default => exact plain rfl (fun other same => ⟨default, by rw [same]⟩)
  | _ => exact plain rfl (fun _ same => same.elim)

theorem siteSteps_steps (process : Nat) (request : SupervisorRequest) :
    OnlyAsks (request.Steps library process) (siteSteps library process request) := by
  cases request with
  | store call => exact storeSteps_steps call
  | outside asked =>
      cases asked with
      | installPolicy policy =>
          refine ⟨.inl rfl, fun replaced => ?_⟩
          cases replaced with
          | false => trivial
          | true => exact ⟨.inr rfl, fun _ => ⟨.inl rfl, fun _ => trivial⟩⟩
      | _ => exact ⟨rfl, fun _ => trivial⟩

/-- What lies outside is asked as it is, or is the policy of the process or its file. -/
theorem outside_steps {process : Nat} {asked : Outside} {step : SiteRequest}
    (steps : (SupervisorRequest.outside asked).Steps library process step) :
    step = .outside asked ∨ step = .policy process ∨
      (∃ policy, asked = .adopt policy ∧ step = .adopt process policy) ∨ step = .policyFile ∨
      ∃ policy, asked = .installPolicy policy ∧ step = .install policy := by
  cases asked with
  | policy => exact .inr (.inl steps)
  | adopt policy => exact .inr (.inr (.inl ⟨policy, rfl, steps⟩))
  | policyFile => exact .inr (.inr (.inr (.inl steps)))
  | installPolicy policy =>
      rcases steps with same | same
      · exact .inl same
      · exact .inr (.inr (.inr (.inr ⟨policy, rfl, same⟩)))
  | _ => exact .inl steps

/-- Which requests record an event. -/
theorem insertEvent_request {process : Nat} {request : SupervisorRequest} {row : EventRow}
    (steps : request.Steps library process (.change (.insertEvent row))) :
    ∃ payload, request = .store (.event row.fingerprint row.kind payload) := by
  cases request with
  | outside asked =>
      rcases outside_steps steps with same | same | ⟨_, _, same⟩ | same | ⟨_, _, same⟩ <;> cases same
  | store call =>
      rcases steps with ⟨single, makes⟩
      cases call with
      | event fingerprint kind payload =>
          rcases makes with ⟨created, same⟩
          cases same
          exact ⟨payload, rfl⟩
      | claimIssue => cases single
      | advanceMilestone => cases single
      | upsertNotification => rcases makes with ⟨_, same⟩ | ⟨_, same, _⟩ <;> cases same
      | decide => rcases makes with same | ⟨_, same⟩ <;> cases same
      | createApproval => rcases makes with ⟨_, same, _⟩; cases same
      | createCallbackToken => rcases makes with ⟨_, same, _⟩; cases same
      | supersedeMergeApprovals => rcases makes with ⟨_, _, _, same⟩; cases same
      | supersedeApprovalsForPullRequest => rcases makes with ⟨_, _, _, same⟩; cases same
      | markNotification => rcases makes with ⟨_, same⟩; cases same
      | consumeCallbackToken => rcases makes with ⟨_, same⟩; cases same
      | set => cases makes
      | unset => cases makes
      | _ => exact makes.elim

/-! ## The settings of the site -/

/-- The settings after a step. -/
def Site.settingsAfter (site : Site) : SiteRequest → String → Option String
  | .change (.setSetting key value) => Function.update site.database.settings key (some value)
  | .change (.deleteSetting key) => Function.update site.database.settings key none
  | .claim issue title milestone _ =>
      if canClaim site.database issue milestone then
        Function.update
          (Function.update site.database.settings "current_issue" (some (toString issue)))
          "current_issue_title" (some ((title.take 200).toString))
      else site.database.settings
  | .advance expected following initial _ _ =>
      if canAdvance site.database expected following initial then
        Function.update site.database.settings "active_milestone" (some following)
      else site.database.settings
  | _ => site.database.settings

theorem Site.effect_settings (site : Site) (request : SiteRequest) :
    (site.effect library request).database.settings = site.settingsAfter request := by
  cases request with
  | claim issue title milestone created =>
      simp only [Site.effect, claimed, settingsAfter]
      split <;> rfl
  | advance expected following initial payload created =>
      simp only [Site.effect, advanced, settingsAfter]
      split <;> rfl
  | change change =>
      cases change with
      | insertEvent row =>
          simp only [Site.effect, Database.write, settingsAfter]
          split
          · next known => split at known <;> cases known; rfl
          · rfl
      | insertNotification row =>
          simp only [Site.effect, Database.write, settingsAfter]
          split
          · next known => split at known <;> cases known; rfl
          · rfl
      | insertApproval row =>
          simp only [Site.effect, Database.write, settingsAfter]
          split
          · next known => split at known <;> cases known; rfl
          · rfl
      | insertToken row =>
          simp only [Site.effect, Database.write, settingsAfter]
          split
          · next known => split at known <;> cases known; rfl
          · rfl
      | _ => rfl
  | _ => rfl

/-! ## Scripted runs -/

/-- A run of the processes with its log. -/
def playSite (library : Library) (config : Config) (start : Site)
    (permits : SitePool → SiteAction → Bool) (script : List SiteAction) :
    Option (SiteLog × SitePool) :=
  (processes library config start).playLog permits [] (processes library config start).initial
    (script.map (fun action _ => action))

theorem reachable_playSite {start : Site} {allowed : SitePool → SiteAction → Prop}
    {permits : SitePool → SiteAction → Bool}
    (sound : ∀ pool action, permits pool action = true → allowed pool action)
    {script : List SiteAction} {log : SiteLog} {pool : SitePool}
    (played : playSite library config start permits script = some (log, pool)) :
    (processes library config start).Reachable allowed log pool :=
  Machine.reachable_playLog sound _ .initial played

end FortifyLab.Supervisor
