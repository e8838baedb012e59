import FortifyLab.Library.Observed
import FortifyLab.Dashboard.App

/-! What a request of the dashboard may ask after what it has learned: nothing behind the
sign-in before a session was looked up and found in time. -/

namespace FortifyLab.Dashboard

open Program

/-- What a request has learned. -/
inductive Mark where
  | drawn (token : String)
  | clocked (now : ℚ)
  | looked (token : String) (object : Nat) (session : Session)
  | seen (object : Nat) (accessed : ℚ)
  | stored
  deriving DecidableEq

def markOf : Exchange Ask Told → Option Mark
  | ⟨.drawToken, token⟩ => some (.drawn token)
  | ⟨.clock, now⟩ => some (.clocked now)
  | ⟨.lookup token, found⟩ =>
      (found : Option (Nat × Session)).map (fun entry => .looked token entry.1 entry.2)
  | ⟨.accessed object, accessed⟩ => some (.seen object accessed)
  | ⟨.store _ _, _⟩ => some .stored
  | _ => none

def Session.identity (session : Session) (token : String) : WebIdentity :=
  ⟨session.username, token, session.created, session.source⟩

variable (app : DashboardApp)

/-- A session was looked up and is in time. -/
structure InTime (marks : List Mark) (token : String) (object : Nat) (session : Session)
    (accessed now : ℚ) : Prop where
  learned : marks = [.clocked now, .looked token object session, .seen object accessed]
  recent : now - accessed ≤ app.idle
  young : now - session.created ≤ app.absolute

/-- The request has the token of a session that is in time, and acts as its identity. -/
def Admitted (call : Option Environ) (marks : List Mark) (identity : WebIdentity) : Prop :=
  ∃ environ token object session accessed now, call = some environ ∧
    app.sessionToken environ = some token ∧
    InTime app marks token object session accessed now ∧ identity = session.identity token

/-- The session of a sign-in that was verified. -/
def SignedIn (call : Option Environ) (session : Session) : Prop :=
  ∃ environ, call = some environ ∧ environ.method = "POST" ∧
    app.signIn environ = .ok (some (session.username, session.source))

/-- The pages behind the sign-in. -/
def protectedPages : List String := ["/", "/index.html"]

/-- What a request may ask after what it has learned. -/
def mayAsk (call : Option Environ) (marks : List Mark) : Ask → Prop
  | .store token session => SignedIn app call session ∧
      marks = [.drawn token, .clocked session.created]
  | .touch object now => ∃ token session accessed, InTime app marks token object session accessed now
  | .capabilities identity => Admitted app call marks identity
  | .operation environ identity => call = some environ ∧ Admitted app call marks identity
  | .read environ => call = some environ ∧ ∃ identity, Admitted app call marks identity
  | .asset path => path ∈ protectedPages → ∃ identity, Admitted app call marks identity
  | _ => True

def observer (call : Option Environ) : Observer Ask Told Mark where
  mark := markOf
  permits := mayAsk app call

variable {app} {call : Option Environ} {marks : List Mark}

theorem follows_ask {α : Type} {post : List Mark → Except Crash α → Prop} {request : Ask}
    {rest : Told request → ServeAttempt α} (permitted : mayAsk app call marks request)
    (next : ∀ answer, Follows (observer app call).move post
      (marks ++ (markOf ⟨request, answer⟩).toList) (rest answer).run) :
    Follows (observer app call).move post marks (ask request >>= rest).run :=
  fun answer => ⟨_, ⟨permitted, rfl⟩, next answer⟩

/-- A request that teaches nothing. -/
theorem follows_silent {α : Type} {post : List Mark → Except Crash α → Prop} {request : Ask}
    {rest : Told request → ServeAttempt α} (permitted : mayAsk app call marks request)
    (silent : ∀ answer, markOf ⟨request, answer⟩ = none)
    (next : ∀ answer, Follows (observer app call).move post marks (rest answer).run) :
    Follows (observer app call).move post marks (ask request >>= rest).run := by
  refine follows_ask permitted ?_
  intro answer
  rw [silent answer, Option.toList_none, List.append_nil]
  exact next answer

/-- The limiter teaches nothing. -/
theorem allow_follows (limiter : LoginLimiter) (client : String) :
    Follows (observer app call).move (fun after _ => after = marks) marks
      (limiter.allow client) := by
  have still : ∀ request answer, mayAsk app call marks request →
      markOf ⟨request, answer⟩ = none →
      (observer app call).move marks request answer marks := by
    intro request answer permitted silent
    refine ⟨permitted, ?_⟩
    simp [Observer.automaton, observer, silent]
  refine follows_perform ?_
  intro now
  refine ⟨marks, still _ _ trivial rfl, follows_perform ?_⟩
  intro stamps
  refine ⟨marks, still _ _ trivial rfl, ?_⟩
  dsimp only
  split
  · exact follows_perform (fun _ => ⟨marks, still _ _ trivial rfl, rfl⟩)
  · exact follows_perform (fun _ => ⟨marks, still _ _ trivial rfl, rfl⟩)

/-- `create` stores the session of its sign-in, at the time it reads. -/
theorem create_follows {username source : String}
    (signed : ∀ created, SignedIn app call ⟨username, created, source⟩) :
    Follows (observer app call).move (fun _ _ => True) [] (create username source).run := by
  unfold create
  split
  · trivial
  refine follows_ask trivial ?_
  intro token
  refine follows_ask trivial ?_
  intro now
  refine follows_ask ⟨signed now, rfl⟩ ?_
  exact fun _ => trivial

/-- `identity` finds a session that is in time, or none. -/
theorem identity_follows (token : Option String) :
    Follows (observer app call).move (fun after result => ∀ known, result = .ok (some known) →
      ∃ found object session accessed now, token = some found ∧
        InTime app after found object session accessed now ∧ known = session.identity found)
      [] (app.identity token).run := by
  unfold DashboardApp.identity
  split
  · exact fun known same => by cases same
  next token =>
  split
  · exact fun known same => by cases same
  refine follows_silent trivial (fun _ => rfl) ?_
  intro present
  split
  · exact fun known same => by cases same
  refine follows_ask trivial ?_
  intro now
  refine follows_ask trivial ?_
  intro entry
  cases entry with
  | none => exact fun known same => by cases same
  | some entry =>
      rcases entry with ⟨object, session⟩
      refine follows_ask trivial ?_
      intro accessed
      split
      · refine follows_silent trivial (fun _ => rfl) ?_
        exact fun _ known same => by cases same
      · next fresh =>
        rw [not_or, not_lt, not_lt] at fresh
        have inTime : InTime app
            [.clocked now, .looked token object session, .seen object accessed] token object session
            accessed now := ⟨rfl, fresh.1, fresh.2⟩
        refine follows_silent ⟨token, session, accessed, inTime⟩ (fun _ => rfl) ?_
        intro _ known same
        cases same
        exact ⟨token, object, session, accessed, now, rfl, inTime, rfl⟩

/-- What follows the identity of a request that has a session. -/
theorem withIdentity_follows {environ : Environ} {rest : Option WebIdentity → ServeAttempt Response}
    (anonymous : ∀ marks, Follows (observer app (some environ)).move (fun _ _ => True) marks
      (rest none).run)
    (known : ∀ marks identity, Admitted app (some environ) marks identity →
      Follows (observer app (some environ)).move (fun _ _ => True) marks (rest (some identity)).run) :
    Follows (observer app (some environ)).move (fun _ _ => True) []
      (app.identity (app.sessionToken environ) >>= rest).run := by
  refine follows_bindExcept (identity_follows (app.sessionToken environ)) ?_ (fun _ _ _ => trivial)
  intro after result found
  cases result with
  | none => exact anonymous after
  | some identity =>
      rcases found identity rfl with ⟨token, object, session, accessed, now, mine, inTime, same⟩
      exact known after identity ⟨environ, token, object, session, accessed, now, rfl, mine, inTime,
        same⟩

theorem asset_follows {environ : Environ} {path : String}
    (permitted : path ∈ protectedPages → ∃ identity, Admitted app call marks identity) :
    Follows (observer app call).move (fun _ _ => True) marks
      (DashboardApp.asset environ path).run := by
  unfold DashboardApp.asset
  split
  · trivial
  · exact follows_silent permitted (fun _ => rfl) (fun _ => trivial)

theorem api_follows {environ : Environ} {identity : WebIdentity}
    (admitted : Admitted app (some environ) marks identity) :
    Follows (observer app (some environ)).move (fun _ _ => True) marks
      (app.api environ identity).run := by
  unfold DashboardApp.api
  split
  · split
    · trivial
    · exact follows_silent admitted (fun _ => rfl) (fun _ => trivial)
  split
  · split
    · trivial
    · exact follows_silent ⟨rfl, admitted⟩ (fun _ => rfl) (fun _ => trivial)
  · exact follows_silent ⟨rfl, identity, admitted⟩ (fun _ => rfl) (fun _ => trivial)

theorem delete_follows (token : Option String) :
    Follows (observer app call).move (fun _ _ => True) marks (DashboardApp.delete token).run := by
  unfold DashboardApp.delete
  split
  · trivial
  split
  · trivial
  · intro _
    exact ⟨_, ⟨trivial, rfl⟩, trivial⟩

theorem session_follows (environ : Environ) :
    Follows (observer app (some environ)).move (fun _ _ => True) [] (app.session environ).run := by
  unfold DashboardApp.session
  split
  · next post =>
    refine follows_liftBind (allow_follows app.loginLimiter environ.client) ?_
    intro after allowed same
    subst same
    split
    · trivial
    cases signs : app.signIn environ with
    | error crash => trivial
    | ok fields =>
        cases fields with
        | none => trivial
        | some fields =>
            rcases fields with ⟨username, source⟩
            refine follows_bindExcept (create_follows ?_) (fun _ _ _ => trivial)
              (fun _ _ _ => trivial)
            exact fun created => ⟨environ, rfl, post, signs⟩
  split
  · refine withIdentity_follows (fun _ => trivial) ?_
    intro marks identity _
    exact follows_bindExcept (delete_follows _) (fun _ _ _ => trivial) (fun _ _ _ => trivial)
  · trivial

/-- Every request keeps to the observer. -/
theorem call_follows (environ : Environ) :
    Follows (observer app (some environ)).move (fun _ _ => True) [] (app.call environ).run := by
  unfold DashboardApp.call
  split
  · trivial
  split
  · exact session_follows environ
  split
  · refine withIdentity_follows (fun _ => trivial) ?_
    exact fun _ _ admitted => api_follows admitted
  split
  · next assets =>
    refine asset_follows ?_
    intro page
    simp only [protectedPages, List.mem_cons, List.not_mem_nil, or_false] at page
    rcases page with same | same
    · rw [same] at assets
      exact absurd assets (by decide)
    · rw [same] at assets
      exact absurd assets (by decide)
  split
  · refine withIdentity_follows ?_ ?_
    · intro marks
      exact asset_follows (fun page => absurd page (by decide))
    · intro marks identity admitted
      exact asset_follows (fun _ => ⟨identity, admitted⟩)
  · trivial

theorem body_follows (supply : Nat → String) (call : Option Environ) :
    Follows (observer app call).move (fun _ _ => True) [] ((dashboard app supply).body call) := by
  cases call with
  | none => trivial
  | some environ => exact follows_bind (call_follows environ) (fun _ _ _ => trivial)

end FortifyLab.Dashboard
