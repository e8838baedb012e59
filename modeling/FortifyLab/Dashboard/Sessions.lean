import Mathlib.Data.List.Nodup
import FortifyLab.Dashboard.Access

/-! Sessions over whole runs of the dashboard: what is behind the sign-in is only reached with
the session of a verified sign-in that is in time, and a session that has ended stays ended. -/

namespace FortifyLab.Dashboard

open Program

/-- A token and the thread that drew it. -/
def drawnBy : DashboardEntry → Option (String × Nat)
  | ⟨thread, _, .drawToken, token⟩ => some (token, thread)
  | _ => none

/-- A token and the session stored under it. -/
def storedAs : DashboardEntry → Option (String × Session)
  | ⟨_, _, .store token session, _⟩ => some (token, session)
  | _ => none

theorem storedAs_some {entry : DashboardEntry} {token : String} {session : Session}
    (known : storedAs entry = some (token, session)) : entry.request = .store token session := by
  rcases entry with ⟨thread, call, request, answer⟩
  cases request with
  | store other session =>
      cases known
      rfl
  | _ => cases known

theorem storedAs_of {entry : DashboardEntry} {token : String} {session : Session}
    (asks : entry.request = .store token session) : storedAs entry = some (token, session) := by
  rcases entry with ⟨thread, call, request, answer⟩
  cases asks
  rfl

/-- The exchanges behind the marks. -/
inductive Teaches : Exchange Ask Told → Mark → Prop where
  | drawn (token : String) : Teaches ⟨.drawToken, token⟩ (.drawn token)
  | clocked (now : ℚ) : Teaches ⟨.clock, now⟩ (.clocked now)
  | looked (token : String) (object : Nat) (session : Session) :
      Teaches ⟨.lookup token, some (object, session)⟩ (.looked token object session)
  | seen (object : Nat) (accessed : ℚ) : Teaches ⟨.accessed object, accessed⟩ (.seen object accessed)
  | stored (token : String) (session : Session) : Teaches ⟨.store token session, ()⟩ .stored

theorem teaches_of_mark {exchange : Exchange Ask Told} {mark : Mark}
    (known : markOf exchange = some mark) : Teaches exchange mark := by
  rcases exchange with ⟨request, answer⟩
  cases request with
  | drawToken =>
      cases known
      exact .drawn answer
  | clock =>
      cases known
      exact .clocked answer
  | lookup token =>
      rcases Option.map_eq_some_iff.mp known with ⟨entry, there, rfl⟩
      have answered : answer = some (entry.1, entry.2) := there
      rw [answered]
      exact .looked token entry.1 entry.2
  | accessed object =>
      cases known
      exact .seen object answer
  | store token session =>
      cases known
      exact .stored token session
  | _ => cases known

theorem looked_exchange {exchange : Exchange Ask Told} {token : String} {object : Nat}
    {session : Session} (teaches : Teaches exchange (.looked token object session)) :
    exchange = ⟨.lookup token, some (object, session)⟩ := by
  cases teaches
  rfl

theorem seen_exchange {exchange : Exchange Ask Told} {object : Nat} {accessed : ℚ}
    (teaches : Teaches exchange (.seen object accessed)) :
    exchange = ⟨.accessed object, accessed⟩ := by
  cases teaches
  rfl

theorem clocked_exchange {exchange : Exchange Ask Told} {now : ℚ}
    (teaches : Teaches exchange (.clocked now)) : exchange = ⟨.clock, now⟩ := by
  cases teaches
  rfl

theorem drawnBy_of {entry : DashboardEntry} {token : String}
    (teaches : Teaches entry.exchange (.drawn token)) :
    drawnBy entry = some (token, entry.thread) := by
  rcases entry with ⟨thread, call, request, answer⟩
  generalize asks : Entry.exchange _ = exchange at teaches
  cases teaches
  cases asks
  rfl

theorem mark_of_stored {entry : DashboardEntry} {token : String} {session : Session}
    (stores : storedAs entry = some (token, session)) :
    markOf entry.exchange = some .stored := by
  have asks := storedAs_some stores
  rcases entry with ⟨thread, call, request, answer⟩
  cases asks
  rfl

/-- The time that an object was accessed last: that of its session, or one it was touched at. -/
def AccessedAt (log : List DashboardEntry) (object : Nat) (value : ℚ) : Prop :=
  (∃ token session, (log.filterMap storedAs)[object]? = some (token, session) ∧
    session.created = value) ∨ ∃ entry ∈ log, entry.request = .touch object value

/-- What the log and the dictionary of sessions show of each other. -/
structure SessionStory (supply : Nat → String) (log : List DashboardEntry) (stores : Stores) :
    Prop where
  drawn : (log.filterMap drawnBy).map Prod.fst = (List.range stores.drawn).map supply
  storedBy : ∀ entry ∈ log, ∀ token session, storedAs entry = some (token, session) →
    (token, entry.thread) ∈ log.filterMap drawnBy
  once : ((log.filterMap storedAs).map Prod.fst).Nodup
  numbered : stores.objects.length = (log.filterMap storedAs).length
  present : ∀ token object session, stores.sessions token = some (object, session) →
    (log.filterMap storedAs)[object]? = some (token, session)
  found : ∀ look ∈ log, ∀ token object session,
    look.exchange = ⟨.lookup token, some (object, session)⟩ →
      (log.filterMap storedAs)[object]? = some (token, session)
  accessed : ∀ object value, stores.objects[object]? = some value → AccessedAt log object value
  seen : ∀ see ∈ log, ∀ object value, see.exchange = ⟨.accessed object, value⟩ →
    AccessedAt log object value
  ended : ∀ before pop after token, log = before ++ pop :: after → pop.request = .pop token →
    token ∈ (before.filterMap storedAs).map Prod.fst → stores.sessions token = none

section Step

variable {app : DashboardApp} {supply : Nat → String} {log : List DashboardEntry} {stores : Stores}
  {index : Nat} {offer : Reading} {call : Option Environ} {request : Ask} {answer : Told request}

theorem learned_by {mark : Mark} (learned : mark ∈ (own log index).filterMap markOf) :
    ∃ entry ∈ log, entry.thread = index ∧ Teaches entry.exchange mark := by
  rcases List.mem_filterMap.mp learned with ⟨exchange, member, marks⟩
  rcases mem_own.mp member with ⟨entry, there, same, rfl⟩
  exact ⟨entry, there, same, teaches_of_mark marks⟩

namespace SessionStory

/-- One thread draws a token. -/
theorem drawer_unique (story : SessionStory supply log stores)
    (fresh : Function.Injective supply) {token : String} {left right : Nat}
    (leftDraws : (token, left) ∈ log.filterMap drawnBy)
    (rightDraws : (token, right) ∈ log.filterMap drawnBy) : left = right := by
  have once : ((log.filterMap drawnBy).map Prod.fst).Nodup := by
    rw [story.drawn]
    exact List.nodup_range.map fresh
  have same := List.inj_on_of_nodup_map once leftDraws rightDraws rfl
  exact congrArg Prod.snd same

theorem stored_append {entry : DashboardEntry} (unstored : storedAs entry = none) :
    (log ++ [entry]).filterMap storedAs = log.filterMap storedAs := by
  rw [List.filterMap_append, List.filterMap_cons_none unstored, List.filterMap_nil,
    List.append_nil]

theorem place_grows {object : Nat} {stored : String × Session} (more : List DashboardEntry)
    (place : (log.filterMap storedAs)[object]? = some stored) :
    ((log ++ more).filterMap storedAs)[object]? = some stored := by
  rw [List.filterMap_append]
  rw [List.getElem?_append_left (List.getElem?_eq_some_iff.mp place).1]
  exact place

theorem accessedAt_grows {object : Nat} {value : ℚ} (more : List DashboardEntry)
    (known : AccessedAt log object value) : AccessedAt (log ++ more) object value := by
  rcases known with ⟨token, session, place, created⟩ | ⟨entry, member, touches⟩
  · exact .inl ⟨token, session, place_grows more place, created⟩
  · exact .inr ⟨entry, List.mem_append_left _ member, touches⟩

/-- An answer that stores no session. -/
theorem unstored {entry : DashboardEntry} {next : Stores} (story : SessionStory supply log stores)
    (unstored : storedAs entry = none)
    (drawn : ((log ++ [entry]).filterMap drawnBy).map Prod.fst =
      (List.range next.drawn).map supply)
    (sessions : ∀ token, next.sessions token = stores.sessions token ∨ next.sessions token = none)
    (pops : ∀ token, entry.request = .pop token → next.sessions token = none)
    (length : next.objects.length = stores.objects.length)
    (objects : ∀ object value, next.objects[object]? = some value →
      stores.objects[object]? = some value ∨ entry.request = .touch object value)
    (looks : ∀ token object session, entry.exchange = ⟨.lookup token, some (object, session)⟩ →
      stores.sessions token = some (object, session))
    (sees : ∀ object value, entry.exchange = ⟨.accessed object, value⟩ →
      stores.objects[object]? = some value) :
    SessionStory supply (log ++ [entry]) next where
  drawn := drawn
  storedBy other member token session stores := by
    rcases List.mem_append.mp member with old | new
    · rw [List.filterMap_append]
      exact List.mem_append_left _ (story.storedBy other old token session stores)
    · rw [List.mem_singleton.mp new, unstored] at stores
      cases stores
  once := by
    rw [stored_append unstored]
    exact story.once
  numbered := by
    rw [stored_append unstored, length]
    exact story.numbered
  present token object session there := by
    rcases sessions token with same | gone
    · rw [same] at there
      exact place_grows _ (story.present token object session there)
    · rw [gone] at there
      cases there
  found look member token object session finds := by
    rcases List.mem_append.mp member with old | new
    · exact place_grows _ (story.found look old token object session finds)
    · rw [List.mem_singleton.mp new] at finds
      exact place_grows _ (story.present token object session (looks token object session finds))
  accessed object value there := by
    rcases objects object value there with same | touched
    · exact accessedAt_grows _ (story.accessed object value same)
    · exact .inr ⟨entry, List.mem_append_right _ List.mem_cons_self, touched⟩
  seen see member object value reads := by
    rcases List.mem_append.mp member with old | new
    · exact accessedAt_grows _ (story.seen see old object value reads)
    · rw [List.mem_singleton.mp new] at reads
      exact accessedAt_grows _ (story.accessed object value (sees object value reads))
  ended before pop after token split asks earlier := by
    rcases Discipline.split_concat split with ⟨_, _, rfl⟩ | ⟨rest, _, inside⟩
    · exact pops token asks
    · rcases sessions token with same | gone
      · rw [same]
        exact story.ended before pop rest token inside asks earlier
      · exact gone

/-- A session is stored under a token of its own. -/
theorem stored {token : String} {session : Session} {answer : Told (.store token session)}
    (fresh : Function.Injective supply)
    (legal : mayAsk app call ((own log index).filterMap markOf) (.store token session))
    (story : SessionStory supply log stores) :
    SessionStory supply (log ++ [⟨index, call, .store token session, answer⟩])
      (stores.effect (.store token session)) := by
  have known : storedAs ⟨index, call, .store token session, answer⟩ = some (token, session) := rfl
  have grown : List.filterMap storedAs
      (log ++ [⟨index, call, .store token session, answer⟩]) =
        log.filterMap storedAs ++ [(token, session)] := by
    rw [List.filterMap_append, List.filterMap_cons_some known, List.filterMap_nil]
  have undrawn : List.filterMap drawnBy
      (log ++ [⟨index, call, .store token session, answer⟩]) = log.filterMap drawnBy := by
    rw [List.filterMap_append]
    exact List.append_nil _
  have mine : (token, index) ∈ log.filterMap drawnBy := by
    have learned : Mark.drawn token ∈ (own log index).filterMap markOf := by simp [legal.2]
    rcases learned_by learned with ⟨draw, member, same, teaches⟩
    refine List.mem_filterMap.mpr ⟨draw, member, ?_⟩
    rw [← same]
    exact drawnBy_of teaches
  have first : token ∉ (log.filterMap storedAs).map Prod.fst := by
    intro again
    rcases List.mem_map.mp again with ⟨⟨_, other⟩, among, rfl⟩
    rcases List.mem_filterMap.mp among with ⟨entry, member, stores⟩
    have same := story.drawer_unique fresh (story.storedBy entry member _ other stores) mine
    have learned : Mark.stored ∈ (own log index).filterMap markOf :=
      List.mem_filterMap.mpr ⟨entry.exchange, mem_own.mpr ⟨entry, member, same, rfl⟩,
        mark_of_stored stores⟩
    rw [legal.2] at learned
    simp at learned
  have last : stores.objects.length = (log.filterMap storedAs).length := story.numbered
  have newPlace : (List.filterMap storedAs
      (log ++ [⟨index, call, .store token session, answer⟩]))[stores.objects.length]? =
        some (token, session) := by
    rw [grown, last, List.getElem?_concat_length]
  refine ⟨?_, ?_, ?_, ?_, ?_, ?_, ?_, ?_, ?_⟩
  · rw [undrawn]
    exact story.drawn
  · intro entry member other kept stores
    rw [undrawn]
    rcases List.mem_append.mp member with old | new
    · exact story.storedBy entry old other kept stores
    · rw [List.mem_singleton.mp new, known] at stores
      cases stores
      rw [List.mem_singleton.mp new]
      exact mine
  · rw [grown, List.map_append]
    refine List.nodup_append.mpr ⟨story.once, List.nodup_singleton _, ?_⟩
    intro other member same new
    rw [List.mem_singleton.mp new]
    rintro rfl
    exact first member
  · rw [grown]
    simp [Stores.effect, last]
  · intro other object found there
    by_cases same : other = token
    · subst same
      have stored : some (stores.objects.length, session) = some (object, found) := by
        rw [← there]
        exact (Function.update_self other _ stores.sessions).symm
      cases stored
      exact newPlace
    · have kept : stores.sessions other = some (object, found) := by
        rw [← there]
        exact (Function.update_of_ne same _ stores.sessions).symm
      exact place_grows _ (story.present other object found kept)
  · intro look member other object found finds
    rcases List.mem_append.mp member with old | new
    · exact place_grows _ (story.found look old other object found finds)
    · rw [List.mem_singleton.mp new] at finds
      cases finds
  · intro object value there
    by_cases new : object = stores.objects.length
    · subst new
      have created : session.created = value := by
        have stored : (stores.objects ++ [session.created])[stores.objects.length]? =
            some value := there
        rw [List.getElem?_concat_length] at stored
        exact Option.some.inj stored
      exact .inl ⟨token, session, newPlace, created⟩
    · have kept : stores.objects[object]? = some value := by
        have stored : (stores.objects ++ [session.created])[object]? = some value := there
        have inside := (List.getElem?_eq_some_iff.mp stored).1
        rw [List.length_append, List.length_singleton] at inside
        rw [List.getElem?_append_left (by omega)] at stored
        exact stored
      exact accessedAt_grows _ (story.accessed object value kept)
  · intro see member object value reads
    rcases List.mem_append.mp member with old | new
    · exact accessedAt_grows _ (story.seen see old object value reads)
    · rw [List.mem_singleton.mp new] at reads
      cases reads
  · intro before pop after other split asks earlier
    rcases Discipline.split_concat split with ⟨_, rfl, rfl⟩ | ⟨rest, _, inside⟩
    · cases asks
    · have different : other ≠ token := by
        rintro rfl
        apply first
        rw [inside, List.filterMap_append, List.map_append]
        exact List.mem_append_left _ earlier
      have kept : (stores.effect (.store token session)).sessions other = stores.sessions other :=
        Function.update_of_ne different _ _
      rw [kept]
      exact story.ended before pop rest other inside asks earlier

end SessionStory

theorem SessionStory.step (fresh : Function.Injective supply)
    (legal : mayAsk app call ((own log index).filterMap markOf) request)
    (replied : stores.reply supply offer request = some answer)
    (story : SessionStory supply log stores) :
    SessionStory supply (log ++ [⟨index, call, request, answer⟩]) (stores.effect request) := by
  have undrawn : drawnBy (⟨index, call, request, answer⟩ : DashboardEntry) = none →
      (List.filterMap drawnBy (log ++ [⟨index, call, request, answer⟩])).map Prod.fst =
        (List.range stores.drawn).map supply := by
    intro none
    rw [List.filterMap_append, List.filterMap_cons_none none, List.filterMap_nil, List.append_nil]
    exact story.drawn
  cases request with
  | store token session => exact story.stored fresh legal
  | drawToken =>
      refine story.unstored rfl ?_ (fun _ => .inl rfl) ?_ rfl (fun _ _ => .inl) ?_ ?_
      · have known : drawnBy ⟨index, call, .drawToken, answer⟩ = some (answer, index) := rfl
        have token : supply stores.drawn = answer := Option.some.inj replied
        rw [List.filterMap_append, List.filterMap_cons_some known, List.map_append, story.drawn]
        simp [Stores.effect, List.range_succ, token]
      · intro _ asks
        cases asks
      · intro _ _ _ same
        cases same
      · intro _ _ same
        cases same
  | touch object now =>
      refine story.unstored rfl (undrawn rfl) (fun _ => .inl rfl) ?_ List.length_set ?_ ?_ ?_
      · intro _ asks
        cases asks
      · intro other value there
        have stored : (stores.objects.set object now)[other]? = some value := there
        rw [List.getElem?_set] at stored
        split at stored
        · next same =>
          subst same
          split at stored
          · cases stored
            exact .inr rfl
          · cases stored
        · exact .inl stored
      · intro _ _ _ same
        cases same
      · intro _ _ same
        cases same
  | pop token =>
      have gone : ∀ other, other = token →
          (stores.effect (.pop token)).sessions other = none := by
        rintro other rfl
        exact Function.update_self _ _ _
      refine story.unstored rfl (undrawn rfl) ?_ ?_ rfl (fun _ _ => .inl) ?_ ?_
      · intro other
        by_cases same : other = token
        · exact .inr (gone other same)
        · exact .inl (Function.update_of_ne same _ _)
      · intro other asks
        cases asks
        exact gone token rfl
      · intro _ _ _ same
        cases same
      · intro _ _ same
        cases same
  | lookup token =>
      refine story.unstored rfl (undrawn rfl) (fun _ => .inl rfl) ?_ rfl (fun _ _ => .inl) ?_ ?_
      · intro _ asks
        cases asks
      · intro other object session same
        cases same
        exact Option.some.inj replied
      · intro _ _ same
        cases same
  | accessed object =>
      refine story.unstored rfl (undrawn rfl) (fun _ => .inl rfl) ?_ rfl (fun _ _ => .inl) ?_ ?_
      · intro _ asks
        cases asks
      · intro _ _ _ same
        cases same
      · intro other value same
        cases same
        exact replied
  | _ =>
      refine story.unstored rfl (undrawn rfl) (fun _ => .inl rfl) ?_ rfl (fun _ _ => .inl) ?_ ?_
      · intro _ asks
        cases asks
      · intro _ _ _ same
        cases same
      · intro _ _ same
        cases same

end Step

/-! ## Runs -/

section Runs

variable {app : DashboardApp} {supply : Nat → String}
  {allowed : DashboardPool → DashboardAction → Prop} {log : List DashboardEntry}
  {pool : DashboardPool}

theorem sessionStory_empty : SessionStory supply [] .empty where
  drawn := rfl
  storedBy _ member := (by cases member)
  once := List.nodup_nil
  numbered := rfl
  present _ _ _ there := (by cases there)
  found _ member := (by cases member)
  accessed _ _ there := (by cases there)
  seen _ member := (by cases member)
  ended before pop after _ split := by
    have short := congrArg List.length split
    simp at short

theorem SessionStory.afterRestart {stores : Stores} (story : SessionStory supply log stores) :
    SessionStory supply log stores.afterRestart where
  drawn := story.drawn
  storedBy := story.storedBy
  once := story.once
  numbered := story.numbered
  present _ _ _ there := (by cases there)
  found := story.found
  accessed := story.accessed
  seen := story.seen
  ended _ _ _ _ _ _ _ := rfl

theorem reachable_sessions (fresh : Function.Injective supply)
    (reached : (dashboard app supply).Reachable allowed log pool) :
    SessionStory supply log pool.shared := by
  have follows : ∀ call, Follows (observer app call).move (fun _ _ => True) []
      ((dashboard app supply).body call) := body_follows supply
  rcases (Observer.discipline follows).reachable_invariant (SessionStory supply) sessionStory_empty
    (fun log stores index offer label request answer legal replied _ story =>
      story.step fresh legal replied)
    (fun log stores story => story.afterRestart) reached with ⟨_, _, _, story⟩
  exact story

/-- What a request asks is permitted after what it has learned. -/
theorem reachable_mayAsk (reached : (dashboard app supply).Reachable allowed log pool)
    {before after : List DashboardEntry} {entry : DashboardEntry}
    (split : log = before ++ entry :: after) :
    mayAsk app entry.label ((own before entry.thread).filterMap markOf) entry.request :=
  Observer.reachable_permits (body_follows supply) reached split

/-- The requests that are only for who is signed in. -/
def Ask.behindSignIn : Ask → Bool
  | .capabilities _ => true
  | .operation _ _ => true
  | .read _ => true
  | .asset path => decide (path ∈ protectedPages)
  | _ => false

/-- The identity that a request acts with is this one. -/
def ActsAs (environ : Environ) (identity : WebIdentity) : Ask → Prop
  | .capabilities acting => acting = identity
  | .operation served acting => served = environ ∧ acting = identity
  | .read served => served = environ
  | _ => True

/-- A time at which the session of a token was created or its identity was asked for. -/
def LastSeen (before : List DashboardEntry) (token : String) (session : Session) (time : ℚ) :
    Prop :=
  time = session.created ∨
    ∃ touch ∈ before, ∃ look ∈ before, ∃ object, touch.request = .touch object time ∧
      look.thread = touch.thread ∧ look.exchange = ⟨.lookup token, some (object, session)⟩

/-- What stands behind a request that was let through: the session of a verified sign-in,
under the token of the request, in time by the clock that its thread read. -/
structure SessionBehind (app : DashboardApp) (before : List DashboardEntry) (thread : Nat)
    (environ : Environ) (token : String) (session : Session) : Prop where
  named : app.sessionToken environ = some token
  signedIn : ∃ sign ∈ before, sign.request = .store token session ∧
    SignedIn app sign.label session
  inTime : ∃ clock ∈ before, ∃ now accessed, clock.thread = thread ∧
    clock.exchange = ⟨.clock, now⟩ ∧ now - session.created ≤ app.absolute ∧
    now - accessed ≤ app.idle ∧ LastSeen before token session accessed

theorem admitted_of_mayAsk {call : Option Environ} {marks : List Mark} {request : Ask}
    (may : mayAsk app call marks request) (behind : request.behindSignIn = true) :
    ∃ environ token object session accessed now, call = some environ ∧
      app.sessionToken environ = some token ∧
      InTime app marks token object session accessed now ∧
      ActsAs environ (session.identity token) request := by
  cases request with
  | capabilities acting =>
      rcases may with ⟨environ, token, object, session, accessed, now, mine, named, inTime, same⟩
      exact ⟨environ, token, object, session, accessed, now, mine, named, inTime, same⟩
  | operation served acting =>
      rcases may with
        ⟨rfl, environ, token, object, session, accessed, now, mine, named, inTime, same⟩
      cases mine
      exact ⟨served, token, object, session, accessed, now, rfl, named, inTime, rfl, same⟩
  | read served =>
      rcases may with
        ⟨rfl, _, environ, token, object, session, accessed, now, mine, named, inTime, _⟩
      cases mine
      exact ⟨served, token, object, session, accessed, now, rfl, named, inTime, rfl⟩
  | asset path =>
      rcases may (of_decide_eq_true behind) with
        ⟨_, environ, token, object, session, accessed, now, mine, named, inTime, _⟩
      exact ⟨environ, token, object, session, accessed, now, mine, named, inTime, trivial⟩
  | _ => cases behind

theorem lastSeen_of_accessed (fresh : Function.Injective supply)
    (reached : (dashboard app supply).Reachable allowed log pool) {token : String} {object : Nat}
    {session : Session} {value : ℚ}
    (place : (log.filterMap storedAs)[object]? = some (token, session))
    (known : AccessedAt log object value) : LastSeen log token session value := by
  rcases known with ⟨_, _, other, created⟩ | ⟨touch, member, touches⟩
  · rw [place] at other
    cases other
    exact .inl created.symm
  · rcases List.append_of_mem member with ⟨front, back, split⟩
    have legal := reachable_mayAsk reached split
    rw [touches] at legal
    rcases legal with ⟨used, found, accessed, inTime⟩
    have learned : Mark.looked used object found ∈ (own front touch.thread).filterMap markOf := by
      simp [inTime.learned]
    rcases learned_by learned with ⟨look, lookIn, same, teaches⟩
    have looks := looked_exchange teaches
    have inLog : look ∈ log := by
      rw [split]
      exact List.mem_append_left _ lookIn
    have again := (reachable_sessions fresh reached).found look inLog used object found looks
    rw [place] at again
    cases again
    exact .inr ⟨touch, member, look, inLog, object, touches, same, looks⟩

/-- In every run a session that was signed out, or dropped because it had expired, is never
found again under its token. -/
theorem ended_session_stays_ended (fresh : Function.Injective supply)
    (reached : (dashboard app supply).Reachable allowed log pool) (token : String) :
    ∀ first sign second pop third look after,
      log = first ++ sign :: second ++ pop :: third ++ look :: after →
      (∃ session, sign.request = .store token session) → pop.request = .pop token →
      (look.request = .lookup token → look.exchange = ⟨.lookup token, none⟩) ∧
        (look.request = .contains token → look.exchange = ⟨.contains token, false⟩) := by
  intro first sign second pop third look after split signs pops
  rcases Machine.reachable_met reached split with ⟨earlier, offer, _, start, _, _, replied⟩
  have gone : earlier.shared.sessions token = none := by
    refine (reachable_sessions fresh start).ended (first ++ sign :: second) pop third token rfl pops ?_
    rcases signs with ⟨session, asks⟩
    refine List.mem_map.mpr ⟨(token, session), List.mem_filterMap.mpr ⟨sign, ?_, ?_⟩, rfl⟩
    · exact List.mem_append_right _ List.mem_cons_self
    · exact storedAs_of asks
  rcases look with ⟨thread, call, request, answer⟩
  have told : earlier.shared.reply supply offer request = some answer := replied
  constructor
  · intro asks
    have asked : request = .lookup token := asks
    subst asked
    have answered : earlier.shared.sessions token = answer := Option.some.inj told
    rw [gone] at answered
    rw [← answered]
    rfl
  · intro asks
    have asked : request = .contains token := asks
    subst asked
    have answered : (earlier.shared.sessions token).isSome = answer := Option.some.inj told
    rw [gone] at answered
    rw [← answered]
    rfl

end Runs

/-! ## A run -/

/-- A dashboard with one account. -/
def oneAccount : DashboardApp where
  accounts username := if username = "admin" then "verifier" else ""
  verifyPassword password verifier := decide (password = "secret" ∧ verifier = "verifier")
  space char := decide (char = ' ')
  idle := 1800
  absolute := 28800
  loginLimiter := ⟨5, 60⟩
  operationApi := true

def sessionTokens (drawn : Nat) : String := String.ofList (List.replicate (drawn + 1) 't')

theorem sessionTokens_injective : Function.Injective sessionTokens := by
  intro left right same
  have length := congrArg List.length (String.ofList_injective same)
  simpa using length

def signInRequest : Environ where
  method := "POST"
  path := "/api/v1alpha1/session"
  cookieHeader := ""
  client := "127.0.0.1"
  contentLength := 40
  body := .fields "admin" "secret" "web"

/-- A request with the first token. -/
def withSession (method path : String) : Environ where
  method := method
  path := path
  cookieHeader := "theme=dark; fortifylab_session=t"
  client := "127.0.0.1"
  contentLength := 0
  body := .malformed

def serve (thread count : Nat) : List (DashboardPool → DashboardAction) :=
  List.replicate count (fun _ => .advance thread (.time 10))

/-- Somebody signs in, asks for the operations and signs out; another request that has found
the session present looks it up only afterwards. -/
def visit : List (DashboardPool → DashboardAction) :=
  [fun _ => .receive (some signInRequest)] ++ serve 1 6 ++
    [fun _ => .receive (some (withSession "GET" "/api/v1alpha1/operations"))] ++ serve 2 6 ++
    [fun _ => .receive (some (withSession "GET" "/api/v1alpha1/lab"))] ++ serve 3 2 ++
    [fun _ => .receive (some (withSession "DELETE" "/api/v1alpha1/session"))] ++ serve 4 6 ++
    serve 3 1

def playVisit : Option (List DashboardEntry × DashboardPool) :=
  (dashboard oneAccount sessionTokens).playLog (fun _ _ => true) []
    (dashboard oneAccount sessionTokens).initial visit

theorem reachable_visit {log : List DashboardEntry} {pool : DashboardPool}
    (played : playVisit = some (log, pool)) :
    (dashboard oneAccount sessionTokens).Reachable (fun _ _ => True) log pool :=
  Machine.reachable_playLog (fun _ _ _ => trivial) visit .initial played

/-- The storing, the end and the late lookup of a session. -/
def sessionEvent (token : String) : DashboardEntry → Option Nat
  | ⟨_, _, .store stored _, _⟩ => if stored = token then some 0 else none
  | ⟨_, _, .pop popped, _⟩ => if popped = token then some 1 else none
  | ⟨3, _, .lookup looked, _⟩ => if looked = token then some 2 else none
  | _ => none

theorem sessionEvent_some {token : String} {entry : DashboardEntry} {event : Nat}
    (known : sessionEvent token entry = some event) :
    (event = 0 ∧ ∃ session, entry.request = .store token session) ∨
      (event = 1 ∧ entry.request = .pop token) ∨ (event = 2 ∧ entry.request = .lookup token) := by
  unfold sessionEvent at known
  split at known
  · rcases Option.ite_none_right_eq_some.mp known with ⟨rfl, same⟩
    cases same
    exact .inl ⟨rfl, _, rfl⟩
  · rcases Option.ite_none_right_eq_some.mp known with ⟨rfl, same⟩
    cases same
    exact .inr (.inl ⟨rfl, rfl⟩)
  · rcases Option.ite_none_right_eq_some.mp known with ⟨rfl, same⟩
    cases same
    exact .inr (.inr ⟨rfl, rfl⟩)
  · cases known

theorem ended_session_stays_ended_visit :
    ∃ log pool before look after,
      (dashboard oneAccount sessionTokens).Reachable (fun _ _ => True) log pool ∧
      log = before ++ look :: after ∧ look.exchange = ⟨.lookup "t", none⟩ := by
  have played : playVisit.any (fun run =>
      decide (run.1.filterMap (sessionEvent "t") = [0, 1, 2])) = true := by decide +kernel
  rcases (Option.any_eq_true _ _).mp played with ⟨⟨log, pool⟩, run, events⟩
  have reached := reachable_visit run
  rcases List.filterMap_eq_cons_iff.mp (of_decide_eq_true events) with
    ⟨first, sign, rest, split, _, stores, later⟩
  rcases List.filterMap_eq_cons_iff.mp later with ⟨second, pop, more, rfl, _, pops, last⟩
  rcases List.filterMap_eq_cons_iff.mp last with ⟨third, look, after, rfl, _, looks, _⟩
  have whole : log = first ++ sign :: (second ++ pop :: (third ++ look :: after)) := split
  have parts : log = first ++ sign :: second ++ pop :: third ++ look :: after := by simp [whole]
  have signs : ∃ session, sign.request = .store "t" session := by
    rcases sessionEvent_some stores with known | known | known
    · exact known.2
    · cases known.1
    · cases known.1
  have popped : pop.request = .pop "t" := by
    rcases sessionEvent_some pops with known | known | known
    · cases known.1
    · exact known.2
    · cases known.1
  have looked : look.request = .lookup "t" := by
    rcases sessionEvent_some looks with known | known | known
    · cases known.1
    · cases known.1
    · exact known.2
  have found := ended_session_stays_ended sessionTokens_injective reached "t" first sign second pop
    third look after parts signs popped
  exact ⟨log, pool, first ++ sign :: second ++ pop :: third, look, after, reached, parts,
    found.1 looked⟩

end FortifyLab.Dashboard
