import FortifyLab.Library.Turns
import FortifyLab.Lifecycle.RemoteTokens
import FortifyLab.Lifecycle.SingleUse

/-! The tokens of the remote service over whole runs: their uses are in turn, and a plan is
offered for approval once. -/

namespace FortifyLab.Lifecycle

open Registry Authorization Program

/-- What an entry does with the token of a hash. -/
def tokenUsage (hash : String) : RemoteEntry → Option (Usage Nat)
  | ⟨thread, _, .claim claimed, answer⟩ =>
      if claimed = hash ∧ (answer : Bool) = true then some (.taken thread) else none
  | ⟨thread, _, .finish finished retryable, _⟩ =>
      if finished = hash then some (if retryable then .returned thread else .spent thread)
      else none
  | _ => none

inductive UsesToken (hash : String) : RemoteEntry → Usage Nat → Prop where
  | taken (thread : Nat) (call : RemoteCall) :
      UsesToken hash ⟨thread, call, .claim hash, true⟩ (.taken thread)
  | returned (thread : Nat) (call : RemoteCall) :
      UsesToken hash ⟨thread, call, .finish hash true, ()⟩ (.returned thread)
  | spent (thread : Nat) (call : RemoteCall) :
      UsesToken hash ⟨thread, call, .finish hash false, ()⟩ (.spent thread)

/-- The id of the plan that an entry saves. -/
def savedPlan : RemoteEntry → Option ApprovalId
  | ⟨_, _, .savePlan snapshot, answer⟩ => if (answer : Bool) then some snapshot.id else none
  | _ => none

/-- The plan that an entry issues an approval token for. -/
def offeredPlan : RemoteEntry → Option ApprovalId
  | ⟨_, _, .insertCallback row, _⟩ => if row.action = "approve" then some row.reference else none
  | _ => none

/-- Where the token of a row in a state may stand; an expired one may stand anywhere. -/
def CallbackState.Stands : CallbackState → Standing Nat → Prop
  | .pending, standing => standing = .free
  | .executing, standing => ∃ thread, standing = .held thread
  | .consumed, standing => ∃ thread, standing = .spent thread
  | .expired, _ => True

/-- A token without a row stands free. -/
def StandsAs (standing : Standing Nat) : Option CallbackRow → Prop
  | none => standing = .free
  | some row => row.state.Stands standing

theorem standsAs_some {row : CallbackRow} {state : CallbackState} {standing : Standing Nat}
    (same : row.state = state) : StandsAs standing (some row) ↔ state.Stands standing := by
  rw [← same]
  rfl

/-- Two rows of one token, perhaps in different states. -/
def CallbackRow.Alike (row other : CallbackRow) : Prop :=
  row = { other with state := row.state }

theorem CallbackRow.Alike.refl (row : CallbackRow) : row.Alike row := rfl

theorem CallbackRow.Alike.trans {first second third : CallbackRow} (left : first.Alike second)
    (right : second.Alike third) : first.Alike third := by
  unfold CallbackRow.Alike at left right ⊢
  rw [left, right]

/-! ## One answer -/

/-- What an answer does with the rows there are. -/
def rowMove : ActionRequest → CallbackRow → CallbackRow
  | .expire hash => RemoteState.moveRow hash none .expired
  | .claim hash => RemoteState.moveRow hash (some .pending) .executing
  | .finish hash retryable =>
      RemoteState.moveRow hash (some .executing) (if retryable then .pending else .consumed)
  | _ => id

def Inserts (request : ActionRequest) : Prop := ∃ row, request = .insertCallback row

namespace RemoteState

variable {state : RemoteState} {thread : Nat} {request : ActionRequest}

theorem moveRow_hash (moved : String) (expected : Option CallbackState) (next : CallbackState)
    (row : CallbackRow) : (moveRow moved expected next row).tokenHash = row.tokenHash := by
  unfold moveRow
  split <;> rfl

theorem moveRow_other {moved : String} {expected : Option CallbackState} {next : CallbackState}
    {row : CallbackRow} (other : row.tokenHash ≠ moved) : moveRow moved expected next row = row :=
  if_neg (fun both => other both.1)

theorem moveRow_self {moved : String} {expected : Option CallbackState} {next : CallbackState}
    {row : CallbackRow} (mine : row.tokenHash = moved)
    (meets : expected = none ∨ expected = some row.state) :
    (moveRow moved expected next row).state = next := by
  rw [moveRow, if_pos ⟨mine, meets⟩]

theorem moveRow_kept {moved : String} {expected next : CallbackState} {row : CallbackRow}
    (other : row.state ≠ expected) : moveRow moved (some expected) next row = row := by
  refine if_neg ?_
  rintro ⟨_, absent | same⟩
  · cases absent
  · exact other (Option.some.inj same).symm

theorem moveRow_alike (moved : String) (expected : Option CallbackState) (next : CallbackState)
    (row : CallbackRow) : (moveRow moved expected next row).Alike row := by
  unfold moveRow CallbackRow.Alike
  split <;> rfl

theorem callback?_move (state : RemoteState) (moved hash : String)
    (expected : Option CallbackState) (next : CallbackState) :
    (state.move moved expected next).callback? hash =
      (state.callback? hash).map (moveRow moved expected next) := by
  unfold callback? move
  rw [List.find?_map]
  congr 2
  funext row
  simp [moveRow_hash]

theorem callback?_hash {hash : String} {row : CallbackRow}
    (found : state.callback? hash = some row) : row.tokenHash = hash := by
  unfold callback? at found
  have met := List.find?_some found
  exact of_decide_eq_true met

/-- Everything but an insert moves the rows. -/
theorem callback?_effect (moves : ¬ Inserts request) (hash : String) :
    (state.effect thread request).callback? hash =
      (state.callback? hash).map (rowMove request) := by
  have still : (state.callback? hash).map id = state.callback? hash := by
    rw [Option.map_id]
    rfl
  cases request with
  | insertCallback row => exact absurd ⟨row, rfl⟩ moves
  | expire moved => exact callback?_move state moved hash _ _
  | claim moved => exact callback?_move state moved hash _ _
  | finish moved retryable => exact callback?_move state moved hash _ _
  | savePlan snapshot =>
      refine Eq.trans ?_ still.symm
      unfold effect
      dsimp only
      split <;> rfl
  | _ => exact still.symm

/-- An insert that is answered adds a row under a hash of its own. -/
theorem callback?_insert {row : CallbackRow} (fresh : state.callback? row.tokenHash = none)
    (hash : String) :
    (state.effect thread (.insertCallback row)).callback? hash =
      if row.tokenHash = hash then some row else state.callback? hash := by
  unfold effect callback? at *
  rw [List.find?_append]
  by_cases same : row.tokenHash = hash
  · subst same
    simp [fresh]
  · simp [same]

theorem rowMove_alike (row : CallbackRow) : (rowMove request row).Alike row := by
  cases request <;> first | exact moveRow_alike _ _ _ _ | rfl

theorem insert_fresh {supply : Nat → String} {offer : RemoteOffer} {row : CallbackRow}
    {answer : ActionAnswer (.insertCallback row)}
    (replied : state.reply supply thread offer (.insertCallback row) = some answer) :
    state.callback? row.tokenHash = none := by
  unfold reply at replied
  dsimp only at replied
  split at replied
  · cases replied
  · next free => simpa using free

/-- The rows there are stay, perhaps in other states. -/
theorem callback?_stays {supply : Nat → String} {offer : RemoteOffer}
    {answer : ActionAnswer request}
    (replied : state.reply supply thread offer request = some answer) {hash : String}
    {row : CallbackRow} (there : state.callback? hash = some row) :
    ∃ after, (state.effect thread request).callback? hash = some after ∧ after.Alike row := by
  by_cases inserts : Inserts request
  · rcases inserts with ⟨added, rfl⟩
    have fresh := insert_fresh replied
    refine ⟨row, ?_, .refl row⟩
    rw [callback?_insert fresh, if_neg]
    · exact there
    · rintro rfl
      rw [fresh] at there
      cases there
  · rw [callback?_effect inserts, there]
    exact ⟨_, rfl, rowMove_alike row⟩

/-- A row is an earlier one or the one that is inserted. -/
theorem callback?_origin {supply : Nat → String} {offer : RemoteOffer}
    {answer : ActionAnswer request}
    (replied : state.reply supply thread offer request = some answer) {hash : String}
    {after : CallbackRow} (there : (state.effect thread request).callback? hash = some after) :
    (∃ row, state.callback? hash = some row ∧ after.Alike row) ∨
      request = .insertCallback after := by
  by_cases inserts : Inserts request
  · rcases inserts with ⟨added, rfl⟩
    rw [callback?_insert (insert_fresh replied)] at there
    split at there
    · cases there
      exact .inr rfl
    · exact .inl ⟨after, there, .refl after⟩
  · rw [callback?_effect inserts, Option.map_eq_some_iff] at there
    rcases there with ⟨row, known, rfl⟩
    exact .inl ⟨row, known, rowMove_alike row⟩

end RemoteState

/-! ## Rows -/

/-- What the log shows of the rows, and the rows of the log. -/
structure RowsStory (log : List RemoteEntry) (state : RemoteState) : Prop where
  issued : ∀ hash row, state.callback? hash = some row →
    ∃ entry ∈ log, ∃ original, entry.request = .insertCallback original ∧ row.Alike original
  kept : ∀ entry ∈ log, ∀ original, entry.request = .insertCallback original →
    ∃ row, state.callback? original.tokenHash = some row ∧ row.Alike original
  found : ∀ entry ∈ log, ∀ hash original, entry.exchange = ⟨.findCallback hash, some original⟩ →
    ∃ row, state.callback? hash = some row ∧ row.Alike original
  returned : ∀ entry ∈ log, ∀ hash, entry.request = .finish hash true →
    ∃ row, state.callback? hash = some row ∧ row.action ∈ portActions

/-! ## Marks -/

/-- The exchanges behind the marks. -/
inductive Teaches : Exchange ActionRequest ActionAnswer → TokenMark → Prop where
  | timed (now : Instant) : Teaches ⟨.clock, now⟩ (.timed now)
  | found (hash : String) (row : CallbackRow) :
      Teaches ⟨.findCallback hash, some row⟩ (.found hash row)
  | claimed (hash : String) : Teaches ⟨.claim hash, true⟩ (.claimed hash)
  | unacknowledged (incidentId actor : String) :
      Teaches ⟨.acknowledge incidentId actor, .error .outage⟩ .outage
  | unpaused (actor : String) : Teaches ⟨.pause actor, .error .outage⟩ .outage
  | finished (hash : String) (retryable : Bool) :
      Teaches ⟨.finish hash retryable, ()⟩ (.finished hash)
  | saved (snapshot : PlanSnapshot) : Teaches ⟨.savePlan snapshot, true⟩ (.saved snapshot.id)
  | offered (row : CallbackRow) (approves : row.action = "approve") :
      Teaches ⟨.insertCallback row, ()⟩ (.offered row.reference)

theorem shows_of_mark {call : RemoteCall} {exchange : Exchange ActionRequest ActionAnswer}
    {mark : TokenMark} (marks : tokenMark call exchange = some mark) : Teaches exchange mark := by
  rcases exchange with ⟨request, answer⟩
  cases request with
  | clock =>
      cases call with
      | execute order token identity =>
          cases marks
          exact .timed answer
      | _ => cases marks
  | findCallback hash =>
      rcases Option.map_eq_some_iff.mp marks with ⟨row, there, rfl⟩
      have answered : answer = some row := there
      rw [answered]
      exact .found hash row
  | claim hash =>
      rcases Option.ite_none_right_eq_some.mp marks with ⟨claimed, same⟩
      cases same
      have answered : answer = true := claimed
      rw [answered]
      exact .claimed hash
  | acknowledge incidentId actor =>
      rcases Option.ite_none_right_eq_some.mp marks with ⟨out, same⟩
      cases same
      have answered : answer = .error .outage := out
      rw [answered]
      exact .unacknowledged incidentId actor
  | pause actor =>
      rcases Option.ite_none_right_eq_some.mp marks with ⟨out, same⟩
      cases same
      have answered : answer = .error .outage := out
      rw [answered]
      exact .unpaused actor
  | finish hash retryable =>
      cases marks
      exact .finished hash retryable
  | savePlan snapshot =>
      rcases Option.ite_none_right_eq_some.mp marks with ⟨fresh, same⟩
      cases same
      have answered : answer = true := fresh
      rw [answered]
      exact .saved snapshot
  | insertCallback row =>
      rcases Option.ite_none_right_eq_some.mp marks with ⟨approves, same⟩
      cases same
      exact .offered row approves
  | _ => cases marks

section Step

variable {sha256 : List Char → String} {supply : Nat → String} {log : List RemoteEntry}
  {state : RemoteState} {index : Nat} {offer : RemoteOffer} {call : RemoteCall}
  {request : ActionRequest} {answer : ActionAnswer request}

/-- The marks of a thread come from its entries. -/
theorem shown_by {mark : TokenMark}
    (shown : mark ∈ (own log index).filterMap (tokenMark call)) :
    ∃ entry ∈ log, entry.thread = index ∧ Teaches entry.exchange mark := by
  rcases List.mem_filterMap.mp shown with ⟨exchange, member, marks⟩
  rcases mem_own.mp member with ⟨entry, there, same, rfl⟩
  exact ⟨entry, there, same, shows_of_mark marks⟩

/-- One answer keeps the story of the rows. -/
theorem RowsStory.step
    (legal : mayAsk sha256 call ((own log index).filterMap (tokenMark call)) request)
    (replied : state.reply supply index offer request = some answer) (story : RowsStory log state) :
    RowsStory (log ++ [⟨index, call, request, answer⟩]) (state.effect index request) where
  issued hash row there := by
    rcases RemoteState.callback?_origin replied there with ⟨earlier, known, alike⟩ | added
    · rcases story.issued hash earlier known with ⟨entry, member, original, inserts, same⟩
      exact ⟨entry, List.mem_append_left _ member, original, inserts, alike.trans same⟩
    · exact ⟨_, List.mem_append_right _ List.mem_cons_self, row, added, .refl row⟩
  kept entry member original inserts := by
    rcases List.mem_append.mp member with old | new
    · rcases story.kept entry old original inserts with ⟨row, there, alike⟩
      rcases RemoteState.callback?_stays replied there with ⟨after, found, same⟩
      exact ⟨after, found, same.trans alike⟩
    · rw [List.mem_singleton.mp new] at inserts
      have asked : request = .insertCallback original := inserts
      subst asked
      refine ⟨original, ?_, .refl original⟩
      rw [RemoteState.callback?_insert (RemoteState.insert_fresh replied), if_pos rfl]
  found entry member hash original exchange := by
    have earlier : ∃ row, state.callback? hash = some row ∧ row.Alike original := by
      rcases List.mem_append.mp member with old | new
      · exact story.found entry old hash original exchange
      · rw [List.mem_singleton.mp new] at exchange
        cases exchange
        exact ⟨original, Option.some.inj replied, .refl original⟩
    rcases earlier with ⟨row, there, alike⟩
    rcases RemoteState.callback?_stays replied there with ⟨after, found, same⟩
    exact ⟨after, found, same.trans alike⟩
  returned entry member hash finishes := by
    have earlier : ∃ row, state.callback? hash = some row ∧ row.action ∈ portActions := by
      rcases List.mem_append.mp member with old | new
      · exact story.returned entry old hash finishes
      · rw [List.mem_singleton.mp new] at finishes
        have asked : request = .finish hash true := finishes
        subst asked
        rcases legal with ⟨order, token, identity, original, rfl, now, marks, _, known⟩
        have shown : TokenMark.found hash original ∈ (own log index).filterMap
            (tokenMark (.execute order token identity)) := by simp [marks]
        rcases shown_by shown with ⟨finder, there, _, shows⟩
        generalize finds : finder.exchange = exchange at shows
        cases shows
        rcases story.found finder there hash original finds with ⟨row, present, alike⟩
        refine ⟨row, present, ?_⟩
        rw [alike]
        exact known rfl
    rcases earlier with ⟨row, there, port⟩
    rcases RemoteState.callback?_stays replied there with ⟨after, found, same⟩
    refine ⟨after, found, ?_⟩
    rw [same]
    exact port

/-! ## Turns -/

/-- The uses of a token are in turn, and its row stands as they leave it. -/
def TakesTurns (hash : String) (log : List RemoteEntry) (state : RemoteState) : Prop :=
  ∃ standing, InTurn (log.filterMap (tokenUsage hash)) standing ∧
    StandsAs standing (state.callback? hash)

theorem usesToken_of_usage {hash : String} {entry : RemoteEntry} {usage : Usage Nat}
    (uses : tokenUsage hash entry = some usage) : UsesToken hash entry usage := by
  rcases entry with ⟨thread, call, request, answer⟩
  cases request with
  | claim claimed =>
      rcases Option.ite_none_right_eq_some.mp uses with ⟨⟨rfl, taken⟩, same⟩
      cases same
      have answered : answer = true := taken
      rw [answered]
      exact .taken thread call
  | finish finished retryable =>
      rcases Option.ite_none_right_eq_some.mp uses with ⟨rfl, same⟩
      cases same
      cases retryable with
      | false => exact .spent thread call
      | true => exact .returned thread call
  | _ => cases uses

/-- A thread that is about to finish a token holds it. -/
theorem holds_of_finishes {hash token : String} {order : SetOrder} {identity : ActorIdentity}
    {row : CallbackRow} {retryable : Bool} {standing : Standing Nat}
    (finishes : Finishes sha256 token identity ((own log index).filterMap
      (tokenMark (.execute order token identity))) hash row retryable)
    (turns : InTurn (log.filterMap (tokenUsage hash)) standing) : standing = .held index := by
  rcases finishes with ⟨now, marks, _, _⟩
  have unfinished : TokenMark.finished hash ∉ (own log index).filterMap
      (tokenMark (.execute order token identity)) := by
    rw [marks]
    cases retryable <;> simp
  have ends : ∀ entry ∈ log, entry.thread = index → ∀ again,
      entry.request ≠ .finish hash again := by
    intro entry member same again request
    apply unfinished
    refine List.mem_filterMap.mpr ⟨entry.exchange, mem_own.mpr ⟨entry, member, same, rfl⟩, ?_⟩
    rcases entry with ⟨thread, other, asked, answer⟩
    have finish : asked = .finish hash again := request
    subst finish
    rfl
  refine turns.holds ?_ ?_ ?_
  · have shown : TokenMark.claimed hash ∈ (own log index).filterMap
        (tokenMark (.execute order token identity)) := by simp [marks]
    rcases shown_by shown with ⟨entry, member, same, shows⟩
    refine List.mem_filterMap.mpr ⟨entry, member, ?_⟩
    rcases entry with ⟨thread, other, asked, answer⟩
    generalize claims : Entry.exchange _ = exchange at shows
    cases shows
    cases claims
    cases same
    simp [tokenUsage]
  · intro returned
    rcases List.mem_filterMap.mp returned with ⟨entry, member, uses⟩
    cases usesToken_of_usage uses
    exact ends _ member rfl true rfl
  · intro spent
    rcases List.mem_filterMap.mp spent with ⟨entry, member, uses⟩
    cases usesToken_of_usage uses
    exact ends _ member rfl false rfl

/-- A move leaves the rows of other hashes alone. -/
theorem callback?_other {moved hash : String} {expected : Option CallbackState}
    {next : CallbackState} (other : moved ≠ hash) :
    (state.callback? hash).map (RemoteState.moveRow moved expected next) =
      state.callback? hash := by
  cases there : state.callback? hash with
  | none => rfl
  | some row =>
      rw [Option.map_some, RemoteState.moveRow_other]
      rw [RemoteState.callback?_hash there]
      exact other.symm

section Turns

variable {hash : String} {next : RemoteState}

/-- An answer that uses no token and leaves its row alone. -/
theorem TakesTurns.quiet {entry : RemoteEntry} (turns : TakesTurns hash log state)
    (unused : tokenUsage hash entry = none)
    (same : next.callback? hash = state.callback? hash) :
    TakesTurns hash (log ++ [entry]) next := by
  rcases turns with ⟨standing, inTurn, stands⟩
  refine ⟨standing, ?_, by rw [same]; exact stands⟩
  rw [List.filterMap_append, List.filterMap_cons_none unused, List.filterMap_nil, List.append_nil]
  exact inTurn

/-- A claim takes a token that stands free, or does nothing. -/
theorem TakesTurns.claim {claimed : String} {answer : ActionAnswer (.claim claimed)}
    (replied : state.reply supply index offer (.claim claimed) = some answer)
    (turns : TakesTurns hash log state) :
    TakesTurns hash (log ++ [⟨index, call, .claim claimed, answer⟩])
      (state.effect index (.claim claimed)) := by
  have moves := RemoteState.callback?_move state claimed hash (some .pending) .executing
  by_cases mine : claimed = hash
  · subst mine
    have answered : (state.callback? claimed).any (fun row => decide (row.state = .pending)) =
        answer := Option.some.inj replied
    cases answer with
    | false =>
        refine turns.quiet (by simp [tokenUsage]) (moves.trans ?_)
        cases there : state.callback? claimed with
        | none => rfl
        | some row =>
            rw [there] at answered
            rw [Option.map_some, RemoteState.moveRow_kept]
            exact of_decide_eq_false answered
    | true =>
        rcases turns with ⟨standing, inTurn, stands⟩
        rcases (Option.any_eq_true _ _).mp answered with ⟨row, there, pending⟩
        have isPending : row.state = .pending := of_decide_eq_true pending
        rw [there, standsAs_some isPending] at stands
        have free : standing = .free := stands
        subst free
        refine ⟨.held index, ?_, ?_⟩
        · have used : tokenUsage claimed ⟨index, call, .claim claimed, true⟩ =
              some (.taken index) := by simp [tokenUsage]
          rw [List.filterMap_append, List.filterMap_cons_some used]
          exact inTurn.take index
        · have after : (state.effect index (.claim claimed)).callback? claimed = _ := moves
          rw [after, there, Option.map_some, standsAs_some (RemoteState.moveRow_self
            (RemoteState.callback?_hash there) (.inr (congrArg some isPending.symm)))]
          exact ⟨index, rfl⟩
  · exact turns.quiet (by simp [tokenUsage, mine]) (moves.trans (callback?_other mine))

/-- Who finishes a token held it, and gives it back or uses it up. -/
theorem TakesTurns.finish {finished : String} {retryable : Bool}
    {answer : ActionAnswer (.finish finished retryable)}
    (legal : mayAsk sha256 call ((own log index).filterMap (tokenMark call))
      (.finish finished retryable)) (turns : TakesTurns hash log state) :
    TakesTurns hash (log ++ [⟨index, call, .finish finished retryable, answer⟩])
      (state.effect index (.finish finished retryable)) := by
  have moves := RemoteState.callback?_move state finished hash (some .executing)
    (if retryable then .pending else .consumed)
  by_cases mine : finished = hash
  · subst mine
    rcases turns with ⟨standing, inTurn, stands⟩
    rcases legal with ⟨order, token, identity, known, rfl, finishes⟩
    have holds := holds_of_finishes finishes inTurn
    subst holds
    have used : tokenUsage finished ⟨index, .execute order token identity,
        .finish finished retryable, answer⟩ =
        some (if retryable then .returned index else .spent index) := by simp [tokenUsage]
    have after : (state.effect index (.finish finished retryable)).callback? finished = _ := moves
    refine ⟨if retryable then .free else .spent index, ?_, ?_⟩
    · rw [List.filterMap_append, List.filterMap_cons_some used]
      cases retryable with
      | false => exact inTurn.spend
      | true => exact inTurn.giveBack
    · rw [after]
      cases there : state.callback? finished with
      | none =>
          rw [there] at stands
          cases stands
      | some row =>
          rw [there] at stands
          rw [Option.map_some]
          cases at_ : row.state with
          | pending =>
              rw [standsAs_some at_] at stands
              cases stands
          | consumed =>
              rw [standsAs_some at_] at stands
              rcases stands with ⟨other, same⟩
              cases same
          | executing =>
              rw [standsAs_some (RemoteState.moveRow_self (RemoteState.callback?_hash there)
                (.inr (congrArg some at_.symm)))]
              cases retryable with
              | false => exact ⟨index, rfl⟩
              | true => exact rfl
          | expired =>
              rw [RemoteState.moveRow_kept (by rw [at_]; decide), standsAs_some at_]
              trivial
  · exact turns.quiet (by simp [tokenUsage, mine]) (moves.trans (callback?_other mine))

/-- An expired token is out of use. -/
theorem TakesTurns.expire {expired : String} {answer : ActionAnswer (.expire expired)}
    (turns : TakesTurns hash log state) :
    TakesTurns hash (log ++ [⟨index, call, .expire expired, answer⟩])
      (state.effect index (.expire expired)) := by
  have moves := RemoteState.callback?_move state expired hash none .expired
  by_cases mine : expired = hash
  · subst mine
    rcases turns with ⟨standing, inTurn, stands⟩
    refine ⟨standing, ?_, ?_⟩
    · rw [List.filterMap_append, List.filterMap_cons_none rfl, List.filterMap_nil,
        List.append_nil]
      exact inTurn
    · have after : (state.effect index (.expire expired)).callback? expired = _ := moves
      rw [after]
      cases there : state.callback? expired with
      | none =>
          rw [there] at stands
          exact stands
      | some row =>
          rw [Option.map_some, standsAs_some (RemoteState.moveRow_self
            (RemoteState.callback?_hash there) (.inl rfl))]
          trivial
  · exact turns.quiet rfl (moves.trans (callback?_other mine))

/-- A new token stands free. -/
theorem TakesTurns.insert {row : CallbackRow} {answer : ActionAnswer (.insertCallback row)}
    (pending : row.state = .pending)
    (replied : state.reply supply index offer (.insertCallback row) = some answer)
    (turns : TakesTurns hash log state) :
    TakesTurns hash (log ++ [⟨index, call, .insertCallback row, answer⟩])
      (state.effect index (.insertCallback row)) := by
  have fresh := RemoteState.insert_fresh replied
  have inserts : (state.effect index (.insertCallback row)).callback? hash =
      if row.tokenHash = hash then some row else state.callback? hash :=
    RemoteState.callback?_insert fresh hash
  by_cases mine : row.tokenHash = hash
  · subst mine
    rcases turns with ⟨standing, inTurn, stands⟩
    rw [fresh] at stands
    have free : standing = .free := stands
    refine ⟨standing, ?_, ?_⟩
    · rw [List.filterMap_append, List.filterMap_cons_none rfl, List.filterMap_nil,
        List.append_nil]
      exact inTurn
    · rw [inserts, if_pos rfl, standsAs_some pending]
      exact free
  · exact turns.quiet rfl (inserts.trans (if_neg mine))

theorem TakesTurns.step
    (legal : mayAsk sha256 call ((own log index).filterMap (tokenMark call)) request)
    (replied : state.reply supply index offer request = some answer)
    (turns : TakesTurns hash log state) :
    TakesTurns hash (log ++ [⟨index, call, request, answer⟩]) (state.effect index request) := by
  by_cases inserts : Inserts request
  · rcases inserts with ⟨row, rfl⟩
    exact turns.insert legal.1.1 replied
  have effect : (state.effect index request).callback? hash =
      (state.callback? hash).map (rowMove request) :=
    RemoteState.callback?_effect inserts hash
  cases request with
  | claim claimed => exact turns.claim replied
  | finish finished retryable => exact turns.finish legal
  | expire expired => exact turns.expire
  | insertCallback row => exact absurd ⟨row, rfl⟩ inserts
  | _ => exact turns.quiet rfl (effect.trans (congrFun Option.map_id _))

end Turns

/-! ## Plans -/

/-- Every plan is saved once, by a thread that is the only one to offer it for approval. -/
structure PlansStory (log : List RemoteEntry) (state : RemoteState) : Prop where
  saved : log.filterMap savedPlan = state.plans.map PlanSnapshot.id
  fresh : (state.plans.map PlanSnapshot.id).Nodup
  offered : ∀ entry ∈ log, ∀ planId, offeredPlan entry = some planId →
    ∃ save ∈ log, save.thread = entry.thread ∧ savedPlan save = some planId
  offers : (log.filterMap offeredPlan).Nodup

theorem savedPlan_of_shows {entry : RemoteEntry} {planId : ApprovalId}
    (shows : Teaches entry.exchange (.saved planId)) : savedPlan entry = some planId := by
  rcases entry with ⟨thread, call, request, answer⟩
  generalize asks : Entry.exchange _ = exchange at shows
  cases shows
  cases asks
  rfl

theorem mark_of_offered {entry : RemoteEntry} {planId : ApprovalId}
    (offers : offeredPlan entry = some planId) :
    tokenMark call entry.exchange = some (.offered planId) := by
  rcases entry with ⟨thread, other, request, answer⟩
  cases request with
  | insertCallback row =>
      rcases Option.ite_none_right_eq_some.mp offers with ⟨approves, same⟩
      cases same
      exact if_pos approves
  | _ => cases offers

namespace PlansStory

/-- One thread saves a plan. -/
theorem saver_unique (story : PlansStory log state) {left right : RemoteEntry} {planId : ApprovalId}
    (leftIn : left ∈ log) (rightIn : right ∈ log) (leftSaves : savedPlan left = some planId)
    (rightSaves : savedPlan right = some planId) : left = right := by
  refine eq_of_filterMap_count ?_ leftIn rightIn leftSaves rightSaves
  rw [story.saved]
  exact List.nodup_iff_count_le_one.mp story.fresh planId

theorem offer_unique (story : PlansStory log state) {left right : RemoteEntry} {planId : ApprovalId}
    (leftIn : left ∈ log) (rightIn : right ∈ log) (leftOffers : offeredPlan left = some planId)
    (rightOffers : offeredPlan right = some planId) : left = right :=
  eq_of_filterMap_count (List.nodup_iff_count_le_one.mp story.offers planId) leftIn rightIn
    leftOffers rightOffers

/-- What was offered stays offered by a thread that saved it. -/
theorem grow (story : PlansStory log state) (more : List RemoteEntry) :
    ∀ entry ∈ log, ∀ planId, offeredPlan entry = some planId →
      ∃ save ∈ log ++ more, save.thread = entry.thread ∧ savedPlan save = some planId := by
  intro entry member planId offers
  rcases story.offered entry member planId offers with ⟨save, there, same, saves⟩
  exact ⟨save, List.mem_append_left _ there, same, saves⟩

theorem quiet {entry : RemoteEntry} {next : RemoteState} (story : PlansStory log state)
    (saves : savedPlan entry = none) (offers : offeredPlan entry = none)
    (same : next.plans = state.plans) : PlansStory (log ++ [entry]) next where
  saved := by
    rw [List.filterMap_append, List.filterMap_cons_none saves, List.filterMap_nil,
      List.append_nil, same]
    exact story.saved
  fresh := by
    rw [same]
    exact story.fresh
  offered other member planId offered := by
    rcases List.mem_append.mp member with old | new
    · exact story.grow _ other old planId offered
    · rw [List.mem_singleton.mp new, offers] at offered
      cases offered
  offers := by
    rw [List.filterMap_append, List.filterMap_cons_none offers, List.filterMap_nil,
      List.append_nil]
    exact story.offers

theorem save {snapshot : PlanSnapshot} {answer : ActionAnswer (.savePlan snapshot)}
    (replied : state.reply supply index offer (.savePlan snapshot) = some answer)
    (story : PlansStory log state) :
    PlansStory (log ++ [⟨index, call, .savePlan snapshot, answer⟩])
      (state.effect index (.savePlan snapshot)) := by
  have answered : (!state.plans.any (fun plan => decide (plan.id = snapshot.id))) = answer :=
    Option.some.inj replied
  cases taken : state.plans.any (fun plan => decide (plan.id = snapshot.id)) with
  | true =>
      rw [taken] at answered
      subst answered
      refine story.quiet rfl rfl ?_
      rw [RemoteState.effect, if_pos taken]
  | false =>
      rw [taken] at answered
      have isNew : answer = true := answered.symm
      subst isNew
      have after : (state.effect index (.savePlan snapshot)).plans = state.plans ++ [snapshot] := by
        rw [RemoteState.effect, if_neg (by rw [taken]; decide)]
      have absent : snapshot.id ∉ state.plans.map PlanSnapshot.id := by
        intro member
        rcases List.mem_map.mp member with ⟨plan, there, same⟩
        have other := List.any_eq_false.mp taken plan there
        exact other (decide_eq_true same)
      have saves : savedPlan ⟨index, call, .savePlan snapshot, true⟩ = some snapshot.id := rfl
      refine ⟨?_, ?_, ?_, ?_⟩
      · rw [List.filterMap_append, List.filterMap_cons_some saves, after, List.map_append,
          story.saved]
        rfl
      · rw [after, List.map_append]
        exact List.nodup_append.mpr ⟨story.fresh, List.nodup_singleton _, by
          intro planId member other new
          rw [List.mem_singleton.mp new]
          rintro rfl
          exact absent member⟩
      · intro other member planId offered
        rcases List.mem_append.mp member with old | new
        · exact story.grow _ other old planId offered
        · rw [List.mem_singleton.mp new] at offered
          cases offered
      · rw [List.filterMap_append]
        exact (List.append_nil _).symm ▸ story.offers

/-- A plan is offered by the thread that saved it, and not again. -/
theorem offering {row : CallbackRow} {answer : ActionAnswer (.insertCallback row)}
    (legal : mayAsk sha256 call ((own log index).filterMap (tokenMark call)) (.insertCallback row))
    (story : PlansStory log state) :
    PlansStory (log ++ [⟨index, call, .insertCallback row, answer⟩])
      (state.effect index (.insertCallback row)) := by
  by_cases approves : row.action = "approve"
  · have marks := legal.2 approves
    have offers : offeredPlan ⟨index, call, .insertCallback row, answer⟩ = some row.reference :=
      if_pos approves
    have shown : TokenMark.saved row.reference ∈ (own log index).filterMap (tokenMark call) := by
      simp [marks]
    rcases shown_by shown with ⟨save, saveIn, same, shows⟩
    have saves := savedPlan_of_shows shows
    have first : row.reference ∉ log.filterMap offeredPlan := by
      intro again
      rcases List.mem_filterMap.mp again with ⟨earlier, there, offered⟩
      rcases story.offered earlier there row.reference offered with
        ⟨other, otherIn, mine, otherSaves⟩
      have one := story.saver_unique otherIn saveIn otherSaves saves
      have again : TokenMark.offered row.reference ∈
          (own log index).filterMap (tokenMark call) := by
        refine List.mem_filterMap.mpr ⟨earlier.exchange, mem_own.mpr ⟨earlier, there, ?_, rfl⟩,
          mark_of_offered offered⟩
        rw [← mine, one, same]
      rw [marks] at again
      simp at again
    refine ⟨?_, story.fresh, ?_, ?_⟩
    · rw [List.filterMap_append]
      exact (List.append_nil _).trans story.saved
    · intro entry member planId offered
      rcases List.mem_append.mp member with old | new
      · exact story.grow _ entry old planId offered
      · rw [List.mem_singleton.mp new] at offered ⊢
        rw [offers] at offered
        cases offered
        exact ⟨save, List.mem_append_left _ saveIn, same, saves⟩
    · rw [List.filterMap_append, List.filterMap_cons_some offers, List.filterMap_nil]
      refine List.nodup_append.mpr ⟨story.offers, List.nodup_singleton _, ?_⟩
      intro planId member other new
      rw [List.mem_singleton.mp new]
      rintro rfl
      exact first member
  · exact story.quiet rfl (if_neg approves) rfl

theorem step
    (legal : mayAsk sha256 call ((own log index).filterMap (tokenMark call)) request)
    (replied : state.reply supply index offer request = some answer)
    (story : PlansStory log state) :
    PlansStory (log ++ [⟨index, call, request, answer⟩]) (state.effect index request) := by
  cases request with
  | savePlan snapshot => exact story.save replied
  | insertCallback row => exact story.offering legal
  | _ => exact story.quiet rfl rfl rfl

end PlansStory

end Step

/-! ## Runs -/

section Runs

variable {remote : RemoteActions} {settings : Settings} {supply : Nat → String}
  {allowed : RemotePool → RemoteAction → Prop} {log : List RemoteEntry} {pool : RemotePool}

/-- What the log and the store of the service show of each other. -/
structure RemoteStory (log : List RemoteEntry) (state : RemoteState) : Prop where
  rows : RowsStory log state
  turns : ∀ hash, TakesTurns hash log state
  plans : PlansStory log state

theorem remoteStory_empty : RemoteStory [] .empty where
  rows := ⟨fun _ _ there => (by cases there), fun _ member => (by cases member),
    fun _ member => (by cases member), fun _ member => (by cases member)⟩
  turns _ := ⟨.free, .start, rfl⟩
  plans := ⟨rfl, List.nodup_nil, fun _ member => (by cases member), List.nodup_nil⟩

theorem RemoteStory.afterCrash {state : RemoteState} (story : RemoteStory log state) :
    RemoteStory log state.afterCrash where
  rows := ⟨story.rows.issued, story.rows.kept, story.rows.found, story.rows.returned⟩
  turns := story.turns
  plans := ⟨story.plans.saved, story.plans.fresh, story.plans.offered, story.plans.offers⟩

/-- The story holds in every run. -/
theorem reachable_tokens
    (reached : (remoteManager remote settings supply).Reachable allowed log pool) :
    RemoteStory log pool.shared := by
  have follows : ∀ call, Follows (tokenObserver remote.authorization.sha256 call).move
      (fun _ _ => True) [] ((remoteManager remote settings supply).body call) :=
    RemoteCall.body_follows
  rcases (Observer.discipline follows).reachable_invariant RemoteStory remoteStory_empty
    (fun log shared index offer label request answer legal replied _ story =>
      ⟨story.rows.step legal replied, fun hash => (story.turns hash).step legal replied,
        story.plans.step legal replied⟩)
    (fun log shared story => story.afterCrash) reached with ⟨_, _, _, story⟩
  exact story

/-- What a thread asks is permitted after what it has learned. -/
theorem reachable_mayAsk
    (reached : (remoteManager remote settings supply).Reachable allowed log pool)
    {before after : List RemoteEntry} {entry : RemoteEntry} (split : log = before ++ entry :: after) :
    mayAsk remote.authorization.sha256 entry.label
      ((own before entry.thread).filterMap (tokenMark entry.label)) entry.request := by
  have follows : ∀ call, Follows (tokenObserver remote.authorization.sha256 call).move
      (fun _ _ => True) [] ((remoteManager remote settings supply).body call) :=
    RemoteCall.body_follows
  exact Observer.reachable_permits follows reached split

end Runs

end FortifyLab.Lifecycle
