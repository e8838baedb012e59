import FortifyLab.Communications.ReadModel

/-! When read commands answer, and when their pages stay those of the command. -/

namespace FortifyLab.Communications

namespace ReadModelService

/-! ## Messages -/

theorem joined_bounded {title : String} (some : title ≠ "") (rest : List String) :
    joined (title :: rest) ≠ "" ∧ (joined (title :: rest)).length ≤ maxMessage := by
  constructor
  · obtain ⟨first, others, split⟩ : ∃ first others, title.toList = first :: others := by
      cases characters : title.toList with
      | nil => exact absurd (String.toList_eq_nil_iff.mp characters) some
      | cons first others => exact ⟨first, others, rfl⟩
    have joins : ∃ tail, List.intercalate ['\n'] ((title :: rest).map String.toList) =
        first :: tail := by
      cases rest with
      | nil => exact ⟨others, by simp [split]⟩
      | cons next rest => exact ⟨_, by simp [split]; rfl⟩
    obtain ⟨tail, joins⟩ := joins
    rw [joined, joins]
    simp [maxMessage]
  · simp [joined]

/-! ## Pages -/

theorem turn_ok {label : String} {kind : CommandKind} {offered : Bool} {page : Nat}
    (inRange : offered = true → 1 ≤ page ∧ page ≤ 1000) :
    ∃ actions, turn label kind offered page = .ok actions ∧
      (actions ≠ [] ↔ offered = true) ∧ actions.length ≤ 1 ∧
      ∀ action ∈ actions, action.label = label ∧ action.command.kind = kind ∧
        action.command.component = none := by
  cases offered with
  | false => exact ⟨[], rfl, by simp⟩
  | true =>
      have bounds := inRange rfl
      refine ⟨[⟨label, ⟨kind, page, none, bounds, by simp⟩⟩], ?_, by simp⟩
      simp [turn, readCommand, bounds]

theorem turn_error {label : String} {kind : CommandKind} {page : Nat} (beyond : 1000 < page) :
    turn label kind true page = .error .valueError := by
  have outside : ¬ (1 ≤ page ∧ page ≤ 1000) := by omega
  simp [turn, readCommand, outside]

theorem hasPrevious_lt {document : Value} {page : Nat}
    (previous : hasPrevious document page = true) : 1 < page := by
  unfold hasPrevious at previous
  split at previous
  · simp only [Bool.and_eq_true, decide_eq_true_eq] at previous
    exact previous.2
  · cases previous

theorem pagination_ok {kind : CommandKind} {document : Value} {page : Nat}
    (inRange : 1 ≤ page ∧ page ≤ 1000) (more : hasNext document = true → page ≠ 1000) :
    ∃ actions, pagination kind document page = .ok actions ∧
      (actions ≠ [] ↔ hasPrevious document page = true ∨ hasNext document = true) ∧
      actions.length ≤ 2 ∧
      ∀ action ∈ actions, (action.label = "← Previous" ∨ action.label = "Next →") ∧
        action.command.kind = kind ∧ action.command.component = none := by
  obtain ⟨previous, first, offered, short, named⟩ := @turn_ok "← Previous" kind
    (hasPrevious document page) (page - 1) (fun there => by
      have after := hasPrevious_lt there
      omega)
  obtain ⟨next, second, offered', short', named'⟩ := @turn_ok "Next →" kind
    (hasNext document) (page + 1) (fun there => by
      have before := more there
      omega)
  refine ⟨previous ++ next, ?_, ?_, ?_, ?_⟩
  · simp [pagination, first, second, bind_ok]
  · rw [← offered, ← offered', ne_eq, List.append_eq_nil_iff, not_and_or]
  · rw [List.length_append]
    omega
  · intro action member
    rcases List.mem_append.mp member with before | after
    · have parts := named action before
      exact ⟨.inl parts.1, parts.2⟩
    · have parts := named' action after
      exact ⟨.inr parts.1, parts.2⟩

theorem pagination_error {kind : CommandKind} {document : Value} {page : Nat}
    (next : hasNext document = true) (last : page = 1000) :
    pagination kind document page = .error .valueError := by
  obtain ⟨previous, first, _⟩ := @turn_ok "← Previous" kind
    (hasPrevious document page) (page - 1) (fun _ => by omega)
  have second : turn "Next →" kind true (page + 1) = .error .valueError :=
    turn_error (by omega)
  rw [pagination, first, next, second]
  rfl

/-! ## Renderers -/

/-- The kinds of commands whose answers have pages. -/
def paged (kind : CommandKind) : Bool :=
  match kind with
  | .summary => false
  | .help => false
  | _ => true

section

variable (service : ReadModelService) {document : Value} {command : ReadCommand}

theorem listing_pages {entries : List Value} (listed : items document = .ok entries)
    (kind : CommandKind) (title empty key : String) (lines : Value → List String) :
    ∃ rest, service.listing kind title empty key lines document command =
      (pagination kind document command.page >>= fun actions =>
        message (joined (title :: rest)) actions (some key)) := by
  refine ⟨[service.freshness document] ++ (if entries.isEmpty then [empty] else []) ++
    entries.flatMap lines ++ [service.link kind], ?_⟩
  simp only [listing, listed]
  rfl

theorem health_pages {entries : List Value} (listed : items document = .ok entries)
    (kind : command.kind = .health) :
    ∃ title rest key, title ≠ "" ∧ service.renderer document command =
      (pagination .health document command.page >>= fun actions =>
        message (joined (title :: rest)) actions key) := by
  simp only [renderer, kind, health, listed]
  exact ⟨"Dependency-aware health", _, some "lab:health", by decide, rfl⟩

/-- A renderer with pages makes a message of the pages that the manager offers. -/
theorem renderer_pages {entries : List Value} (listed : items document = .ok entries)
    (pages : paged command.kind = true) :
    ∃ title rest key, title ≠ "" ∧ service.renderer document command =
      (pagination command.kind document command.page >>= fun actions =>
        message (joined (title :: rest)) actions key) := by
  cases kind : command.kind with
  | summary => simp [kind, paged] at pages
  | help => simp [kind, paged] at pages
  | health =>
      exact health_pages service listed kind
  | preflight =>
      obtain ⟨rest, same⟩ := @listing_pages service _ command _ listed .preflight
        "Latest deployment preflight" "No preflight result is available." "lab:preflight" _
      refine ⟨"Latest deployment preflight", rest, some "lab:preflight", by decide, ?_⟩
      simp only [renderer, kind, preflight]
      exact same
  | incidents =>
      obtain ⟨rest, same⟩ := @listing_pages service _ command _ listed .incidents
        "Manager incidents" "No incidents on this page." "lab:incidents" _
      refine ⟨"Manager incidents", rest, some "lab:incidents", by decide, ?_⟩
      simp only [renderer, kind, incidents]
      exact same
  | history =>
      obtain ⟨rest, same⟩ := @listing_pages service _ command _ listed .history
        "Recent manager history" "No history on this page." "lab:history" _
      refine ⟨"Recent manager history", rest, some "lab:history", by decide, ?_⟩
      simp only [renderer, kind, history]
      exact same

theorem renderer_summary {entries : List Value} (listed : items document = .ok entries)
    (kind : command.kind = .summary) :
    ∃ answer, service.renderer document command = .ok answer ∧
      answer.actions = [⟨"Health", plainCommand .health⟩, ⟨"Preflight", plainCommand .preflight⟩,
        ⟨"Incidents", plainCommand .incidents⟩, ⟨"History", plainCommand .history⟩] := by
  have bounded := @joined_bounded "Fortify Lab summary" (by decide)
    ([service.freshness document] ++ entries.map (fun item =>
      service.safeText (field item "displayName" (field item "id" (.str "Component"))) 80 ++
        ": " ++ service.safeText (field item "status" (.str "unknown")) 32) ++
      [service.link .summary])
  refine ⟨⟨_, _, some "lab:summary", bounded, by simp⟩, ?_, rfl⟩
  simp only [renderer, kind, summary, listed]
  exact message_ok bounded (by simp)

end

/-! ## What a command answers -/

/-- The command answers with a message whose actions fit into callbacks, and whose pages are those
of the command. -/
def Answers (service : ReadModelService) (command : ReadCommand)
    (fields : List (String × Value)) : Prop :=
  ∃ answer, service.execute (.document fields) command = .ok answer ∧
    (∀ action ∈ answer.actions, ∃ text, encodeCallback action.command = .ok text ∧
      encodedSize text ≤ 64) ∧
    ∀ action ∈ answer.actions, action.label = "← Previous" ∨ action.label = "Next →" →
      action.command.kind = command.kind ∧ action.command.component = command.component

/-- The manager's document has no items, or a list of them. -/
def listed (document : Value) : Bool := (items document).isOk

/-- The pages that the manager offers can be turned to without losing the command. -/
def Turnable (command : ReadCommand) (document : Value) : Prop :=
  ¬ (hasNext document = true ∧ command.page = 1000) ∧
    (command.component = none ∨
      ¬ (hasPrevious document command.page = true ∨ hasNext document = true))

section

variable (service : ReadModelService) {command : ReadCommand} {fields : List (String × Value)}

theorem execute_document (kind : command.kind ≠ .help) {answer : Message}
    (rendered : service.renderer (.obj fields) command = .ok answer) :
    service.execute (.document fields) command = .ok answer := by
  simp only [execute, kind, if_false, rendered]

theorem answers_quiet {answer : Message} (ran : service.execute (.document fields) command =
    .ok answer) (quiet : answer.actions = []) : service.Answers command fields :=
  ⟨answer, ran, by simp [quiet], by simp [quiet]⟩

theorem message_quiet {text : String} (bounded : text ≠ "" ∧ text.length ≤ maxMessage) :
    ∃ answer, message text [] none = .ok answer ∧ answer.actions = [] :=
  ⟨_, message_ok bounded (by simp), rfl⟩

theorem append_ne_empty {left right : String} (some : 0 < right.length) : left ++ right ≠ "" := by
  intro empty
  have none := congrArg String.length empty
  rw [String.length_append] at none
  exact absurd none (by change _ ≠ 0; omega)

theorem help_ok : ∃ answer, help = .ok answer ∧ answer.actions = [] := by
  apply message_quiet
  constructor
  · exact append_ne_empty (by decide +kernel)
  · simp only [String.length_append]
    decide +kernel

theorem unavailable_ok : ∃ answer, unavailableMessage = .ok answer ∧ answer.actions = [] := by
  apply message_quiet
  constructor
  · exact append_ne_empty (by decide +kernel)
  · simp only [String.length_append]
    decide +kernel

theorem answers_help (kind : command.kind = .help) : service.Answers command fields := by
  obtain ⟨answer, told, quiet⟩ := help_ok
  exact answers_quiet service (by rw [execute, if_pos kind, told]) quiet

theorem items_error {document : Value} (other : listed document = false) :
    items document = .error .responseInvalid := by
  unfold listed items at other
  unfold items
  split at other
  · cases other
  · rfl

theorem answers_unlisted (other : listed (.obj fields) = false) :
    service.Answers command fields := by
  have failed := items_error other
  by_cases helps : command.kind = .help
  · exact answers_help service helps
  · have stops : ∀ rest : List Value → Except Raised Message,
        (items (.obj fields) >>= rest) = .error .responseInvalid := by
      intro rest
      rw [failed]
      rfl
    have refused : service.renderer (.obj fields) command = .error .responseInvalid := by
      rw [renderer]
      cases kind : command.kind with
      | help => exact absurd kind helps
      | summary => exact stops _
      | health => exact stops _
      | preflight => exact stops _
      | incidents => exact stops _
      | history => exact stops _
    obtain ⟨answer, told, quiet⟩ := unavailable_ok
    refine answers_quiet service ?_ quiet
    simp only [execute, helps, if_false, refused, told]

theorem answers_summary (list : listed (.obj fields) = true) (kind : command.kind = .summary) :
    service.Answers command fields := by
  obtain ⟨entries, found⟩ : ∃ entries, items (.obj fields) = .ok entries := by
    cases found : items (.obj fields) with
    | ok entries => exact ⟨entries, rfl⟩
    | error error => simp [listed, found, Except.isOk, Except.toBool] at list
  obtain ⟨answer, rendered, actions⟩ := renderer_summary service found kind
  refine ⟨answer, execute_document service (by simp [kind]) rendered, ?_, ?_⟩
  · intro action member
    refine encodeCallback_ok ?_
    rw [actions] at member
    simp only [List.mem_cons, List.not_mem_nil, or_false] at member
    rcases member with rfl | rfl | rfl | rfl <;> rfl
  · intro action member label
    rw [actions] at member
    simp only [List.mem_cons, List.not_mem_nil, or_false] at member
    rcases member with rfl | rfl | rfl | rfl <;> simp at label

/-- A command with pages answers exactly when the pages that are offered can be turned to. -/
theorem answers_paged_iff (list : listed (.obj fields) = true)
    (pages : paged command.kind = true) :
    service.Answers command fields ↔ Turnable command (.obj fields) := by
  obtain ⟨entries, found⟩ : ∃ entries, items (.obj fields) = .ok entries := by
    cases found : items (.obj fields) with
    | ok entries => exact ⟨entries, rfl⟩
    | error error => simp [listed, found, Except.isOk, Except.toBool] at list
  have helps : command.kind ≠ .help := by
    intro kind
    simp [kind, paged] at pages
  obtain ⟨title, rest, key, some, rendered⟩ := renderer_pages service found pages
  by_cases last : hasNext (.obj fields) = true ∧ command.page = 1000
  · have fails : service.execute (.document fields) command = .error .valueError := by
      rw [pagination_error last.1 last.2] at rendered
      simp only [execute, helps, if_false, rendered]
      rfl
    constructor
    · intro answers
      obtain ⟨answer, ran, _⟩ := answers
      rw [fails] at ran
      cases ran
    · intro turnable
      exact absurd last turnable.1
  · obtain ⟨actions, turned, offered, short, named⟩ := @pagination_ok command.kind (.obj fields)
      command.page command.inRange (fun next same => last ⟨next, same⟩)
    have made : message (joined (title :: rest)) actions key =
        .ok ⟨_, actions, key, joined_bounded some rest, by omega⟩ :=
      message_ok (joined_bounded some rest) (by omega)
    have ran := @execute_document service _ fields helps
      ⟨_, actions, key, joined_bounded some rest, by omega⟩ (by
        rw [rendered, turned]
        exact made)
    constructor
    · intro answers
      obtain ⟨answer, again, _, kept⟩ := answers
      rw [ran, Except.ok.injEq] at again
      subst again
      refine ⟨last, or_iff_not_imp_left.mpr (fun filtered more => ?_)⟩
      obtain ⟨action, member⟩ := List.exists_mem_of_ne_nil _ (offered.mpr more)
      have parts := named action member
      exact filtered ((kept action member parts.1).2.symm.trans parts.2.2)
    · intro turnable
      refine ⟨_, ran, fun action member => encodeCallback_ok (named action member).2.2,
        fun action member _ => ⟨(named action member).2.1, ?_⟩⟩
      have bare : command.component = none := by
        rcases turnable.2 with bare | none
        · exact bare
        · exact absurd (offered.mp (List.ne_nil_of_mem member)) none
      rw [(named action member).2.2, bare]

end

def sampleService : ReadModelService where
  render _ := ""
  isWord character := character.isAlphanum || character == '_'
  webBase := "https://lab.example.test"

def offersNext : List (String × Value) := [("pagination", .obj [("hasNext", .bool true)])]

end ReadModelService

end FortifyLab.Communications
