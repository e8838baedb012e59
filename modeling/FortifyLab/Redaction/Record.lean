import FortifyLab.Library.Value
import FortifyLab.Redaction.Overlap

/-! The record store's deep copy of a document without its credentials. -/

namespace FortifyLab

namespace Redaction

open Regex

/-- `private.?key`. -/
def privateKeyName : Regex :=
  .seq (word fold "private".toList) (.seq (optional (.one (fun character => character != '\n')))
    (word fold "key".toList))

/-- `SENSITIVE_KEY`. -/
def sensitiveKey : Regex :=
  .alt (words fold ["password".toList, "passwd".toList, "secret".toList, "token".toList,
      "credential".toList, "license".toList])
    (.alt privateKeyName (words fold ["authorization".toList, "cookie".toList]))

def isSensitiveKey (key : String) : Bool := sensitiveKey.search none key.toList

/-! ## Sets of JSON values -/

inductive TypeError where
  | unhashable
  | notIterable
  | notComparable
  deriving DecidableEq, Repr

def hashable : Value → Bool
  | .arr _ => false
  | .obj _ => false
  | _ => true

def setAdd (set : List Value) (item : Value) : List Value :=
  if set.any (item.same ·) then set else set ++ [item]

/-- `set(value)`; a text gives its characters and an object its keys. -/
def setOf : Value → Except TypeError (List Value)
  | .arr items =>
      if items.all hashable then .ok (items.foldl setAdd []) else .error .unhashable
  | .str text => .ok ((text.toList.map (fun head => .str head.toString)).foldl setAdd [])
  | .obj fields => .ok ((fields.map (fun field => .str field.1)).foldl setAdd [])
  | _ => .error .notIterable

def isString : Value → Bool
  | .str _ => true
  | _ => false

/-- `<=` of two texts or two numbers. -/
def atMost : Value → Value → Bool
  | .str left, .str right => decide (¬ right < left)
  | left, right =>
      match left.number, right.number with
      | some first, some second => decide (first ≤ second)
      | _, _ => false

/-- `sorted(values)`. -/
def sorted (values : List Value) : Except TypeError (List Value) :=
  if values.length ≤ 1 then .ok values
  else if values.all isString || values.all (fun value => value.number.isSome) then
    .ok (values.mergeSort atMost)
  else .error .notComparable

/-! ## The copy -/

mutual

/-- `walk`: the copy, and what it adds to the redactions. -/
def walk : Value → Value × List Value
  | .obj fields => (.obj (walkFields fields).1, (walkFields fields).2)
  | .arr items => (.arr (walkItems items).1, (walkItems items).2)
  | .str text =>
      (.str (redactText text),
        if redactText text != text then [.str "credential", .str "path"] else [])
  | .null => (.null, [])
  | .bool value => (.bool value, [])
  | .int value => (.int value, [])
  | .float value => (.float value, [])

def walkFields : List (String × Value) → List (String × Value) × List Value
  | [] => ([], [])
  | (key, child) :: rest =>
      if isSensitiveKey key then ((walkFields rest).1, .str "credential" :: (walkFields rest).2)
      else ((key, (walk child).1) :: (walkFields rest).1, (walk child).2 ++ (walkFields rest).2)

def walkItems : List Value → List Value × List Value
  | [] => ([], [])
  | item :: rest =>
      ((walk item).1 :: (walkItems rest).1, (walk item).2 ++ (walkItems rest).2)

end

/-- `clean[key] = value`. -/
def setField (fields : List (String × Value)) (key : String) (value : Value) :
    List (String × Value) :=
  match fields with
  | [] => [(key, value)]
  | field :: rest =>
      if field.1 = key then (key, value) :: rest else field :: setField rest key value

/-- `sanitize_record`. -/
def sanitizeRecord (document : List (String × Value)) :
    Except TypeError (List (String × Value)) := do
  let redactions ← setOf ((document.lookup "redactions").getD (.arr []))
  let walked := walkFields document
  let all := walked.2.foldl setAdd redactions
  if ((walked.1.lookup "kind").any (·.isText "SanitizedTrace")) then do
    let listed ← sorted all
    pure (setField (setField walked.1 "sanitized" (.bool true)) "redactions" (.arr listed))
  else pure walked.1

/-! ## Places in a document -/

inductive Step where
  | field (key : String)
  | item (index : Nat)
  deriving DecidableEq, Repr

def child : Value → Step → Option Value
  | .obj fields, .field key => fields.lookup key
  | .arr items, .item index => items[index]?
  | _, _ => none

/-- The value at a path. -/
def valueAt (value : Value) : List Step → Option Value
  | [] => some value
  | step :: rest => (child value step).bind (fun inner => valueAt inner rest)

def Step.visible : Step → Bool
  | .field key => !isSensitiveKey key
  | .item _ => true

theorem walkFields_lookup (fields : List (String × Value)) {key : String}
    (visible : isSensitiveKey key = false) :
    (walkFields fields).1.lookup key = (fields.lookup key).map (fun value => (walk value).1) := by
  induction fields with
  | nil => rfl
  | cons field rest ih =>
      rcases field with ⟨name, value⟩
      unfold walkFields
      by_cases same : key = name
      · subst same
        simp [visible]
      · have other : (key == name) = false := beq_false_of_ne same
        by_cases sensitive : isSensitiveKey name
        · simp [sensitive, List.lookup_cons, other, ih]
        · simp [sensitive, List.lookup_cons, other, ih]

theorem walkItems_getElem (items : List Value) (index : Nat) :
    (walkItems items).1[index]? = items[index]?.map (fun value => (walk value).1) := by
  induction items generalizing index with
  | nil => rfl
  | cons item rest ih =>
      unfold walkItems
      cases index with
      | zero => rfl
      | succ index => simpa using ih index

theorem walk_child (value : Value) {step : Step} (visible : step.visible) :
    child (walk value).1 step = (child value step).map (fun inner => (walk inner).1) := by
  cases value with
  | obj fields =>
      cases step with
      | field key => exact walkFields_lookup fields (by simpa [Step.visible] using visible)
      | item index => rfl
  | arr items =>
      cases step with
      | field key => rfl
      | item index => exact walkItems_getElem items index
  | null => rfl
  | bool value => rfl
  | int value => rfl
  | float value => rfl
  | str text => rfl

/-- The copy has, at every place not under a sensitive key, the copy of the value there. -/
theorem walk_valueAt (path : List Step) (value : Value) (visible : ∀ step ∈ path, step.visible) :
    valueAt (walk value).1 path = (valueAt value path).map (fun inner => (walk inner).1) := by
  induction path generalizing value with
  | nil => rfl
  | cons step rest ih =>
      unfold valueAt
      rw [walk_child value (visible step List.mem_cons_self)]
      cases child value step with
      | none => rfl
      | some inner => exact ih inner (fun other member => visible other (List.mem_cons_of_mem _ member))

/-! ## The fields of a trace -/

def IsTrace (document : List (String × Value)) : Prop :=
  document.lookup "kind" = some (.str "SanitizedTrace")

/-- The place is one of the two fields a trace gets anew. -/
def Overwritten (document : List (String × Value)) (path : List Step) : Prop :=
  IsTrace document ∧
    (path.head? = some (.field "sanitized") ∨ path.head? = some (.field "redactions"))

theorem setField_lookup (fields : List (String × Value)) (key other : String) (value : Value) :
    (setField fields key value).lookup other =
      if other = key then some value else fields.lookup other := by
  induction fields with
  | nil =>
      by_cases same : other = key
      · simp [setField, same]
      · have apart : (other == key) = false := beq_false_of_ne same
        simp [setField, same, List.lookup_cons, apart]
  | cons field rest ih =>
      rcases field with ⟨name, old⟩
      by_cases found : name = key
      · subst found
        by_cases same : other = name
        · simp [setField, same]
        · have apart : (other == name) = false := beq_false_of_ne same
          simp [setField, same, List.lookup_cons, apart]
      · by_cases same : other = name
        · subst same
          simp [setField, found]
        · have apart : (other == name) = false := beq_false_of_ne same
          simp [setField, found, List.lookup_cons, apart, ih]

/-- A changed text has the replacement in it. -/
theorem redactText_eq_or_mem (text : String) :
    redactText text = text ∨ '[' ∈ (redactText text).toList := by
  unfold redactText
  rcases quiet_or_inserted sensitiveText_starts.nonempty text.toList none with quiet | inserted
  · left
    unfold sub
    rw [quiet, List.flatMap_map]
    have kept : text.toList.flatMap (fun character => Piece.text redacted (.kept character)) =
        text.toList := by simp [Piece.text]
    rw [kept, String.ofList_toList]
  · right
    rw [String.toList_ofList]
    exact List.mem_flatMap.mpr ⟨.inserted, inserted, by decide⟩

/-- The copy is a trace exactly when the document is. -/
theorem walked_kind (document : List (String × Value)) :
    ((walkFields document).1.lookup "kind").any (·.isText "SanitizedTrace") = true ↔
      IsTrace document := by
  have plain : isSensitiveKey "kind" = false := by decide +kernel
  rw [walkFields_lookup document plain, IsTrace]
  cases found : document.lookup "kind" with
  | none => simp
  | some value =>
      cases value with
      | str text =>
          rcases redactText_eq_or_mem text with same | inserted
          · simp [walk, Value.isText, same]
          · have other : redactText text ≠ "SanitizedTrace" := by
              intro same
              rw [same] at inserted
              exact absurd inserted (by decide)
            have source : text ≠ "SanitizedTrace" := by
              intro same
              subst same
              exact other (by decide +kernel)
            simp [walk, Value.isText, other, source]
      | null => simp [walk, Value.isText]
      | bool value => simp [walk, Value.isText]
      | int value => simp [walk, Value.isText]
      | float value => simp [walk, Value.isText]
      | arr items => simp [walk, Value.isText]
      | obj fields => simp [walk, Value.isText]

theorem valueAt_obj (fields : List (String × Value)) (step : Step) (rest : List Step) :
    valueAt (.obj fields) (step :: rest) =
      match step with
      | .field key => (fields.lookup key).bind (fun inner => valueAt inner rest)
      | .item _ => none := by
  cases step with
  | field key => rfl
  | item index => rfl

/-- What a successful call returns. -/
theorem sanitizeRecord_ok {document output : List (String × Value)}
    (sanitized : sanitizeRecord document = .ok output) :
    ∃ redactions, setOf ((document.lookup "redactions").getD (.arr [])) = .ok redactions ∧
      ((IsTrace document ∧ ∃ listed,
          sorted ((walkFields document).2.foldl setAdd redactions) = .ok listed ∧
          output = setField (setField (walkFields document).1 "sanitized" (.bool true))
            "redactions" (.arr listed)) ∨
        (¬ IsTrace document ∧ output = (walkFields document).1)) := by
  unfold sanitizeRecord at sanitized
  cases set : setOf ((document.lookup "redactions").getD (.arr [])) with
  | error problem =>
      rw [set] at sanitized
      cases sanitized
  | ok redactions =>
      rw [set] at sanitized
      simp only [bind, Except.bind] at sanitized
      refine ⟨redactions, rfl, ?_⟩
      split at sanitized
      · rename_i kind
        left
        refine ⟨(walked_kind document).mp kind, ?_⟩
        cases order : sorted ((walkFields document).2.foldl setAdd redactions) with
        | error problem =>
            rw [order] at sanitized
            cases sanitized
        | ok listed =>
            rw [order] at sanitized
            cases sanitized
            exact ⟨listed, rfl, rfl⟩
      · rename_i kind
        cases sanitized
        exact .inr ⟨mt (walked_kind document).mpr kind, rfl⟩

/-- The output has the redaction of every visible text, the fields a trace gets anew
apart. -/
theorem sanitizeRecord_valueAt {document output : List (String × Value)} {path : List Step}
    {text : String} (sanitized : sanitizeRecord document = .ok output)
    (visible : ∀ step ∈ path, step.visible) (apart : ¬ Overwritten document path)
    (found : valueAt (.obj document) path = some (.str text)) :
    valueAt (.obj output) path = some (.str (redactText text)) := by
  have walked : valueAt (.obj (walkFields document).1) path = some (.str (redactText text)) := by
    have copied := walk_valueAt path (.obj document) visible
    rw [found] at copied
    simpa [walk] using copied
  rcases sanitizeRecord_ok sanitized with ⟨redactions, _, ⟨trace, listed, _, rfl⟩ | ⟨_, rfl⟩⟩
  · cases path with
    | nil => cases found
    | cons step rest =>
        rw [valueAt_obj] at walked ⊢
        cases step with
        | item index => cases walked
        | field key =>
            have first : key ≠ "redactions" := by
              intro same
              subst same
              exact apart ⟨trace, .inr rfl⟩
            have second : key ≠ "sanitized" := by
              intro same
              subst same
              exact apart ⟨trace, .inl rfl⟩
            simpa [setField_lookup, first, second] using walked
  · exact walked

theorem mem_setAdd (set : List Value) (item : Value) {text : String}
    (member : .str text ∈ set ∨ item = .str text) : .str text ∈ setAdd set item := by
  unfold setAdd
  by_cases present : set.any (item.same ·)
  · rw [if_pos present]
    rcases member with old | rfl
    · exact old
    · rcases List.any_eq_true.mp present with ⟨other, inside, same⟩
      cases other with
      | str word =>
          have equal : text = word := by simpa [Value.same] using same
          rw [equal]
          exact inside
      | null => simp [Value.same, Value.number] at same
      | bool value => simp [Value.same, Value.number] at same
      | int value => simp [Value.same, Value.number] at same
      | float value => simp [Value.same, Value.number] at same
      | arr items => simp [Value.same, Value.number] at same
      | obj fields => simp [Value.same, Value.number] at same
  · rw [if_neg present]
    rcases member with old | rfl
    · exact List.mem_append_left _ old
    · simp

theorem mem_foldl_setAdd (items set : List Value) {text : String}
    (member : .str text ∈ set ∨ .str text ∈ items) : .str text ∈ items.foldl setAdd set := by
  induction items generalizing set with
  | nil => simpa using member
  | cons item rest ih =>
      apply ih
      rcases member with old | listed
      · exact .inl (mem_setAdd set item (.inl old))
      · rcases List.mem_cons.mp listed with same | later
        · exact .inl (mem_setAdd set item (.inr same.symm))
        · exact .inr later

theorem mem_sorted {values listed : List Value} (order : sorted values = .ok listed)
    {value : Value} (member : value ∈ values) : value ∈ listed := by
  unfold sorted at order
  split at order
  · cases order
    exact member
  · split at order
    · cases order
      exact List.mem_mergeSort.mpr member
    · cases order

/-- The texts a trace lists as its redactions are in the output as they were. -/
theorem sanitizeRecord_copies {document output : List (String × Value)} {index : Nat}
    {text : String} (sanitized : sanitizeRecord document = .ok output) (trace : IsTrace document)
    (found : valueAt (.obj document) [.field "redactions", .item index] = some (.str text)) :
    ∃ index', valueAt (.obj output) [.field "redactions", .item index'] = some (.str text) := by
  have listed : ∃ texts, document.lookup "redactions" = some (.arr texts) ∧ .str text ∈ texts := by
    cases field : document.lookup "redactions" with
    | none => simp [valueAt, child, field] at found
    | some value =>
        cases value with
        | arr texts =>
            have inside : texts[index]? = some (.str text) := by
              simpa [valueAt, child, field] using found
            exact ⟨texts, rfl, List.mem_of_getElem? inside⟩
        | null => simp [valueAt, child, field] at found
        | bool value => simp [valueAt, child, field] at found
        | int value => simp [valueAt, child, field] at found
        | float value => simp [valueAt, child, field] at found
        | str text => simp [valueAt, child, field] at found
        | obj fields => simp [valueAt, child, field] at found
  rcases listed with ⟨texts, listed, member⟩
  rcases sanitizeRecord_ok sanitized with ⟨redactions, set, ⟨_, order, sortedOk, rfl⟩ | ⟨other, _⟩⟩
  · have inSet : .str text ∈ redactions := by
      rw [listed] at set
      simp only [Option.getD_some, setOf] at set
      split at set
      · cases set
        exact mem_foldl_setAdd texts [] (.inr member)
      · cases set
    have inOrder := mem_sorted sortedOk (mem_foldl_setAdd _ _ (.inl inSet))
    rcases List.mem_iff_getElem?.mp inOrder with ⟨index, found⟩
    refine ⟨index, ?_⟩
    rw [valueAt_obj]
    simp [setField_lookup, valueAt, child, found]
  · exact absurd trace other

end Redaction

end FortifyLab
