import FortifyLab.Redaction.Record

/-! Which credentials a sanitized document still has, and what it tells about the ones it
has lost. -/

namespace FortifyLab.Redaction

/-- Documents that differ only in credentials at whose markers the search looks. -/
inductive Alike : Value → Value → Prop
  | same (value : Value) : Alike value value
  | text {before marker secret secret' after : List Char}
      (credential : Credential marker secret after) (credential' : Credential marker secret' after)
      (reached : Reached before marker secret after)
      (reached' : Reached before marker secret' after) :
      Alike (.str (String.ofList (before ++ (marker ++ (secret ++ after)))))
        (.str (String.ofList (before ++ (marker ++ (secret' ++ after)))))
  | item (front back : List Value) {value value' : Value} (inner : Alike value value') :
      Alike (.arr (front ++ value :: back)) (.arr (front ++ value' :: back))
  | field (front back : List (String × Value)) (key : String) {value value' : Value}
      (inner : Alike value value') :
      Alike (.obj (front ++ (key, value) :: back)) (.obj (front ++ (key, value') :: back))
  | trans {first second third : Value} (left : Alike first second) (right : Alike second third) :
      Alike first third

theorem walkItems_change (front back : List Value) {value value' : Value}
    (same : walk value = walk value') :
    walkItems (front ++ value :: back) = walkItems (front ++ value' :: back) := by
  induction front with
  | nil => simp [walkItems, same]
  | cons head tail ih => simp [walkItems, ih]

theorem walkFields_change (front back : List (String × Value)) (key : String)
    {value value' : Value} (same : walk value = walk value') :
    walkFields (front ++ (key, value) :: back) = walkFields (front ++ (key, value') :: back) := by
  induction front with
  | nil => simp [walkFields, same]
  | cons head tail ih => simp [walkFields, ih]

theorem Alike.walk {value value' : Value} (alike : Alike value value') :
    Redaction.walk value = Redaction.walk value' := by
  induction alike with
  | same value => rfl
  | text credential credential' reached reached' =>
      have same := redactText_same credential credential' reached reached'
      have changed := bne_iff_ne.mpr (credential.changes reached)
      have changed' := bne_iff_ne.mpr (credential'.changes reached')
      unfold Redaction.walk
      rw [if_pos changed, if_pos changed', same]
  | item front back inner ih => simp [Redaction.walk, walkItems_change front back ih]
  | field front back key inner ih => simp [Redaction.walk, walkFields_change front back key ih]
  | trans left right ih ih' => exact ih.trans ih'

/-- Such documents with the same listed redactions have the same copy. -/
theorem sanitizeRecord_alike {document document' : List (String × Value)}
    (alike : Alike (.obj document) (.obj document'))
    (listed : document.lookup "redactions" = document'.lookup "redactions") :
    sanitizeRecord document = sanitizeRecord document' := by
  have walked : walkFields document = walkFields document' := by
    have both := alike.walk
    simp only [walk, Prod.mk.injEq, Value.obj.injEq] at both
    exact Prod.ext both.1 both.2
  unfold sanitizeRecord
  rw [listed, walked]

theorem sanitizeRecord_message {text clean : String} (same : redactText text = clean) :
    sanitizeRecord [("message", .str text)] = .ok [("message", .str clean)] := by
  have plain : isSensitiveKey "message" = false := by decide +kernel
  have walked : ∃ marks, walkFields [("message", .str text)] =
      ([("message", .str clean)], marks) := by
    simp [walkFields, walk, plain, same]
  rcases walked with ⟨marks, walked⟩
  simp only [sanitizeRecord, walked]
  rfl

end FortifyLab.Redaction
