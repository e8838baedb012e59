import Mathlib.Data.List.Basic

/-! Entries written one after the other, each with a header that can be read off and perhaps a
content, which is ended by a byte that it may hold itself. Two lists of entries are written alike
only where a content of one swallows entries of the other. -/

namespace FortifyLab

structure Framing (Entry Byte : Type) where
  header : Entry → List Byte
  content : Entry → Option (List Byte)
  stop : Byte

namespace Framing

variable {Entry Byte : Type} (framing : Framing Entry Byte)

/-- A content and the byte that ends it. -/
def ended : Option (List Byte) → List Byte
  | some content => content ++ [framing.stop]
  | none => []

def record (entry : Entry) : List Byte := framing.header entry ++ framing.ended (framing.content entry)

def written (entries : List Entry) : List Byte := entries.flatMap framing.record

/-- Headers can be read off, they tell whether a content follows, and with it they are the entry. -/
structure Legible (valid : Entry → Prop) : Prop where
  headed : ∀ entry, framing.header entry ≠ []
  reads : ∀ entry other rest rest', valid entry → valid other →
    framing.header entry ++ rest = framing.header other ++ rest' →
    framing.header entry = framing.header other ∧ rest = rest'
  kinds : ∀ entry other, valid entry → valid other → framing.header entry = framing.header other →
    (framing.content entry).isSome = (framing.content other).isSome
  entries : ∀ entry other, valid entry → valid other → framing.header entry = framing.header other →
    framing.content entry = framing.content other → entry = other

/-- After equal entries, a content of the first list holds the content of the same entry in the
second list, the byte that ends it, and what is written of the entries after it. -/
def Swallows (entries others : List Entry) : Prop :=
  ∃ common entry rest other rest' content extra,
    entries = common ++ entry :: rest ∧ others = common ++ other :: rest' ∧
      framing.header entry = framing.header other ∧ framing.content other = some content ∧
      framing.content entry = some (content ++ framing.stop :: extra) ∧
      framing.written rest' = extra ++ framing.stop :: framing.written rest

variable {framing} {valid : Entry → Prop}

@[simp] theorem written_nil : framing.written [] = [] := rfl

@[simp] theorem written_cons (entry : Entry) (rest : List Entry) :
    framing.written (entry :: rest) =
      framing.header entry ++ (framing.ended (framing.content entry) ++ framing.written rest) := by
  simp [written, record]

@[simp] theorem written_append (entries others : List Entry) :
    framing.written (entries ++ others) = framing.written entries ++ framing.written others := by
  simp [written]

/-- Of two contents that are ended alike one goes on where the other ends. -/
theorem ended_split {content other rest rest' : List Byte} {stop : Byte}
    (alike : content ++ stop :: rest = other ++ stop :: rest') :
    content = other ∧ rest = rest' ∨
      (∃ extra, content = other ++ stop :: extra ∧ rest' = extra ++ stop :: rest) ∨
      ∃ extra, other = content ++ stop :: extra ∧ rest = extra ++ stop :: rest' := by
  rcases List.append_eq_append_iff.mp alike with ⟨more, longer, tail⟩ | ⟨more, longer, tail⟩
  · cases more with
    | nil =>
        simp only [List.append_nil] at longer
        simp only [List.nil_append, List.cons.injEq, true_and] at tail
        exact .inl ⟨longer.symm, tail⟩
    | cons first extra =>
        simp only [List.cons_append, List.cons.injEq] at tail
        rw [← tail.1] at longer
        exact .inr (.inr ⟨extra, longer, tail.2⟩)
  · cases more with
    | nil =>
        simp only [List.append_nil] at longer
        simp only [List.nil_append, List.cons.injEq, true_and] at tail
        exact .inl ⟨longer, tail.symm⟩
    | cons first extra =>
        simp only [List.cons_append, List.cons.injEq] at tail
        rw [← tail.1] at longer
        exact .inr (.inl ⟨extra, longer, tail.2⟩)

/-- Texts without the byte that ends them are told apart by it. -/
theorem field_split {field other rest rest' : List Byte} {stop : Byte} (plain : stop ∉ field)
    (also : stop ∉ other) (alike : field ++ stop :: rest = other ++ stop :: rest') :
    field = other ∧ rest = rest' := by
  rcases ended_split alike with same | ⟨extra, rfl, _⟩ | ⟨extra, rfl, _⟩
  · exact same
  · simp at plain
  · simp at also

theorem Swallows.cons {entries others : List Entry} (entry : Entry)
    (swallows : framing.Swallows entries others) :
    framing.Swallows (entry :: entries) (entry :: others) := by
  obtain ⟨common, first, rest, other, rest', content, extra, rfl, rfl, same⟩ := swallows
  exact ⟨entry :: common, first, rest, other, rest', content, extra, rfl, rfl, same⟩

theorem Swallows.written_eq {entries others : List Entry}
    (swallows : framing.Swallows entries others) :
    framing.written entries = framing.written others := by
  obtain ⟨common, entry, rest, other, rest', content, extra, rfl, rfl, same, holds, goes, tail⟩ :=
    swallows
  simp [same, holds, goes, tail, ended]

theorem Swallows.ne {entries others : List Entry} (swallows : framing.Swallows entries others) :
    entries ≠ others := by
  obtain ⟨common, entry, rest, other, rest', content, extra, rfl, rfl, _, holds, goes, _⟩ :=
    swallows
  intro same
  simp only [List.append_cancel_left_eq, List.cons.injEq] at same
  rw [same.1, holds] at goes
  simp at goes

/-- Lists of entries that are written alike are equal, or one swallows entries of the other. -/
theorem equal_or_swallows (legible : framing.Legible valid) {entries others : List Entry}
    (left : ∀ entry ∈ entries, valid entry) (right : ∀ entry ∈ others, valid entry)
    (alike : framing.written entries = framing.written others) :
    entries = others ∨ framing.Swallows entries others ∨ framing.Swallows others entries := by
  induction entries generalizing others with
  | nil =>
      cases others with
      | nil => exact .inl rfl
      | cons other rest =>
          rw [written_nil, written_cons] at alike
          exact absurd (List.append_eq_nil_iff.mp alike.symm).1 (legible.headed other)
  | cons entry rest ih =>
      cases others with
      | nil =>
          rw [written_nil, written_cons] at alike
          exact absurd (List.append_eq_nil_iff.mp alike).1 (legible.headed entry)
      | cons other rest' =>
          rw [List.forall_mem_cons] at left right
          rw [written_cons, written_cons] at alike
          obtain ⟨same, tails⟩ := legible.reads _ _ _ _ left.1 right.1 alike
          have step : framing.content entry = framing.content other →
              framing.written rest = framing.written rest' →
              entry :: rest = other :: rest' ∨ framing.Swallows (entry :: rest) (other :: rest') ∨
                framing.Swallows (other :: rest') (entry :: rest) := by
            intro contents later
            have equal := legible.entries _ _ left.1 right.1 same contents
            subst equal
            rcases ih left.2 right.2 later with rfl | swallows | swallows
            · exact .inl rfl
            · exact .inr (.inl (swallows.cons entry))
            · exact .inr (.inr (swallows.cons entry))
          have kinds := legible.kinds _ _ left.1 right.1 same
          cases first : framing.content entry with
          | none =>
              cases second : framing.content other with
              | none =>
                  rw [first, second] at tails
                  exact step (first.trans second.symm) tails
              | some content => simp [first, second] at kinds
          | some content =>
              cases second : framing.content other with
              | none => simp [first, second] at kinds
              | some held =>
                  rw [first, second] at tails
                  simp only [ended, List.append_assoc, List.singleton_append] at tails
                  rcases ended_split tails with
                    ⟨rfl, later⟩ | ⟨extra, rfl, tail⟩ | ⟨extra, rfl, tail⟩
                  · exact step (first.trans second.symm) later
                  · exact .inr (.inl ⟨[], entry, rest, other, rest', held, extra, rfl, rfl, same,
                      second, first, tail⟩)
                  · exact .inr (.inr ⟨[], other, rest', entry, rest, content, extra, rfl, rfl,
                      same.symm, first, second, tail⟩)

/-- What is written is that of one list of entries exactly where neither of the two swallows. -/
theorem told_apart_iff (legible : framing.Legible valid) {entries others : List Entry}
    (left : ∀ entry ∈ entries, valid entry) (right : ∀ entry ∈ others, valid entry) :
    (framing.written entries = framing.written others → entries = others) ↔
      ¬ framing.Swallows entries others ∧ ¬ framing.Swallows others entries := by
  constructor
  · intro apart
    constructor
    · exact fun swallows => swallows.ne (apart swallows.written_eq)
    · exact fun swallows => swallows.ne (apart swallows.written_eq.symm).symm
  · rintro ⟨first, second⟩ alike
    rcases equal_or_swallows legible left right alike with equal | swallows | swallows
    · exact equal
    · exact absurd swallows first
    · exact absurd swallows second

/-- Contents that never hold the byte that ends them swallow nothing. -/
theorem not_swallows {entries others : List Entry}
    (sealed : ∀ entry ∈ entries, ∀ content, framing.content entry = some content →
      framing.stop ∉ content) : ¬ framing.Swallows entries others := by
  rintro ⟨common, entry, rest, other, rest', content, extra, rfl, rfl, _, _, goes, _⟩
  exact sealed entry (by simp) _ goes (by simp)

end Framing

end FortifyLab
