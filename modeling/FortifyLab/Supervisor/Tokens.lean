import FortifyLab.Library.Stages
import FortifyLab.Supervisor.Orderly

/-! Callback tokens over whole runs: the rows of the table, and the stages of the call that
consumes one. -/

namespace FortifyLab.Supervisor

open Program Automaton

variable {library : Library} {start : Site}

/-! ## The table -/

/-- The callback tokens after a step. -/
def Site.tokensAfter (site : Site) : SiteRequest → List TokenRow
  | .change (.insertToken row) =>
      if (site.database.callbackToken row.tokenHash).isSome ||
          !site.database.referenceHolds row.approvalId then site.database.callbackTokens
      else site.database.callbackTokens ++ [row]
  | .change (.consumeToken tokenHash now actor) =>
      site.database.callbackTokens.map (fun row =>
        if Database.isOpen tokenHash now row then
          { row with consumedAt := some now, consumedBy := some actor }
        else row)
  | _ => site.database.callbackTokens

theorem Site.effect_tokens (site : Site) (request : SiteRequest) :
    (site.effect library request).database.callbackTokens = site.tokensAfter request := by
  cases request with
  | claim issue title milestone created =>
      simp only [Site.effect, claimed, tokensAfter]
      split <;> rfl
  | advance expected following initial payload created =>
      simp only [Site.effect, advanced, tokensAfter]
      split <;> rfl
  | change change =>
      cases change with
      | insertToken row =>
          by_cases refused : ((site.database.callbackToken row.tokenHash).isSome ||
              !site.database.referenceHolds row.approvalId) = true
          · simp only [Site.effect, Database.write, tokensAfter, refused, if_true]
          · simp only [Site.effect, Database.write, tokensAfter, refused, if_false,
              Bool.false_eq_true]
      | insertEvent row =>
          simp only [Site.effect, Database.write, tokensAfter]
          split
          · next known => split at known <;> cases known; rfl
          · rfl
      | insertNotification row =>
          simp only [Site.effect, Database.write, tokensAfter]
          split
          · next known => split at known <;> cases known; rfl
          · rfl
      | insertApproval row =>
          simp only [Site.effect, Database.write, tokensAfter]
          split
          · next known => split at known <;> cases known; rfl
          · rfl
      | _ => rfl
  | _ => rfl

/-- The primary key of the table. -/
def Keyed (site : Site) : Prop := (site.database.callbackTokens.map TokenRow.tokenHash).Nodup

theorem effect_keyed (library : Library) {site : Site} (keyed : Keyed site) (request : SiteRequest) :
    Keyed (site.effect library request) := by
  unfold Keyed at keyed ⊢
  rw [Site.effect_tokens]
  unfold Site.tokensAfter
  split
  · next row =>
    split
    · exact keyed
    · next free =>
      simp only [Bool.or_eq_true, not_or, Database.callbackToken, Option.isSome_iff_ne_none, ne_eq,
        not_not, List.find?_eq_none, decide_eq_true_eq] at free
      rw [List.map_append, List.nodup_append]
      refine ⟨keyed, by simp, ?_⟩
      intro hash known other same
      rcases List.mem_map.mp known with ⟨old, member, rfl⟩
      rw [List.map_singleton, List.mem_singleton] at same
      subst same
      exact free.1 old member
  · next hash now actor =>
    rw [List.map_map]
    have same : (TokenRow.tokenHash ∘ fun row => if Database.isOpen hash now row then
        { row with consumedAt := some now, consumedBy := some actor } else row) =
        TokenRow.tokenHash := by
      funext row
      simp only [Function.comp_apply]
      split <;> rfl
    rw [same]
    exact keyed
  · exact keyed

/-- A row of the table is found under its key. -/
theorem callbackToken_of_mem {site : Site} (keyed : Keyed site) {row : TokenRow}
    (member : row ∈ site.database.callbackTokens) :
    site.database.callbackToken row.tokenHash = some row := by
  unfold Database.callbackToken
  cases found : site.database.callbackTokens.find? (fun other => other.tokenHash = row.tokenHash) with
  | none =>
      have missing := List.find?_eq_none.mp found row member
      simp at missing
  | some other =>
      have same : other.tokenHash = row.tokenHash := by simpa using List.find?_some found
      rw [List.inj_on_of_nodup_map keyed (List.mem_of_find?_eq_some found) member same]

/-- A row that is stored stays as it is until it is consumed. -/
theorem effect_token (library : Library) {site : Site} (keyed : Keyed site) {hash : String} {row : TokenRow}
    (found : site.database.callbackToken hash = some row) (request : SiteRequest) :
    ∃ later, (site.effect library request).database.callbackToken hash = some later ∧
      (later = row ∨ row.consumedAt = none ∧ later.consumedAt.isSome) := by
  have member := List.mem_of_find?_eq_some found
  have key : row.tokenHash = hash := by simpa using List.find?_some found
  have kept := effect_keyed library keyed request
  have after : ∃ later ∈ (site.effect library request).database.callbackTokens,
      later.tokenHash = hash ∧
        (later = row ∨ row.consumedAt = none ∧ later.consumedAt.isSome) := by
    rw [Site.effect_tokens]
    unfold Site.tokensAfter
    split
    · split
      · exact ⟨row, member, key, .inl rfl⟩
      · exact ⟨row, List.mem_append_left _ member, key, .inl rfl⟩
    · next other now actor =>
      refine ⟨_, List.mem_map_of_mem member, ?_⟩
      split
      · next opened =>
        simp only [Database.isOpen, Bool.and_eq_true, Option.isNone_iff_eq_none] at opened
        exact ⟨key, .inr ⟨opened.1.2, rfl⟩⟩
      · exact ⟨key, .inl rfl⟩
    · exact ⟨row, member, key, .inl rfl⟩
  rcases after with ⟨later, inside, same, change⟩
  refine ⟨later, ?_, change⟩
  rw [← same]
  exact callbackToken_of_mem kept inside

theorem siteAfter_keyed (library : Library) (keyed : Keyed start) (log : SiteLog) :
    Keyed (siteAfter library start log) := by
  induction log using List.reverseRecOn with
  | nil => exact keyed
  | append_singleton log entry ih =>
      rw [siteAfter_concat]
      exact effect_keyed library ih _

theorem siteAfter_token (library : Library) {site : Site} (keyed : Keyed site) {hash : String} {row : TokenRow}
    (found : site.database.callbackToken hash = some row) (log : SiteLog) :
    ∃ later, (siteAfter library site log).database.callbackToken hash = some later ∧
      (later = row ∨ row.consumedAt = none ∧ later.consumedAt.isSome) := by
  induction log using List.reverseRecOn with
  | nil => exact ⟨row, found, .inl rfl⟩
  | append_singleton log entry ih =>
      rcases ih with ⟨middle, known, same | ⟨opened, consumed⟩⟩
      · subst same
        rw [siteAfter_concat]
        exact effect_token library (siteAfter_keyed library keyed log) known _
      · rcases effect_token library (siteAfter_keyed library keyed log) known entry.request with
          ⟨later, now, rfl | ⟨fresh, _⟩⟩
        · exact ⟨later, by rw [siteAfter_concat, now], .inr ⟨opened, consumed⟩⟩
        · rw [fresh] at consumed
          cases consumed

end FortifyLab.Supervisor
