import Mathlib.Data.List.Nodup

/-! The curated endpoints, and the observed routes that are approved for them. -/

namespace FortifyLab.Availability

structure ObservedRoute where
  endpointId : String
  host : String
  tls : Bool
  deriving DecidableEq

/-- A component of the registry, with the host label of its Web service. -/
structure WebComponent where
  id : String
  hostLabel : Option String

structure Endpoint where
  id : String
  hostLabel : String

/-- `_endpoints`. -/
def endpoints (registry : List WebComponent) : List Endpoint :=
  ⟨"manager", "lab"⟩ :: registry.filterMap (fun component =>
    component.hostLabel.map (fun label => ⟨component.id, label⟩))

/-- `urlsplit(f"https://{host}/").hostname` (`none` where it raises), `str.lower`, `str.isalnum`. -/
structure HostTexts where
  hostname : String → Option String
  lower : String → String
  isAlnum : Char → Bool

variable (texts : HostTexts)

/-- A part of a host name between two dots. -/
def isHostPart (part : List Char) : Bool :=
  !part.isEmpty && decide (part.length ≤ 63) && part.head?.all texts.isAlnum &&
    part.getLast?.all texts.isAlnum && part.all (fun char => texts.isAlnum char || char == '-')

/-- `_valid_host`. -/
def validHost (host label : String) : Bool :=
  match texts.hostname host with
  | none => false
  | some hostname =>
      decide (hostname = host) && decide (host = texts.lower host) &&
        (label.toList ++ ['.']).isPrefixOf host.toList && decide (host.length ≤ 253) &&
        (host.toList.splitOn '.').all (isHostPart texts)

/-- `host.split(".", 1)[1]`. -/
def domainOf (host : String) : List Char := (host.toList.dropWhile (fun char => char != '.')).tail

/-- A route that is approved when none is for its endpoint yet. -/
def isApprovable (curated : List Endpoint) (domain : List Char) (route : ObservedRoute) : Bool :=
  match curated.reverse.find? (fun endpoint => endpoint.id = route.endpointId) with
  | none => false
  | some endpoint =>
      route.tls && validHost texts route.host endpoint.hostLabel &&
        decide (domainOf route.host = domain)

/-- One turn of the loop over the observed routes. -/
def approve (curated : List Endpoint) (domain : List Char) (approved : List ObservedRoute)
    (route : ObservedRoute) : List ObservedRoute :=
  if approved.any (fun other => other.endpointId = route.endpointId) then approved
  else if isApprovable texts curated domain route then approved ++ [route]
  else approved

/-- `_approved_routes`; `none` where the observer raises. -/
def approvedRoutes (curated : List Endpoint) (observed : Option (List ObservedRoute)) :
    Option (List ObservedRoute) :=
  observed.map (fun routes =>
    match routes.find? (fun route =>
      decide (route.endpointId = "manager") && validHost texts route.host "lab") with
    | none => []
    | some manager => routes.foldl (approve texts curated (domainOf manager.host)) [])

variable {texts}

/-- At most one route is approved for an endpoint. -/
theorem approvedRoutes_nodup {curated : List Endpoint} {observed : Option (List ObservedRoute)}
    {approved : List ObservedRoute} (known : approvedRoutes texts curated observed = some approved) :
    (approved.map ObservedRoute.endpointId).Nodup := by
  have folds : ∀ (routes : List ObservedRoute) (domain : List Char)
      (before : List ObservedRoute), (before.map ObservedRoute.endpointId).Nodup →
      ((routes.foldl (approve texts curated domain) before).map ObservedRoute.endpointId).Nodup := by
    intro routes domain
    induction routes with
    | nil => exact fun _ distinct => distinct
    | cons route rest ih =>
        intro before distinct
        refine ih _ ?_
        simp only [approve]
        by_cases taken : before.any (fun other => other.endpointId = route.endpointId) = true
        · rw [if_pos taken]
          exact distinct
        · rw [if_neg taken]
          split
          · rw [List.map_append]
            refine List.nodup_append.mpr ⟨distinct, List.nodup_singleton _, ?_⟩
            intro left first right second same
            obtain ⟨other, member, rfl⟩ := List.mem_map.mp first
            refine taken (List.any_eq_true.mpr ⟨other, member, ?_⟩)
            simpa [same] using second
          · exact distinct
  cases observed with
  | none => cases known
  | some routes =>
      simp only [approvedRoutes, Option.map_some, Option.some.injEq] at known
      subst known
      split
      · exact List.nodup_nil
      · exact folds routes _ [] List.nodup_nil

/-- A route is approved for a curated endpoint. -/
theorem approvedRoutes_known {curated : List Endpoint} {observed : Option (List ObservedRoute)}
    {approved : List ObservedRoute} (known : approvedRoutes texts curated observed = some approved)
    {route : ObservedRoute} (member : route ∈ approved) :
    ∃ endpoint ∈ curated, endpoint.id = route.endpointId := by
  have approvable : ∀ (domain : List Char) (other : ObservedRoute),
      isApprovable texts curated domain other = true →
      ∃ endpoint ∈ curated, endpoint.id = other.endpointId := by
    intro domain other approves
    simp only [isApprovable] at approves
    split at approves
    · cases approves
    · next endpoint found =>
        exact ⟨endpoint, List.mem_reverse.mp (List.mem_of_find?_eq_some found),
          by simpa using List.find?_some found⟩
  have folds : ∀ (routes : List ObservedRoute) (domain : List Char) (before : List ObservedRoute),
      (∀ other ∈ before, ∃ endpoint ∈ curated, endpoint.id = other.endpointId) →
      ∀ other ∈ routes.foldl (approve texts curated domain) before,
        ∃ endpoint ∈ curated, endpoint.id = other.endpointId := by
    intro routes domain
    induction routes with
    | nil => exact fun _ all => all
    | cons first rest ih =>
        intro before all
        refine ih _ ?_
        simp only [approve]
        split
        · exact all
        · split
          · next approves =>
              intro other inside
              rcases List.mem_append.mp inside with old | new
              · exact all other old
              · rw [List.mem_singleton.mp new]
                exact approvable domain first approves
          · exact all
  cases observed with
  | none => cases known
  | some routes =>
      simp only [approvedRoutes, Option.map_some, Option.some.injEq] at known
      subst known
      split at member
      · cases member
      · exact folds routes _ [] (fun _ none => absurd none List.not_mem_nil) route member

end FortifyLab.Availability
