import Mathlib.Data.List.Sort
import FortifyLab.Library.DependencyGraph

/-! The component registry and its dependency order, as the manager computes
them. Python iterates its sets in an unspecified order, so that order is an
argument of the computation. -/

namespace FortifyLab.Registry

abbrev ComponentId := String

/-- One entry of a component's `operations`. -/
structure Capability where
  id : String
  adapter : String
  timeoutSeconds : Int
  idempotent : Bool
  verify : List String
  deriving DecidableEq, Repr

structure Component where
  id : ComponentId
  dependencies : List ComponentId
  operations : List Capability
  deriving DecidableEq, Repr

structure ComponentRegistry where
  components : List Component
  uniqueIds : (components.map Component.id).Nodup

inductive RegistryError where
  | unknownComponent (componentId : ComponentId)
  | dependencyCycle (involved : List ComponentId)
  | timeoutNotBounded
  deriving DecidableEq, Repr

def RegistryError.message : RegistryError → String
  | .unknownComponent componentId => "unknown component: " ++ componentId
  | .dependencyCycle involved =>
      "dependency cycle involves: " ++ ", ".intercalate involved
  | .timeoutNotBounded => "operation timeout is not bounded"

/-- The iteration order of the two sets of `dependency_order`, as a function of
the elements in the order they were inserted. -/
structure SetOrder where
  requested : List ComponentId → List ComponentId
  closure : List ComponentId → List ComponentId
  requested_perm : ∀ inserted, (requested inserted).Perm inserted
  closure_perm : ∀ inserted, (closure inserted).Perm inserted

/-- Sets iterated in the order of insertion. -/
def SetOrder.insertion : SetOrder where
  requested := id
  closure := id
  requested_perm _ := .refl _
  closure_perm _ := .refl _

namespace ComponentRegistry

def componentIds (registry : ComponentRegistry) : List ComponentId :=
  registry.components.map Component.id

def component (registry : ComponentRegistry) (componentId : ComponentId) :
    Except RegistryError Component :=
  match registry.components.find? (fun component => component.id == componentId) with
  | some component => .ok component
  | none => .error (.unknownComponent componentId)

/-- The declared dependencies; an undeclared component has none. -/
def dependencies (registry : ComponentRegistry) (componentId : ComponentId) : List ComponentId :=
  match registry.component componentId with
  | .ok component => component.dependencies
  | .error _ => []

/-- A `for` loop over component ids whose body is `visit`. -/
def includeEach
    (visit : List ComponentId → ComponentId → Option (Except RegistryError (List ComponentId))) :
    List ComponentId → List ComponentId → Option (Except RegistryError (List ComponentId))
  | closure, [] => some (.ok closure)
  | closure, componentId :: rest =>
      match visit closure componentId with
      | some (.ok closure) => includeEach visit closure rest
      | some (.error error) => some (.error error)
      | none => none

/-- The nested `include` of `dependency_order`. The closure is the set so far,
in the order of insertion; `none` is Python running out of its recursion `depth`. -/
def includeComponent (registry : ComponentRegistry) :
    Nat → List ComponentId → ComponentId → Option (Except RegistryError (List ComponentId))
  | 0, _, _ => none
  | depth + 1, closure, componentId =>
      match registry.component componentId with
      | .error error => some (.error error)
      | .ok component =>
          if componentId ∈ closure then some (.ok closure)
          else includeEach (registry.includeComponent depth) (closure ++ [componentId]) component.dependencies

/-- The two tables of Kahn's algorithm, filled in the order of iteration. -/
structure EdgeTables where
  indegree : ComponentId → Int
  consumers : ComponentId → List ComponentId

def countEdge (componentId : ComponentId) (tables : EdgeTables) (dependency : ComponentId) :
    EdgeTables where
  indegree := Function.update tables.indegree componentId (tables.indegree componentId + 1)
  consumers := Function.update tables.consumers dependency
    (tables.consumers dependency ++ [componentId])

def countEdges (registry : ComponentRegistry) (iteration : List ComponentId) : EdgeTables :=
  iteration.foldl
    (fun tables componentId =>
      (registry.dependencies componentId).foldl (countEdge componentId) tables)
    ⟨fun _ => 0, fun _ => []⟩

/-- The counters and the ready queue after one consumer lost one dependency. -/
def settle (progress : (ComponentId → Int) × List ComponentId) (consumer : ComponentId) :
    (ComponentId → Int) × List ComponentId :=
  let indegree := Function.update progress.1 consumer (progress.1 consumer - 1)
  (indegree, if indegree consumer = 0 then progress.2 ++ [consumer] else progress.2)

/-- The `while ready` loop; `fuel` bounds the number of rounds. -/
def drainReady (consumers : ComponentId → List ComponentId) :
    Nat → (ComponentId → Int) → List ComponentId → List ComponentId →
      List ComponentId × (ComponentId → Int)
  | 0, indegree, ordered, _ => (ordered, indegree)
  | _ + 1, indegree, ordered, [] => (ordered, indegree)
  | fuel + 1, indegree, ordered, dependency :: ready =>
      let progress := (consumers dependency).foldl settle (indegree, ready)
      drainReady consumers fuel progress.1 (ordered ++ [dependency]) progress.2

end ComponentRegistry

end FortifyLab.Registry
