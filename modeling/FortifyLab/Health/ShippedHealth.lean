import FortifyLab.Health.Subjects
import FortifyLab.Lifecycle.ShippedRegistry

/-! The required health checks of the registry the repository ships, and the first evaluation of
an environment: no probe answers yet. -/

namespace FortifyLab.Health

open Registry

def requiredCheck (id type target : String) (timeoutSeconds : ℚ) : DeclaredCheck :=
  ⟨id, type, target, timeoutSeconds, true⟩

def shippedChecks : List (ComponentId × List DeclaredCheck) :=
  [ ("mysql",
      [ requiredCheck "database-ready" "workload-ready" "database" 300,
        requiredCheck "database-pvc" "persistent-volume" "database-data" 10,
        requiredCheck "native-readiness" "native-readiness" "mysql" 10,
        requiredCheck "database-query" "database-query" "mysql" 30 ]),
    ("ssc",
      [ requiredCheck "webapp-ready" "workload-ready" "webapp" 600,
        requiredCheck "https-ready" "https" "ssc" 60,
        requiredCheck "application-initialized" "application-ready" "ssc-initialization" 60 ]),
    ("scancentral-sast",
      [ requiredCheck "controller-ready" "workload-ready" "controller" 600,
        requiredCheck "sensor-ready" "workload-ready" "sensor" 600,
        requiredCheck "controller-https" "https" "scancentral-sast" 60,
        requiredCheck "ssc-connectivity" "dependency-connectivity" "ssc" 30,
        requiredCheck "worker-registration" "registration" "expected-sast-workers" 30 ]),
    ("postgresql",
      [ requiredCheck "database-ready" "workload-ready" "database" 300,
        requiredCheck "database-pvc" "persistent-volume" "database-data" 10,
        requiredCheck "native-readiness" "native-readiness" "postgresql" 10,
        requiredCheck "database-query" "database-query" "postgresql" 30 ]),
    ("lim",
      [ requiredCheck "server-ready" "workload-ready" "server" 300,
        requiredCheck "https-ready" "https" "lim" 60,
        requiredCheck "license-pool-configured" "configuration" "default-dast-pool" 30 ]),
    ("scancentral-dast-core",
      [ requiredCheck "api-ready" "workload-ready" "api" 600,
        requiredCheck "global-service-ready" "workload-ready" "global-service" 600,
        requiredCheck "utility-service-ready" "workload-ready" "utility-service" 600,
        requiredCheck "api-https" "https" "scancentral-dast-core" 60,
        requiredCheck "database-schema" "database-query" "dast-schema" 30,
        requiredCheck "ssc-connectivity" "dependency-connectivity" "ssc" 30,
        requiredCheck "lim-connectivity" "dependency-connectivity" "lim" 30 ]),
    ("scancentral-dast-scanner",
      [ requiredCheck "scanner-ready" "workload-ready" "scanner" 600,
        requiredCheck "scanner-health" "tcp" "scanner:8080" 60,
        requiredCheck "scanner-registration" "registration" "expected-dast-scanners" 30 ]) ]

def shippedNames : List (ComponentId × String) :=
  [ ("mysql", "MySQL"),
    ("ssc", "Software Security Center"),
    ("scancentral-sast", "ScanCentral SAST"),
    ("postgresql", "PostgreSQL"),
    ("lim", "License and Infrastructure Manager"),
    ("scancentral-dast-core", "ScanCentral DAST Core"),
    ("scancentral-dast-scanner", "ScanCentral DAST Scanner") ]

def shippedHealth : HealthRegistry where
  registry := Lifecycle.shippedRegistry
  displayName componentId := (shippedNames.lookup componentId).getD ""
  checks componentId := (shippedChecks.lookup componentId).getD []

theorem shippedHealth_valid : ValidHealth shippedHealth where
  valid := Lifecycle.shipped_valid
  profiled := by decide
  checkIds := by decide

/-- The runtime at midnight of the first day, without an availability document to read. -/
def firstMidnight : Runtime where
  isoformat _ := "1970-01-01T00:00:00+00:00"
  fromisoformat _ := none
  parseInt _ := none
  represent _ := ""

def shippedHealthEngine : HealthEngine where
  registry := shippedHealth
  staleAfter := 300000000
  availability := .obj []
  runtime := firstMidnight

/-- `UnavailableHealthProbe`. -/
def unavailableProbe (_ : CheckSpec) : Observation := ⟨.raised false, 0⟩

def readyResult : ProbeResult where
  state := .healthy
  summary := "ready"
  observedAt := 0
  latencyMs := some 4
  workloadPresent := some true
  desiredReplicas := some 1
  readyReplicas := some 1
  probed := by decide

/-- A cluster where everything is well. -/
def readyProbe (_ : CheckSpec) : Observation := ⟨.returned readyResult, 4⟩

theorem exists_of_isOk {α : Type} {result : Except HealthError α} (ended : result.isOk = true) :
    ∃ value, result = .ok value := by
  cases result with
  | ok value => exact ⟨value, rfl⟩
  | error error => cases ended

end FortifyLab.Health
