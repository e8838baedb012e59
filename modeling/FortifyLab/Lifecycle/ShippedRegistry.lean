import FortifyLab.Lifecycle.ValidRegistry

/-! The registry the repository ships, `registry/components.json`, as far as
planning reads it. -/

namespace FortifyLab.Lifecycle

open Registry DependencyGraph

def shippedComponents : List Component :=
  [ ⟨"mysql", [],
      [ ⟨"install", "apps/mysql/start.sh", 900, true,
          ["database-ready", "database-query"]⟩,
        ⟨"start", "apps/mysql/start.sh", 300, true,
          ["database-ready", "database-query"]⟩,
        ⟨"stop", "apps/mysql/stop.sh", 300, true,
          ["database-stopped"]⟩,
        ⟨"delete-data", "apps/mysql/destroy.sh", 600, true,
          ["database-removed"]⟩ ]⟩,
    ⟨"ssc", ["mysql"],
      [ ⟨"install", "apps/ssc/start.sh", 1800, true,
          ["webapp-ready", "https-ready"]⟩,
        ⟨"start", "apps/ssc/start.sh", 900, true,
          ["webapp-ready", "https-ready"]⟩,
        ⟨"stop", "apps/ssc/stop.sh", 300, true,
          ["webapp-stopped"]⟩,
        ⟨"uninstall", "apps/ssc/destroy.sh", 600, true,
          ["webapp-removed"]⟩ ]⟩,
    ⟨"scancentral-sast", ["ssc"],
      [ ⟨"install", "apps/scsast/start.sh", 1800, true,
          ["controller-ready", "sensor-ready", "controller-https"]⟩,
        ⟨"start", "apps/scsast/start.sh", 900, true,
          ["controller-ready", "sensor-ready", "controller-https"]⟩,
        ⟨"stop", "apps/scsast/stop.sh", 300, true,
          ["controller-stopped", "sensor-stopped"]⟩,
        ⟨"scale", "apps/scsast/scale_scanners.sh", 600, true,
          ["sensor-ready"]⟩,
        ⟨"uninstall", "apps/scsast/destroy.sh", 600, true,
          ["controller-removed", "sensor-removed"]⟩ ]⟩,
    ⟨"postgresql", [],
      [ ⟨"install", "apps/postgresql/start.sh", 900, true,
          ["database-ready", "database-query"]⟩,
        ⟨"start", "apps/postgresql/start.sh", 300, true,
          ["database-ready", "database-query"]⟩,
        ⟨"stop", "apps/postgresql/stop.sh", 300, true,
          ["database-stopped"]⟩,
        ⟨"delete-data", "apps/postgresql/destroy.sh", 600, true,
          ["database-removed"]⟩ ]⟩,
    ⟨"lim", [],
      [ ⟨"install", "apps/lim/start.sh", 900, true,
          ["server-ready", "https-ready"]⟩,
        ⟨"start", "apps/lim/start.sh", 300, true,
          ["server-ready", "https-ready"]⟩,
        ⟨"stop", "apps/lim/stop.sh", 300, true,
          ["server-stopped"]⟩,
        ⟨"delete-data", "apps/lim/destroy.sh", 600, true,
          ["server-removed"]⟩ ]⟩,
    ⟨"scancentral-dast-core", ["postgresql", "lim", "ssc"],
      [ ⟨"install", "apps/scdast/core/start.sh", 1800, true,
          ["api-ready", "global-service-ready", "utility-service-ready", "api-https"]⟩,
        ⟨"start", "apps/scdast/core/start.sh", 900, true,
          ["api-ready", "global-service-ready", "utility-service-ready", "api-https"]⟩,
        ⟨"stop", "apps/scdast/core/stop.sh", 300, true,
          ["api-stopped", "global-service-stopped", "utility-service-stopped"]⟩,
        ⟨"uninstall", "apps/scdast/core/destroy.sh", 600, true,
          ["api-removed", "global-service-removed", "utility-service-removed"]⟩ ]⟩,
    ⟨"scancentral-dast-scanner", ["scancentral-dast-core"],
      [ ⟨"install", "apps/scdast/scanner/start.sh", 3600, true,
          ["scanner-ready", "scanner-health"]⟩,
        ⟨"start", "apps/scdast/scanner/start.sh", 1800, true,
          ["scanner-ready", "scanner-health"]⟩,
        ⟨"stop", "apps/scdast/scanner/stop.sh", 300, true,
          ["scanner-stopped"]⟩,
        ⟨"scale", "apps/scdast/scanner/scale_scanners.sh", 600, true,
          ["scanner-ready"]⟩,
        ⟨"uninstall", "apps/scdast/scanner/destroy.sh", 600, true,
          ["scanner-removed"]⟩ ]⟩ ]

def shippedRegistry : ComponentRegistry where
  components := shippedComponents
  uniqueIds := by decide

/-- The shipped dependency order with sets iterated as they were filled. -/
theorem shipped_order : shippedRegistry.dependencyOrder .insertion [] =
    .ok ["mysql", "postgresql", "lim", "ssc", "scancentral-sast", "scancentral-dast-core",
      "scancentral-dast-scanner"] := by
  decide +kernel

theorem shipped_valid : ValidRegistry shippedRegistry where
  declared := by decide
  acyclic componentId member := by
    have listed := (ComponentRegistry.dependencyOrder_mem shipped_order componentId).mpr
      (Closure.of_mem member)
    exact (ComponentRegistry.dependencyOrder_ordered shipped_order).not_onCycle listed
  identifiers := by decide
  boundedTimeouts := by decide

/-- The engine on the shipped registry with the constructor's default bounds. -/
def shippedEngine : Engine where
  registry := shippedRegistry
  maxAttempts := 2
  maxStepTimeout := 3600
  attempts_pos := by decide
  timeout_pos := by decide

end FortifyLab.Lifecycle
