import PipelineOverride.Catalog.Bundled
import PipelineOverride.Override.Compilation

/-!
# Loaded once

The settings and the built-in catalog are loaded when they are first needed and kept until they are
reset, whatever happens to the environment in between. Each load is counted, so that two readings
can be told to be of one load.
-/

set_option autoImplicit false

namespace PipelineOverride

/-- What is kept between readings. -/
structure Cache where
  settings : Option Settings := none
  settingsLoads : Nat := 0
  catalogLoaded : Bool := false
  catalogLoads : Nat := 0

namespace Cache

/-- The settings, loaded under an environment if they are not kept, with the notices of the
load. -/
def readSettings (cache : Cache) (environment : Environment) : List Notice × Settings × Cache :=
  match cache.settings with
  | some settings => ([], settings, cache)
  | none =>
    let (notices, settings) := Settings.bundled environment
    (notices, settings,
      { cache with settings := some settings, settingsLoads := cache.settingsLoads + 1 })

def resetSettings (cache : Cache) : Cache :=
  { cache with settings := none }

/-- The built-in catalog, with the notices of a load. -/
def readCatalog (cache : Cache) : List Notice × Catalog × Cache :=
  if cache.catalogLoaded then ([], Bundled.catalog, cache)
  else
    (Bundled.catalogNotices, Bundled.catalog,
      { cache with catalogLoaded := true, catalogLoads := cache.catalogLoads + 1 })

def resetCatalog (cache : Cache) : Cache :=
  { cache with catalogLoaded := false }

/-- A compiler for a project. The catalog and the settings are read unless they are given. -/
def compiler (cache : Cache) (environment : Environment) (project : Option Project)
    (catalog : Option Catalog) (settings : Option Settings) : List Notice × Compiler × Cache :=
  let (catalogNotices, catalog, cache) :=
    match catalog with
    | some catalog => ([], catalog, cache)
    | none => cache.readCatalog
  let (settingsNotices, settings, cache) :=
    match settings with
    | some settings => ([], settings, cache)
    | none => cache.readSettings environment
  (catalogNotices ++ settingsNotices, ⟨project, catalog, settings⟩, cache)

end Cache

end PipelineOverride
