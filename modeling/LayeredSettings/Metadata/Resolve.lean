import LayeredSettings.Config
import LayeredSettings.Setting.Catalog

/-
  This file resolves the configuration of the metadata
  service.

  Key definitions include:
    * `MetadataConfig`
    * `Config.resolveMetadata`

  An endpoint that is configured anywhere wins over the one
  of the endpoint mode, which is then not even looked for.
-/

namespace LayeredSettings

/- Whether to contact the service, and where it is. -/
structure MetadataConfig where
  disabled : Bool
  endpoint : String
  deriving DecidableEq, Repr

/- The endpoint that the endpoint mode implies. -/
def Config.impliedEndpoint
    (config : Config)
    (host : Host) : Attempt InvalidValue String := do
  let mode ← config.resolve host Catalog.metadataEndpointMode
  return (mode.getD .ipv4).endpoint

/- Resolve the configuration of the metadata service. -/
def Config.resolveMetadata
    (config : Config)
    (host : Host) :
    Attempt InvalidValue MetadataConfig := do
  let disabled := (← config.resolve host
    Catalog.metadataDisabled).getD false
  let endpoint ←
    match ← config.resolve host Catalog.metadataEndpoint with
    | some endpoint => pure endpoint
    | none => config.impliedEndpoint host
  Logged.emit (.metadataResolved disabled endpoint)
  return ⟨disabled, endpoint⟩

end LayeredSettings
