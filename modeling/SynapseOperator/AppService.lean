import SynapseOperator.Document

/-! Registration of a bridge as an application service of the homeserver:
`addAppServiceToHomeserver` and the two update functions that call it. The
function appends to `app_service_config_files` only when that key holds a
`[]string`, which is what it built itself; the `[]interface{}` that yaml.v2
decodes for the same list is taken for a malformed value and overwritten.
Every write of homeserver.yaml goes through such a decode, so a second bridge
registered in a later step replaces the first. -/
namespace SynapseOperator.AppService
open SynapseOperator.Api SynapseOperator.Document

/-- The key that lists the application-service registration files. -/
def appServiceConfigFiles : Bytes := lit "app_service_config_files"

/-- The registration file of the Heisenbridge, as the Synapse Deployment mounts it. -/
def heisenbridgeConfigFile : Bytes := lit "/data-heisenbridge/heisenbridge.yaml"

/-- The registration file of mautrix-signal, as the Synapse Deployment mounts it. -/
def mautrixSignalConfigFile : Bytes := lit "/data-mautrixsignal/registration.yaml"

/-- `SynapseReconciler.addAppServiceToHomeserver`. -/
def addAppServiceToHomeserver (homeserver : Fields) (configFilePath : Bytes) : Fields :=
  match Value.asStrings (homeserver.get? appServiceConfigFiles) with
  | none => homeserver.set appServiceConfigFiles (.strings [configFilePath])
  | some homeserverAppService =>
    homeserver.set appServiceConfigFiles (.strings (homeserverAppService ++ [configFilePath]))

/-- `SynapseReconciler.updateHomeserverWithHeisenbridgeInfos`, an
`updateDataFunc`; it ignores the owner object and never fails. -/
def updateHomeserverWithHeisenbridgeInfos (homeserver : Fields) : Except Bytes Fields :=
  .ok (addAppServiceToHomeserver homeserver heisenbridgeConfigFile)

/-- `SynapseReconciler.updateHomeserverWithMautrixSignalInfos`. -/
def updateHomeserverWithMautrixSignalInfos (homeserver : Fields) : Except Bytes Fields :=
  .ok (addAppServiceToHomeserver homeserver mautrixSignalConfigFile)

/-- The files a homeserver document registers, as `addAppServiceToHomeserver`
reads them: only a `[]string` counts. -/
def typedRegistrations (homeserver : Fields) : List Bytes :=
  (Value.asStrings (homeserver.get? appServiceConfigFiles)).getD []

variable {homeserver : Fields} {path : Bytes}

/-- The whole effect of a registration: the typed list read, with the path
appended unconditionally, written back under the one key. -/
theorem addAppServiceToHomeserver_eq :
    addAppServiceToHomeserver homeserver path =
      homeserver.set appServiceConfigFiles (.strings (typedRegistrations homeserver ++ [path])) := by
  unfold addAppServiceToHomeserver typedRegistrations
  split <;> simp_all

@[simp] theorem addAppServiceToHomeserver_get?_other {key : Bytes}
    (different : key ≠ appServiceConfigFiles) :
    (addAppServiceToHomeserver homeserver path).get? key = homeserver.get? key := by
  rw [addAppServiceToHomeserver_eq, Fields.get?_set_of_ne different]

@[simp] theorem addAppServiceToHomeserver_get?_self :
    (addAppServiceToHomeserver homeserver path).get? appServiceConfigFiles =
      some (.strings (typedRegistrations homeserver ++ [path])) := by
  rw [addAppServiceToHomeserver_eq, Fields.get?_set_self]

/-- A list the decoder built (`[]interface{}`) is dropped, whatever it held. -/
theorem addAppServiceToHomeserver_of_list (items : Items)
    (decoded : homeserver.get? appServiceConfigFiles = some (.list items)) :
    (addAppServiceToHomeserver homeserver path).get? appServiceConfigFiles =
      some (.strings [path]) := by
  simp [typedRegistrations, decoded, Value.asStrings]

/-- A path already in a `[]string` is appended a second time. -/
theorem addAppServiceToHomeserver_twice :
    (addAppServiceToHomeserver (addAppServiceToHomeserver homeserver path) path).get?
        appServiceConfigFiles =
      some (.strings (typedRegistrations homeserver ++ [path, path])) := by
  simp [typedRegistrations, Value.asStrings]

/-- Through any YAML round trip, registering the Heisenbridge and then
mautrix-signal leaves mautrix-signal as the only registration: the write and
re-read turn the `[]string` into a `[]interface{}`, which the second
registration overwrites. -/
theorem registration_lost_through_yaml {Text : Type} (yaml : YamlCodec Text) {reread : Fields}
    (decoded : yaml.unmarshal (yaml.marshal
      (addAppServiceToHomeserver homeserver heisenbridgeConfigFile)) = .ok reread) :
    (addAppServiceToHomeserver reread mautrixSignalConfigFile).get? appServiceConfigFiles =
      some (.strings [mautrixSignalConfigFile]) := by
  rw [yaml.unmarshal_marshal, Except.ok.injEq] at decoded
  subst decoded
  exact addAppServiceToHomeserver_of_list
    (Items.ofStrings (typedRegistrations homeserver ++ [heisenbridgeConfigFile]))
    (by simp [Fields.get?_normalize, Value.normalize])

/-- A homeserver.yaml, as decoded, that already registers the Heisenbridge:
registering mautrix-signal drops it. -/
theorem addAppServiceToHomeserver_drops_decoded_registration :
    (addAppServiceToHomeserver
        (.cons appServiceConfigFiles (.list (.cons (.str heisenbridgeConfigFile) .nil)) .nil)
        mautrixSignalConfigFile).get? appServiceConfigFiles =
      some (.strings [mautrixSignalConfigFile]) := by
  decide

end SynapseOperator.AppService
