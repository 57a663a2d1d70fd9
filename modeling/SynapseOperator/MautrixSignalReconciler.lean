import SynapseOperator.SynapseReconciler
import SynapseOperator.ConfigMutation

/-!
`MautrixSignalReconciler.Reconcile` and its subreconcilers, over the store of
`Cluster`.

`Reconcile` reads the MautrixSignal, builds the list of steps from its Spec and
Status, and runs them with `runSubreconcilers`:

* `triggerSynapseReconciliation` sets `NeedsReconcile` on the Synapse the
  bridge references, through `utils.UpdateSynapseStatus` (spec §4.3, §4.5),
  modelled as the Synapse controller's own `updateSynapseStatus`.
* `buildMautrixSignalStatus` copies the Synapse's server name and
  `IsOpenshift` into the bridge's Status and returns `Requeue` when that
  patched.
* With a user ConfigMap, `copyInputMautrixSignalConfigMap` reconciles the
  bridge's ConfigMap to a copy of it, or sets the bridge FAILED when it is
  missing, and `configureMautrixSignalConfigMap` edits config.yaml with
  `updateMautrixSignalData`. Without one, `reconcileMautrixSignalConfigMap`
  builds the default config.yaml.
* `resourceStep` for the children: the ServiceAccount and RoleBinding on
  OpenShift, the signald PVC and Deployment, and the bridge's Service, PVC and
  Deployment. Their objects are taken as given (`Collaborators.build`); of
  their builders only the PVC's is among the sources.

`utils.GetSynapseServerName` is not among the sources: it is modelled as the
server name the Synapse's Status records, with an error while there is none.
The config.yaml text `configMapForMautrixSignal` builds is left open as
`Collaborators.configYaml`.
-/

namespace SynapseOperator.MautrixSignalReconciler
open SynapseOperator.Api SynapseOperator.Document SynapseOperator.Naming SynapseOperator.Cluster
  SynapseOperator.ConfigMutation

/-- What a run of the MautrixSignal controller needs besides the store. -/
structure Collaborators (Text Body : Type) where
  /-- gopkg.in/yaml.v2. -/
  codec : YamlCodec Text
  /-- `configMapForMautrixSignal`'s config.yaml for a bridge. -/
  configYaml : MautrixSignal → Text
  /-- The error of `utils.GetSynapseServerName` for a Synapse whose Status has
  no server name. -/
  serverNameMissing : Bytes
  /-- What the builders of the ServiceAccount, RoleBinding, PVCs, Deployments
  and Service return for a bridge, by kind and name. -/
  build : Kind → Bytes → MautrixSignal → Body

variable {Text Body : Type}

/-- The artifact the configuration steps write. -/
def configYamlKey : Bytes := lit "config.yaml"

/-- `MautrixSignalReconciler.getLatestMautrixSignal`: a bridge that is not found
ends the run with `DoNotRequeue`. -/
def getLatestMautrixSignal (req : ObjectRef) (store : Store Text Body) :
    Except Outcome MautrixSignal :=
  match store.mautrixSignal? req with
  | some ms => .ok ms
  | none => .error .doNotRequeue

/-- `MautrixSignalReconciler.fetchSynapseInstance`. -/
def fetchSynapseInstance (ms : MautrixSignal) (store : Store Text Body) : Except Bytes Synapse :=
  match store.synapse? ms.synapseKey with
  | some s => .ok s
  | none => .error (notFound "synapses" ms.spec.synapse.name)

/-- `utils.UpdateSynapseStatus`: the Synapse controller's `updateSynapseStatus`,
with whether it patched dropped. -/
def updateSynapseStatus (s : Synapse) (store : Store Text Body) : Except Bytes (Store Text Body) :=
  (SynapseReconciler.updateSynapseStatus s store).map Prod.snd

/-- `utils.GetSynapseServerName`. -/
def getSynapseServerName (c : Collaborators Text Body) (s : Synapse) : Except Bytes Bytes :=
  if s.status.homeserverConfiguration.serverName = [] then .error c.serverNameMissing
  else .ok s.status.homeserverConfiguration.serverName

/-- `MautrixSignalReconciler.updateMautrixSignalStatus`: read the bridge again
and, when its Status differs from `ms`'s, merge-patch it from what was read,
which with no other writer stores `ms`'s Status; whether it patched. -/
def updateMautrixSignalStatus (ms : MautrixSignal) (store : Store Text Body) :
    Except Bytes (Bool × Store Text Body) :=
  match store.mautrixSignal? ms.key with
  | none => .error (notFound "mautrixsignals" ms.name)
  | some current =>
    if ms.status = current.status then .ok (false, store)
    else .ok (true, (store.put (.of .mautrixSignal ms.key)
      (.mautrixSignal { current with status := ms.status })).record
        (.patch (.of .mautrixSignal ms.key)))

/-! ## The two steps on the Status -/

/-- `MautrixSignalReconciler.triggerSynapseReconciliation`. -/
def triggerSynapseReconciliation (req : ObjectRef) (store : Store Text Body) :
    Outcome × Store Text Body :=
  match getLatestMautrixSignal req store with
  | .error outcome => (outcome, store)
  | .ok ms =>
    match fetchSynapseInstance ms store with
    | .error err => (.requeueWithError err, store)
    | .ok s =>
      match updateSynapseStatus { s with status.needsReconcile := true } store with
      | .error err => (.requeueWithError err, store)
      | .ok store' => (.continueReconciling, store')

/-- What `buildMautrixSignalStatus` hands to `updateMautrixSignalStatus`. -/
def withSynapseInfos (ms : MautrixSignal) (serverName : Bytes) (isOpenshift : Bool) :
    MautrixSignal :=
  { ms with status.synapseServerName := serverName, status.isOpenshift := isOpenshift }

/-- `MautrixSignalReconciler.buildMautrixSignalStatus`. -/
def buildMautrixSignalStatus (c : Collaborators Text Body) (req : ObjectRef)
    (store : Store Text Body) : Outcome × Store Text Body :=
  match getLatestMautrixSignal req store with
  | .error outcome => (outcome, store)
  | .ok ms =>
    match fetchSynapseInstance ms store with
    | .error err => (.requeueWithError err, store)
    | .ok s =>
      match getSynapseServerName c s with
      | .error err => (.requeueWithError err, store)
      | .ok serverName =>
        match updateMautrixSignalStatus (withSynapseInfos ms serverName s.spec.isOpenshift) store with
        | .error err => (.requeueWithError err, store)
        | .ok (true, store') => (.requeue, store')
        | .ok (false, store') => (.continueReconciling, store')

/-! ## The ConfigMap -/

section Steps
variable [DecidableEq Text] [DecidableEq Body] (c : Collaborators Text Body)

/-- The shape of the steps that reconcile one child: read the bridge, build
the desired object under its identity, and hand it to `ReconcileResource`. -/
def resourceStep
    (desired : MautrixSignal → Store Text Body → Except Bytes (Identity × Object Text Body))
    (req : ObjectRef) (store : Store Text Body) : Outcome × Store Text Body :=
  match getLatestMautrixSignal req store with
  | .error outcome => (outcome, store)
  | .ok ms =>
    match desired ms store with
    | .error err => (.requeueWithError err, store)
    | .ok (id, object) => (.continueReconciling, reconcileResource id object store)

/-- `MautrixSignalReconciler.configMapForMautrixSignal`: the default config.yaml. -/
def configMapForMautrixSignal (ms : MautrixSignal) : Object Text Body :=
  .configMap [(configYamlKey, c.configYaml ms)]

/-- `MautrixSignalReconciler.reconcileMautrixSignalConfigMap`. -/
def reconcileMautrixSignalConfigMap (req : ObjectRef) :
    Store Text Body → Outcome × Store Text Body :=
  resourceStep (fun ms _ => .ok (.of .configMap ms.key, configMapForMautrixSignal c ms)) req

/-- The user's ConfigMap, `Spec.ConfigMap`. -/
def inputConfigMapKey (ms : MautrixSignal) : ObjectRef :=
  ⟨ms.spec.configMap.name, computeNamespace ms.ns ms.spec.configMap.ns⟩

/-- `MautrixSignalReconciler.configMapForMautrixSignalCopy`: the data of the
user's ConfigMap. -/
def configMapForMautrixSignalCopy (ms : MautrixSignal) (store : Store Text Body) :
    Except Bytes (List (Bytes × Text)) :=
  getConfigMapCopy (inputConfigMapKey ms) store

/-- The edit `copyInputMautrixSignalConfigMap` makes to the Status when the
user's ConfigMap is missing. -/
def asFailed (ms : MautrixSignal) (reason : Bytes) : MautrixSignal :=
  { ms with status.state := lit "FAILED", status.reason := reason }

/-- The reason recorded for a missing user ConfigMap. -/
def missingInputReason (ms : MautrixSignal) : Bytes :=
  lit "ConfigMap " ++ ms.spec.configMap.name ++ lit " does not exist in namespace " ++
    (inputConfigMapKey ms).ns

/-- `MautrixSignalReconciler.copyInputMautrixSignalConfigMap`. When the user's
ConfigMap is missing the step returns `RequeueWithDelayAndError` with the
error of `updateMautrixSignalStatus`, which shadows the error of the `Get`:
after a successful update that error is nil. -/
def copyInputMautrixSignalConfigMap (req : ObjectRef) (store : Store Text Body) :
    Outcome × Store Text Body :=
  match getLatestMautrixSignal req store with
  | .error outcome => (outcome, store)
  | .ok ms =>
    match store.configMap? (inputConfigMapKey ms) with
    | none =>
      match updateMautrixSignalStatus (asFailed ms (missingInputReason ms)) store with
      | .ok (_, store') => (.requeueWithDelay 30, store')
      | .error err => (.requeueWithDelayAndError 30 err, store)
    | some _ =>
      match configMapForMautrixSignalCopy ms store with
      | .error err => (.requeueWithError err, store)
      | .ok data =>
        (.continueReconciling, reconcileResource (.of .configMap ms.key) (.configMap data) store)

/-- `MautrixSignalReconciler.configureMautrixSignalConfigMap`. -/
def configureMautrixSignalConfigMap (req : ObjectRef) (store : Store Text Body) :
    Outcome × Store Text Body :=
  match getLatestMautrixSignal req store with
  | .error outcome => (outcome, store)
  | .ok ms =>
    match updateConfigMap c.codec ms.key (updateMautrixSignalData ms) configYamlKey store with
    | .error err => (.requeueWithError err, store)
    | .ok store' => (.continueReconciling, store')

/-! ## The other children -/

/-- A builder of a child of kind `kind`, named by `name`. -/
def builtChild (kind : Kind) (name : MautrixSignal → Bytes) (req : ObjectRef) :
    Store Text Body → Outcome × Store Text Body :=
  resourceStep (fun ms _ => .ok (⟨kind, ms.ns, name ms⟩, .built (c.build kind (name ms) ms))) req

/-- `reconcileMautrixSignalServiceAccount`. -/
def reconcileMautrixSignalServiceAccount (req : ObjectRef) :
    Store Text Body → Outcome × Store Text Body :=
  builtChild c .serviceAccount MautrixSignal.name req

/-- `reconcileMautrixSignalRoleBinding`. -/
def reconcileMautrixSignalRoleBinding (req : ObjectRef) :
    Store Text Body → Outcome × Store Text Body :=
  builtChild c .roleBinding MautrixSignal.name req

/-- `reconcileSignaldPVC`. -/
def reconcileSignaldPVC (req : ObjectRef) : Store Text Body → Outcome × Store Text Body :=
  builtChild c .persistentVolumeClaim getSignaldResourceName req

/-- `reconcileSignaldDeployment`. -/
def reconcileSignaldDeployment (req : ObjectRef) : Store Text Body → Outcome × Store Text Body :=
  builtChild c .deployment getSignaldResourceName req

/-- `reconcileMautrixSignalService`. -/
def reconcileMautrixSignalService (req : ObjectRef) : Store Text Body → Outcome × Store Text Body :=
  builtChild c .service MautrixSignal.name req

/-- `MautrixSignalReconciler.reconcileMautrixSignalPVC`, whose
`persistentVolumeClaimForMautrixSignal` builds the PVC under the bridge's own
name. -/
def reconcileMautrixSignalPVC (req : ObjectRef) : Store Text Body → Outcome × Store Text Body :=
  builtChild c .persistentVolumeClaim MautrixSignal.name req

/-- `reconcileMautrixSignalDeployment`. -/
def reconcileMautrixSignalDeployment (req : ObjectRef) :
    Store Text Body → Outcome × Store Text Body :=
  builtChild c .deployment MautrixSignal.name req

/-! ## `Reconcile` -/

/-- The steps `Reconcile` runs for the bridge it read, in order. -/
def subreconcilersForMautrixSignal (req : ObjectRef) (ms : MautrixSignal) :
    List (Store Text Body → Outcome × Store Text Body) :=
  [triggerSynapseReconciliation req, buildMautrixSignalStatus c req] ++
  (if ms.spec.configMap.name ≠ [] then
      [copyInputMautrixSignalConfigMap req, configureMautrixSignalConfigMap c req]
    else [reconcileMautrixSignalConfigMap c req]) ++
  (if ms.status.isOpenshift then
      [reconcileMautrixSignalServiceAccount c req, reconcileMautrixSignalRoleBinding c req]
    else []) ++
  [reconcileSignaldPVC c req, reconcileSignaldDeployment c req, reconcileMautrixSignalService c req,
    reconcileMautrixSignalPVC c req, reconcileMautrixSignalDeployment c req]

/-- `MautrixSignalReconciler.Reconcile`. -/
def reconcile (req : ObjectRef) (store : Store Text Body) : Outcome × Store Text Body :=
  match getLatestMautrixSignal req store with
  | .error outcome => (outcome, store)
  | .ok ms => runSubreconcilers (subreconcilersForMautrixSignal c req ms) store

end Steps

/-! ## What each step does -/

section Equations
variable {req : ObjectRef} {store : Store Text Body} {ms : MautrixSignal} {s : Synapse}

@[simp] theorem getLatestMautrixSignal_of_found (found : store.mautrixSignal? req = some ms) :
    getLatestMautrixSignal req store = .ok ms := by
  simp [getLatestMautrixSignal, found]

@[simp] theorem fetchSynapseInstance_of_found (found : store.synapse? ms.synapseKey = some s) :
    fetchSynapseInstance ms store = .ok s := by
  simp [fetchSynapseInstance, found]

/-- Setting `NeedsReconcile` changes a Status exactly when it was unset. -/
theorem needsReconcile_set_eq_iff (st : SynapseStatus) :
    { st with needsReconcile := true } = st ↔ st.needsReconcile = true :=
  ⟨fun same => by rw [← same], fun set => by cases st; simp_all⟩

/-- On a stored bridge and its Synapse, stored under its own key, the trigger
continues, and patches the Synapse unless `NeedsReconcile` is set already. -/
theorem triggerSynapseReconciliation_eq (found : store.mautrixSignal? req = some ms)
    (synapse : store.synapse? ms.synapseKey = some s) (keyed : s.key = ms.synapseKey) :
    triggerSynapseReconciliation req store =
      (.continueReconciling, if s.status.needsReconcile = true then store
        else (store.put (.of .synapse ms.synapseKey) (.synapse { s with status.needsReconcile := true })).record
          (.patch (.of .synapse ms.synapseKey))) := by
  have sameKey : ({ s with status.needsReconcile := true } : Synapse).key = ms.synapseKey := keyed
  simp only [triggerSynapseReconciliation, getLatestMautrixSignal_of_found found,
    fetchSynapseInstance_of_found synapse, updateSynapseStatus,
    SynapseReconciler.updateSynapseStatus_of_found (sameKey ▸ synapse), needsReconcile_set_eq_iff,
    sameKey]
  split_ifs <;> rfl

/-- On a stored bridge and a Synapse with a server name, the status step
continues when the bridge's Status already holds what it copies, and otherwise
patches it and returns `Requeue`. -/
theorem buildMautrixSignalStatus_eq (c : Collaborators Text Body)
    (found : store.mautrixSignal? req = some ms) (keyed : ms.key = req)
    (synapse : store.synapse? ms.synapseKey = some s)
    (named : s.status.homeserverConfiguration.serverName ≠ []) :
    buildMautrixSignalStatus c req store =
      let ms' := withSynapseInfos ms s.status.homeserverConfiguration.serverName s.spec.isOpenshift
      if ms' = ms then (.continueReconciling, store)
      else (.requeue, (store.put (.of .mautrixSignal req) (.mautrixSignal ms')).record
        (.patch (.of .mautrixSignal req))) := by
  subst keyed
  have current : store.mautrixSignal? (withSynapseInfos ms s.status.homeserverConfiguration.serverName
      s.spec.isOpenshift).key = some ms := found
  have same : ∀ st : MautrixSignalStatus,
      ({ ms with status := st } = ms ↔ st = ms.status) :=
    fun st => ⟨fun eq => by rw [← eq], fun eq => by rw [eq]⟩
  simp only [buildMautrixSignalStatus, getLatestMautrixSignal_of_found found,
    fetchSynapseInstance_of_found synapse, getSynapseServerName, named, ↓reduceIte,
    updateMautrixSignalStatus, current]
  simp only [withSynapseInfos, same]
  split_ifs <;> rfl

variable [DecidableEq Text] [DecidableEq Body]

/-- A resource step on a stored bridge: an error of its builder, or the
desired object handed to `ReconcileResource`. -/
theorem resourceStep_eq
    {desired : MautrixSignal → Store Text Body → Except Bytes (Identity × Object Text Body)}
    (found : store.mautrixSignal? req = some ms) :
    resourceStep desired req store =
      match desired ms store with
      | .error err => (.requeueWithError err, store)
      | .ok (id, object) => (.continueReconciling, reconcileResource id object store) := by
  simp only [resourceStep, getLatestMautrixSignal_of_found found]

/-- Afterwards the identity holds the builder's object. -/
theorem resourceStep_makes
    {desired : MautrixSignal → Store Text Body → Except Bytes (Identity × Object Text Body)}
    (found : store.mautrixSignal? req = some ms) {id : Identity} {object : Object Text Body}
    (made : desired ms store = .ok (id, object)) :
    (resourceStep desired req store).2.objects id = some object := by
  simp [resourceStep_eq found, made]

/-- With the user's ConfigMap there, the copy step reconciles the bridge's
ConfigMap to its data. -/
theorem copyInputMautrixSignalConfigMap_of_found (found : store.mautrixSignal? req = some ms)
    (keyed : ms.key = req) {data : List (Bytes × Text)}
    (input : store.configMap? (inputConfigMapKey ms) = some data) :
    copyInputMautrixSignalConfigMap req store =
      (.continueReconciling, reconcileResource (.of .configMap req) (.configMap data) store) := by
  subst keyed
  simp [copyInputMautrixSignalConfigMap, found, input, configMapForMautrixSignalCopy, getConfigMapCopy]

/-- Without it, the step sets the bridge FAILED and requeues after the delay,
with no error. -/
theorem copyInputMautrixSignalConfigMap_of_missing (found : store.mautrixSignal? req = some ms)
    (keyed : ms.key = req) (missing : store.configMap? (inputConfigMapKey ms) = none) :
    (copyInputMautrixSignalConfigMap req store).1 = .requeueWithDelay 30 := by
  subst keyed
  have current : store.mautrixSignal? (asFailed ms (missingInputReason ms)).key = some ms := found
  simp only [copyInputMautrixSignalConfigMap, getLatestMautrixSignal_of_found found, missing,
    updateMautrixSignalStatus, current]
  split_ifs <;> rfl

/-- The edit of config.yaml on a stored bridge: `UpdateConfigMap` on the
bridge's own ConfigMap. -/
theorem configureMautrixSignalConfigMap_eq (c : Collaborators Text Body)
    (found : store.mautrixSignal? req = some ms) (keyed : ms.key = req) :
    configureMautrixSignalConfigMap c req store =
      match updateConfigMap c.codec req (updateMautrixSignalData ms) configYamlKey store with
      | .error err => (.requeueWithError err, store)
      | .ok store' => (.continueReconciling, store') := by
  subst keyed
  simp only [configureMautrixSignalConfigMap, getLatestMautrixSignal_of_found found]

end Equations

end SynapseOperator.MautrixSignalReconciler
