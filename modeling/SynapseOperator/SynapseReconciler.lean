import SynapseOperator.Cluster
import SynapseOperator.Status
import SynapseOperator.AppService

/-!
`SynapseReconciler.Reconcile` and its subreconcilers, over the store of
`Cluster`.

`Reconcile` reads the Synapse, builds the list of steps from its Spec and
Status, and runs them with `runSubreconcilers`. The steps come in three
shapes, each one definition with the member's own values:

* `statusStep`: read the Synapse, build the Synapse to hand to
  `updateSynapseStatus`, and return `Requeue` when that patched.
  `setStatusHomeserverConfiguration`, `parseInputSynapseConfigMap`,
  `updateSynapseStatusBridges`, `updateSynapseStatusWithPostgreSQLInfos` and
  `setSynapseStatusAsRunning`. What each hands on is what the matching
  `StatusWriter` builds (`*_toOption` lemmas), which ties these steps to the
  merge-patch model of `StatusPatch`.
* `resourceStep`: build one child and hand it to `ReconcileResource`.
  `reconcileSynapseConfigMap`, `copyInputSynapseConfigMap`, and the builders of
  the PostgresCluster ConfigMap and CR, ServiceAccount, RoleBinding, Service,
  PVC and Deployment, whose code is not among the sources and whose objects are
  taken as given (`Collaborators.build`).
* `configMapStep`: run `UpdateConfigMap` on homeserver.yaml with an
  `updateDataFunc`: `updateSynapseConfigMapForPostgresCluster`,
  `updateSynapseConfigMapForHeisenbridge`, `updateSynapseConfigMapForMautrixSignal`.

The homeserver.yaml text `configMapForSynapse` builds is left open as
`Collaborators.homeserverYaml`, a function of the two values it interpolates.
-/

namespace SynapseOperator.SynapseReconciler
open SynapseOperator.Api SynapseOperator.Document SynapseOperator.Naming SynapseOperator.Cluster
  SynapseOperator.Status SynapseOperator.Bridges SynapseOperator.Database SynapseOperator.AppService

/-- What a run of the Synapse controller needs besides the store. -/
structure Collaborators (Text Body : Type) where
  /-- gopkg.in/yaml.v2. -/
  codec : YamlCodec Text
  /-- `configMapForSynapse`'s homeserver.yaml, from `ServerName` and `ReportStats`. -/
  homeserverYaml : Bytes → Bool → Text
  /-- The data of the PostgresCluster's ConfigMap. -/
  postgresClusterConfigMapData : Synapse → List (Bytes × Text)
  /-- What the builders of the PostgresCluster, ServiceAccount, RoleBinding,
  Service, PVC and Deployment return for a Synapse. -/
  build : Kind → Synapse → Body

variable {Text Body : Type}

/-- The artifact every step of this controller reads and writes. -/
def homeserverYamlKey : Bytes := lit "homeserver.yaml"

/-- `SynapseReconciler.getLatestSynapse`: a Synapse that is not found ends the
run with `DoNotRequeue`. -/
def getLatestSynapse (req : ObjectRef) (store : Store Text Body) : Except Outcome Synapse :=
  match store.synapse? req with
  | some s => .ok s
  | none => .error .doNotRequeue

/-- `SynapseReconciler.updateSynapseStatus`: read the Synapse again and, when
its Status differs from `synapse`'s, merge-patch it from what was read;
whether it patched. -/
def updateSynapseStatus (synapse : Synapse) (store : Store Text Body) :
    Except Bytes (Bool × Store Text Body) :=
  match store.synapse? synapse.key with
  | none => .error (notFound "synapses" synapse.name)
  | some current =>
    if synapse.status = current.status then .ok (false, store)
    else .ok (true, (store.put (.of .synapse synapse.key)
      (.synapse { current with status := mergeStatus current.status synapse.status current.status })).record
        (.patch (.of .synapse synapse.key)))

/-- `SynapseReconciler.setFailedState`: its error is `updateSynapseStatus`'s,
whether that patched is dropped. -/
def setFailedState (synapse : Synapse) (reason : Bytes) (store : Store Text Body) :
    Except Bytes (Store Text Body) :=
  (updateSynapseStatus (asFailed synapse reason) store).map Prod.snd

/-- The store after a `setFailedState` whose error is only logged. -/
def afterFailedState (synapse : Synapse) (reason : Bytes) (store : Store Text Body) :
    Store Text Body :=
  match setFailedState synapse reason store with
  | .ok store' => store'
  | .error _ => store

/-- The ConfigMap a `Spec.Homeserver.ConfigMap` reference names. -/
def inputConfigMapKey (s : Synapse) (ref : ObjectRef) : ObjectRef :=
  ⟨ref.name, computeNamespace s.ns ref.ns⟩

/-- The Secret of the PostgresCluster's `synapse` user. -/
def postgresSecretKey (s : Synapse) : ObjectRef :=
  ⟨getPostgresClusterResourceName s ++ lit "-pguser-synapse", s.ns⟩

/-! ## Steps that write the Status -/

/-- The shape of the steps that write the Status: read the Synapse, build the
Synapse to hand to `updateSynapseStatus` or end the step with what `candidate`
returns, and return `Requeue` when it patched. -/
def statusStep (candidate : Synapse → Store Text Body → Except (Outcome × Store Text Body) Synapse)
    (req : ObjectRef) (store : Store Text Body) : Outcome × Store Text Body :=
  match getLatestSynapse req store with
  | .error outcome => (outcome, store)
  | .ok s =>
    match candidate s store with
    | .error ended => ended
    | .ok synapse =>
      match updateSynapseStatus synapse store with
      | .error err => (.requeueWithError err, store)
      | .ok (true, store') => (.requeue, store')
      | .ok (false, store') => (.continueReconciling, store')

/-- `SynapseReconciler.setStatusHomeserverConfiguration`. -/
def setStatusHomeserverConfiguration (req : ObjectRef) :
    Store Text Body → Outcome × Store Text Body :=
  statusStep (fun s _ => .ok (withValuesConfiguration s)) req

/-- What `parseInputSynapseConfigMap` hands to `updateSynapseStatus`: the
Synapse with the configuration of the user's homeserver.yaml. A ConfigMap that
is not found sets the Synapse FAILED; every failure ends the step with a
delayed requeue. A nil reference is a panic in Go, which `Reconcile` never
reaches: it runs the step only when the reference is set. -/
def parseInputSynapseConfigMapCandidate (c : Collaborators Text Body)
    (s : Synapse) (store : Store Text Body) : Except (Outcome × Store Text Body) Synapse :=
  match s.spec.configMap with
  | none => .error (.requeueWithError nilDereference, store)
  | some ref =>
    let key := inputConfigMapKey s ref
    match store.configMap? key with
    | none =>
      .error (.requeueWithDelayAndError 30 (notFound "configmaps" ref.name),
        afterFailedState s (lit "ConfigMap " ++ ref.name ++ lit " does not exist in namespace " ++
          key.ns) store)
    | some data =>
      match loadYAMLFileFromConfigMapData c.codec data homeserverYamlKey >>=
          parseHomeserverConfigMap s with
      | .ok parsed => .ok parsed
      | .error err => .error (.requeueWithDelayAndError 30 err, store)

/-- `SynapseReconciler.parseInputSynapseConfigMap`. -/
def parseInputSynapseConfigMap (c : Collaborators Text Body) (req : ObjectRef) :
    Store Text Body → Outcome × Store Text Body :=
  statusStep (parseInputSynapseConfigMapCandidate c) req

/-- `SynapseReconciler.updateSynapseStatusBridges`, with the results of its two
List calls. -/
def updateSynapseStatusBridges (hList : List Heisenbridge) (msList : List MautrixSignal)
    (req : ObjectRef) : Store Text Body → Outcome × Store Text Body :=
  statusStep (fun s _ => .ok (markListedBridges s hList msList)) req

/-- What `updateSynapseStatusWithPostgreSQLInfos` hands to `updateSynapseStatus`. -/
def postgreSQLInfosCandidate (s : Synapse) (store : Store Text Body) :
    Except (Outcome × Store Text Body) Synapse :=
  match store.secret? (postgresSecretKey s) with
  | none => .error (.requeueWithError (notFound "secrets" (postgresSecretKey s).name), store)
  | some data =>
    match updateSynapseStatusDatabase s data with
    | .ok updated => .ok updated
    | .error err => .error (.requeueWithError err, store)

/-- `SynapseReconciler.updateSynapseStatusWithPostgreSQLInfos`. -/
def updateSynapseStatusWithPostgreSQLInfos (req : ObjectRef) :
    Store Text Body → Outcome × Store Text Body :=
  statusStep postgreSQLInfosCandidate req

/-- `SynapseReconciler.setSynapseStatusAsRunning`. -/
def setSynapseStatusAsRunning (req : ObjectRef) : Store Text Body → Outcome × Store Text Body :=
  statusStep (fun s _ => .ok (asRunning s)) req

/-! ## Steps that reconcile a child -/

section Resources
variable [DecidableEq Text] [DecidableEq Body] (c : Collaborators Text Body)

/-- The shape of the steps that reconcile one child: read the Synapse, build the
desired object under its identity, and hand it to `ReconcileResource`. -/
def resourceStep (desired : Synapse → Store Text Body → Except Bytes (Identity × Object Text Body))
    (req : ObjectRef) (store : Store Text Body) : Outcome × Store Text Body :=
  match getLatestSynapse req store with
  | .error outcome => (outcome, store)
  | .ok s =>
    match desired s store with
    | .error err => (.requeueWithError err, store)
    | .ok (id, object) => (.continueReconciling, reconcileResource id object store)

/-- `SynapseReconciler.configMapForSynapse`: the default homeserver.yaml. -/
def configMapForSynapse (s : Synapse) : Object Text Body :=
  .configMap [(homeserverYamlKey, c.homeserverYaml s.spec.values.serverName s.spec.values.reportStats)]

/-- `SynapseReconciler.reconcileSynapseConfigMap`. -/
def reconcileSynapseConfigMap (req : ObjectRef) : Store Text Body → Outcome × Store Text Body :=
  resourceStep (fun s _ => .ok (.of .configMap s.key, configMapForSynapse c s)) req

/-- `SynapseReconciler.configMapForSynapseCopy`: the data of the user's ConfigMap. -/
def configMapForSynapseCopy (s : Synapse) (store : Store Text Body) :
    Except Bytes (List (Bytes × Text)) :=
  match s.spec.configMap with
  | none => .error nilDereference
  | some ref => getConfigMapCopy (inputConfigMapKey s ref) store

/-- `SynapseReconciler.copyInputSynapseConfigMap`. -/
def copyInputSynapseConfigMap (req : ObjectRef) : Store Text Body → Outcome × Store Text Body :=
  resourceStep (fun s store =>
    (configMapForSynapseCopy s store).map fun data => (.of .configMap s.key, .configMap data)) req

/-- `reconcilePostgresClusterConfigMap`: the ConfigMap named by
`GetPostgresClusterResourceName`. -/
def reconcilePostgresClusterConfigMap (req : ObjectRef) :
    Store Text Body → Outcome × Store Text Body :=
  resourceStep (fun s _ => .ok (⟨.configMap, s.ns, getPostgresClusterResourceName s⟩,
    .configMap (c.postgresClusterConfigMapData s))) req

/-- A builder that is not among the sources: its object of kind `kind`,
named by `name`. -/
def builtChild (kind : Kind) (name : Synapse → Bytes) (req : ObjectRef) :
    Store Text Body → Outcome × Store Text Body :=
  resourceStep (fun s _ => .ok (⟨kind, s.ns, name s⟩, .built (c.build kind s))) req

/-- `reconcilePostgresClusterCR`. -/
def reconcilePostgresClusterCR (req : ObjectRef) : Store Text Body → Outcome × Store Text Body :=
  builtChild c .postgresCluster getPostgresClusterResourceName req

/-- `reconcileSynapseServiceAccount`. -/
def reconcileSynapseServiceAccount (req : ObjectRef) : Store Text Body → Outcome × Store Text Body :=
  builtChild c .serviceAccount Synapse.name req

/-- `reconcileSynapseRoleBinding`. -/
def reconcileSynapseRoleBinding (req : ObjectRef) : Store Text Body → Outcome × Store Text Body :=
  builtChild c .roleBinding Synapse.name req

/-- `reconcileSynapseService`. -/
def reconcileSynapseService (req : ObjectRef) : Store Text Body → Outcome × Store Text Body :=
  builtChild c .service Synapse.name req

/-- `reconcileSynapsePVC`. -/
def reconcileSynapsePVC (req : ObjectRef) : Store Text Body → Outcome × Store Text Body :=
  builtChild c .persistentVolumeClaim Synapse.name req

/-- `reconcileSynapseDeployment`. -/
def reconcileSynapseDeployment (req : ObjectRef) : Store Text Body → Outcome × Store Text Body :=
  builtChild c .deployment Synapse.name req

end Resources

/-! ## Steps that edit homeserver.yaml -/

section ConfigMapSteps
variable [DecidableEq Text] (c : Collaborators Text Body)

/-- The shape of the steps that edit homeserver.yaml: read the Synapse and run
`UpdateConfigMap` on its ConfigMap with the step's `updateDataFunc`. -/
def configMapStep (updateData : Synapse → Fields → Except Bytes Fields) (req : ObjectRef)
    (store : Store Text Body) : Outcome × Store Text Body :=
  match getLatestSynapse req store with
  | .error outcome => (outcome, store)
  | .ok s =>
    match updateConfigMap c.codec s.key (updateData s) homeserverYamlKey store with
    | .error err => (.requeueWithError err, store)
    | .ok store' => (.continueReconciling, store')

/-- `SynapseReconciler.updateSynapseConfigMapForPostgresCluster`. -/
def updateSynapseConfigMapForPostgresCluster (req : ObjectRef) :
    Store Text Body → Outcome × Store Text Body :=
  configMapStep c updateHomeserverWithPostgreSQLInfos req

/-- `SynapseReconciler.updateSynapseConfigMapForHeisenbridge`. -/
def updateSynapseConfigMapForHeisenbridge (req : ObjectRef) :
    Store Text Body → Outcome × Store Text Body :=
  configMapStep c (fun _ => updateHomeserverWithHeisenbridgeInfos) req

/-- `SynapseReconciler.updateSynapseConfigMapForMautrixSignal`. -/
def updateSynapseConfigMapForMautrixSignal (req : ObjectRef) :
    Store Text Body → Outcome × Store Text Body :=
  configMapStep c (fun _ => updateHomeserverWithMautrixSignalInfos) req

end ConfigMapSteps

/-! ## `Reconcile` -/

section Reconcile
variable [DecidableEq Text] [DecidableEq Body] (c : Collaborators Text Body)

/-- The steps `Reconcile` runs for the Synapse it read, in order. -/
def subreconcilersForSynapse (hList : List Heisenbridge) (msList : List MautrixSignal)
    (req : ObjectRef) (synapse : Synapse) : List (Store Text Body → Outcome × Store Text Body) :=
  (if synapse.spec.configMap.isSome then
      [parseInputSynapseConfigMap c req, copyInputSynapseConfigMap req]
    else [setStatusHomeserverConfiguration req, reconcileSynapseConfigMap c req]) ++
  [updateSynapseStatusBridges hList msList req] ++
  (if synapse.spec.createNewPostgreSQL then
      [reconcilePostgresClusterConfigMap c req, reconcilePostgresClusterCR c req,
        updateSynapseStatusWithPostgreSQLInfos req, updateSynapseConfigMapForPostgresCluster c req]
    else []) ++
  (if synapse.status.bridges.heisenbridge.enabled then
      [updateSynapseConfigMapForHeisenbridge c req] else []) ++
  (if synapse.status.bridges.mautrixSignal.enabled then
      [updateSynapseConfigMapForMautrixSignal c req] else []) ++
  (if synapse.spec.isOpenshift then
      [reconcileSynapseServiceAccount c req, reconcileSynapseRoleBinding c req] else []) ++
  [reconcileSynapseService c req, reconcileSynapsePVC c req, reconcileSynapseDeployment c req,
    setSynapseStatusAsRunning req]

/-- The reason `Reconcile` records when PostgreSQL is asked for and the
Postgres operator is not installed. -/
def postgresOperatorMissing : Bytes :=
  lit "Cannot create PostgreSQL instance for synapse. Postgres-operator is not installed."

/-- `SynapseReconciler.Reconcile`, with the results of this run's two List
calls. Building the step list writes nothing, so the Postgres check, which
the source makes between two appends, is made before the list is run. -/
def reconcile (hList : List Heisenbridge) (msList : List MautrixSignal) (req : ObjectRef)
    (store : Store Text Body) : Outcome × Store Text Body :=
  match getLatestSynapse req store with
  | .error outcome => (outcome, store)
  | .ok synapse =>
    if synapse.spec.createNewPostgreSQL ∧ store.postgresOperatorInstalled = false then
      (.doNotRequeue, afterFailedState synapse postgresOperatorMissing store)
    else runSubreconcilers (subreconcilersForSynapse c hList msList req synapse) store

end Reconcile


/-! ## What each shape of step does -/

/-- A status step's candidate hands on what a `StatusWriter` builds from what
the step reads, and ends the step with an error otherwise. -/
structure BuildsBy (candidate : Synapse → Store Text Body → Except (Outcome × Store Text Body) Synapse)
    (writerOf : Synapse → Store Text Body → Option StatusWriter) : Prop where
  toOption : ∀ s store, (candidate s store).toOption = (writerOf s store).bind (·.candidate s)
  ends : ∀ s store ended, candidate s store = .error ended → ended.1.IsError

@[simp] theorem getLatestSynapse_of_found {req : ObjectRef} {store : Store Text Body} {s : Synapse}
    (found : store.synapse? req = some s) : getLatestSynapse req store = .ok s := by
  simp [getLatestSynapse, found]

/-- The patch `updateSynapseStatus` makes when nobody else writes: the read
Synapse with the new Status. -/
theorem updateSynapseStatus_of_found {synapse current : Synapse} {store : Store Text Body}
    (found : store.synapse? synapse.key = some current) :
    updateSynapseStatus synapse store =
      if synapse.status = current.status then .ok (false, store)
      else .ok (true, (store.put (.of .synapse synapse.key)
        (.synapse { current with status := synapse.status })).record (.patch (.of .synapse synapse.key))) := by
  simp [updateSynapseStatus, found, mergeStatus_self]

section StatusStep
variable {candidate : Synapse → Store Text Body → Except (Outcome × Store Text Body) Synapse}
  {writerOf : Synapse → Store Text Body → Option StatusWriter} {req : ObjectRef}
  {store : Store Text Body} {s : Synapse}

theorem BuildsBy.eq_ok (builds : BuildsBy candidate writerOf) {s' : Synapse}
    (made : candidate s store = .ok s') :
    ∃ w, writerOf s store = some w ∧ w.candidate s = some s' := by
  have := builds.toOption s store
  rw [made] at this
  exact Option.bind_eq_some.mp this.symm

/-- A status step on a stored Synapse: it ends with its candidate's error, or
continues when the candidate is the Synapse read, or patches the Status and
returns `Requeue`. -/
theorem statusStep_eq (builds : BuildsBy candidate writerOf) (found : store.synapse? req = some s)
    (keyed : s.key = req) :
    statusStep candidate req store =
      match candidate s store with
      | .error ended => ended
      | .ok s' => if s' = s then (.continueReconciling, store)
        else (.requeue, (store.put (.of .synapse req) (.synapse s')).record (.patch (.of .synapse req))) := by
  simp only [statusStep, getLatestSynapse_of_found found]
  cases made : candidate s store with
  | error ended => rfl
  | ok s' =>
    obtain ⟨w, -, built⟩ := builds.eq_ok made
    have rebuilt := StatusWriter.candidate_eq built
    have sameKey : s'.key = req := by rw [rebuilt]; exact keyed
    simp only [updateSynapseStatus_of_found (sameKey ▸ found), sameKey]
    by_cases same : s' = s
    · simp [same]
    · have differs : s'.status ≠ s.status := fun eq => same (by rw [rebuilt, eq])
      simp only [differs, same, ↓reduceIte, ← rebuilt]

/-- A status step that does not continue returns `Requeue` or an error. -/
theorem statusStep_halts (builds : BuildsBy candidate writerOf)
    (found : store.synapse? req = some s) (keyed : s.key = req) :
    (statusStep candidate req store).1 ≠ .continueReconciling →
      (statusStep candidate req store).1 = .requeue ∨ (statusStep candidate req store).1.IsError := by
  rw [statusStep_eq builds found keyed]
  cases made : candidate s store with
  | error ended => exact fun _ => .inr (builds.ends s store ended made)
  | ok s' => dsimp only; split <;> simp

/-- A status step that continues was settled and wrote nothing. -/
theorem statusStep_continue (builds : BuildsBy candidate writerOf)
    (found : store.synapse? req = some s) (keyed : s.key = req)
    (continued : (statusStep candidate req store).1 = .continueReconciling) :
    statusStep candidate req store = (.continueReconciling, store) ∧
      ∃ w, writerOf s store = some w ∧ w.Settled s := by
  rw [statusStep_eq builds found keyed] at continued ⊢
  cases made : candidate s store with
  | error ended =>
    rw [made] at continued
    exact absurd continued (builds.ends s store ended made).ne.1
  | ok s' =>
    rw [made] at continued
    by_cases same : s' = s
    · obtain ⟨w, held, built⟩ := builds.eq_ok made
      subst same
      exact ⟨by simp, w, held, built⟩
    · simp [same] at continued

/-- A status step that returns `Requeue` patched the Status to its candidate. -/
theorem statusStep_requeue (builds : BuildsBy candidate writerOf)
    (found : store.synapse? req = some s) (keyed : s.key = req)
    (requeued : (statusStep candidate req store).1 = .requeue) :
    ∃ w s', writerOf s store = some w ∧ w.candidate s = some s' ∧ s' ≠ s ∧
      (statusStep candidate req store).2 =
        (store.put (.of .synapse req) (.synapse s')).record (.patch (.of .synapse req)) := by
  rw [statusStep_eq builds found keyed] at requeued ⊢
  cases made : candidate s store with
  | error ended =>
    rw [made] at requeued
    exact absurd requeued (builds.ends s store ended made).ne.2.1
  | ok s' =>
    rw [made] at requeued
    obtain ⟨w, held, built⟩ := builds.eq_ok made
    by_cases same : s' = s
    · simp [same] at requeued
    · exact ⟨w, s', held, built, same, by simp [same]⟩

/-- A settled status step continues and writes nothing. -/
theorem statusStep_of_settled (builds : BuildsBy candidate writerOf)
    (found : store.synapse? req = some s) (keyed : s.key = req) {w : StatusWriter}
    (held : writerOf s store = some w) (settled : w.Settled s) :
    statusStep candidate req store = (.continueReconciling, store) := by
  have made : candidate s store = .ok s := by
    rw [← except_toOption_eq_some, builds.toOption, held]
    exact settled
  simp [statusStep_eq builds found keyed, made]

end StatusStep

/-- `setFailedState` on a stored Synapse leaves it FAILED with the reason. -/
theorem afterFailedState_of_found (s : Synapse) (reason : Bytes) {store : Store Text Body}
    (found : store.synapse? s.key = some s) :
    (afterFailedState s reason store).synapse? s.key = some (asFailed s reason) ∧
      (afterFailedState s reason store).postgresOperatorInstalled = store.postgresOperatorInstalled := by
  have found' : store.synapse? (asFailed s reason).key = some s := found
  unfold afterFailedState setFailedState
  rw [updateSynapseStatus_of_found found']
  split_ifs with same
  · have unchanged : asFailed s reason = s :=
      show { s with status := (asFailed s reason).status } = s by rw [same]
    simp [Except.map, unchanged, found]
  · simp [Except.map, asFailed, Synapse.key]

/-- On a Synapse already FAILED with the reason, `setFailedState` writes nothing. -/
theorem afterFailedState_of_failed {s : Synapse} {reason : Bytes} {store : Store Text Body}
    (found : store.synapse? s.key = some (asFailed s reason)) :
    afterFailedState (asFailed s reason) reason store = store := by
  have found' : store.synapse? (asFailed (asFailed s reason) reason).key = some (asFailed s reason) :=
    found
  unfold afterFailedState setFailedState
  have same : (asFailed (asFailed s reason) reason).status = (asFailed s reason).status := rfl
  rw [updateSynapseStatus_of_found found', if_pos same]
  rfl

/-! ### What each status step hands on -/

/-- The writer `parseInputSynapseConfigMap` builds its candidate with: the
user's homeserver.yaml, when its ConfigMap is found and decodes. -/
def parseWriter (c : Collaborators Text Body) (s : Synapse) (store : Store Text Body) :
    Option StatusWriter :=
  match s.spec.configMap with
  | none => none
  | some ref => (store.configMap? (inputConfigMapKey s ref)).bind fun data =>
      (loadYAMLFileFromConfigMapData c.codec data homeserverYamlKey).toOption.map
        .parseInputSynapseConfigMap

/-- The writer `updateSynapseStatusWithPostgreSQLInfos` builds its candidate
with: the PostgreSQL Secret's data, when it is found. -/
def postgreSQLWriter (s : Synapse) (store : Store Text Body) : Option StatusWriter :=
  (store.secret? (postgresSecretKey s)).map .updateSynapseStatusWithPostgreSQLInfos

/-- The writers read the Synapse's name, namespace and Spec, not its Status. -/
@[simp] theorem parseWriter_with_status (c : Collaborators Text Body) (s : Synapse)
    (status : SynapseStatus) (store : Store Text Body) :
    parseWriter c { s with status } store = parseWriter c s store := rfl

@[simp] theorem postgreSQLWriter_with_status (s : Synapse) (status : SynapseStatus)
    (store : Store Text Body) :
    postgreSQLWriter { s with status } store = postgreSQLWriter s store := rfl

theorem builds_setStatusHomeserverConfiguration :
    @BuildsBy Text Body (fun s _ => .ok (withValuesConfiguration s))
      (fun _ _ => some .setStatusHomeserverConfiguration) :=
  ⟨fun _ _ => rfl, fun _ _ _ made => by cases made⟩

theorem builds_updateSynapseStatusBridges (hList : List Heisenbridge) (msList : List MautrixSignal) :
    @BuildsBy Text Body (fun s _ => .ok (markListedBridges s hList msList))
      (fun _ _ => some (.updateSynapseStatusBridges hList msList)) :=
  ⟨fun _ _ => rfl, fun _ _ _ made => by cases made⟩

theorem builds_setSynapseStatusAsRunning :
    @BuildsBy Text Body (fun s _ => .ok (asRunning s))
      (fun _ _ => some .setSynapseStatusAsRunning) :=
  ⟨fun _ _ => rfl, fun _ _ _ made => by cases made⟩

theorem builds_parseInputSynapseConfigMap (c : Collaborators Text Body) :
    BuildsBy (parseInputSynapseConfigMapCandidate c) (parseWriter c) := by
  constructor
  · intro s store
    unfold parseInputSynapseConfigMapCandidate parseWriter
    cases s.spec.configMap with
    | none => rfl
    | some ref =>
      dsimp only
      cases store.configMap? (inputConfigMapKey s ref) with
      | none => rfl
      | some data =>
        simp only [Option.some_bind]
        cases loadYAMLFileFromConfigMapData c.codec data homeserverYamlKey with
        | error err => rfl
        | ok doc =>
          simp only [except_ok_bind, Except.toOption, Option.some_bind, Option.map_some',
            StatusWriter.candidate]
          cases parseHomeserverConfigMap s doc <;> rfl
  · intro s store ended made
    unfold parseInputSynapseConfigMapCandidate at made
    dsimp only at made
    repeat' split at made
    all_goals first | (cases made; trivial) | cases made

theorem builds_updateSynapseStatusWithPostgreSQLInfos :
    @BuildsBy Text Body postgreSQLInfosCandidate postgreSQLWriter := by
  constructor
  · intro s store
    unfold postgreSQLInfosCandidate postgreSQLWriter
    cases store.secret? (postgresSecretKey s) with
    | none => rfl
    | some data =>
      simp only [Option.map_some', Option.some_bind, StatusWriter.candidate]
      cases updateSynapseStatusDatabase s data <;> rfl
  · intro s store ended made
    unfold postgreSQLInfosCandidate at made
    repeat' split at made
    all_goals first | (cases made; trivial) | cases made

section Shapes
variable [DecidableEq Text] {req : ObjectRef} {store : Store Text Body} {s : Synapse}

/-- A resource step on a stored Synapse: an error of its builder, or the
desired object handed to `ReconcileResource`. -/
theorem resourceStep_eq [DecidableEq Body]
    {desired : Synapse → Store Text Body → Except Bytes (Identity × Object Text Body)}
    (found : store.synapse? req = some s) :
    resourceStep desired req store =
      match desired s store with
      | .error err => (.requeueWithError err, store)
      | .ok (id, object) => (.continueReconciling, reconcileResource id object store) := by
  simp only [resourceStep, getLatestSynapse_of_found found]

/-- A resource step that continued handed its builder's object to
`ReconcileResource`. -/
theorem resourceStep_continued [DecidableEq Body]
    {desired : Synapse → Store Text Body → Except Bytes (Identity × Object Text Body)}
    (found : store.synapse? req = some s)
    (continued : (resourceStep desired req store).1 = .continueReconciling) :
    ∃ id object, desired s store = .ok (id, object) ∧
      resourceStep desired req store = (.continueReconciling, reconcileResource id object store) := by
  rw [resourceStep_eq found] at continued ⊢
  cases made : desired s store with
  | error err => rw [made] at continued; cases continued
  | ok built => exact ⟨built.1, built.2, rfl, rfl⟩

/-- Afterwards the identity holds the builder's object. -/
theorem resourceStep_makes [DecidableEq Body]
    {desired : Synapse → Store Text Body → Except Bytes (Identity × Object Text Body)}
    (found : store.synapse? req = some s) {id : Identity} {object : Object Text Body}
    (made : desired s store = .ok (id, object)) :
    (resourceStep desired req store).2.objects id = some object := by
  simp [resourceStep_eq found, made]

/-- A step that edits homeserver.yaml on a stored Synapse: `UpdateConfigMap` on
the Synapse's own ConfigMap. -/
theorem configMapStep_eq (c : Collaborators Text Body)
    {updateData : Synapse → Fields → Except Bytes Fields} (found : store.synapse? req = some s) :
    configMapStep c updateData req store =
      match updateConfigMap c.codec s.key (updateData s) homeserverYamlKey store with
      | .error err => (.requeueWithError err, store)
      | .ok store' => (.continueReconciling, store') := by
  simp only [configMapStep, getLatestSynapse_of_found found]

end Shapes

end SynapseOperator.SynapseReconciler
