import Mathlib.Algebra.Group.Int
import Mathlib.Data.List.Basic

/-! The objects the two controllers read and write: Go byte strings, the
`synapsev1alpha1` custom resources and the namespace and host-name helpers of
`helpers/utils`. Only the fields some modelled function reads or writes are
kept; the resource types themselves are not among the sources and are
reconstructed from their uses in the controllers. -/
namespace SynapseOperator.Api

/-- A Go `string` or `[]byte`: a sequence of arbitrary bytes. -/
abbrev Bytes := List UInt8

/-- A Go function that returns `(T, error)` returns `.ok` in `Except`; `pure`
is that constructor. -/
@[simp] theorem except_pure {ε α : Type} (a : α) : (pure a : Except ε α) = .ok a := rfl

@[simp] theorem except_ok_bind {ε α β : Type} (a : α) (f : α → Except ε β) :
    (Except.ok a >>= f) = f a := rfl

/-- A chain of fallible calls succeeds exactly when its first call does and the
rest succeeds on that result. -/
theorem except_bind_eq_ok {ε α β : Type} {x : Except ε α} {f : α → Except ε β} {b : β} :
    (x >>= f) = .ok b ↔ ∃ a, x = .ok a ∧ f a = .ok b := by
  cases x <;> simp [bind, Except.bind]

@[simp] theorem except_toOption_eq_some {ε α : Type} {x : Except ε α} {a : α} :
    x.toOption = some a ↔ x = .ok a := by
  cases x <;> simp [Except.toOption]

theorem byte_lt (a : UInt8) : a.toNat < 256 := a.val.isLt

/-- An ASCII string literal of the sources, as the bytes Go stores for it. -/
def lit (s : String) : Bytes := s.toList.map Char.toUInt8

/-- `utils.ComputeNamespace`: a reference's namespace, defaulting to the
namespace of the object that holds the reference. The helper is not among the
sources; this is the behaviour its call sites rely on. -/
def computeNamespace (defaultNamespace ns : Bytes) : Bytes :=
  if ns = [] then defaultNamespace else ns

/-- `utils.ComputeFQDN`: the in-cluster DNS name of a service, joined as
`GetMautrixSignalServiceFQDN` joins it. -/
def computeFQDN (name ns : Bytes) : Bytes :=
  name ++ lit "." ++ ns ++ lit ".svc.cluster.local"

/-- A `types.NamespacedName`, or the `{Name, Namespace}` pair of a reference
in a Spec. -/
structure ObjectRef where
  name : Bytes
  ns : Bytes
  deriving DecidableEq, Repr

/-! ## Synapse -/

/-- `Spec.Homeserver.Values`: what the default homeserver.yaml is built from. -/
structure HomeserverValues where
  serverName : Bytes
  reportStats : Bool
  deriving DecidableEq, Repr

structure SynapseSpec where
  /-- `Spec.Homeserver.ConfigMap`, a pointer: the user's homeserver.yaml. -/
  configMap : Option ObjectRef
  /-- `Spec.Homeserver.Values`, read when no ConfigMap is given. -/
  values : HomeserverValues
  createNewPostgreSQL : Bool
  isOpenshift : Bool
  deriving DecidableEq, Repr

structure HomeserverConfiguration where
  serverName : Bytes := []
  reportStats : Bool := false
  deriving DecidableEq, Repr

structure DatabaseConnectionInfo where
  connectionURL : Bytes := []
  databaseName : Bytes := []
  user : Bytes := []
  password : Bytes := []
  state : Bytes := []
  deriving DecidableEq, Repr

/-- `Status.Bridges.Heisenbridge` or `Status.Bridges.MautrixSignal`. -/
structure BridgeStatus where
  enabled : Bool := false
  name : Bytes := []
  deriving DecidableEq, Repr

structure BridgesStatus where
  heisenbridge : BridgeStatus := {}
  mautrixSignal : BridgeStatus := {}
  deriving DecidableEq, Repr

/-- `SynapseStatus`. Go's `reflect.DeepEqual` on it is this structure's
equality. -/
structure SynapseStatus where
  state : Bytes := []
  reason : Bytes := []
  needsReconcile : Bool := false
  homeserverConfiguration : HomeserverConfiguration := {}
  databaseConnectionInfo : DatabaseConnectionInfo := {}
  bridges : BridgesStatus := {}
  deriving DecidableEq, Repr

/-- A leaf of `SynapseStatus`, as a JSON merge patch addresses it. -/
inductive StatusField where
  | state
  | reason
  | needsReconcile
  | serverName
  | reportStats
  | connectionURL
  | databaseName
  | user
  | password
  | databaseState
  | heisenbridgeEnabled
  | heisenbridgeName
  | mautrixSignalEnabled
  | mautrixSignalName
  deriving DecidableEq, Repr

/-- The value of a leaf: a string or a boolean. -/
inductive FieldValue where
  | text (value : Bytes)
  | flag (value : Bool)
  deriving DecidableEq, Repr

/-- The value a Status holds at a leaf. -/
def SynapseStatus.field (st : SynapseStatus) : StatusField → FieldValue
  | .state => .text st.state
  | .reason => .text st.reason
  | .needsReconcile => .flag st.needsReconcile
  | .serverName => .text st.homeserverConfiguration.serverName
  | .reportStats => .flag st.homeserverConfiguration.reportStats
  | .connectionURL => .text st.databaseConnectionInfo.connectionURL
  | .databaseName => .text st.databaseConnectionInfo.databaseName
  | .user => .text st.databaseConnectionInfo.user
  | .password => .text st.databaseConnectionInfo.password
  | .databaseState => .text st.databaseConnectionInfo.state
  | .heisenbridgeEnabled => .flag st.bridges.heisenbridge.enabled
  | .heisenbridgeName => .text st.bridges.heisenbridge.name
  | .mautrixSignalEnabled => .flag st.bridges.mautrixSignal.enabled
  | .mautrixSignalName => .text st.bridges.mautrixSignal.name

/-- Two Statuses with the same leaves are equal. -/
theorem SynapseStatus.ext_field {st st' : SynapseStatus} (same : ∀ f, st.field f = st'.field f) :
    st = st' := by
  obtain ⟨state, reason, needsReconcile, ⟨serverName, reportStats⟩,
    ⟨connectionURL, databaseName, user, password, databaseState⟩,
    ⟨⟨heisenbridgeEnabled, heisenbridgeName⟩, ⟨mautrixSignalEnabled, mautrixSignalName⟩⟩⟩ := st
  obtain ⟨state', reason', needsReconcile', ⟨serverName', reportStats'⟩,
    ⟨connectionURL', databaseName', user', password', databaseState'⟩,
    ⟨⟨heisenbridgeEnabled', heisenbridgeName'⟩, ⟨mautrixSignalEnabled', mautrixSignalName'⟩⟩⟩ := st'
  have leaves := fun f (_ : f ∈ [StatusField.state, .reason, .needsReconcile, .serverName,
      .reportStats, .connectionURL, .databaseName, .user, .password, .databaseState,
      .heisenbridgeEnabled, .heisenbridgeName, .mautrixSignalEnabled, .mautrixSignalName]) => same f
  simp only [List.mem_cons, List.mem_singleton, forall_eq_or_imp, forall_eq, SynapseStatus.field,
    FieldValue.text.injEq, FieldValue.flag.injEq] at leaves
  simp [leaves]

structure Synapse where
  name : Bytes
  ns : Bytes
  spec : SynapseSpec
  status : SynapseStatus := {}
  deriving DecidableEq, Repr

/-- The key a Synapse is stored and looked up under. -/
def Synapse.key (s : Synapse) : ObjectRef := ⟨s.name, s.ns⟩

/-! ## Bridges -/

structure Heisenbridge where
  name : Bytes
  ns : Bytes
  /-- `Spec.Synapse`: the homeserver the bridge attaches to. -/
  synapse : ObjectRef
  deriving DecidableEq, Repr

structure MautrixSignalSpec where
  /-- `Spec.ConfigMap`, a struct: an empty name means none was given. -/
  configMap : ObjectRef
  synapse : ObjectRef
  deriving DecidableEq, Repr

structure MautrixSignalStatus where
  state : Bytes := []
  reason : Bytes := []
  /-- `Status.Synapse.ServerName`. -/
  synapseServerName : Bytes := []
  isOpenshift : Bool := false
  deriving DecidableEq, Repr

structure MautrixSignal where
  name : Bytes
  ns : Bytes
  spec : MautrixSignalSpec
  status : MautrixSignalStatus := {}
  deriving DecidableEq, Repr

/-- The key a MautrixSignal is stored and looked up under. -/
def MautrixSignal.key (ms : MautrixSignal) : ObjectRef := ⟨ms.name, ms.ns⟩

/-- `MautrixSignalReconciler.fetchSynapseInstance`: the key under which the
referenced Synapse is looked up. -/
def MautrixSignal.synapseKey (ms : MautrixSignal) : ObjectRef :=
  ⟨ms.spec.synapse.name, computeNamespace ms.ns ms.spec.synapse.ns⟩

/-- The key of a Heisenbridge's Synapse, resolved as `fetchSynapseInstance`
resolves a MautrixSignal's. -/
def Heisenbridge.synapseKey (h : Heisenbridge) : ObjectRef :=
  ⟨h.synapse.name, computeNamespace h.ns h.synapse.ns⟩

end SynapseOperator.Api
