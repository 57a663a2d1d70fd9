import SynapseOperator.MautrixSignalReconciler

/-!
The writes that skip their Patch when nothing would change are exact.
`updateSynapseStatus` and `updateMautrixSignalStatus` compare the Status they
are handed with the one they read (`reflect.DeepEqual`); `UpdateConfigMap`,
modelled from the spec, compares the encoded artifact with the stored one.
Each is compared with the same write without the check (`patchSynapseStatus`,
`patchMautrixSignalStatus`, `patchConfigMap`). `ReconcileResource`'s check is
exact by `reconcileResource_objects`.

1. **Nothing is lost.** Each leaves the objects the write without the check
   leaves: a skipped Patch would not have changed its object
   (`skipped_status_patches_unobservable`, `updateConfigMap_unobservable`).
2. **Nothing is written for nothing.** Each records a Patch exactly when its
   object changes; the two status writes report `patched`, which their steps
   turn into `Requeue`, exactly then (`status_patch_written_iff_changed`,
   `updateConfigMap_exact`).

What is assumed: nothing; both hold from any store.
-/
namespace SynapseOperator.SkippedPatches
open SynapseOperator.Api SynapseOperator.Document SynapseOperator.Naming SynapseOperator.Cluster
  SynapseOperator.Status SynapseOperator.SynapseReconciler
open SynapseOperator.MautrixSignalReconciler (updateMautrixSignalStatus)

variable {Text Body : Type}

/-! ## The writes without their check -/

/-- `updateSynapseStatus` without its DeepEqual check: the merge patch from the
Synapse read is always sent. -/
def patchSynapseStatus (synapse : Synapse) (store : Store Text Body) : Except Bytes (Store Text Body) :=
  match store.synapse? synapse.key with
  | none => .error (notFound "synapses" synapse.name)
  | some current =>
    .ok ((store.put (.of .synapse synapse.key)
      (.synapse { current with status := mergeStatus current.status synapse.status current.status })).record
        (.patch (.of .synapse synapse.key)))

/-- `updateMautrixSignalStatus` without its DeepEqual check. -/
def patchMautrixSignalStatus (ms : MautrixSignal) (store : Store Text Body) :
    Except Bytes (Store Text Body) :=
  match store.mautrixSignal? ms.key with
  | none => .error (notFound "mautrixsignals" ms.name)
  | some current =>
    .ok ((store.put (.of .mautrixSignal ms.key) (.mautrixSignal { current with status := ms.status })).record
      (.patch (.of .mautrixSignal ms.key)))

/-- `UpdateConfigMap` without its comparison of the encoded artifact. -/
def patchConfigMap (codec : YamlCodec Text) (key : ObjectRef) (updateData : Fields → Except Bytes Fields)
    (filename : Bytes) (store : Store Text Body) : Except Bytes (Store Text Body) := do
  let some data := store.configMap? key | throw (notFound "configmaps" key.name)
  let config ← loadYAMLFileFromConfigMapData codec data filename
  let updated ← updateData config
  pure ((store.put (.of .configMap key) (.configMap (dataSet data filename (codec.marshal updated)))).record
    (.patch (.of .configMap key)))

/-! ## Nothing is lost -/

section Lost

/-- Patching an identity with the object it holds changes no object. -/
theorem put_stored {store : Store Text Body} {id : Identity} {object : Object Text Body}
    (stored : store.objects id = some object) : (store.put id object).objects = store.objects :=
  Function.update_eq_self_iff.mpr stored.symm

theorem updateSynapseStatus_unobservable (synapse : Synapse) (store : Store Text Body) :
    (updateSynapseStatus synapse store).map (·.2.objects) =
      (patchSynapseStatus synapse store).map Store.objects := by
  unfold updateSynapseStatus patchSynapseStatus
  cases found : store.synapse? synapse.key with
  | none => rfl
  | some current =>
  dsimp only
  split_ifs with same
  · have stored : store.objects (.of .synapse synapse.key) =
        some (.synapse { current with status := mergeStatus current.status synapse.status current.status }) := by
      rw [mergeStatus_self, same]
      exact Store.synapse?_iff.mp found
    exact congrArg Except.ok (put_stored stored).symm
  · rfl

theorem updateMautrixSignalStatus_unobservable (ms : MautrixSignal) (store : Store Text Body) :
    (updateMautrixSignalStatus ms store).map (·.2.objects) =
      (patchMautrixSignalStatus ms store).map Store.objects := by
  unfold updateMautrixSignalStatus patchMautrixSignalStatus
  cases found : store.mautrixSignal? ms.key with
  | none => rfl
  | some current =>
  dsimp only
  split_ifs with same
  · have stored : store.objects (.of .mautrixSignal ms.key) =
        some (.mautrixSignal { current with status := ms.status }) := by
      rw [same]
      exact Store.mautrixSignal?_iff.mp found
    exact congrArg Except.ok (put_stored stored).symm
  · rfl

/-- The two status writes, which skip their Patch when the Status is the one
they read, leave the objects the same writes without the check leave, from any
store and on every outcome: a skipped Patch never loses an update. -/
theorem skipped_status_patches_unobservable (synapse : Synapse) (ms : MautrixSignal)
    (store : Store Text Body) :
    (updateSynapseStatus synapse store).map (·.2.objects) =
        (patchSynapseStatus synapse store).map Store.objects ∧
      (updateMautrixSignalStatus ms store).map (·.2.objects) =
        (patchMautrixSignalStatus ms store).map Store.objects :=
  ⟨updateSynapseStatus_unobservable synapse store, updateMautrixSignalStatus_unobservable ms store⟩

variable [DecidableEq Text]

theorem updateConfigMap_unobservable (codec : YamlCodec Text) (key : ObjectRef)
    (updateData : Fields → Except Bytes Fields) (filename : Bytes) (store : Store Text Body) :
    (updateConfigMap codec key updateData filename store).map Store.objects =
      (patchConfigMap codec key updateData filename store).map Store.objects := by
  unfold updateConfigMap patchConfigMap
  cases found : store.configMap? key with
  | none => rfl
  | some data =>
  dsimp only
  cases loadYAMLFileFromConfigMapData codec data filename with
  | error => rfl
  | ok config =>
    simp only [except_ok_bind]
    cases updateData config with
    | error => rfl
    | ok updated =>
      simp only [except_ok_bind]
      split_ifs with same
      · have stored : store.objects (.of .configMap key) =
            some (.configMap (dataSet data filename (codec.marshal updated))) := by
          rw [dataSet_of_dataGet? same]
          exact Store.configMap?_iff.mp found
        exact congrArg Except.ok (put_stored stored).symm
      · rfl

end Lost

/-! ## Nothing is written for nothing -/

section Written

/-- A patch of an identity with an object other than the one it holds changes
the objects and records a write. -/
theorem patch_changes {store : Store Text Body} {id : Identity} {old : Object Text Body}
    (object : Object Text Body) (stored : store.objects id = some old) (differs : object ≠ old) (w : Write) :
    ((store.put id object).record w).objects ≠ store.objects ∧
      ((store.put id object).record w).writes ≠ store.writes := by
  refine ⟨fun same => differs ?_, by simp⟩
  have at_id := congrFun same id
  rw [Store.record_objects, Store.put_objects, Function.update_same, stored] at at_id
  exact Option.some.inj at_id

theorem updateSynapseStatus_exact {synapse : Synapse} {store store' : Store Text Body} {patched : Bool}
    (success : updateSynapseStatus synapse store = .ok (patched, store')) :
    (patched = true ↔ store'.objects ≠ store.objects) ∧
      (store'.writes ≠ store.writes ↔ store'.objects ≠ store.objects) := by
  unfold updateSynapseStatus at success
  split at success
  · cases success
  rename_i current found
  split_ifs at success with same <;> cases success
  · simp
  · rw [mergeStatus_self]
    have changed := patch_changes (.synapse { current with status := synapse.status })
      (Store.synapse?_iff.mp found)
      (fun eq => same ((congrArg Synapse.status (Object.synapse.inj eq)).trans rfl))
      (.patch (.of .synapse synapse.key))
    exact ⟨iff_of_true rfl changed.1, iff_of_true changed.2 changed.1⟩

theorem updateMautrixSignalStatus_exact {ms : MautrixSignal} {store store' : Store Text Body}
    {patched : Bool} (success : updateMautrixSignalStatus ms store = .ok (patched, store')) :
    (patched = true ↔ store'.objects ≠ store.objects) ∧
      (store'.writes ≠ store.writes ↔ store'.objects ≠ store.objects) := by
  unfold updateMautrixSignalStatus at success
  split at success
  · cases success
  rename_i current found
  split_ifs at success with same <;> cases success
  · simp
  · have changed := patch_changes (.mautrixSignal { current with status := ms.status })
      (Store.mautrixSignal?_iff.mp found)
      (fun eq => same ((congrArg MautrixSignal.status (Object.mautrixSignal.inj eq)).trans rfl))
      (.patch (.of .mautrixSignal ms.key))
    exact ⟨iff_of_true rfl changed.1, iff_of_true changed.2 changed.1⟩

/-- The two status writes record a Patch exactly when they change the object
they write, and report `patched` exactly then, from any store: no Patch is a
no-op and no change goes unreported. -/
theorem status_patch_written_iff_changed (store store' : Store Text Body) :
    (∀ synapse patched, updateSynapseStatus synapse store = .ok (patched, store') →
      (patched = true ↔ store'.objects ≠ store.objects) ∧
        (store'.writes ≠ store.writes ↔ store'.objects ≠ store.objects)) ∧
    (∀ ms patched, updateMautrixSignalStatus ms store = .ok (patched, store') →
      (patched = true ↔ store'.objects ≠ store.objects) ∧
        (store'.writes ≠ store.writes ↔ store'.objects ≠ store.objects)) :=
  ⟨fun _ _ => updateSynapseStatus_exact, fun _ _ => updateMautrixSignalStatus_exact⟩

variable [DecidableEq Text]

theorem updateConfigMap_exact {codec : YamlCodec Text} {key : ObjectRef}
    {updateData : Fields → Except Bytes Fields} {filename : Bytes} {store store' : Store Text Body}
    (success : updateConfigMap codec key updateData filename store = .ok store') :
    store'.writes ≠ store.writes ↔ store'.objects ≠ store.objects := by
  obtain ⟨data, config, updated, found, -, -, rfl⟩ := updateConfigMap_eq_ok success
  split_ifs with same
  · simp
  · have changed := patch_changes (.configMap (dataSet data filename (codec.marshal updated)))
      (Store.configMap?_iff.mp found)
      (fun eq => same (by rw [← Object.configMap.inj eq]; exact dataGet?_dataSet_self _ _ data))
      (.patch (.of .configMap key))
    exact iff_of_true changed.2 changed.1

end Written

end SynapseOperator.SkippedPatches
