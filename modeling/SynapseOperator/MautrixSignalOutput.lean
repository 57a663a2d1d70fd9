import SynapseOperator.MautrixSignalRuns

/-!
What a run of `MautrixSignalReconciler.Reconcile` leaves behind.

1. **config.yaml.** The first three steps put the base document in the
   bridge's ConfigMap: the trigger and the status step write no ConfigMap, and
   the third copies the user's ConfigMap or writes the default config.yaml
   (`baseSteps_put`). The steps after them apply `bridgeEdits`
   (`bridgeSteps_editsConfigMap`). A run that returns `DoNotRequeue` therefore
   leaves there what `updateMautrixSignalData` makes of the user's config.yaml
   as it was when the run started, or the default config.yaml
   (`reconcile_bridge_configMap`).
2. **The Status and the Synapse.** Such a run found the bridge's Status
   holding the Synapse's server name and `IsOpenshift`, wrote no Status, and
   leaves the Synapse asked to reconcile with what the status step reads of it
   unchanged (`reconcile_bridge_synced`).
3. **FAILED is never cleared.** Every step keeps the bridge's State and Reason
   or sets them to FAILED and the missing ConfigMap's reason, whatever the
   store (`subreconcilersForMautrixSignal_keepsState`). So does every run, and
   every interleaving of runs with writes of other parties that leave the
   bridge alone (`interleaving_keepsState`): once FAILED, the bridge stays
   FAILED, also after the user's ConfigMap appears.
4. **Without the user's ConfigMap** a run whose status step has nothing to
   write stops at the copy step: the bridge FAILED with the missing
   ConfigMap's reason, the Synapse asked to reconcile, nothing else written,
   and the delayed requeue with no error (`reconcile_bridge_without_input`).
5. **What a run never writes.** Whatever it returns, a run changes no object
   but the bridge, the Synapse it references, the bridge's ConfigMap and its
   children, so never the user's ConfigMap unless it is the bridge's own
   (`reconcile_bridge_changes_only_footprint`). `Within` says it for one step.

What is assumed: in 1, 2, 4 and 5 the store holds the bridge and a Synapse
that is stored under its own key and has a server name (`HeldAt`). 3 assumes
nothing.
-/

namespace SynapseOperator.MautrixSignalOutput
open SynapseOperator.Api SynapseOperator.Document SynapseOperator.Naming SynapseOperator.Cluster
  SynapseOperator.ConfigMutation SynapseOperator.MautrixSignalReconciler
  SynapseOperator.MautrixSignalConvergence SynapseOperator.MautrixSignalRuns

variable {Text Body : Type}

/-! ## What a run is meant to produce -/

/-- The data the bridge's ConfigMap is rebuilt from: the data of the user's
ConfigMap in the store, or the default config.yaml when `Spec.ConfigMap.Name`
is empty. -/
def bridgeBaseData (c : Collaborators Text Body) (ms : MautrixSignal) (store : Store Text Body) :
    Option (List (Bytes × Text)) :=
  if ms.spec.configMap.name ≠ [] then store.configMap? (inputConfigMapKey ms)
  else some [(configYamlKey, c.configYaml ms)]

/-- The edits of config.yaml a run lists for the bridge `ms`: its settings, on
a copy of the user's ConfigMap only. -/
def bridgeEdits (ms : MautrixSignal) : List (Fields → Except Bytes Fields) :=
  if ms.spec.configMap.name ≠ [] then [updateMautrixSignalData ms] else []

/-! ## config.yaml -/

/-- The trigger writes no object but a Synapse. -/
theorem triggerSynapseReconciliation_objects (req : ObjectRef) (store : Store Text Body) {id : Identity}
    (other : id.kind ≠ .synapse) :
    (triggerSynapseReconciliation req store).2.objects id = store.objects id := by
  unfold triggerSynapseReconciliation
  split
  · rfl
  split
  · rfl
  split
  · rfl
  rename_i store' success
  unfold updateSynapseStatus SynapseReconciler.updateSynapseStatus at success
  split at success
  · cases success
  split_ifs at success <;> cases success
  · rfl
  · exact Function.update_noteq (fun same => other (by rw [same]; rfl)) _ _

/-- On a store that holds the bridge and its Synapse, the trigger writes
nothing but that Synapse. -/
theorem triggerSynapseReconciliation_objects_of_held {m0 : MautrixSignal} {status : MautrixSignalStatus}
    {store : Store Text Body} (held : HeldAt m0 status store) {id : Identity}
    (other : id ≠ .of .synapse m0.synapseKey) :
    (triggerSynapseReconciliation m0.key store).2.objects id = store.objects id := by
  obtain ⟨s, synapse, keyed, -⟩ := held.synapse
  rw [triggerSynapseReconciliation_eq held.bridge synapse keyed]
  split_ifs
  · rfl
  · simp only [Store.record_objects, Store.put_objects]
    exact Function.update_noteq other _ _

/-- What the status step reads stays across two continuing steps. -/
theorem SameView.trans (m0 : MautrixSignal) {a b d : Store Text Body} (first : SameView m0 a b)
    (second : SameView m0 b d) : SameView m0 a d :=
  ⟨second.bridge.trans first.bridge, second.synapse.trans first.synapse⟩

/-! ## Concrete stores -/

/-- `bridgeStore` with the bridge's Status already holding its Synapse's
server name: with the user's ConfigMap the first run returns `DoNotRequeue`. -/
def syncedStore (withInput : Bool) : Store Fields Unit :=
  { bridgeStore withInput with
    objects := fun id =>
      if id = .of .mautrixSignal exampleMautrixSignal.key then some (.mautrixSignal exampleMautrixSignal)
      else (bridgeStore withInput).objects id }

/-- Another party's write of the user's ConfigMap `mautrix-signal-input`. -/
def addInput (store : Store Fields Unit) : Store Fields Unit :=
  { store with
    objects := fun id =>
      if id = .of .configMap (inputConfigMapKey freshBridge) then
        some (.configMap [(configYamlKey, exampleConfig)])
      else store.objects id }

section ConfigYaml
variable [DecidableEq Text] [DecidableEq Body] (c : Collaborators Text Body) (m0 : MautrixSignal)
  (status : MautrixSignalStatus)

/-- A builder of a child that is not a ConfigMap leaves config.yaml as it was. -/
theorem builtChild_keeps {kind : Kind} {name : MautrixSignal → Bytes} (other : kind ≠ .configMap)
    (listed : (⟨kind, m0.ns, name { m0 with status }⟩,
      .built (c.build kind (name { m0 with status }) { m0 with status })) ∈
        builtChildren c { m0 with status }) :
    ∀ a, HeldAt m0 status a → (builtChild c kind name m0.key a).1 ≠ .doNotRequeue ∧
      ((builtChild c kind name m0.key a).1 = .continueReconciling →
        HeldAt m0 status (builtChild c kind name m0.key a).2 ∧
        (builtChild c kind name m0.key a).2.configMap? m0.key = a.configMap? m0.key) := by
  intro a held
  have spec := builtChild_spec c m0 status listed
  refine ⟨spec.never held, fun continued => ⟨(spec.continues a held continued).1, Store.configMap?_congr ?_⟩⟩
  simp only [builtChild, resourceStep_eq held.bridge]
  exact reconcileResource_objects_eq fun same => absurd (congrArg Identity.kind same).symm other

/-- The configuration step is an `updateConfigMap` of the bridge's ConfigMap
with the bridge's settings. -/
theorem configureMautrixSignalConfigMap_updates (given : m0.spec.configMap.name ≠ []) :
    ∀ a, HeldAt m0 status a → (configureMautrixSignalConfigMap c m0.key a).1 ≠ .doNotRequeue ∧
      ((configureMautrixSignalConfigMap c m0.key a).1 = .continueReconciling →
        HeldAt m0 status (configureMautrixSignalConfigMap c m0.key a).2 ∧
        updateConfigMap c.codec m0.key (updateMautrixSignalData { m0 with status }) configYamlKey a =
          .ok (configureMautrixSignalConfigMap c m0.key a).2) := by
  intro a held
  have spec : StepSpec c m0 status (configureMautrixSignalConfigMap c m0.key) :=
    configureMautrixSignalConfigMap_spec c m0 given
  refine ⟨spec.never held, fun continued => ⟨(spec.continues a held continued).1, ?_⟩⟩
  rw [configureMautrixSignalConfigMap_eq c held.bridge rfl] at continued ⊢
  revert continued
  cases updateConfigMap c.codec m0.key (updateMautrixSignalData { m0 with status }) configYamlKey a with
  | error err => nofun
  | ok store' => exact fun _ => rfl

/-- The first three steps of a run that returned `DoNotRequeue` put the base
data in the bridge's ConfigMap: the trigger and the status step write no
ConfigMap, and the third writes the data `bridgeBaseData` reads at the start. -/
theorem baseSteps_put {store store' : Store Text Body} (held : HeldAt m0 status store)
    (ran : runSubreconcilers (subreconcilersForMautrixSignal c m0.key { m0 with status }) store =
      (.doNotRequeue, store')) :
    ∃ base mid, bridgeBaseData c { m0 with status } store = some base ∧
      mid.configMap? m0.key = some base ∧ HeldAt m0 status mid ∧
      runSubreconcilers ((subreconcilersForMautrixSignal c m0.key { m0 with status }).drop 3) mid =
        (.doNotRequeue, store') := by
  obtain ⟨continued, kept, -, -⟩ := triggerSynapseReconciliation_cases c m0 held
  have configMaps : ∀ key, (triggerSynapseReconciliation m0.key store).2.configMap? key =
      store.configMap? key :=
    fun _ => Store.configMap?_congr (triggerSynapseReconciliation_objects _ _ nofun)
  unfold subreconcilersForMautrixSignal at ran ⊢
  simp only [List.append_assoc, List.cons_append, List.nil_append] at ran ⊢
  rw [runSubreconcilers_cons, if_pos continued, runSubreconcilers_cons] at ran
  rcases buildMautrixSignalStatus_cases c m0 kept.1 with ⟨settled, -⟩ | ⟨requeued, -⟩
  swap
  · rw [if_neg (by rw [requeued]; nofun)] at ran
    rw [congrArg Prod.fst ran] at requeued
    cases requeued
  rw [settled, if_pos rfl] at ran
  by_cases given : m0.spec.configMap.name = []
  · simp only [given, ne_eq, not_true_eq_false, ↓reduceIte, List.cons_append, List.nil_append,
      List.drop_succ_cons, List.drop_zero] at ran ⊢
    have spec := reconcileMautrixSignalConfigMap_spec c m0 status given
    have continues : (reconcileMautrixSignalConfigMap c m0.key
        (triggerSynapseReconciliation m0.key store).2).1 = .continueReconciling := by
      simp [reconcileMautrixSignalConfigMap, resourceStep_eq kept.1.bridge]
    rw [runSubreconcilers_cons, if_pos continues] at ran
    exact ⟨_, _, by simp [bridgeBaseData, given], Store.configMap?_iff.mpr (resourceStep_makes kept.1.bridge rfl),
      (spec.continues _ kept.1 continues).1, ran⟩
  · simp only [given, ne_eq, not_false_eq_true, ↓reduceIte, List.cons_append, List.nil_append,
      List.drop_succ_cons, List.drop_zero] at ran ⊢
    rw [runSubreconcilers_cons] at ran
    cases input : store.configMap? (inputConfigMapKey m0) with
    | none =>
      have delayed := copyInputMautrixSignalConfigMap_of_missing kept.1.bridge rfl
        ((configMaps _).trans input)
      rw [if_neg (by rw [delayed]; nofun)] at ran
      rw [congrArg Prod.fst ran] at delayed
      cases delayed
    | some data =>
      have copied := copyInputMautrixSignalConfigMap_of_found kept.1.bridge rfl ((configMaps _).trans input)
      have spec : StepSpec c m0 status (copyInputMautrixSignalConfigMap m0.key) :=
        (copyInputMautrixSignalConfigMap_makes c m0 given).toStepSpec
      rw [copied, if_pos rfl] at ran
      have continues : (copyInputMautrixSignalConfigMap m0.key
          (triggerSynapseReconciliation m0.key store).2).1 = .continueReconciling := by rw [copied]
      refine ⟨data, _, (if_pos given).trans input, ?_, ?_, ran⟩
      · simp
      · simpa [copied] using (spec.continues _ kept.1 continues).1

/-- After the first three steps, the steps a run lists apply `bridgeEdits` to
config.yaml. -/
theorem bridgeSteps_editsConfigMap :
    EditsConfigMap (HeldAt m0 status) c.codec m0.key configYamlKey
      ((subreconcilersForMautrixSignal c m0.key { m0 with status }).drop 3)
      (bridgeEdits { m0 with status }) := by
  have children : EditsConfigMap (HeldAt m0 status) c.codec m0.key configYamlKey
      ((if status.isOpenshift then
          [reconcileMautrixSignalServiceAccount c m0.key, reconcileMautrixSignalRoleBinding c m0.key]
        else []) ++
        [reconcileSignaldPVC c m0.key, reconcileSignaldDeployment c m0.key,
          reconcileMautrixSignalService c m0.key, reconcileMautrixSignalPVC c m0.key,
          reconcileMautrixSignalDeployment c m0.key]) [] := by
    refine .keeping ?_
    simp only [List.mem_append, List.mem_ite_nil_right, List.mem_cons, List.not_mem_nil, or_false]
    rintro f (⟨openshift, rfl | rfl⟩ | rfl | rfl | rfl | rfl | rfl) <;>
      exact builtChild_keeps c m0 status (by decide)
        (by simp only [builtChildren, *, if_true, List.mem_append, List.mem_cons, true_or, or_true])
  unfold subreconcilersForMautrixSignal bridgeEdits
  simp only [List.append_assoc, List.cons_append, List.nil_append]
  by_cases given : m0.spec.configMap.name = []
  · simpa [given] using children
  · simp only [given, ne_eq, not_false_eq_true, ↓reduceIte, List.cons_append, List.nil_append,
      List.drop_succ_cons, List.drop_zero]
    exact .edit _ (configureMautrixSignalConfigMap_updates c m0 status given) children

/-- A run that returns `DoNotRequeue` found the bridge's Status holding the
server name and `IsOpenshift` of the Synapse it references, and wrote no
Status; it leaves that Synapse asked to reconcile, with its key, server name
and `IsOpenshift` as they were. -/
theorem reconcile_bridge_synced {store store' : Store Text Body} (held : HeldAt m0 status store)
    (ran : reconcile c m0.key store = (.doNotRequeue, store')) :
    store'.mautrixSignal? m0.key = some { m0 with status } ∧
      ∃ s, store.synapse? m0.synapseKey = some s ∧
        status.synapseServerName = s.status.homeserverConfiguration.serverName ∧
        status.isOpenshift = s.spec.isOpenshift ∧
        ∃ s', store'.synapse? m0.synapseKey = some s' ∧ s'.status.needsReconcile = true ∧
          synapseView s' = synapseView s := by
  simp only [reconcile, getLatestMautrixSignal_of_found held.bridge] at ran
  obtain ⟨held', converged⟩ := runSubreconcilers_converged c m0 held ran
  have each := subreconcilersForMautrixSignal_spec c m0 status
  have view : SameView m0 store store' :=
    @runSubreconcilers_keep _ (HeldAt m0 status) (SameView m0 store) _
      (fun g listed a held'' => ⟨(each g listed).never held'', fun continued =>
        ⟨((each g listed).continues a held'' continued).1,
          fun same => SameView.trans m0 same ((each g listed).continues a held'' continued).2.1⟩⟩)
      store store' held (.refl m0 store) ran
  obtain ⟨s', found', triggered⟩ := converged.triggered
  obtain ⟨s, found, -⟩ := held.synapse
  have read := view.synapse
  rw [found, found', Option.map_some', Option.map_some', Option.some.injEq] at read
  have settled := converged.settled
  rw [pending_of_found m0 held'.bridge found'] at settled
  split_ifs at settled with synced
  simp only [synapseView, Prod.mk.injEq] at read
  have names := congrArg (·.status.synapseServerName) synced
  have platforms := congrArg (·.status.isOpenshift) synced
  simp only [withSynapseInfos] at names platforms
  exact ⟨held'.bridge, s, found, by rw [← read.2.1, names], by rw [← read.2.2, platforms], s', found',
    triggered, by simp [synapseView, read]⟩

theorem reconcile_bridge_synced_example :
    let m0 := exampleMautrixSignal
    let run := reconcile exampleCollaborators m0.key (syncedStore true)
    HeldAt m0 m0.status (syncedStore true) ∧ run = (.doNotRequeue, run.2) ∧
      run.2.mautrixSignal? m0.key = some { m0 with status := m0.status } ∧
      ∃ s, (syncedStore true).synapse? m0.synapseKey = some s ∧
        m0.status.synapseServerName = s.status.homeserverConfiguration.serverName ∧
        m0.status.isOpenshift = s.spec.isOpenshift ∧
        ∃ s', run.2.synapse? m0.synapseKey = some s' ∧ s'.status.needsReconcile = true ∧
          synapseView s' = synapseView s :=
  have held : HeldAt exampleMautrixSignal exampleMautrixSignal.status (syncedStore true) :=
    ⟨rfl, _, rfl, rfl, by decide⟩
  have ran := Prod.ext (by decide) rfl
  ⟨held, ran, reconcile_bridge_synced exampleCollaborators _ _ held ran⟩

end ConfigYaml

/-! ## FAILED is never cleared -/

section State
variable (c : Collaborators Text Body) (m0 : MautrixSignal)

/-- From one store to the other the bridge, when it is stored with `m0`'s name
and Spec, stays so, and keeps its State and Reason or has them set to FAILED
and the reason of a missing user ConfigMap. -/
def KeepsState (store store' : Store Text Body) : Prop :=
  ∀ status, store.mautrixSignal? m0.key = some { m0 with status } →
    ∃ status', store'.mautrixSignal? m0.key = some { m0 with status := status' } ∧
      ((status'.state, status'.reason) = (status.state, status.reason) ∨
        (status'.state, status'.reason) = (lit "FAILED", missingInputReason m0))

theorem KeepsState.refl (store : Store Text Body) : KeepsState m0 store store :=
  fun status found => ⟨status, found, .inl rfl⟩

theorem KeepsState.trans {a b d : Store Text Body} (first : KeepsState m0 a b)
    (second : KeepsState m0 b d) : KeepsState m0 a d := by
  intro status found
  obtain ⟨status', found', kept⟩ := first status found
  obtain ⟨status'', found'', kept'⟩ := second status' found'
  refine ⟨status'', found'', ?_⟩
  rcases kept' with same | failed
  · rwa [same]
  · exact .inr failed

/-- A write of other objects keeps the bridge. -/
theorem keepsState_of_objects {store store' : Store Text Body}
    (alone : store'.objects (.of .mautrixSignal m0.key) = store.objects (.of .mautrixSignal m0.key)) :
    KeepsState m0 store store' :=
  fun status found => ⟨status, (Store.mautrixSignal?_congr alone).trans found, .inl rfl⟩

variable {m0}

/-- A successful `updateMautrixSignalStatus` leaves the bridge it read with
`ms`'s Status, and every other object as it was. -/
theorem updateMautrixSignalStatus_eq_ok {ms : MautrixSignal} {store store' : Store Text Body}
    {patched : Bool} (success : updateMautrixSignalStatus ms store = .ok (patched, store')) :
    ∃ current, store.mautrixSignal? ms.key = some current ∧
      store'.mautrixSignal? ms.key = some { current with status := ms.status } ∧
      ∀ id, id ≠ .of .mautrixSignal ms.key → store'.objects id = store.objects id := by
  unfold updateMautrixSignalStatus at success
  split at success
  · cases success
  rename_i current found
  refine ⟨current, found, ?_⟩
  split_ifs at success with same <;> cases success
  · exact ⟨by rw [found, same], fun _ _ => rfl⟩
  · exact ⟨by simp, fun id other => by simp [Function.update_noteq other]⟩

/-- A Status update of the bridge, from a store that holds it, leaves the
bridge with the new Status. -/
theorem updateMautrixSignalStatus_keepsState {status : MautrixSignalStatus} {ms : MautrixSignal}
    {store store' : Store Text Body} {patched : Bool}
    (found : store.mautrixSignal? m0.key = some { m0 with status })
    (success : updateMautrixSignalStatus ms store = .ok (patched, store')) (keyed : ms.key = m0.key) :
    store'.mautrixSignal? m0.key = some { m0 with status := ms.status } := by
  obtain ⟨current, read, written, -⟩ := updateMautrixSignalStatus_eq_ok success
  rw [keyed, found, Option.some.injEq] at read
  rw [keyed, ← read] at written
  exact written

variable (m0)

theorem buildMautrixSignalStatus_keepsState (store : Store Text Body) :
    KeepsState m0 store (buildMautrixSignalStatus c m0.key store).2 := by
  intro status found
  simp only [buildMautrixSignalStatus, getLatestMautrixSignal_of_found found]
  split
  · exact ⟨status, found, .inl rfl⟩
  split
  · exact ⟨status, found, .inl rfl⟩
  split
  · exact ⟨status, found, .inl rfl⟩
  all_goals
    rename_i success
    exact ⟨_, updateMautrixSignalStatus_keepsState found success rfl, .inl rfl⟩

variable [DecidableEq Text]

theorem configureMautrixSignalConfigMap_keepsState (store : Store Text Body) :
    KeepsState m0 store (configureMautrixSignalConfigMap c m0.key store).2 := by
  apply keepsState_of_objects
  unfold configureMautrixSignalConfigMap
  split
  · rfl
  split
  · rfl
  · rename_i success
    exact updateConfigMap_objects success nofun

variable [DecidableEq Body]

theorem copyInputMautrixSignalConfigMap_keepsState (store : Store Text Body) :
    KeepsState m0 store (copyInputMautrixSignalConfigMap m0.key store).2 := by
  intro status found
  simp only [copyInputMautrixSignalConfigMap, getLatestMautrixSignal_of_found found]
  split
  · split
    · rename_i success
      exact ⟨_, updateMautrixSignalStatus_keepsState found success rfl, .inr rfl⟩
    · exact ⟨status, found, .inl rfl⟩
  · split
    · exact ⟨status, found, .inl rfl⟩
    · refine ⟨status, ?_, .inl rfl⟩
      show (reconcileResource _ _ store).mautrixSignal? m0.key = _
      rw [Store.mautrixSignal?_congr (reconcileResource_objects_eq fun same => by simp at same)]
      exact found

/-- A step that reconciles an object that is not a bridge keeps the bridge. -/
theorem resourceStep_keepsState
    {desired : MautrixSignal → Store Text Body → Except Bytes (Identity × Object Text Body)}
    (other : ∀ ms store id object, desired ms store = .ok (id, object) → id.kind ≠ .mautrixSignal)
    (store : Store Text Body) : KeepsState m0 store (resourceStep desired m0.key store).2 := by
  apply keepsState_of_objects
  unfold resourceStep
  split
  · rfl
  split
  · rfl
  · rename_i made
    exact reconcileResource_objects_eq fun same =>
      absurd (congrArg Identity.kind same).symm (other _ _ _ _ made)

theorem builtChild_keepsState {kind : Kind} {name : MautrixSignal → Bytes} (other : kind ≠ .mautrixSignal)
    (store : Store Text Body) : KeepsState m0 store (builtChild c kind name m0.key store).2 :=
  resourceStep_keepsState m0 (fun _ _ _ _ made => by cases made; exact other) store

/-- Every step a run lists, whatever bridge it read, keeps the bridge's State
and Reason or sets FAILED with the missing ConfigMap's reason, from any store. -/
theorem subreconcilersForMautrixSignal_keepsState (ms : MautrixSignal) :
    ∀ f ∈ subreconcilersForMautrixSignal c m0.key ms, ∀ store, KeepsState m0 store (f store).2 := by
  intro f listed
  simp only [subreconcilersForMautrixSignal, List.mem_append, List.mem_cons, List.mem_ite_nil_right,
    List.not_mem_nil, or_false, or_assoc] at listed
  rcases listed with rfl | rfl | first | ⟨-, rfl | rfl⟩ | rfl | rfl | rfl | rfl | rfl
  · exact fun store => keepsState_of_objects m0 (triggerSynapseReconciliation_objects _ _ nofun)
  · exact buildMautrixSignalStatus_keepsState c m0
  · split_ifs at first <;> simp only [List.mem_cons, List.not_mem_nil, or_false] at first
    · rcases first with rfl | rfl
      exacts [copyInputMautrixSignalConfigMap_keepsState m0, configureMautrixSignalConfigMap_keepsState c m0]
    · rw [first]
      exact resourceStep_keepsState m0 fun _ _ _ _ made => by cases made; nofun
  all_goals exact builtChild_keepsState c m0 (by decide)

/-- So does every run, from any store. -/
theorem reconcile_keepsState (store : Store Text Body) : KeepsState m0 store (reconcile c m0.key store).2 := by
  unfold reconcile
  split
  · exact .refl m0 store
  · exact @runSubreconcilers_preserve _ (fun _ => True) (KeepsState m0) (KeepsState.refl m0)
      (KeepsState.trans m0) _ (fun f listed a _ =>
        ⟨subreconcilersForMautrixSignal_keepsState c m0 _ f listed a, fun _ => trivial⟩) _ trivial

/-- How the store can go from one state to another around the bridge's
controller: its runs, and between them the writes of any other party that
leave the bridge object alone. -/
inductive Interleaving : Store Text Body → Store Text Body → Prop
  | done (store : Store Text Body) : Interleaving store store
  | run {store store' : Store Text Body} :
      Interleaving (reconcile c m0.key store).2 store' → Interleaving store store'
  | other {store mid store' : Store Text Body}
      (alone : mid.objects (.of .mautrixSignal m0.key) = store.objects (.of .mautrixSignal m0.key)) :
      Interleaving mid store' → Interleaving store store'

/-- Across any interleaving of runs with writes of other parties that leave
the bridge alone, the bridge's State and Reason are the ones it started with or
FAILED and the missing ConfigMap's reason: no run ever clears FAILED. -/
theorem interleaving_keepsState {store store' : Store Text Body}
    (history : Interleaving c m0 store store') : KeepsState m0 store store' := by
  induction history with
  | done store => exact .refl m0 store
  | run _ ih => exact (reconcile_keepsState c m0 _).trans m0 ih
  | other alone _ ih => exact (keepsState_of_objects m0 alone).trans m0 ih

/-- The bridge without its user ConfigMap, run twice, then the ConfigMap
written by the user, then one more run. -/
theorem interleaving_keepsState_example :
    let run := fun store => (reconcile exampleCollaborators freshBridge.key store).2
    let last := run (addInput (run (run (bridgeStore false))))
    Interleaving exampleCollaborators freshBridge (bridgeStore false) last ∧
      KeepsState freshBridge (bridgeStore false) last := by
  intro run last
  have alone : (addInput (run (run (bridgeStore false)))).objects (.of .mautrixSignal freshBridge.key) =
      (run (run (bridgeStore false))).objects (.of .mautrixSignal freshBridge.key) := by
    simp [addInput]
  have history : Interleaving exampleCollaborators freshBridge (bridgeStore false) last :=
    .run (.run (.other alone (.run (.done _))))
  exact ⟨history, interleaving_keepsState exampleCollaborators freshBridge history⟩

end State

/-! ## Without the user's ConfigMap -/

section Missing
variable [DecidableEq Text] [DecidableEq Body] (c : Collaborators Text Body) (m0 : MautrixSignal)
  (status : MautrixSignalStatus)

/-- Without the user's ConfigMap the copy step sets the bridge FAILED, writes
nothing else, and returns the delayed requeue with no error. -/
theorem copyInputMautrixSignalConfigMap_missing {store : Store Text Body}
    (found : store.mautrixSignal? m0.key = some { m0 with status })
    (missing : store.configMap? (inputConfigMapKey m0) = none) :
    (copyInputMautrixSignalConfigMap m0.key store).1 = .requeueWithDelay 30 ∧
      (copyInputMautrixSignalConfigMap m0.key store).2.mautrixSignal? m0.key =
        some (asFailed { m0 with status } (missingInputReason m0)) ∧
      ∀ id, id ≠ .of .mautrixSignal m0.key →
        (copyInputMautrixSignalConfigMap m0.key store).2.objects id = store.objects id := by
  have missing' : store.configMap? (inputConfigMapKey { m0 with status }) = none := missing
  have current : store.mautrixSignal? (asFailed { m0 with status }
      (missingInputReason { m0 with status })).key = some { m0 with status } := found
  simp only [copyInputMautrixSignalConfigMap, getLatestMautrixSignal_of_found found, missing']
  cases success : updateMautrixSignalStatus (asFailed { m0 with status }
      (missingInputReason { m0 with status })) store with
  | error err =>
    simp only [updateMautrixSignalStatus, current] at success
    split_ifs at success
  | ok result =>
    obtain ⟨patched, store'⟩ := result
    obtain ⟨current', read, written, others⟩ := updateMautrixSignalStatus_eq_ok success
    obtain rfl := Option.some.inj (read.symm.trans current)
    exact ⟨rfl, written, others⟩

/-- A run on a bridge whose Status is in step with its Synapse and whose user
ConfigMap is missing ends at its third step: it leaves the bridge FAILED with
the missing ConfigMap's reason and the Synapse asked to reconcile, changes
nothing else (no child, no ConfigMap), and returns the delayed requeue with no
error. -/
theorem reconcile_bridge_without_input {store : Store Text Body} (held : HeldAt m0 status store)
    (given : m0.spec.configMap.name ≠ []) (settled : pending m0 store = 0)
    (missing : store.configMap? (inputConfigMapKey m0) = none) :
    let after := reconcile c m0.key store
    after.1 = .requeueWithDelay 30 ∧
      after.2.mautrixSignal? m0.key = some (asFailed { m0 with status } (missingInputReason m0)) ∧
      Triggered m0 after.2 ∧
      ∀ id, id ≠ .of .mautrixSignal m0.key → id ≠ .of .synapse m0.synapseKey →
        after.2.objects id = store.objects id := by
  obtain ⟨continued, kept, ⟨s, triggered, set⟩, -⟩ := triggerSynapseReconciliation_cases c m0 held
  have built : buildMautrixSignalStatus c m0.key (triggerSynapseReconciliation m0.key store).2 =
      (.continueReconciling, (triggerSynapseReconciliation m0.key store).2) := by
    rcases buildMautrixSignalStatus_cases c m0 kept.1 with ⟨ran, -⟩ | ⟨-, -, -, before⟩
    · exact ran
    · rw [pending_eq_of_sameView m0 kept.2.1, settled] at before
      cases before
  have missing' : (triggerSynapseReconciliation m0.key store).2.configMap? (inputConfigMapKey m0) = none :=
    Eq.trans (Store.configMap?_congr (triggerSynapseReconciliation_objects m0.key store nofun)) missing
  obtain ⟨delayed, failed, others⟩ := copyInputMautrixSignalConfigMap_missing m0 status kept.1.bridge missing'
  have ran : reconcile c m0.key store =
      copyInputMautrixSignalConfigMap m0.key (triggerSynapseReconciliation m0.key store).2 := by
    simp only [reconcile, getLatestMautrixSignal_of_found held.bridge]
    unfold subreconcilersForMautrixSignal
    simp only [given, ne_eq, not_false_eq_true, ↓reduceIte, List.cons_append, List.nil_append,
      List.append_assoc]
    rw [runSubreconcilers_cons, if_pos continued, runSubreconcilers_cons, built, if_pos rfl,
      runSubreconcilers_cons, if_neg (by rw [delayed]; nofun)]
  dsimp only
  rw [ran]
  exact ⟨delayed, failed, ⟨s, (Store.synapse?_congr (others _ (by simp))).trans triggered, set⟩,
    fun id bridge synapse => (others id bridge).trans (triggerSynapseReconciliation_objects_of_held held synapse)⟩

theorem reconcile_bridge_without_input_example :
    let m0 := exampleMautrixSignal
    let after := reconcile exampleCollaborators m0.key (syncedStore false)
    HeldAt m0 m0.status (syncedStore false) ∧ m0.spec.configMap.name ≠ [] ∧
      pending m0 (syncedStore false) = 0 ∧ (syncedStore false).configMap? (inputConfigMapKey m0) = none ∧
      after.1 = .requeueWithDelay 30 ∧
      after.2.mautrixSignal? m0.key = some (asFailed { m0 with status := m0.status } (missingInputReason m0)) ∧
      Triggered m0 after.2 ∧
      ∀ id, id ≠ .of .mautrixSignal m0.key → id ≠ .of .synapse m0.synapseKey →
        after.2.objects id = (syncedStore false).objects id :=
  have held : HeldAt exampleMautrixSignal exampleMautrixSignal.status (syncedStore false) :=
    ⟨rfl, _, rfl, rfl, by decide⟩
  ⟨held, by decide, by decide, by decide,
    reconcile_bridge_without_input exampleCollaborators _ _ held (by decide) (by decide) (by decide)⟩

end Missing

/-! ## What a run never writes -/

section Frame
variable (c : Collaborators Text Body) (m0 : MautrixSignal) (status : MautrixSignalStatus)

/-- What a run for the bridge may write: the bridge, the Synapse it
references, its ConfigMap and its children. -/
def RunFootprint (id : Identity) : Prop :=
  id = .of .mautrixSignal m0.key ∨ id = .of .synapse m0.synapseKey ∨ id = .of .configMap m0.key ∨
    ∃ object, (id, object) ∈ builtChildren c { m0 with status }

/-- The only ConfigMap in the footprint is the bridge's own. -/
theorem runFootprint_configMap {key : ObjectRef} (written : RunFootprint c m0 status (.of .configMap key)) :
    key = m0.key := by
  rcases written with same | same | same | ⟨_, listed⟩
  · exact absurd (Identity.of_inj.mp same).1 nofun
  · exact absurd (Identity.of_inj.mp same).1 nofun
  · exact (Identity.of_inj.mp same).2
  · simp only [builtChildren, List.mem_append, List.mem_ite_nil_right, List.mem_cons, List.not_mem_nil,
      or_false, or_assoc, Prod.mk.injEq] at listed
    rcases listed with ⟨-, same, -⟩ | ⟨-, ⟨same, -⟩ | ⟨same, -⟩⟩ | ⟨same, -⟩ | ⟨same, -⟩ | ⟨same, -⟩ |
      ⟨same, -⟩ | ⟨same, -⟩
    · exact (Identity.of_inj.mp same).2
    all_goals exact absurd (congrArg Identity.kind same) nofun

/-- Whatever it returns, a step changes nothing outside the run's footprint,
from a store that holds the bridge and its Synapse. -/
def Within (f : Store Text Body → Outcome × Store Text Body) : Prop :=
  ∀ a, HeldAt m0 status a → ∀ id, ¬ RunFootprint c m0 status id → (f a).2.objects id = a.objects id

theorem triggerSynapseReconciliation_within : Within c m0 status (triggerSynapseReconciliation m0.key) :=
  fun _ held _ apart => triggerSynapseReconciliation_objects_of_held held fun same => apart (.inr (.inl same))

theorem buildMautrixSignalStatus_within : Within c m0 status (buildMautrixSignalStatus c m0.key) := by
  intro a held id apart
  obtain ⟨s, synapse, -, named⟩ := held.synapse
  rw [buildMautrixSignalStatus_eq c held.bridge rfl synapse named]
  dsimp only
  split_ifs
  · rfl
  · simp [Function.update_noteq fun same => apart (.inl same)]

variable [DecidableEq Text] [DecidableEq Body]

theorem configureMautrixSignalConfigMap_within :
    Within c m0 status (configureMautrixSignalConfigMap c m0.key) := by
  intro a held id apart
  rw [configureMautrixSignalConfigMap_eq c held.bridge rfl]
  split
  · rfl
  · exact updateConfigMap_objects ‹_› fun same => apart (.inr (.inr (.inl same)))

theorem copyInputMautrixSignalConfigMap_within :
    Within c m0 status (copyInputMautrixSignalConfigMap m0.key) := by
  intro a held id apart
  cases input : a.configMap? (inputConfigMapKey { m0 with status }) with
  | some data =>
    rw [copyInputMautrixSignalConfigMap_of_found held.bridge rfl input]
    exact reconcileResource_objects_eq fun same => absurd (.inr (.inr (.inl same))) apart
  | none =>
    simp only [copyInputMautrixSignalConfigMap, getLatestMautrixSignal_of_found held.bridge, input]
    split
    · rename_i success
      obtain ⟨-, -, -, others⟩ := updateMautrixSignalStatus_eq_ok success
      exact others id fun same => apart (.inl same)
    · rfl

/-- A resource step whose builder names an identity of the footprint. -/
theorem resourceStep_within
    {desired : MautrixSignal → Store Text Body → Except Bytes (Identity × Object Text Body)}
    (target : ∀ store id object, desired { m0 with status } store = .ok (id, object) →
      RunFootprint c m0 status id) :
    Within c m0 status (resourceStep desired m0.key) := by
  intro a held id apart
  rw [resourceStep_eq held.bridge]
  split
  · rfl
  · rename_i id' object made
    exact reconcileResource_objects_eq fun same => absurd (same ▸ target a id' object made) apart

theorem builtChild_within {kind : Kind} {name : MautrixSignal → Bytes}
    (listed : (⟨kind, m0.ns, name { m0 with status }⟩,
      .built (c.build kind (name { m0 with status }) { m0 with status })) ∈
        builtChildren c { m0 with status }) :
    Within c m0 status (builtChild c kind name m0.key) :=
  resourceStep_within c m0 status fun _ _ _ made => by
    cases made
    exact .inr (.inr (.inr ⟨_, listed⟩))

/-- Every step a run lists, whatever it returns, changes nothing outside the
run's footprint. -/
theorem subreconcilersForMautrixSignal_within :
    ∀ f ∈ subreconcilersForMautrixSignal c m0.key { m0 with status }, Within c m0 status f := by
  intro f listed
  simp only [subreconcilersForMautrixSignal, List.mem_append, List.mem_cons, List.mem_ite_nil_right,
    List.not_mem_nil, or_false, or_assoc] at listed
  rcases listed with rfl | rfl | first | ⟨openshift, rfl | rfl⟩ | rfl | rfl | rfl | rfl | rfl
  · exact triggerSynapseReconciliation_within c m0 status
  · exact buildMautrixSignalStatus_within c m0 status
  · split_ifs at first <;> simp only [List.mem_cons, List.not_mem_nil, or_false] at first
    · rcases first with rfl | rfl
      exacts [copyInputMautrixSignalConfigMap_within c m0 status,
        configureMautrixSignalConfigMap_within c m0 status]
    · rw [first]
      exact resourceStep_within c m0 status fun _ _ _ made => by
        cases made
        exact .inr (.inr (.inl rfl))
  all_goals
    exact builtChild_within c m0 status
      (by simp only [builtChildren, *, if_true, List.mem_append, List.mem_cons, true_or, or_true])

/-- Whatever it returns, a run changes nothing outside its footprint. -/
theorem reconcile_objects_outside {store : Store Text Body} (held : HeldAt m0 status store)
    {id : Identity} (apart : ¬ RunFootprint c m0 status id) :
    (reconcile c m0.key store).2.objects id = store.objects id := by
  simp only [reconcile, getLatestMautrixSignal_of_found held.bridge]
  refine @runSubreconcilers_preserve _ (HeldAt m0 status)
    (fun a b => ∀ id : Identity, ¬ RunFootprint c m0 status id → b.objects id = a.objects id)
    (fun _ _ _ => rfl) (fun first second id apart => (second id apart).trans (first id apart)) _
    (fun f listed a held' => ⟨subreconcilersForMautrixSignal_within c m0 status f listed a held',
      fun continued => ((subreconcilersForMautrixSignal_spec c m0 status f listed).continues a held'
        continued).1⟩) store held id apart

/-- Whatever it returns, a run on a bridge whose Synapse is ready changes no
object but the bridge, that Synapse, the bridge's ConfigMap and its children:
no Secret, no other bridge, no other Synapse. In particular it leaves the
user's ConfigMap as it is, unless that is the bridge's own ConfigMap. -/
theorem reconcile_bridge_changes_only_footprint {store : Store Text Body} (held : HeldAt m0 status store) :
    (∀ id, (reconcile c m0.key store).2.objects id ≠ store.objects id → RunFootprint c m0 status id) ∧
    (inputConfigMapKey m0 ≠ m0.key →
      (reconcile c m0.key store).2.configMap? (inputConfigMapKey m0) = store.configMap? (inputConfigMapKey m0)) :=
  ⟨fun _ changed => not_not.mp fun apart => changed (reconcile_objects_outside c m0 status held apart),
    fun notOwn => Store.configMap?_congr (reconcile_objects_outside c m0 status held fun written =>
      notOwn (runFootprint_configMap c m0 status written))⟩

theorem reconcile_bridge_changes_only_footprint_example :
    HeldAt freshBridge freshBridge.status (bridgeStore true) ∧
      let run := reconcile exampleCollaborators freshBridge.key (bridgeStore true)
      (∀ id, run.2.objects id ≠ (bridgeStore true).objects id →
        RunFootprint exampleCollaborators freshBridge freshBridge.status id) ∧
      (inputConfigMapKey freshBridge ≠ freshBridge.key →
        run.2.configMap? (inputConfigMapKey freshBridge) =
          (bridgeStore true).configMap? (inputConfigMapKey freshBridge)) :=
  have held : HeldAt freshBridge freshBridge.status (bridgeStore true) := ⟨rfl, _, rfl, rfl, by decide⟩
  ⟨held, reconcile_bridge_changes_only_footprint exampleCollaborators freshBridge _ held⟩

end Frame

end SynapseOperator.MautrixSignalOutput
