import SynapseOperator.MautrixSignalReconciler

/-!
What each step of `MautrixSignalReconciler.Reconcile` does to a store that
holds the bridge and the Synapse it references, in the terms the chain of runs
is argued in (`MautrixSignalRuns`).

1. **`pending` is one while `buildMautrixSignalStatus` would still patch**:
   while the bridge's Status lacks the Synapse's server name or `IsOpenshift`.
   It is the only step that returns `Requeue`, and it settles itself when it
   does (`buildMautrixSignalStatus_makes`).
2. **What a continuing step may change** is `Kept`: the bridge stays, what the
   status step reads of the Synapse stays (`SameView`), and `Frame` lets it
   set `NeedsReconcile` on the Synapse, write the bridge's ConfigMap when the
   user gave one, and write the children, each as built. `Converged` is where a
   run that ran every step leaves the store.
3. **`StepSpec`** bundles what the chain theorems need of a step, and `Makes`
   adds what the step leaves true when it continues. Each step has its lemma.

The Synapse the bridge references is assumed stored under its own key and to
have a server name (`Held`): `GetSynapseServerName` fails otherwise, and every
run ends with that error.
-/

namespace SynapseOperator.MautrixSignalConvergence
open SynapseOperator.Api SynapseOperator.Document SynapseOperator.Naming SynapseOperator.Cluster
  SynapseOperator.ConfigMutation SynapseOperator.MautrixSignalReconciler

variable {Text Body : Type}

section Vocabulary
variable (m0 : MautrixSignal)

/-- The Synapse the bridge references is stored under its own key and has a
server name. -/
def SynapseReady (store : Store Text Body) : Prop :=
  ∃ s, store.synapse? m0.synapseKey = some s ∧ s.key = m0.synapseKey ∧
    s.status.homeserverConfiguration.serverName ≠ []

/-- The store holds the bridge under its key, with its name and Spec and the
Status `status`, and its Synapse is ready. -/
structure HeldAt (status : MautrixSignalStatus) (store : Store Text Body) : Prop where
  bridge : store.mautrixSignal? m0.key = some { m0 with status }
  synapse : SynapseReady m0 store

/-- The store holds the bridge with some Status, and its Synapse is ready. -/
def Held (store : Store Text Body) : Prop := ∃ status, HeldAt m0 status store

/-- The Synapse has been asked to reconcile. -/
def Triggered (store : Store Text Body) : Prop :=
  ∃ s, store.synapse? m0.synapseKey = some s ∧ s.status.needsReconcile = true

/-- The one identity a run on a converged store may write: the bridge's
ConfigMap, when the Spec names a user ConfigMap. -/
def Free (id : Identity) : Prop := m0.spec.configMap.name ≠ [] ∧ id = .of .configMap m0.key

/-- What `buildMautrixSignalStatus` reads of the Synapse. -/
def synapseView (s : Synapse) : ObjectRef × Bytes × Bool :=
  (s.key, s.status.homeserverConfiguration.serverName, s.spec.isOpenshift)

/-- One while `buildMautrixSignalStatus` would patch the bridge's Status. -/
def pending (store : Store Text Body) : Nat :=
  match store.mautrixSignal? m0.key, (store.synapse? m0.synapseKey).map synapseView with
  | some ms, some (_, serverName, isOpenshift) =>
    if withSynapseInfos ms serverName isOpenshift = ms then 0 else 1
  | _, _ => 0

theorem pending_le_one (store : Store Text Body) : pending m0 store ≤ 1 := by
  unfold pending
  split
  · split <;> omega
  · omega

theorem pending_of_found {store : Store Text Body} {ms : MautrixSignal} {s : Synapse}
    (found : store.mautrixSignal? m0.key = some ms) (synapse : store.synapse? m0.synapseKey = some s) :
    pending m0 store =
      if withSynapseInfos ms s.status.homeserverConfiguration.serverName s.spec.isOpenshift = ms
      then 0 else 1 := by
  simp only [pending, found, synapse, Option.map_some', synapseView]

/-- What the status step reads stays: the bridge, and the Synapse's key,
server name and `IsOpenshift`. -/
structure SameView (store store' : Store Text Body) : Prop where
  bridge : store'.mautrixSignal? m0.key = store.mautrixSignal? m0.key
  synapse : (store'.synapse? m0.synapseKey).map synapseView =
    (store.synapse? m0.synapseKey).map synapseView

theorem SameView.refl (store : Store Text Body) : SameView m0 store store := ⟨rfl, rfl⟩

theorem pending_eq_of_sameView {store store' : Store Text Body} (view : SameView m0 store store') :
    pending m0 store' = pending m0 store := by
  simp only [pending, view.bridge, view.synapse]

theorem HeldAt.of_sameView {status : MautrixSignalStatus} {store store' : Store Text Body}
    (held : HeldAt m0 status store) (view : SameView m0 store store') : HeldAt m0 status store' := by
  obtain ⟨bridge, s, synapse, keyed, named⟩ := held
  have read := view.synapse
  rw [synapse, Option.map_some'] at read
  obtain ⟨s', synapse', same⟩ := Option.map_eq_some'.mp read
  simp only [synapseView, Prod.mk.injEq] at same
  exact ⟨view.bridge ▸ bridge, s', synapse', same.1 ▸ keyed, same.2.1 ▸ named⟩

end Vocabulary

/-! ## What a step may change -/

section Frames
variable [DecidableEq Text] [DecidableEq Body] (c : Collaborators Text Body) (m0 : MautrixSignal)

/-- The children a run builds for the bridge `ms`, each under its identity with
its desired object: the default ConfigMap when no user ConfigMap is given, the
ServiceAccount and RoleBinding on OpenShift, and the workloads. -/
def builtChildren (ms : MautrixSignal) : List (Identity × Object Text Body) :=
  (if ms.spec.configMap.name = [] then [(.of .configMap ms.key, configMapForMautrixSignal c ms)]
    else []) ++
  (if ms.status.isOpenshift then
      [(⟨.serviceAccount, ms.ns, ms.name⟩, .built (c.build .serviceAccount ms.name ms)),
        (⟨.roleBinding, ms.ns, ms.name⟩, .built (c.build .roleBinding ms.name ms))]
    else []) ++
  [(⟨.persistentVolumeClaim, ms.ns, getSignaldResourceName ms⟩,
      .built (c.build .persistentVolumeClaim (getSignaldResourceName ms) ms)),
    (⟨.deployment, ms.ns, getSignaldResourceName ms⟩,
      .built (c.build .deployment (getSignaldResourceName ms) ms)),
    (⟨.service, ms.ns, ms.name⟩, .built (c.build .service ms.name ms)),
    (⟨.persistentVolumeClaim, ms.ns, ms.name⟩, .built (c.build .persistentVolumeClaim ms.name ms)),
    (⟨.deployment, ms.ns, ms.name⟩, .built (c.build .deployment ms.name ms))]

/-- No child is a Synapse or a bridge; a child ConfigMap is the default one,
built only without a user ConfigMap; and each identity has one desired
object. -/
theorem builtChildren_apart {status : MautrixSignalStatus} {child : Identity × Object Text Body}
    (listed : child ∈ builtChildren c { m0 with status }) :
    child.1.kind ≠ .synapse ∧ child.1.kind ≠ .mautrixSignal ∧
      (child.1.kind = .configMap → m0.spec.configMap.name = [] ∧ ∃ data, child.2 = .configMap data) ∧
      ∀ object, (child.1, object) ∈ builtChildren c { m0 with status } → object = child.2 := by
  have suffixed : getSignaldResourceName { m0 with status } ≠ m0.name := by
    simp [getSignaldResourceName, join_pair, lit]
  unfold builtChildren at listed ⊢
  dsimp only at listed ⊢
  split_ifs at listed ⊢ <;> simp only [List.mem_append, List.mem_cons, List.not_mem_nil, or_false,
    List.nil_append, false_or, or_assoc] at listed <;>
    rcases listed with rfl | rfl | rfl | rfl | rfl | rfl | rfl | rfl <;>
    simp [Identity.of, MautrixSignal.key, configMapForMautrixSignal, suffixed, suffixed.symm, *]

/-- No child is at a free identity. -/
theorem builtChildren_not_free {status : MautrixSignalStatus} {child : Identity × Object Text Body}
    (listed : child ∈ builtChildren c { m0 with status }) : ¬ Free m0 child.1 := by
  rintro ⟨given, same⟩
  exact given ((builtChildren_apart c m0 listed).2.2.1 (by rw [same]; rfl)).1

/-- What a continuing step of a run that read the Status `status` may change:
the Synapse, the bridge's ConfigMap when it is free, which it never removes,
and the run's children, each only to its desired object. -/
structure Frame (status : MautrixSignalStatus) (store store' : Store Text Body) : Prop where
  objects : ∀ id, id ≠ .of .synapse m0.synapseKey → ¬ Free m0 id →
    store'.objects id = store.objects id ∨
      ∃ object, (id, object) ∈ builtChildren c { m0 with status } ∧ store'.objects id = some object
  configMap : (∃ data, store.configMap? m0.key = some data) →
    ∃ data, store'.configMap? m0.key = some data
  triggered : Triggered m0 store → Triggered m0 store'

theorem Frame.refl (status : MautrixSignalStatus) (store : Store Text Body) :
    Frame c m0 status store store :=
  ⟨fun _ _ _ => .inl rfl, id, id⟩

/-- What a continuing step keeps: `HeldAt` with the same Status, what the
status step reads, and `Frame`. -/
def Kept (status : MautrixSignalStatus) (store store' : Store Text Body) : Prop :=
  HeldAt m0 status store' ∧ SameView m0 store store' ∧ Frame c m0 status store store'

theorem Kept.refl {status : MautrixSignalStatus} {store : Store Text Body}
    (held : HeldAt m0 status store) : Kept c m0 status store store :=
  ⟨held, .refl m0 store, .refl c m0 status store⟩

/-- A child a continuing step keeps as built. -/
theorem Kept.child {status : MautrixSignalStatus} {store store' : Store Text Body}
    (kept : Kept c m0 status store store') {child : Identity × Object Text Body}
    (listed : child ∈ builtChildren c { m0 with status })
    (stored : store.objects child.1 = some child.2) : store'.objects child.1 = some child.2 := by
  obtain ⟨synapse, -, -, functional⟩ := builtChildren_apart c m0 listed
  rcases kept.2.2.objects child.1 (fun same => synapse (by rw [same]; rfl))
      (builtChildren_not_free c m0 listed) with same | ⟨object, listed', stored'⟩
  · rw [same, stored]
  · rw [stored', functional object listed']

/-- The user's ConfigMap stays through a continuing step. -/
theorem Kept.input {status : MautrixSignalStatus} {store store' : Store Text Body}
    (kept : Kept c m0 status store store') (given : m0.spec.configMap.name ≠ [])
    (input : ∃ data, store.configMap? (inputConfigMapKey m0) = some data) :
    ∃ data, store'.configMap? (inputConfigMapKey m0) = some data := by
  by_cases own : inputConfigMapKey m0 = m0.key
  · rw [own] at input ⊢
    exact kept.2.2.configMap input
  have unfree : ¬ Free m0 (.of .configMap (inputConfigMapKey m0)) := fun ⟨_, same⟩ =>
    own (Identity.of_inj.mp same).2
  rcases kept.2.2.objects _ (by simp) unfree with same | ⟨object, listed, -⟩
  · rwa [Store.configMap?_congr same]
  · exact absurd ((builtChildren_apart c m0 listed).2.2.1 rfl).1 given

/-- Where a run that ran every step leaves the store: the status step would
not write, the Synapse has been asked to reconcile, every child is as built,
and with a user ConfigMap, both it and the bridge's ConfigMap exist. -/
structure Converged (store : Store Text Body) : Prop where
  settled : pending m0 store = 0
  triggered : Triggered m0 store
  children : ∀ status, store.mautrixSignal? m0.key = some { m0 with status } →
    ∀ child ∈ builtChildren c { m0 with status }, store.objects child.1 = some child.2
  configMap : m0.spec.configMap.name ≠ [] → ∃ data, store.configMap? m0.key = some data
  input : m0.spec.configMap.name ≠ [] → ∃ data, store.configMap? (inputConfigMapKey m0) = some data

/-- A continuing step keeps a converged store converged. -/
theorem Converged.of_kept {status : MautrixSignalStatus} {store store' : Store Text Body}
    (held : HeldAt m0 status store) (converged : Converged c m0 store)
    (kept : Kept c m0 status store store') : Converged c m0 store' := by
  refine ⟨(pending_eq_of_sameView m0 kept.2.1).trans converged.settled,
    kept.2.2.triggered converged.triggered, fun status' found' child listed => ?_,
    fun given => kept.2.2.configMap (converged.configMap given),
    fun given => Kept.input c m0 kept given (converged.input given)⟩
  obtain rfl : status = status' := congrArg MautrixSignal.status
    (Option.some.inj (kept.1.bridge.symm.trans found'))
  exact kept.child c m0 listed (converged.children _ held.bridge child listed)

/-- What every step of a run that read the Status `status` does, from a store
that holds the bridge with it: when it does not continue it returns `Requeue`,
an error, or the delayed requeue of a missing user ConfigMap; when it
continues it keeps what `Kept` asks; when it returns `Requeue` it lowers
`pending`; on a converged store it writes nothing but Patches of the free
identity. -/
structure StepSpec (status : MautrixSignalStatus) (f : Store Text Body → Outcome × Store Text Body) :
    Prop where
  halts : ∀ store, HeldAt m0 status store → (f store).1 ≠ .continueReconciling →
    (f store).1 = .requeue ∨ (f store).1.IsError ∨ (f store).1 = .requeueWithDelay 30
  continues : ∀ store, HeldAt m0 status store → (f store).1 = .continueReconciling →
    Kept c m0 status store (f store).2
  requeues : ∀ store, HeldAt m0 status store → (f store).1 = .requeue →
    Held m0 (f store).2 ∧ pending m0 (f store).2 < pending m0 store
  converged : ∀ store, HeldAt m0 status store → Converged c m0 store →
    store.PatchesOnly (Free m0) (f store).2

variable {c m0} in
/-- No step ends a run with `DoNotRequeue`. -/
theorem StepSpec.never {status : MautrixSignalStatus} {f : Store Text Body → Outcome × Store Text Body}
    (spec : StepSpec c m0 status f) {store : Store Text Body} (held : HeldAt m0 status store) :
    (f store).1 ≠ .doNotRequeue := fun stopped => by
  rcases spec.halts store held (by rw [stopped]; nofun) with requeued | error | delayed
  · rw [stopped] at requeued
    cases requeued
  · exact error.ne.2.2 stopped
  · rw [stopped] at delayed
    cases delayed

/-- A step as `StepSpec` says, which leaves `P` true when it continues. -/
structure Makes (status : MautrixSignalStatus) (P : Store Text Body → Prop)
    (f : Store Text Body → Outcome × Store Text Body) extends StepSpec c m0 status f : Prop where
  makes : ∀ store, HeldAt m0 status store → (f store).1 = .continueReconciling → P (f store).2

/-- A step that never requeues: it ends with an error and writes nothing, or
continues within `Kept`. -/
theorem StepSpec.of_continuing {status : MautrixSignalStatus}
    {f : Store Text Body → Outcome × Store Text Body}
    (each : ∀ store, HeldAt m0 status store → ((f store).1.IsError ∧ (f store).2 = store) ∨
      ((f store).1 = .continueReconciling ∧ Kept c m0 status store (f store).2))
    (converged : ∀ store, HeldAt m0 status store → Converged c m0 store →
      (f store).1 = .continueReconciling → store.PatchesOnly (Free m0) (f store).2) :
    StepSpec c m0 status f := by
  constructor
  · intro store held halted
    rcases each store held with ⟨error, -⟩ | ⟨continued, -⟩
    exacts [.inr (.inl error), absurd continued halted]
  · intro store held continued
    rcases each store held with ⟨error, -⟩ | ⟨-, kept⟩
    exacts [absurd continued error.ne.1, kept]
  · intro store held requeued
    rcases each store held with ⟨error, -⟩ | ⟨continued, -⟩
    exacts [absurd requeued error.ne.2.1, absurd requeued (by simp [continued])]
  · intro store held settled
    rcases each store held with ⟨-, unchanged⟩ | ⟨continued, -⟩
    exacts [by rw [unchanged]; exact .refl store, converged store held settled continued]

end Frames

/-! ## The steps -/

section Steps
variable [DecidableEq Text] [DecidableEq Body] (c : Collaborators Text Body) (m0 : MautrixSignal)
  {status : MautrixSignalStatus}

/-- The trigger continues, keeps what `Kept` asks, leaves the Synapse asked to
reconcile, and writes nothing when it was already. -/
theorem triggerSynapseReconciliation_cases {store : Store Text Body} (held : HeldAt m0 status store) :
    (triggerSynapseReconciliation m0.key store).1 = .continueReconciling ∧
      Kept c m0 status store (triggerSynapseReconciliation m0.key store).2 ∧
      Triggered m0 (triggerSynapseReconciliation m0.key store).2 ∧
      (Triggered m0 store → (triggerSynapseReconciliation m0.key store).2 = store) := by
  obtain ⟨found, s, synapse, keyed, named⟩ := held
  have sameKey : ({ m0 with status } : MautrixSignal).synapseKey = m0.synapseKey := rfl
  rw [triggerSynapseReconciliation_eq found synapse keyed, sameKey]
  split_ifs with set
  · exact ⟨rfl, .refl c m0 ⟨found, s, synapse, keyed, named⟩, ⟨s, synapse, set⟩, fun _ => rfl⟩
  dsimp only
  set s' : Synapse := { s with status.needsReconcile := true }
  set patched := (store.put (.of .synapse m0.synapseKey) (.synapse s')).record
    (.patch (.of .synapse m0.synapseKey))
  have read : patched.synapse? m0.synapseKey = some s' := by simp [patched]
  have other : ∀ id, id ≠ .of .synapse m0.synapseKey → patched.objects id = store.objects id :=
    fun id apart => by simp [patched, apart]
  have view : SameView m0 store patched :=
    ⟨Store.mautrixSignal?_congr (other _ (by simp)), by rw [read, synapse]; rfl⟩
  refine ⟨rfl, ⟨.of_sameView m0 ⟨found, s, synapse, keyed, named⟩ view, view,
    fun id apart _ => .inl (other id apart), fun ⟨data, stored⟩ => ⟨data, ?_⟩,
    fun _ => ⟨s', read, rfl⟩⟩, ⟨s', read, rfl⟩, fun ⟨s'', synapse', set'⟩ => ?_⟩
  · rwa [Store.configMap?_congr (other _ (by simp))]
  · rw [synapse, Option.some.injEq] at synapse'
    exact absurd (synapse' ▸ set') set

/-- `triggerSynapseReconciliation` as a step: it always continues. -/
theorem triggerSynapseReconciliation_makes :
    Makes c m0 status (Triggered m0) (triggerSynapseReconciliation m0.key) := by
  refine ⟨⟨fun store held halted => ?_, fun store held _ => ?_, fun store held requeued => ?_,
    fun store held converged => ?_⟩, fun store held _ => ?_⟩ <;>
    obtain ⟨continued, kept, triggered, unchanged⟩ := triggerSynapseReconciliation_cases c m0 held
  · exact absurd continued halted
  · exact kept
  · rw [continued] at requeued
    cases requeued
  · rw [unchanged converged.triggered]
    exact .refl store
  · exact triggered

/-- The status step continues on a settled store and writes nothing; on an
unsettled one it patches the Status, which settles it, and returns `Requeue`. -/
theorem buildMautrixSignalStatus_cases {store : Store Text Body} (held : HeldAt m0 status store) :
    (buildMautrixSignalStatus c m0.key store = (.continueReconciling, store) ∧ pending m0 store = 0) ∨
      ((buildMautrixSignalStatus c m0.key store).1 = .requeue ∧
        Held m0 (buildMautrixSignalStatus c m0.key store).2 ∧
        pending m0 (buildMautrixSignalStatus c m0.key store).2 = 0 ∧ pending m0 store = 1) := by
  obtain ⟨found, s, synapse, keyed, named⟩ := held
  rw [buildMautrixSignalStatus_eq c found rfl synapse named, pending_of_found m0 found synapse]
  dsimp only
  split_ifs with settled
  · exact .inl ⟨rfl, rfl⟩
  set ms' := withSynapseInfos { m0 with status } s.status.homeserverConfiguration.serverName
    s.spec.isOpenshift
  set patched := (store.put (.of .mautrixSignal m0.key) (.mautrixSignal ms')).record
    (.patch (.of .mautrixSignal m0.key))
  have read : patched.mautrixSignal? m0.key = some { m0 with status := ms'.status } := by
    simp [patched]
    rfl
  have synapse' : patched.synapse? m0.synapseKey = some s :=
    (Store.synapse?_congr (by simp [patched])).trans synapse
  refine .inr ⟨rfl, ⟨_, read, s, synapse', keyed, named⟩, ?_, rfl⟩
  rw [pending_of_found m0 read synapse']
  exact if_pos rfl

/-- `buildMautrixSignalStatus` as a step: the only one that returns `Requeue`. -/
theorem buildMautrixSignalStatus_makes :
    Makes c m0 status (fun τ => pending m0 τ = 0) (buildMautrixSignalStatus c m0.key) := by
  refine ⟨⟨fun store held halted => ?_, fun store held continued => ?_,
    fun store held requeued => ?_, fun store held converged => ?_⟩,
    fun store held continued => ?_⟩ <;>
    rcases buildMautrixSignalStatus_cases c m0 held with ⟨ran, settled⟩ | ⟨requeued', held', after, before⟩
  · rw [ran] at halted
    exact absurd rfl halted
  · exact .inl requeued'
  · rw [ran]
    exact .refl c m0 held
  · rw [requeued'] at continued
    cases continued
  · rw [ran] at requeued
    cases requeued
  · exact ⟨held', by omega⟩
  · rw [ran]
    exact .refl store
  · exact absurd converged.settled (by omega)
  · rwa [ran]
  · rw [requeued'] at continued
    cases continued

/-- `ReconcileResource` of a child as built keeps what `Kept` asks. -/
theorem reconcileResource_kept {store : Store Text Body} (held : HeldAt m0 status store)
    {id : Identity} {object : Object Text Body} (listed : (id, object) ∈ builtChildren c { m0 with status }) :
    Kept c m0 status store (reconcileResource id object store) := by
  obtain ⟨synapse, bridge, configMap, -⟩ := builtChildren_apart c m0 listed
  have other : ∀ {kind : Kind} {key : ObjectRef}, kind ≠ id.kind →
      (reconcileResource id object store).objects (.of kind key) = store.objects (.of kind key) :=
    fun different => reconcileResource_objects_eq fun same => absurd (congrArg Identity.kind same) different
  have synapse' := @Store.synapse?_congr _ _ _ _ m0.synapseKey (other (Ne.symm synapse))
  have view : SameView m0 store (reconcileResource id object store) :=
    ⟨Store.mautrixSignal?_congr (other (Ne.symm bridge)), by rw [synapse']⟩
  refine ⟨held.of_sameView m0 view, view, fun id' _ _ => ?_, fun ⟨data, stored⟩ => ?_,
    fun ⟨s, read, set⟩ => ⟨s, synapse'.trans read, set⟩⟩
  · by_cases same : id' = id
    · subst same
      exact .inr ⟨object, listed, by simp⟩
    · exact .inl (reconcileResource_objects_eq (absurd · same))
  · by_cases same : Identity.of .configMap m0.key = id
    · obtain ⟨-, data', rfl⟩ := configMap (by rw [← same]; rfl)
      exact ⟨data', by simp [same]⟩
    · exact ⟨data, (Store.configMap?_congr (reconcileResource_objects_eq (absurd · same))).trans stored⟩

/-- A resource step whose objects are the run's children as built. -/
theorem resourceStep_spec
    {desired : MautrixSignal → Store Text Body → Except Bytes (Identity × Object Text Body)}
    (placed : ∀ store id object, desired { m0 with status } store = .ok (id, object) →
      (id, object) ∈ builtChildren c { m0 with status }) :
    StepSpec c m0 status (resourceStep desired m0.key) := by
  refine StepSpec.of_continuing c m0 (fun store held => ?_) (fun store held converged => ?_)
  all_goals rw [resourceStep_eq held.bridge]
  · cases made : desired { m0 with status } store with
    | error err => exact .inl ⟨trivial, rfl⟩
    | ok built =>
      obtain ⟨id, object⟩ := built
      exact .inr ⟨rfl, reconcileResource_kept c m0 held (placed _ _ _ made)⟩
  · cases made : desired { m0 with status } store with
    | error err => exact fun _ => .refl store
    | ok built =>
      obtain ⟨id, object⟩ := built
      intro _
      dsimp only
      rw [reconcileResource_of_stored (converged.children _ held.bridge _ (placed _ _ _ made))]
      exact .refl store

/-- A write of the bridge's ConfigMap alone, which leaves it a ConfigMap, keeps
what `Kept` asks when a user ConfigMap is given. -/
theorem kept_of_configMap_write (given : m0.spec.configMap.name ≠ []) {store store' : Store Text Body}
    (held : HeldAt m0 status store)
    (other : ∀ id, id ≠ .of .configMap m0.key → store'.objects id = store.objects id)
    (configMap : ∃ data, store'.configMap? m0.key = some data) : Kept c m0 status store store' := by
  have synapse' := @Store.synapse?_congr _ _ _ _ m0.synapseKey (other _ (by simp))
  have view : SameView m0 store store' :=
    ⟨Store.mautrixSignal?_congr (other _ (by simp)), by rw [synapse']⟩
  exact ⟨held.of_sameView m0 view, view,
    fun id _ unfree => .inl (other id fun same => unfree ⟨given, same⟩), fun _ => configMap,
    fun ⟨s, read, set⟩ => ⟨s, synapse'.trans read, set⟩⟩

/-- With a user ConfigMap, `copyInputMautrixSignalConfigMap` as a step: it
leaves the bridge's ConfigMap and the user's there when it continues. -/
theorem copyInputMautrixSignalConfigMap_makes (given : m0.spec.configMap.name ≠ []) :
    Makes c m0 status (fun τ => (∃ data, τ.configMap? m0.key = some data) ∧
      ∃ data, τ.configMap? (inputConfigMapKey m0) = some data)
      (copyInputMautrixSignalConfigMap m0.key) := by
  have each : ∀ store : Store Text Body, HeldAt m0 status store →
      (store.configMap? (inputConfigMapKey m0) = none ∧
          (copyInputMautrixSignalConfigMap m0.key store).1 = .requeueWithDelay 30) ∨
        ∃ data : List (Bytes × Text), store.configMap? (inputConfigMapKey m0) = some data ∧
          copyInputMautrixSignalConfigMap m0.key store =
            (.continueReconciling, reconcileResource (.of .configMap m0.key) (.configMap data) store) := by
    intro store held
    cases input : store.configMap? (inputConfigMapKey m0) with
    | none => exact .inl ⟨rfl, copyInputMautrixSignalConfigMap_of_missing held.bridge rfl input⟩
    | some data => exact .inr ⟨data, rfl, copyInputMautrixSignalConfigMap_of_found held.bridge rfl input⟩
  have written : ∀ (store : Store Text Body) (data : List (Bytes × Text)),
      (reconcileResource (.of .configMap m0.key) (.configMap data) store).configMap? m0.key = some data :=
    fun store data => by simp
  refine ⟨⟨fun store held halted => ?_, fun store held continued => ?_,
    fun store held requeued => ?_, fun store held converged => ?_⟩,
    fun store held continued => ?_⟩ <;>
    rcases each store held with ⟨missing, ran⟩ | ⟨data, input, ran⟩
  · exact .inr (.inr ran)
  · rw [ran] at halted
    exact absurd rfl halted
  · rw [ran] at continued
    cases continued
  · rw [ran]
    exact kept_of_configMap_write c m0 given held
      (fun id apart => reconcileResource_objects_eq (absurd · apart)) ⟨data, written store data⟩
  · rw [ran] at requeued
    cases requeued
  · rw [ran] at requeued
    cases requeued
  · obtain ⟨data, input⟩ := converged.input given
    rw [missing] at input
    cases input
  · obtain ⟨data', stored⟩ := converged.configMap given
    rw [ran]
    exact reconcileResource_patchesOnly ⟨given, rfl⟩ _ (Store.configMap?_iff.mp stored)
  · rw [ran] at continued
    cases continued
  · rw [ran]
    refine ⟨⟨data, written store data⟩, ?_⟩
    by_cases own : inputConfigMapKey m0 = m0.key
    · exact ⟨data, by rw [own]; exact written store data⟩
    · exact ⟨data, (Store.configMap?_congr (reconcileResource_objects_eq fun same =>
        absurd (Identity.of_inj.mp same).2 own)).trans input⟩

/-- With a user ConfigMap, `configureMautrixSignalConfigMap` as a step: it
writes at most a Patch of the bridge's ConfigMap. -/
theorem configureMautrixSignalConfigMap_spec (given : m0.spec.configMap.name ≠ []) :
    StepSpec c m0 status (configureMautrixSignalConfigMap c m0.key) := by
  refine StepSpec.of_continuing c m0 (fun store held => ?_) (fun store held _ _ => ?_)
  all_goals rw [configureMautrixSignalConfigMap_eq c held.bridge rfl]
  · cases made : updateConfigMap c.codec m0.key (updateMautrixSignalData { m0 with status })
        configYamlKey store with
    | error err => exact .inl ⟨trivial, rfl⟩
    | ok store' =>
      obtain ⟨data, config, updated, stored, -, -, rfl⟩ := updateConfigMap_eq_ok made
      refine .inr ⟨rfl, kept_of_configMap_write c m0 given held (fun id apart => ?_) ?_⟩ <;>
        split_ifs
      · rfl
      · simp [apart]
      · exact ⟨data, stored⟩
      · exact ⟨dataSet data configYamlKey (c.codec.marshal updated), by simp⟩
  · cases made : updateConfigMap c.codec m0.key (updateMautrixSignalData { m0 with status })
        configYamlKey store with
    | error err => exact .refl store
    | ok store' => exact updateConfigMap_patchesOnly ⟨given, rfl⟩ made

end Steps

end SynapseOperator.MautrixSignalConvergence
