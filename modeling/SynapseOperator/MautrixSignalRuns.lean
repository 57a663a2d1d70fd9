import SynapseOperator.MautrixSignalConvergence

/-!
Whole runs of `MautrixSignalReconciler.Reconcile`, and the chain of runs the
manager makes while each returns `Requeue`.

1. **Every listed step has its `StepSpec`** (`subreconcilersForMautrixSignal_spec`),
   whatever the Spec and the Status the run read.
2. **A run that returns `Requeue` lowers `pending`** (`reconcile_requeue`),
   and `pending` is at most one, so a chain has at most two runs. A missing
   user ConfigMap ends a run with the delayed requeue of
   `copyInputMautrixSignalConfigMap`, which is not a `Requeue`.
3. **After a run that returns `DoNotRequeue`** the store is `Converged`
   (`runSubreconcilers_converged`), and the next run writes nothing but
   Patches of the bridge's ConfigMap, and nothing at all without a user
   ConfigMap (`reconcile_after_doNotRequeue`). With one it does write them:
   `copyInputMautrixSignalConfigMap` puts the raw copy back and
   `configureMautrixSignalConfigMap` edits it again.

What is assumed, and stated as a hypothesis rather than proved: the Synapse
the bridge references is stored under its own key and has a server name.
-/

namespace SynapseOperator.MautrixSignalRuns
open SynapseOperator.Api SynapseOperator.Document SynapseOperator.Naming SynapseOperator.Cluster
  SynapseOperator.ConfigMutation SynapseOperator.MautrixSignalReconciler
  SynapseOperator.MautrixSignalConvergence

variable {Text Body : Type}

/-! ## Each listed step -/

section Members
variable [DecidableEq Text] [DecidableEq Body] (c : Collaborators Text Body) (m0 : MautrixSignal)
  (status : MautrixSignalStatus)

/-- A builder of one of the run's children. -/
theorem builtChild_spec {kind : Kind} {name : MautrixSignal → Bytes}
    (listed : (⟨kind, m0.ns, name { m0 with status }⟩,
      .built (c.build kind (name { m0 with status }) { m0 with status })) ∈
        builtChildren c { m0 with status }) :
    StepSpec c m0 status (builtChild c kind name m0.key) :=
  resourceStep_spec c m0 fun _ _ _ made => by
    cases made
    exact listed

theorem reconcileMautrixSignalConfigMap_spec (none : m0.spec.configMap.name = []) :
    StepSpec c m0 status (reconcileMautrixSignalConfigMap c m0.key) :=
  resourceStep_spec c m0 fun _ _ _ made => by
    cases made
    simp [builtChildren, none]

theorem subreconcilersForMautrixSignal_spec :
    ∀ f ∈ subreconcilersForMautrixSignal c m0.key { m0 with status }, StepSpec c m0 status f := by
  intro f listed
  simp only [subreconcilersForMautrixSignal, List.mem_append, List.mem_cons, List.mem_ite_nil_right,
    List.not_mem_nil, or_false, or_assoc] at listed
  rcases listed with rfl | rfl | first | ⟨openshift, rfl | rfl⟩ | rfl | rfl | rfl | rfl | rfl
  · exact (triggerSynapseReconciliation_makes c m0).toStepSpec
  · exact (buildMautrixSignalStatus_makes c m0).toStepSpec
  · split_ifs at first with given
    · simp only [List.mem_cons, List.not_mem_nil, or_false] at first
      rcases first with rfl | rfl
      exacts [(copyInputMautrixSignalConfigMap_makes c m0 given).toStepSpec,
        configureMautrixSignalConfigMap_spec c m0 given]
    · rw [List.mem_singleton.mp first]
      exact reconcileMautrixSignalConfigMap_spec c m0 status (not_not.mp given)
  all_goals exact builtChild_spec c m0 status (by simp [builtChildren, *])

/-- The step of every child is listed, and leaves the child as built when it
continues. -/
theorem child_listed {child : Identity × Object Text Body}
    (listed : child ∈ builtChildren c { m0 with status }) :
    ∃ f ∈ subreconcilersForMautrixSignal c m0.key { m0 with status },
      ∀ store, store.mautrixSignal? m0.key = some { m0 with status } →
        (f store).2.objects child.1 = some child.2 := by
  simp only [builtChildren, List.mem_append, List.mem_ite_nil_right, List.mem_cons,
    List.not_mem_nil, or_false, or_assoc] at listed
  rcases listed with ⟨none, rfl⟩ | ⟨openshift, rfl | rfl⟩ | rfl | rfl | rfl | rfl | rfl
  · exact ⟨reconcileMautrixSignalConfigMap c m0.key,
      by simp [subreconcilersForMautrixSignal, none], fun _ found => resourceStep_makes found rfl⟩
  · exact ⟨reconcileMautrixSignalServiceAccount c m0.key,
      by simp [subreconcilersForMautrixSignal, openshift], fun _ found => resourceStep_makes found rfl⟩
  · exact ⟨reconcileMautrixSignalRoleBinding c m0.key,
      by simp [subreconcilersForMautrixSignal, openshift], fun _ found => resourceStep_makes found rfl⟩
  · exact ⟨reconcileSignaldPVC c m0.key,
      by simp [subreconcilersForMautrixSignal], fun _ found => resourceStep_makes found rfl⟩
  · exact ⟨reconcileSignaldDeployment c m0.key,
      by simp [subreconcilersForMautrixSignal], fun _ found => resourceStep_makes found rfl⟩
  · exact ⟨reconcileMautrixSignalService c m0.key,
      by simp [subreconcilersForMautrixSignal], fun _ found => resourceStep_makes found rfl⟩
  · exact ⟨reconcileMautrixSignalPVC c m0.key,
      by simp [subreconcilersForMautrixSignal], fun _ found => resourceStep_makes found rfl⟩
  · exact ⟨reconcileMautrixSignalDeployment c m0.key,
      by simp [subreconcilersForMautrixSignal], fun _ found => resourceStep_makes found rfl⟩

end Members

/-! ## Runs -/

section Runs
variable [DecidableEq Text] [DecidableEq Body] (c : Collaborators Text Body) (m0 : MautrixSignal)

/-- A run that returns `Requeue` keeps `Held` and lowers `pending`. -/
theorem reconcile_requeue {store : Store Text Body} (held : Held m0 store)
    (requeued : (reconcile c m0.key store).1 = .requeue) :
    Held m0 (reconcile c m0.key store).2 ∧
      pending m0 (reconcile c m0.key store).2 < pending m0 store := by
  obtain ⟨status, held⟩ := held
  simp only [reconcile, getLatestMautrixSignal_of_found held.bridge] at requeued ⊢
  have each := subreconcilersForMautrixSignal_spec c m0 status
  refine runSubreconcilers_requeue ?_ held requeued
  intro f listed a held'
  refine ⟨fun continued => ?_, (each f listed).requeues a held'⟩
  have kept := (each f listed).continues a held' continued
  exact ⟨kept.1, pending_eq_of_sameView m0 kept.2.1⟩

/-- A run returns `DoNotRequeue`, `Requeue`, an error, or the delayed requeue
of a missing user ConfigMap. -/
theorem reconcile_outcome {store : Store Text Body} (held : Held m0 store) :
    let outcome := (reconcile c m0.key store).1
    outcome = .doNotRequeue ∨ outcome = .requeue ∨ outcome.IsError ∨
      outcome = .requeueWithDelay 30 := by
  obtain ⟨status, held⟩ := held
  have each := subreconcilersForMautrixSignal_spec c m0 status
  simp only [reconcile, getLatestMautrixSignal_of_found held.bridge]
  exact @runSubreconcilers_outcome _ (HeldAt m0 status) (fun outcome => outcome = .doNotRequeue ∨
      outcome = .requeue ∨ outcome.IsError ∨ outcome = .requeueWithDelay 30) (.inl rfl) _
    (fun f listed a held => ⟨fun continued => ((each f listed).continues a held continued).1,
      fun halted => .inr ((each f listed).halts a held halted)⟩) _ held

/-- After a run of the listed steps that returned `DoNotRequeue`, with every
step continuing, the store is converged. -/
theorem runSubreconcilers_converged {store store' : Store Text Body} {status : MautrixSignalStatus}
    (held : HeldAt m0 status store)
    (ran : runSubreconcilers (subreconcilersForMautrixSignal c m0.key { m0 with status }) store =
      (.doNotRequeue, store')) :
    HeldAt m0 status store' ∧ Converged c m0 store' := by
  have each := subreconcilersForMautrixSignal_spec c m0 status
  have steps : ∀ (Post : Store Text Body → Prop),
      (∀ a b, Kept c m0 status a b → Post a → Post b) →
      ∀ g ∈ subreconcilersForMautrixSignal c m0.key { m0 with status }, ∀ a, HeldAt m0 status a →
        (g a).1 ≠ .doNotRequeue ∧
          ((g a).1 = .continueReconciling → HeldAt m0 status (g a).2 ∧ (Post a → Post (g a).2)) :=
    fun _ keeps g listed a held => ⟨(each g listed).never held, fun continued =>
      ⟨((each g listed).continues a held continued).1,
        keeps a _ ((each g listed).continues a held continued)⟩⟩
  have held' : HeldAt m0 status store' :=
    runSubreconcilers_keep (steps _ fun _ _ kept _ => kept.1) held held ran
  have listedCopy : m0.spec.configMap.name ≠ [] →
      copyInputMautrixSignalConfigMap m0.key ∈ subreconcilersForMautrixSignal c m0.key { m0 with status } :=
    fun given => by simp [subreconcilersForMautrixSignal, given]
  refine ⟨held', ⟨?_, ?_, fun status' found child listed => ?_, fun given => ?_, fun given => ?_⟩⟩
  · exact runSubreconcilers_doNotRequeue (by simp [subreconcilersForMautrixSignal])
      (steps _ fun _ _ kept settled => (pending_eq_of_sameView m0 kept.2.1).trans settled)
      (buildMautrixSignalStatus_makes c m0).makes held ran
  · exact runSubreconcilers_doNotRequeue (by simp [subreconcilersForMautrixSignal])
      (steps _ fun _ _ kept triggered => kept.2.2.triggered triggered)
      (triggerSynapseReconciliation_makes c m0).makes held ran
  · obtain rfl : status = status' :=
      congrArg MautrixSignal.status (Option.some.inj (held'.bridge.symm.trans found))
    obtain ⟨f, listed', makes⟩ := child_listed c m0 status listed
    exact runSubreconcilers_doNotRequeue listed'
      (steps (fun τ => τ.objects child.1 = some child.2) fun _ _ kept stored =>
        kept.child c m0 listed stored)
      (fun a held _ => makes a held.bridge) held ran
  · exact runSubreconcilers_doNotRequeue (listedCopy given)
      (steps _ fun _ _ kept stored => kept.2.2.configMap stored)
      (fun a held continued => ((copyInputMautrixSignalConfigMap_makes c m0 given).makes a held
        continued).1) held ran
  · exact runSubreconcilers_doNotRequeue (listedCopy given)
      (steps _ fun _ _ kept stored => Kept.input c m0 kept given stored)
      (fun a held continued => ((copyInputMautrixSignalConfigMap_makes c m0 given).makes a held
        continued).2) held ran

/-- A run on a converged store writes nothing but Patches of the free
identity. -/
theorem reconcile_of_converged {store : Store Text Body} (held : Held m0 store)
    (converged : Converged c m0 store) :
    store.PatchesOnly (Free m0) (reconcile c m0.key store).2 := by
  obtain ⟨status, held⟩ := held
  have each := subreconcilersForMautrixSignal_spec c m0 status
  simp only [reconcile, getLatestMautrixSignal_of_found held.bridge]
  refine @runSubreconcilers_preserve _ (fun τ => HeldAt m0 status τ ∧ Converged c m0 τ) _
    Store.PatchesOnly.refl Store.PatchesOnly.trans _ ?_ _ ⟨held, converged⟩
  rintro f listed a ⟨held, converged⟩
  refine ⟨(each f listed).converged a held converged, fun continued => ?_⟩
  have kept := (each f listed).continues a held continued
  exact ⟨kept.1, converged.of_kept c m0 held kept⟩

/-- After a run that returns `DoNotRequeue`, the next run writes nothing but
Patches of the bridge's ConfigMap, and none without a user ConfigMap. -/
theorem reconcile_after_doNotRequeue {store store' : Store Text Body} (held : Held m0 store)
    (ran : reconcile c m0.key store = (.doNotRequeue, store')) :
    store'.PatchesOnly (Free m0) (reconcile c m0.key store').2 := by
  obtain ⟨status, held⟩ := held
  simp only [reconcile, getLatestMautrixSignal_of_found held.bridge] at ran
  obtain ⟨held', converged⟩ := runSubreconcilers_converged c m0 held ran
  exact reconcile_of_converged c m0 ⟨status, held'⟩ converged

end Runs

/-! ## The chain of runs -/

/-! ## Concrete runs -/

/-- Collaborators for concrete runs: a document is its own YAML text, the
default config.yaml is `exampleConfig`, and the builders' objects carry
nothing. -/
def exampleCollaborators : Collaborators Fields Unit where
  codec := documentCodec
  configYaml _ := exampleConfig
  serverNameMissing := lit "no server name"
  build _ _ _ := ()

/-- The Synapse `synapse` once its Status holds its server name. -/
def readySynapse : Synapse := Status.withValuesConfiguration Bridges.exampleSynapse

/-- The bridge `mautrix-signal` before any run, reading the user ConfigMap
`mautrix-signal-input`. -/
def freshBridge : MautrixSignal := { exampleMautrixSignal with status := {} }

/-- A store with the bridge, its Synapse, and the user's ConfigMap holding
`exampleConfig`, with or without that ConfigMap. -/
def bridgeStore (withInput : Bool) : Store Fields Unit where
  objects id :=
    if id = .of .mautrixSignal freshBridge.key then some (.mautrixSignal freshBridge)
    else if id = .of .synapse readySynapse.key then some (.synapse readySynapse)
    else if withInput ∧ id = .of .configMap (inputConfigMapKey freshBridge) then
      some (.configMap [(configYamlKey, exampleConfig)])
    else none
  postgresOperatorInstalled := true
  writes := []

end SynapseOperator.MautrixSignalRuns
