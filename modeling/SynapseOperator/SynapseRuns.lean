import SynapseOperator.SynapseConvergence
import SynapseOperator.ConfigMutation

/-!
Whole runs of `SynapseReconciler.Reconcile`, and the chain of runs the manager
makes while each returns `Requeue`.

1. **Every listed step is one of the three shapes.** `subreconcilersForSynapse_spec`
   gives a `StepSpec` for every step `Reconcile` lists, whatever the Spec's
   flags and the Status it read: the status steps through `statusStep_spec`,
   the children through `resourceStep_spec`, the edits of homeserver.yaml
   through `configMapStep_spec`, whose edits all leave `server_name` and
   `report_stats` (`keepsConfiguration_postgreSQL`,
   `keepsConfiguration_registration`).
2. **A run that returns `Requeue` lowers `pending`** (`reconcile_requeue`), and
   `pending` is at most four, so a chain has at most five runs.
3. **After a run that returns `DoNotRequeue`** the store is `Converged`
   (`runSubreconcilers_converged`), or the run took the branch that sets the
   Synapse FAILED; the next run then writes nothing but Patches of the
   homeserver.yaml ConfigMap (`reconcile_after_doNotRequeue`). It does write
   those: `reconcileSynapseConfigMap` or `copyInputSynapseConfigMap` puts the
   unedited document back and the edits of the later steps write it again.

What is assumed, and stated as hypotheses rather than proved: every run's List
results record the same bridge of each kind on the Synapse (`SameMarks`), since
otherwise two runs can record two bridges in turn forever; and, when the Spec
asks for PostgreSQL, the user's ConfigMap is not the PostgresCluster's, which
the PostgreSQL step overwrites.
-/

namespace SynapseOperator.SynapseRuns
open SynapseOperator.Api SynapseOperator.Document SynapseOperator.Naming SynapseOperator.Cluster
  SynapseOperator.Status SynapseOperator.Bridges SynapseOperator.Database SynapseOperator.AppService
  SynapseOperator.ConfigMutation SynapseOperator.SynapseReconciler SynapseOperator.SynapseConvergence

variable {Text Body : Type}

/-! ## What a run reads besides the store -/

/-- Two runs' List results make `updateSynapseStatusBridges` record the same
bridge of each kind on the Synapse `s`. -/
def SameMarks (s : Synapse) (lists lists' : List Heisenbridge × List MautrixSignal) : Prop :=
  lastMarked Heisenbridge.name (·.synapse.name) s lists.1 =
      lastMarked Heisenbridge.name (·.synapse.name) s lists'.1 ∧
    lastMarked MautrixSignal.name (·.spec.synapse.name) s lists.2 =
      lastMarked MautrixSignal.name (·.spec.synapse.name) s lists'.2

instance (s : Synapse) (lists lists' : List Heisenbridge × List MautrixSignal) :
    Decidable (SameMarks s lists lists') :=
  inferInstanceAs (Decidable (_ ∧ _))

theorem markListedBridges_of_sameMarks {s0 : Synapse} {lists lists' : List Heisenbridge × List MautrixSignal}
    (marks : SameMarks s0 lists lists') (status : SynapseStatus) :
    markListedBridges { s0 with status } lists.1 lists.2 =
      markListedBridges { s0 with status } lists'.1 lists'.2 := by
  simp only [markListedBridges, markBridges_with_status, markBridges_congr _ _ s0 marks.1,
    markBridges_congr _ _ s0 marks.2]

/-- When the Spec asks for PostgreSQL, the user's ConfigMap is not the
PostgresCluster's ConfigMap, which the PostgreSQL step overwrites. -/
def PostgresApart (s : Synapse) : Prop :=
  s.spec.createNewPostgreSQL → ∀ ref, s.spec.configMap = some ref →
    inputConfigMapKey s ref ≠ ⟨getPostgresClusterResourceName s, s.ns⟩

/-- The PostgreSQL edit writes `database` only. -/
theorem keepsConfiguration_postgreSQL (s : Synapse) :
    KeepsConfiguration (updateHomeserverWithPostgreSQLInfos s) := by
  intro doc doc' made
  obtain ⟨_, -, rfl⟩ := updateHomeserverWithPostgreSQLInfos_eq_ok_iff.mp made
  exact ⟨Fields.get?_set_of_ne (by decide), Fields.get?_set_of_ne (by decide)⟩

/-- A bridge registration writes `app_service_config_files` only. -/
theorem keepsConfiguration_registration (path : Bytes) :
    KeepsConfiguration fun doc => .ok (addAppServiceToHomeserver doc path) := by
  rintro doc doc' ⟨⟩
  exact ⟨addAppServiceToHomeserver_get?_other (by decide),
    addAppServiceToHomeserver_get?_other (by decide)⟩

/-! ## Each listed step -/

section Members
variable [DecidableEq Text] [DecidableEq Body] (c : Collaborators Text Body) (s0 : Synapse)
  (hs : List Heisenbridge) (mss : List MautrixSignal)

theorem parseInputSynapseConfigMap_spec (given : s0.spec.configMap.isSome) :
    SettlesAt c s0 hs mss .configuration (parseInputSynapseConfigMap c s0.key) :=
  statusStep_spec c s0 hs mss (builds_parseInputSynapseConfigMap c) .configuration trivial
    fun _ _ => by simp only [Position.writer, configurationWriter, given, ↓reduceIte]

theorem setStatusHomeserverConfiguration_spec (values : s0.spec.configMap.isSome = false) :
    SettlesAt c s0 hs mss .configuration (setStatusHomeserverConfiguration s0.key) :=
  statusStep_spec c s0 hs mss builds_setStatusHomeserverConfiguration .configuration trivial
    fun _ _ => by simp only [Position.writer, configurationWriter, values]; rfl

theorem updateSynapseStatusBridges_spec {lists : List Heisenbridge × List MautrixSignal}
    (marks : SameMarks s0 lists (hs, mss)) :
    SettlesAt c s0 hs mss .bridges (updateSynapseStatusBridges lists.1 lists.2 s0.key) :=
  statusStep_spec c s0 hs mss (builds_updateSynapseStatusBridges lists.1 lists.2) .bridges trivial
    fun _ status => by
      simp only [Position.writer, Option.some_bind, StatusWriter.candidate,
        markListedBridges_of_sameMarks marks status]

theorem updateSynapseStatusWithPostgreSQLInfos_spec (asked : s0.spec.createNewPostgreSQL) :
    SettlesAt c s0 hs mss .postgreSQL (updateSynapseStatusWithPostgreSQLInfos s0.key) :=
  statusStep_spec c s0 hs mss builds_updateSynapseStatusWithPostgreSQLInfos .postgreSQL asked
    fun _ _ => rfl

theorem setSynapseStatusAsRunning_spec :
    SettlesAt c s0 hs mss .running (setSynapseStatusAsRunning s0.key) :=
  statusStep_spec c s0 hs mss builds_setSynapseStatusAsRunning .running trivial fun _ _ => rfl

theorem reconcileSynapseConfigMap_spec (values : s0.spec.configMap = none) :
    StepSpec c s0 hs mss (reconcileSynapseConfigMap c s0.key) :=
  resourceStep_spec c s0 hs mss (fun _ _ _ _ made => by cases made; exact .inl ⟨rfl, _, rfl⟩)
    fun _ _ _ _ _ ref given => by simp [values] at given

/-- What `copyInputSynapseConfigMap` hands to `ReconcileResource`: the user's
ConfigMap's data, under the homeserver.yaml ConfigMap's identity. -/
theorem copy_desired {status : SynapseStatus} {store : Store Text Body} {id : Identity}
    {object : Object Text Body}
    (made : (configMapForSynapseCopy { s0 with status } store).map
      (fun data => ((Identity.of .configMap ({ s0 with status } : Synapse).key, .configMap data) :
        Identity × Object Text Body)) = .ok (id, object)) :
    ∃ ref data, s0.spec.configMap = some ref ∧ store.configMap? (inputConfigMapKey s0 ref) = some data ∧
      id = homeserverConfigMap s0 ∧ object = .configMap data := by
  unfold configMapForSynapseCopy getConfigMapCopy at made
  split at made
  · cases made
  · rename_i ref given
    split at made
    · rename_i data stored
      cases made
      exact ⟨ref, data, given, stored, rfl, rfl⟩
    · cases made

theorem copyInputSynapseConfigMap_spec :
    StepSpec c s0 hs mss (copyInputSynapseConfigMap s0.key) := by
  refine resourceStep_spec c s0 hs mss (fun _ _ _ _ made => ?_) fun _ _ _ _ made ref given same => ?_
  · obtain ⟨_, data, -, -, rfl, rfl⟩ := copy_desired s0 made
    exact .inl ⟨rfl, data, rfl⟩
  · obtain ⟨ref', data, given', stored, -, rfl⟩ := copy_desired s0 made
    cases given.symm.trans given'
    rw [same]
    exact Store.configMap?_iff.mp stored

theorem reconcilePostgresClusterConfigMap_spec (asked : s0.spec.createNewPostgreSQL)
    (apart : ∀ ref, s0.spec.configMap = some ref →
      inputConfigMapKey s0 ref ≠ ⟨getPostgresClusterResourceName s0, s0.ns⟩) :
    StepSpec c s0 hs mss (reconcilePostgresClusterConfigMap c s0.key) :=
  resourceStep_spec c s0 hs mss
    (fun _ _ _ _ made => by cases made; exact .inr (by simp [builtChildren, asked]))
    fun _ _ _ _ made ref given same => by
      cases made
      exact absurd (Identity.of_inj.mp (show Identity.of .configMap
        ⟨getPostgresClusterResourceName s0, s0.ns⟩ = _ from same)).2.symm (apart ref given)

/-- A builder that is not among the sources, for a child that is not a ConfigMap. -/
theorem builtChild_spec {kind : Kind} {name : Synapse → Bytes} (other : kind ≠ .configMap)
    (listed : ∀ status : SynapseStatus, ((⟨kind, s0.ns, name { s0 with status }⟩ : Identity),
      (.built (c.build kind { s0 with status }) : Object Text Body)) ∈ builtChildren c { s0 with status }) :
    StepSpec c s0 hs mss (builtChild c kind name s0.key) :=
  resourceStep_spec c s0 hs mss (fun status _ _ _ made => by cases made; exact .inr (listed status))
    fun _ _ _ _ made _ _ same => by cases made; exact absurd (congrArg Identity.kind same) other

theorem updateSynapseConfigMapForPostgresCluster_spec :
    StepSpec c s0 hs mss (updateSynapseConfigMapForPostgresCluster c s0.key) :=
  configMapStep_spec c s0 hs mss keepsConfiguration_postgreSQL

theorem updateSynapseConfigMapForHeisenbridge_spec :
    StepSpec c s0 hs mss (updateSynapseConfigMapForHeisenbridge c s0.key) :=
  configMapStep_spec c s0 hs mss fun _ => keepsConfiguration_registration heisenbridgeConfigFile

theorem updateSynapseConfigMapForMautrixSignal_spec :
    StepSpec c s0 hs mss (updateSynapseConfigMapForMautrixSignal c s0.key) :=
  configMapStep_spec c s0 hs mss fun _ => keepsConfiguration_registration mautrixSignalConfigFile

/-- Every step `Reconcile` lists for the Synapse, with any Status. -/
theorem subreconcilersForSynapse_spec {lists : List Heisenbridge × List MautrixSignal}
    (marks : SameMarks s0 lists (hs, mss)) (apart : PostgresApart s0) (status : SynapseStatus) :
    ∀ f ∈ subreconcilersForSynapse c lists.1 lists.2 s0.key { s0 with status },
      StepSpec c s0 hs mss f := by
  intro f listed
  simp only [subreconcilersForSynapse, List.mem_append, List.mem_cons, List.mem_ite_nil_right,
    List.not_mem_nil, or_false, or_assoc] at listed
  rcases listed with first | rfl | ⟨asked, rfl | rfl | rfl | rfl⟩ | ⟨-, rfl⟩ | ⟨-, rfl⟩ |
    ⟨openshift, rfl | rfl⟩ | rfl | rfl | rfl | rfl
  · cases given : s0.spec.configMap with
    | none =>
      simp only [given, Option.isSome_none, Bool.false_eq_true, ↓reduceIte, List.mem_cons,
        List.not_mem_nil, or_false] at first
      rcases first with rfl | rfl
      exacts [(setStatusHomeserverConfiguration_spec c s0 hs mss (by simp [given])).toStepSpec,
        reconcileSynapseConfigMap_spec c s0 hs mss given]
    | some ref =>
      simp only [given, Option.isSome_some, ↓reduceIte, List.mem_cons, List.not_mem_nil,
        or_false] at first
      rcases first with rfl | rfl
      exacts [(parseInputSynapseConfigMap_spec c s0 hs mss (by simp [given])).toStepSpec,
        copyInputSynapseConfigMap_spec c s0 hs mss]
  · exact (updateSynapseStatusBridges_spec c s0 hs mss marks).toStepSpec
  · exact reconcilePostgresClusterConfigMap_spec c s0 hs mss asked (apart asked)
  · exact builtChild_spec c s0 hs mss (by decide) fun _ => by simp [builtChildren, asked]
  · exact (updateSynapseStatusWithPostgreSQLInfos_spec c s0 hs mss asked).toStepSpec
  · exact updateSynapseConfigMapForPostgresCluster_spec c s0 hs mss
  · exact updateSynapseConfigMapForHeisenbridge_spec c s0 hs mss
  · exact updateSynapseConfigMapForMautrixSignal_spec c s0 hs mss
  · exact builtChild_spec c s0 hs mss (by decide) fun _ => by simp [builtChildren, openshift]
  · exact builtChild_spec c s0 hs mss (by decide) fun _ => by simp [builtChildren, openshift]
  · exact builtChild_spec c s0 hs mss (by decide) fun _ => by simp [builtChildren]
  · exact builtChild_spec c s0 hs mss (by decide) fun _ => by simp [builtChildren]
  · exact builtChild_spec c s0 hs mss (by decide) fun _ => by simp [builtChildren]
  · exact (setSynapseStatusAsRunning_spec c s0 hs mss).toStepSpec

/-- The status step of every active position is listed. -/
theorem settlesAt_listed {lists : List Heisenbridge × List MautrixSignal}
    (marks : SameMarks s0 lists (hs, mss)) (status : SynapseStatus) (p : Position)
    (active : p.Active s0) :
    ∃ f ∈ subreconcilersForSynapse c lists.1 lists.2 s0.key { s0 with status },
      SettlesAt c s0 hs mss p f := by
  cases p with
  | configuration =>
    cases given : s0.spec.configMap with
    | none => exact ⟨_, by simp [subreconcilersForSynapse, given],
        setStatusHomeserverConfiguration_spec c s0 hs mss (by simp [given])⟩
    | some ref => exact ⟨_, by simp [subreconcilersForSynapse, given],
        parseInputSynapseConfigMap_spec c s0 hs mss (by simp [given])⟩
  | bridges => exact ⟨_, by simp [subreconcilersForSynapse], updateSynapseStatusBridges_spec c s0 hs mss marks⟩
  | postgreSQL =>
    have asked : s0.spec.createNewPostgreSQL = true := active
    exact ⟨_, by simp [subreconcilersForSynapse, asked],
      updateSynapseStatusWithPostgreSQLInfos_spec c s0 hs mss asked⟩
  | running => exact ⟨_, by simp [subreconcilersForSynapse], setSynapseStatusAsRunning_spec c s0 hs mss⟩

/-- The step of every child is listed, and leaves the child as built when it
continues. -/
theorem child_listed (lists : List Heisenbridge × List MautrixSignal) (status : SynapseStatus)
    {child : Identity × Object Text Body} (listed : child ∈ builtChildren c { s0 with status }) :
    ∃ f ∈ subreconcilersForSynapse c lists.1 lists.2 s0.key { s0 with status },
      ∀ store, store.synapse? s0.key = some { s0 with status } →
        (f store).2.objects child.1 = some child.2 := by
  simp only [builtChildren, List.mem_append, List.mem_ite_nil_right, List.mem_cons,
    List.not_mem_nil, or_false, or_assoc] at listed
  rcases listed with ⟨asked, rfl | rfl⟩ | ⟨openshift, rfl | rfl⟩ | rfl | rfl | rfl
  · exact ⟨reconcilePostgresClusterConfigMap c s0.key,
      by simp [subreconcilersForSynapse, asked], fun _ found => resourceStep_makes found rfl⟩
  · exact ⟨reconcilePostgresClusterCR c s0.key,
      by simp [subreconcilersForSynapse, asked], fun _ found => resourceStep_makes found rfl⟩
  · exact ⟨reconcileSynapseServiceAccount c s0.key,
      by simp [subreconcilersForSynapse, openshift], fun _ found => resourceStep_makes found rfl⟩
  · exact ⟨reconcileSynapseRoleBinding c s0.key,
      by simp [subreconcilersForSynapse, openshift], fun _ found => resourceStep_makes found rfl⟩
  · exact ⟨reconcileSynapseService c s0.key,
      by simp [subreconcilersForSynapse], fun _ found => resourceStep_makes found rfl⟩
  · exact ⟨reconcileSynapsePVC c s0.key,
      by simp [subreconcilersForSynapse], fun _ found => resourceStep_makes found rfl⟩
  · exact ⟨reconcileSynapseDeployment c s0.key,
      by simp [subreconcilersForSynapse], fun _ found => resourceStep_makes found rfl⟩

/-- The step that writes the homeserver.yaml ConfigMap is listed, and leaves it
there when it continues. -/
theorem homeserverConfigMap_listed (lists : List Heisenbridge × List MautrixSignal)
    (status : SynapseStatus) :
    ∃ f ∈ subreconcilersForSynapse c lists.1 lists.2 s0.key { s0 with status },
      ∀ store, Holds s0 store → (f store).1 = .continueReconciling →
        ∃ data, (f store).2.configMap? s0.key = some data := by
  cases given : s0.spec.configMap with
  | none =>
    refine ⟨reconcileSynapseConfigMap c s0.key, by simp [subreconcilersForSynapse, given],
      fun store ⟨_, found⟩ _ => ⟨_, Store.configMap?_iff.mpr (resourceStep_makes found rfl)⟩⟩
  | some ref =>
    refine ⟨copyInputSynapseConfigMap s0.key, by simp [subreconcilersForSynapse, given],
      fun store ⟨_, found⟩ continued => ?_⟩
    unfold copyInputSynapseConfigMap at continued ⊢
    obtain ⟨id, object, made, ran⟩ := resourceStep_continued found continued
    obtain ⟨-, data, -, -, rfl, rfl⟩ := copy_desired s0 made
    exact ⟨data, Store.configMap?_iff.mpr (by rw [ran]; simp [homeserverConfigMap])⟩

end Members

/-! ## Runs -/

section Runs
variable [DecidableEq Text] [DecidableEq Body] (c : Collaborators Text Body) (s0 : Synapse)
  (hs : List Heisenbridge) (mss : List MautrixSignal) {lists : List Heisenbridge × List MautrixSignal}
  (marks : SameMarks s0 lists (hs, mss)) (apart : PostgresApart s0)
include marks apart

/-- A run that returns `Requeue` keeps the Synapse and lowers `pending`. -/
theorem reconcile_requeue {store : Store Text Body} (held : Holds s0 store)
    (requeued : (reconcile c lists.1 lists.2 s0.key store).1 = .requeue) :
    Holds s0 (reconcile c lists.1 lists.2 s0.key store).2 ∧
      pending c s0 hs mss (reconcile c lists.1 lists.2 s0.key store).2 < pending c s0 hs mss store := by
  obtain ⟨status, found⟩ := held
  simp only [reconcile, getLatestSynapse_of_found found] at requeued ⊢
  split_ifs at requeued ⊢
  have each := subreconcilersForSynapse_spec c s0 hs mss marks apart status
  refine @runSubreconcilers_requeue _ (Holds s0) _ (Holds s0) _ ?_ _ ⟨status, found⟩ requeued
  intro f listed a held
  refine ⟨fun continued => ?_, (each f listed).requeues a held⟩
  have kept := (each f listed).continues a held continued
  exact ⟨kept.1, pending_eq_of_sameView c s0 hs mss held kept.2.1⟩

/-- A run returns `DoNotRequeue`, `Requeue` or an error. -/
theorem reconcile_outcome {store : Store Text Body} (held : Holds s0 store) :
    let outcome := (reconcile c lists.1 lists.2 s0.key store).1
    outcome = .doNotRequeue ∨ outcome = .requeue ∨ outcome.IsError := by
  obtain ⟨status, found⟩ := held
  have each := subreconcilersForSynapse_spec c s0 hs mss marks apart status
  simp only [reconcile, getLatestSynapse_of_found found]
  split_ifs
  · exact .inl rfl
  · refine @runSubreconcilers_outcome _ (Holds s0)
      (fun outcome => outcome = .doNotRequeue ∨ outcome = .requeue ∨ outcome.IsError) (.inl rfl) _
      (fun f listed a held => ⟨fun continued => ((each f listed).continues a held continued).1,
        fun halted => .inr ((each f listed).halts a held halted)⟩) _ ⟨status, found⟩

/-- After a run of the listed steps that returned `DoNotRequeue`, with every
step continuing, the store is converged. -/
theorem runSubreconcilers_converged {store store' : Store Text Body} {status : SynapseStatus}
    (found : store.synapse? s0.key = some { s0 with status })
    (ready : ¬ (s0.spec.createNewPostgreSQL ∧ store.postgresOperatorInstalled = false))
    (ran : runSubreconcilers (subreconcilersForSynapse c lists.1 lists.2 s0.key { s0 with status })
      store = (.doNotRequeue, store')) :
    Holds s0 store' ∧ Converged c s0 hs mss store' := by
  have each := subreconcilersForSynapse_spec c s0 hs mss marks apart status
  have steps : ∀ (Post : Store Text Body → Prop),
      (∀ a b, Holds s0 a → Kept c s0 a b → Post a → Post b) →
      ∀ g ∈ subreconcilersForSynapse c lists.1 lists.2 s0.key { s0 with status }, ∀ a, Holds s0 a →
        (g a).1 ≠ .doNotRequeue ∧ ((g a).1 = .continueReconciling → Holds s0 (g a).2 ∧ (Post a → Post (g a).2)) :=
    fun _ keeps g listed a held => ⟨(each g listed).never held, fun continued =>
      ⟨((each g listed).continues a held continued).1,
        keeps a _ held ((each g listed).continues a held continued)⟩⟩
  have start : Holds s0 store := ⟨status, found⟩
  have found' : store'.synapse? s0.key = some { s0 with status } :=
    runSubreconcilers_keep (steps _ fun _ _ _ kept same => kept.2.1.synapse.trans same) start found ran
  refine ⟨⟨status, found'⟩, runSubreconcilers_keep (steps (fun τ => ¬ (s0.spec.createNewPostgreSQL ∧
      τ.postgresOperatorInstalled = false)) fun _ _ _ kept unready => by
        simpa only [kept.2.2.installed] using unready) start ready ran,
    pending_eq_zero c s0 hs mss ⟨status, found'⟩ fun p active => ?_, fun s found'' child listed => ?_, ?_⟩
  · obtain ⟨f, listed, settles⟩ := settlesAt_listed c s0 hs mss marks status p active
    exact runSubreconcilers_doNotRequeue listed
      (steps _ fun _ _ _ kept settled => settled.of_sameView c s0 hs mss kept.2.1) settles.settles start ran
  · rw [found', Option.some.injEq] at found''
    subst found''
    obtain ⟨f, listed', makes⟩ := child_listed c s0 lists status listed
    refine runSubreconcilers_doNotRequeue listed' (steps (fun τ => τ.synapse? s0.key =
      some { s0 with status } → τ.objects child.1 = some child.2) fun a _ _ kept stored found_b => ?_)
      ?_ start ran found'
    · have found_a := kept.2.1.synapse.symm.trans found_b
      exact kept.child c s0 found_a listed (stored found_a)
    · intro a held continued found_b
      exact makes a (((each f listed').continues a held continued).2.1.synapse.symm.trans found_b)
  · obtain ⟨f, listed, makes⟩ := homeserverConfigMap_listed c s0 lists status
    exact runSubreconcilers_doNotRequeue listed
      (steps _ fun _ _ _ kept stored => kept.2.2.configMap stored) makes start ran

/-- A run on a converged store writes nothing but Patches of the
homeserver.yaml ConfigMap. -/
theorem reconcile_of_converged {store : Store Text Body} (held : Holds s0 store)
    (converged : Converged c s0 hs mss store) :
    OnlyPatches s0 store (reconcile c lists.1 lists.2 s0.key store).2 := by
  obtain ⟨status, found⟩ := held
  have each := subreconcilersForSynapse_spec c s0 hs mss marks apart status
  simp only [reconcile, getLatestSynapse_of_found found]
  rw [if_neg converged.ready]
  refine @runSubreconcilers_preserve _ (fun τ => Holds s0 τ ∧ Converged c s0 hs mss τ) _
    (OnlyPatches.refl s0) (OnlyPatches.trans s0) _ ?_ _ ⟨⟨status, found⟩, converged⟩
  rintro f listed a ⟨held, converged⟩
  refine ⟨(each f listed).converged a held converged, fun continued => ?_⟩
  have kept := (each f listed).continues a held continued
  exact ⟨kept.1, converged.of_kept c s0 hs mss held kept⟩

/-- After a run that returns `DoNotRequeue`, the next run, with List results
that record the same bridges, writes nothing but Patches of the
homeserver.yaml ConfigMap: the store is converged, or the run set the Synapse
FAILED for a missing Postgres operator and the next run finds it so. -/
theorem reconcile_after_doNotRequeue {lists' : List Heisenbridge × List MautrixSignal}
    (marks' : SameMarks s0 lists' (hs, mss)) {store store' : Store Text Body} (held : Holds s0 store)
    (ran : reconcile c lists.1 lists.2 s0.key store = (.doNotRequeue, store')) :
    OnlyPatches s0 store' (reconcile c lists'.1 lists'.2 s0.key store').2 := by
  obtain ⟨status, found⟩ := held
  simp only [reconcile, getLatestSynapse_of_found found] at ran
  split_ifs at ran with missing
  · cases ran
    obtain ⟨failed, installed⟩ := afterFailedState_of_found { s0 with status } postgresOperatorMissing found
    have failed' : (afterFailedState { s0 with status } postgresOperatorMissing store).synapse? s0.key =
        some (asFailed { s0 with status } postgresOperatorMissing) := failed
    simp only [reconcile, getLatestSynapse_of_found failed', installed]
    have stillMissing : (asFailed { s0 with status } postgresOperatorMissing).spec.createNewPostgreSQL ∧
        store.postgresOperatorInstalled = false := missing
    rw [if_pos stillMissing, afterFailedState_of_failed failed]
    exact .refl s0 _
  · obtain ⟨held', converged⟩ := runSubreconcilers_converged c s0 hs mss marks apart found missing ran
    exact reconcile_of_converged c s0 hs mss marks' apart held' converged

end Runs

/-! ## The chain of runs -/

/-! ## Concrete runs -/

/-- A homeserver.yaml template holding the two values it interpolates. -/
def exampleHomeserverYaml (serverName : Bytes) (reportStats : Bool) : Fields :=
  .cons (lit "server_name") (.str serverName) (.cons (lit "report_stats") (.bool reportStats) .nil)

/-- Collaborators for concrete runs: a document is its own YAML text, and the
builders' objects carry nothing. -/
def exampleCollaborators : Collaborators Fields Unit where
  codec := documentCodec
  homeserverYaml := exampleHomeserverYaml
  postgresClusterConfigMapData _ := []
  build _ _ := ()

/-- A store that holds `exampleSynapse` only, on a cluster with the Postgres
operator. -/
def exampleStore : Store Fields Unit where
  objects id := if id = .of .synapse Bridges.exampleSynapse.key then some (.synapse Bridges.exampleSynapse) else none
  postgresOperatorInstalled := true
  writes := []

/-- The same Synapse, reading its homeserver.yaml from the ConfigMap `input`. -/
def inputSynapse : Synapse :=
  { Bridges.exampleSynapse with spec.configMap := some ⟨lit "input", []⟩ }

/-- A store where the ConfigMap `input` exists and holds no homeserver.yaml. -/
def inputStore : Store Fields Unit where
  objects id :=
    if id = .of .synapse inputSynapse.key then some (.synapse inputSynapse)
    else if id = .of .configMap ⟨lit "input", lit "matrix"⟩ then some (.configMap [])
    else none
  postgresOperatorInstalled := true
  writes := []

end SynapseOperator.SynapseRuns
