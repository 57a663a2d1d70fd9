import SynapseOperator.SynapseRuns

/-!
What a run of `SynapseReconciler.Reconcile` leaves behind, from any store
that holds the Synapse and with any List results.

1. **What one step may change.** `Touches` says it for one step: it never
   returns `DoNotRequeue`, when it continues it keeps the Synapse and changes
   no object outside its footprint, and whatever it returns it changes nothing
   else but the Synapse. Each shape of step has one (`statusStep_touches`,
   `resourceStep_touches`, `configMapStep_touches`), and every listed step
   changes at most the homeserver.yaml ConfigMap and the children
   (`subreconcilersForSynapse_touches`).
2. **homeserver.yaml.** The first two steps put the base document, the
   template or a copy of the user's ConfigMap (`baseSteps_put`); the steps
   after them apply `homeserverEdits` in order (`homeserverSteps_editsConfigMap`).
   A run that returns `DoNotRequeue` therefore leaves in the ConfigMap what
   those edits make of the base, each a decode, an edit and an encode
   (`reconcile_homeserverYaml`).
3. **The Status.** In such a run every status step continued, so each found
   the Status it would write. The run wrote no Status, and the one it read is
   RUNNING, with the bridges of the List results, the configuration of the
   values or of the user's homeserver.yaml, and the connection data of the
   PostgreSQL Secret (`reconcile_status_settled`).
4. **FAILED.** Without the Postgres operator a run on a Synapse that asks for
   PostgreSQL patches only the Synapse, FAILED, and returns `DoNotRequeue`;
   every later run writes nothing (`reconcile_without_postgres_operator`).
   Without the user's ConfigMap a run sets the Synapse FAILED with the reason
   that names it, writes nothing else, and requeues after the delay with the
   NotFound error (`reconcile_without_input_configMap`).
5. **What a run never writes.** Whatever it returns, a run changes no object
   but the Synapse, its homeserver.yaml ConfigMap and its children, so never
   the user's ConfigMap unless it is one of these
   (`reconcile_changes_only_footprint`). The runs of two distinct Synapses
   leave each other's objects alone (`reconcile_leaves_other_synapse`) unless
   one asks for PostgreSQL and the other is named after its PostgresCluster
   (`PostgresSibling`): that PostgresCluster's ConfigMap is then the other's
   homeserver.yaml ConfigMap.

What is assumed: the store holds the Synapse under its key. In 2 and 3 the run
does not take the Postgres branch of 4. The builder of the PostgresCluster ConfigMap
is not among the sources; as in `SynapseReconciler`, it is named by
`GetPostgresClusterResourceName`.
-/

namespace SynapseOperator.SynapseOutput
open SynapseOperator.Api SynapseOperator.Document SynapseOperator.Naming SynapseOperator.Cluster
  SynapseOperator.Status SynapseOperator.Bridges SynapseOperator.Database SynapseOperator.AppService
  SynapseOperator.SynapseReconciler SynapseOperator.SynapseConvergence SynapseOperator.SynapseRuns

variable {Text Body : Type}

/-! ## What a run is meant to produce -/

/-- The edits of homeserver.yaml a run lists for the Synapse `s`, in order: the
PostgreSQL connection when the Spec asks for PostgreSQL, then the registration
of each bridge the Status marks enabled. -/
def homeserverEdits (s : Synapse) : List (Fields → Except Bytes Fields) :=
  (if s.spec.createNewPostgreSQL then [updateHomeserverWithPostgreSQLInfos s] else []) ++
  (if s.status.bridges.heisenbridge.enabled then [updateHomeserverWithHeisenbridgeInfos] else []) ++
  (if s.status.bridges.mautrixSignal.enabled then [updateHomeserverWithMautrixSignalInfos] else [])

/-- The data the homeserver.yaml ConfigMap is rebuilt from: the template for
the Spec's values, or the data of the user's ConfigMap in the store. -/
def baseConfigMapData (c : Collaborators Text Body) (s : Synapse) (store : Store Text Body) :
    Option (List (Bytes × Text)) :=
  match s.spec.configMap with
  | none => some [(homeserverYamlKey, c.homeserverYaml s.spec.values.serverName s.spec.values.reportStats)]
  | some ref => store.configMap? (inputConfigMapKey s ref)

/-! ## What one step may change -/

/-- A Status update writes nothing but the Synapse it names. -/
theorem updateSynapseStatus_objects {synapse : Synapse} {store store' : Store Text Body} {patched : Bool}
    (success : updateSynapseStatus synapse store = .ok (patched, store')) {id : Identity}
    (other : id ≠ .of .synapse synapse.key) : store'.objects id = store.objects id := by
  unfold updateSynapseStatus at success
  split at success
  · cases success
  split_ifs at success <;> cases success
  · rfl
  · simp [Function.update_noteq other]

/-- Nor does `setFailedState`, whether it succeeds or not. -/
theorem afterFailedState_objects (s : Synapse) (reason : Bytes) (store : Store Text Body) {id : Identity}
    (other : id ≠ .of .synapse s.key) : (afterFailedState s reason store).objects id = store.objects id := by
  unfold afterFailedState setFailedState
  cases success : updateSynapseStatus (asFailed s reason) store with
  | error => rfl
  | ok result => exact updateSynapseStatus_objects success other

/-- A status step's candidate that ends the step wrote nothing but the
Synapse it read. -/
def EndsAlone (candidate : Synapse → Store Text Body → Except (Outcome × Store Text Body) Synapse) :
    Prop :=
  ∀ s store ended, candidate s store = .error ended → ∀ id, id ≠ .of .synapse s.key →
    ended.2.objects id = store.objects id

theorem endsAlone_ok (edit : Synapse → Synapse) : @EndsAlone Text Body fun s _ => .ok (edit s) :=
  fun _ _ _ made => by cases made

theorem endsAlone_parseInputSynapseConfigMapCandidate (c : Collaborators Text Body) :
    EndsAlone (parseInputSynapseConfigMapCandidate c) := by
  intro s store ended made id other
  unfold parseInputSynapseConfigMapCandidate at made
  dsimp only at made
  split at made
  · cases made
    rfl
  split at made
  · cases made
    exact afterFailedState_objects _ _ _ other
  split at made <;> cases made
  rfl

theorem endsAlone_postgreSQLInfosCandidate : @EndsAlone Text Body postgreSQLInfosCandidate := by
  intro s store ended made id _
  unfold postgreSQLInfosCandidate at made
  split at made
  · cases made
    rfl
  split at made <;> cases made
  rfl

section Footprints
variable (c : Collaborators Text Body) (s0 : Synapse) (status : SynapseStatus)

/-- The store holds the Synapse with the Status `status`. -/
def HoldsAt (store : Store Text Body) : Prop := store.synapse? s0.key = some { s0 with status }

/-- What one step may do from a store that holds the Synapse with the Status
`status`: it never returns `DoNotRequeue`; when it continues it keeps the
Synapse and changes no object outside `touched`; and whatever it returns it
changes no object outside `touched` but the Synapse. -/
structure Touches (touched : Identity → Prop) (f : Store Text Body → Outcome × Store Text Body) :
    Prop where
  never : ∀ a, HoldsAt s0 status a → (f a).1 ≠ .doNotRequeue
  continues : ∀ a, HoldsAt s0 status a → (f a).1 = .continueReconciling →
    HoldsAt s0 status (f a).2 ∧ ∀ id, ¬ touched id → (f a).2.objects id = a.objects id
  within : ∀ a, HoldsAt s0 status a → ∀ id, id ≠ .of .synapse s0.key → ¬ touched id →
    (f a).2.objects id = a.objects id

/-- The identities of the children a run builds for the Synapse. -/
def ChildOf (id : Identity) : Prop := ∃ object, (id, object) ∈ builtChildren c { s0 with status }

theorem not_childOf_homeserver : ¬ ChildOf c s0 status (homeserverConfigMap s0) :=
  fun ⟨_, listed⟩ => (builtChildren_apart c s0 listed).2.2.1 rfl

/-- What a whole run may change: the homeserver.yaml ConfigMap and the children. -/
def RunFootprint (id : Identity) : Prop := id = homeserverConfigMap s0 ∨ ChildOf c s0 status id

variable {c s0 status}

theorem Touches.mono {touched touched' : Identity → Prop} {f : Store Text Body → Outcome × Store Text Body}
    (touches : Touches s0 status touched f) (wider : ∀ id, touched id → touched' id) :
    Touches s0 status touched' f :=
  ⟨touches.never, fun a held continued => ⟨(touches.continues a held continued).1,
    fun id other => (touches.continues a held continued).2 id fun admitted => other (wider id admitted)⟩,
    fun a held id other apart => touches.within a held id other fun admitted => apart (wider id admitted)⟩

/-- A step whose footprint leaves out the homeserver.yaml ConfigMap keeps it. -/
theorem Touches.keeps {touched : Identity → Prop} {f : Store Text Body → Outcome × Store Text Body}
    (touches : Touches s0 status touched f) (apart : ¬ touched (homeserverConfigMap s0)) :
    ∀ a, HoldsAt s0 status a → (f a).1 ≠ .doNotRequeue ∧ ((f a).1 = .continueReconciling →
      HoldsAt s0 status (f a).2 ∧ (f a).2.configMap? s0.key = a.configMap? s0.key) :=
  fun a held => ⟨touches.never a held, fun continued =>
    ⟨(touches.continues a held continued).1,
      Store.configMap?_congr ((touches.continues a held continued).2 _ apart)⟩⟩

/-- A run changes no Synapse and no Secret. -/
theorem not_runFootprint_of_kind {id : Identity} (other : id.kind = .synapse ∨ id.kind = .secret) :
    ¬ RunFootprint c s0 status id := by
  rintro (rfl | ⟨_, listed⟩)
  · rcases other with other | other <;> cases other
  · have apart := builtChildren_apart c s0 listed
    rcases other with other | other
    exacts [apart.1 other, apart.2.1 other]

variable (c s0 status)

theorem statusStep_never {candidate : Synapse → Store Text Body → Except (Outcome × Store Text Body) Synapse}
    {writerOf : Synapse → Store Text Body → Option StatusWriter} (builds : BuildsBy candidate writerOf)
    {a : Store Text Body} (held : HoldsAt s0 status a) : (statusStep candidate s0.key a).1 ≠ .doNotRequeue := by
  intro stopped
  rcases statusStep_halts builds held rfl (by rw [stopped]; nofun) with requeued | error
  · rw [stopped] at requeued
    cases requeued
  · exact error.ne.2.2 stopped

/-- A status step that continues wrote nothing; one that does not wrote only
the Synapse. -/
theorem statusStep_touches {candidate : Synapse → Store Text Body → Except (Outcome × Store Text Body) Synapse}
    {writerOf : Synapse → Store Text Body → Option StatusWriter} (builds : BuildsBy candidate writerOf)
    (ends : EndsAlone candidate) (touched : Identity → Prop) :
    Touches s0 status touched (statusStep candidate s0.key) := by
  refine ⟨fun _ held => statusStep_never s0 status builds held, fun a held continued => ?_,
    fun a held id other _ => ?_⟩
  · rw [(statusStep_continue builds held rfl continued).1]
    exact ⟨held, fun _ _ => rfl⟩
  · rw [statusStep_eq builds held rfl]
    split
    · rename_i made
      exact ends _ _ _ made id other
    · split
      · rfl
      · simp [Function.update_noteq other]

/-- A status step that continued found its writer settled on the Synapse. -/
theorem statusStep_settled {candidate : Synapse → Store Text Body → Except (Outcome × Store Text Body) Synapse}
    {writerOf : Synapse → Store Text Body → Option StatusWriter} (builds : BuildsBy candidate writerOf)
    {a : Store Text Body} (held : HoldsAt s0 status a)
    (continued : (statusStep candidate s0.key a).1 = .continueReconciling) :
    ∃ w, writerOf { s0 with status } a = some w ∧ w.candidate { s0 with status } = some { s0 with status } :=
  (statusStep_continue builds held rfl continued).2

/-- A status step leaves homeserver.yaml as it was. -/
theorem statusStep_keeps {candidate : Synapse → Store Text Body → Except (Outcome × Store Text Body) Synapse}
    {writerOf : Synapse → Store Text Body → Option StatusWriter} (builds : BuildsBy candidate writerOf) :
    ∀ a, HoldsAt s0 status a → (statusStep candidate s0.key a).1 ≠ .doNotRequeue ∧
      ((statusStep candidate s0.key a).1 = .continueReconciling → HoldsAt s0 status (statusStep candidate s0.key a).2 ∧
        (statusStep candidate s0.key a).2.configMap? s0.key = a.configMap? s0.key) :=
  fun a held => ⟨statusStep_never s0 status builds held, fun continued => by
    rw [(statusStep_continue builds held rfl continued).1]
    exact ⟨held, rfl⟩⟩

/-- The candidate of a status step whose writer does not read the store. -/
theorem builds_of_edit (w : StatusWriter) {edit : Synapse → Synapse}
    (writes : ∀ s, w.candidate s = some (edit s)) :
    @BuildsBy Text Body (fun s _ => .ok (edit s)) (fun _ _ => some w) :=
  ⟨fun s _ => by simp [Except.toOption, writes], fun _ _ _ made => by cases made⟩

variable [DecidableEq Text]

/-- A step that edits homeserver.yaml is an `updateConfigMap` of its ConfigMap
with the step's edit of the Synapse. -/
theorem configMapStep_updates {updateData : Synapse → Fields → Except Bytes Fields} :
    ∀ a, HoldsAt s0 status a → (configMapStep c updateData s0.key a).1 ≠ .doNotRequeue ∧
      ((configMapStep c updateData s0.key a).1 = .continueReconciling →
        HoldsAt s0 status (configMapStep c updateData s0.key a).2 ∧
        updateConfigMap c.codec s0.key (updateData { s0 with status }) homeserverYamlKey a =
          .ok (configMapStep c updateData s0.key a).2) := by
  intro a held
  rw [configMapStep_eq c held]
  cases success : updateConfigMap c.codec ({ s0 with status } : Synapse).key
    (updateData { s0 with status }) homeserverYamlKey a with
  | error err => exact ⟨nofun, nofun⟩
  | ok store' =>
    refine ⟨nofun, fun _ => ⟨?_, success⟩⟩
    exact (Store.synapse?_congr (updateConfigMap_objects success (by simp))).trans held

theorem configMapStep_touches {updateData : Synapse → Fields → Except Bytes Fields}
    {touched : Identity → Prop} (admitted : touched (homeserverConfigMap s0)) :
    Touches s0 status touched (configMapStep c updateData s0.key) :=
  ⟨fun a held => (configMapStep_updates c s0 status a held).1, fun a held continued =>
    ⟨((configMapStep_updates c s0 status a held).2 continued).1, fun _ other =>
      updateConfigMap_objects ((configMapStep_updates c s0 status a held).2 continued).2
        fun same => other (same ▸ admitted)⟩,
    fun a held _ _ apart => by
      rw [configMapStep_eq c held]
      split
      · rfl
      · exact updateConfigMap_objects ‹_› fun same => apart (same ▸ admitted)⟩

variable [DecidableEq Body]

/-- A resource step changes only the identity its builder names, which is not
a Synapse. -/
theorem resourceStep_touches {desired : Synapse → Store Text Body → Except Bytes (Identity × Object Text Body)}
    {touched : Identity → Prop}
    (target : ∀ store id object, desired { s0 with status } store = .ok (id, object) →
      id.kind ≠ .synapse ∧ touched id) :
    Touches s0 status touched (resourceStep desired s0.key) := by
  constructor
  · intro a held
    rw [resourceStep_eq held]
    split <;> nofun
  · intro a held continued
    obtain ⟨id, object, made, ran⟩ := resourceStep_continued held continued
    obtain ⟨other, admitted⟩ := target a id object made
    rw [ran]
    refine ⟨(Store.synapse?_congr (reconcileResource_objects_eq fun same => ?_)).trans held,
      fun id' apart => reconcileResource_objects_eq fun same => absurd (same ▸ admitted) apart⟩
    exact absurd (congrArg Identity.kind same).symm other
  · intro a held id' _ apart
    rw [resourceStep_eq held]
    split
    · rfl
    · rename_i id object made
      exact reconcileResource_objects_eq fun same => absurd (same ▸ (target a id object made).2) apart

/-- A step that builds a listed child changes only the children. -/
theorem childStep_touches {desired : Synapse → Store Text Body → Except Bytes (Identity × Object Text Body)}
    (listed : ∀ store id object, desired { s0 with status } store = .ok (id, object) →
      (id, object) ∈ builtChildren c { s0 with status }) :
    Touches s0 status (ChildOf c s0 status) (resourceStep desired s0.key) :=
  resourceStep_touches s0 status fun store id object made =>
    ⟨(builtChildren_apart c s0 (listed store id object made)).1, object, listed store id object made⟩

theorem reconcileSynapseConfigMap_touches :
    Touches s0 status (· = homeserverConfigMap s0) (reconcileSynapseConfigMap c s0.key) :=
  resourceStep_touches s0 status fun _ _ _ made => by cases made; exact ⟨nofun, rfl⟩

theorem copyInputSynapseConfigMap_touches :
    Touches s0 status (· = homeserverConfigMap s0) (@copyInputSynapseConfigMap Text Body _ _ s0.key) :=
  resourceStep_touches s0 status fun _ _ _ made => by
    obtain ⟨_, _, -, -, rfl, -⟩ := copy_desired s0 made
    exact ⟨nofun, rfl⟩

/-- A builder that is not among the sources changes only its listed child. -/
theorem builtChild_touches {kind : Kind} {name : Synapse → Bytes}
    (listed : ((⟨kind, s0.ns, name { s0 with status }⟩ : Identity),
      (.built (c.build kind { s0 with status }) : Object Text Body)) ∈ builtChildren c { s0 with status }) :
    Touches s0 status (RunFootprint c s0 status) (builtChild c kind name s0.key) :=
  (childStep_touches c s0 status fun _ _ _ made => by cases made; exact listed).mono fun _ => .inr

/-- Every step a run lists changes at most the homeserver.yaml ConfigMap and
the children. -/
theorem subreconcilersForSynapse_touches (hs : List Heisenbridge) (mss : List MautrixSignal) :
    ∀ f ∈ subreconcilersForSynapse c hs mss s0.key { s0 with status },
      Touches s0 status (RunFootprint c s0 status) f := by
  have statuses : ∀ {candidate writerOf}, @BuildsBy Text Body candidate writerOf → EndsAlone candidate →
      Touches s0 status (RunFootprint c s0 status) (statusStep candidate s0.key) :=
    fun builds ends => statusStep_touches s0 status builds ends _
  have child : ∀ {desired : Synapse → Store Text Body → Except Bytes (Identity × Object Text Body)},
      (∀ store id object, desired { s0 with status } store = .ok (id, object) →
        (id, object) ∈ builtChildren c { s0 with status }) →
      Touches s0 status (RunFootprint c s0 status) (resourceStep desired s0.key) :=
    fun listed => (childStep_touches c s0 status listed).mono fun _ => .inr
  have edit : ∀ {updateData : Synapse → Fields → Except Bytes Fields},
      Touches s0 status (RunFootprint c s0 status) (configMapStep c updateData s0.key) :=
    configMapStep_touches c s0 status (.inl rfl)
  intro f listed
  simp only [subreconcilersForSynapse, List.mem_append, List.mem_cons, List.mem_ite_nil_right,
    List.not_mem_nil, or_false, or_assoc] at listed
  rcases listed with first | rfl | ⟨asked, rfl | rfl | rfl | rfl⟩ | ⟨-, rfl⟩ | ⟨-, rfl⟩ |
    ⟨openshift, rfl | rfl⟩ | rfl | rfl | rfl | rfl
  · split at first <;> simp only [List.mem_cons, List.not_mem_nil, or_false] at first <;>
      rcases first with rfl | rfl
    · exact statuses (builds_parseInputSynapseConfigMap c) (endsAlone_parseInputSynapseConfigMapCandidate c)
    · exact (copyInputSynapseConfigMap_touches s0 status).mono fun _ => .inl
    · exact statuses builds_setStatusHomeserverConfiguration (endsAlone_ok _)
    · exact (reconcileSynapseConfigMap_touches c s0 status).mono fun _ => .inl
  · exact statuses (builds_updateSynapseStatusBridges hs mss) (endsAlone_ok _)
  · refine child fun _ _ _ made => ?_
    cases made
    simp only [builtChildren, asked, if_true, List.mem_append, List.mem_cons, true_or, or_true]
  · exact builtChild_touches c s0 status
      (by simp only [builtChildren, asked, if_true, List.mem_append, List.mem_cons, true_or, or_true])
  · exact statuses builds_updateSynapseStatusWithPostgreSQLInfos endsAlone_postgreSQLInfosCandidate
  · exact edit
  · exact edit
  · exact edit
  · exact builtChild_touches c s0 status
      (by simp only [builtChildren, openshift, if_true, List.mem_append, List.mem_cons, true_or, or_true])
  · exact builtChild_touches c s0 status
      (by simp only [builtChildren, openshift, if_true, List.mem_append, List.mem_cons, true_or, or_true])
  · exact builtChild_touches c s0 status (by simp only [builtChildren, List.mem_append, List.mem_cons, true_or, or_true])
  · exact builtChild_touches c s0 status (by simp only [builtChildren, List.mem_append, List.mem_cons, true_or, or_true])
  · exact builtChild_touches c s0 status (by simp only [builtChildren, List.mem_append, List.mem_cons, true_or, or_true])
  · exact statuses builds_setSynapseStatusAsRunning (endsAlone_ok _)

end Footprints

/-! ## Concrete stores -/

/-- `exampleSynapse` with the Status a run with `heisenbridgeA` listed would
write: RUNNING, its values' configuration, the Heisenbridge marked. -/
def runningSynapse : Synapse :=
  { Bridges.exampleSynapse with
    status.state := lit "RUNNING"
    status.homeserverConfiguration := ⟨lit "example.com", false⟩
    status.bridges.heisenbridge := ⟨true, lit "heisenbridge-a"⟩ }

/-- A store that holds `runningSynapse` only, on a cluster with the Postgres
operator. -/
def runningStore : Store Fields Unit where
  objects id := if id = .of .synapse runningSynapse.key then some (.synapse runningSynapse) else none
  postgresOperatorInstalled := true
  writes := []

/-- A store that holds the Synapse of `Database.exampleSynapse`, which asks for
PostgreSQL, on a cluster without the Postgres operator. -/
def postgresStore : Store Fields Unit where
  objects id :=
    if id = .of .synapse Database.exampleSynapse.key then some (.synapse Database.exampleSynapse) else none
  postgresOperatorInstalled := false
  writes := []

/-! ## homeserver.yaml -/

section HomeserverYaml
variable [DecidableEq Text] [DecidableEq Body] (c : Collaborators Text Body) (s0 : Synapse)
  (status : SynapseStatus)

/-- A step that builds a child leaves homeserver.yaml as it was. -/
theorem childStep_keeps {desired : Synapse → Store Text Body → Except Bytes (Identity × Object Text Body)}
    (listed : ∀ store id object, desired { s0 with status } store = .ok (id, object) →
      (id, object) ∈ builtChildren c { s0 with status }) :
    ∀ a, HoldsAt s0 status a → (resourceStep desired s0.key a).1 ≠ .doNotRequeue ∧
      ((resourceStep desired s0.key a).1 = .continueReconciling → HoldsAt s0 status (resourceStep desired s0.key a).2 ∧
        (resourceStep desired s0.key a).2.configMap? s0.key = a.configMap? s0.key) :=
  (childStep_touches c s0 status listed).keeps (not_childOf_homeserver c s0 status)

/-- After the first two steps, the steps a run lists apply the edits of
`homeserverEdits` to homeserver.yaml, in order. -/
theorem homeserverSteps_editsConfigMap (hs : List Heisenbridge) (mss : List MautrixSignal) :
    EditsConfigMap (HoldsAt s0 status) c.codec s0.key homeserverYamlKey
      ((subreconcilersForSynapse c hs mss s0.key { s0 with status }).drop 2)
      (homeserverEdits { s0 with status }) := by
  have child : ∀ {kind : Kind} {name : Synapse → Bytes},
      ((⟨kind, s0.ns, name { s0 with status }⟩ : Identity),
        (.built (c.build kind { s0 with status }) : Object Text Body)) ∈ builtChildren c { s0 with status } →
      ∀ a, HoldsAt s0 status a → (builtChild c kind name s0.key a).1 ≠ .doNotRequeue ∧
        ((builtChild c kind name s0.key a).1 = .continueReconciling →
          HoldsAt s0 status (builtChild c kind name s0.key a).2 ∧
          (builtChild c kind name s0.key a).2.configMap? s0.key = a.configMap? s0.key) :=
    fun listed => childStep_keeps c s0 status fun _ _ _ made => by cases made; exact listed
  rw [← List.append_nil (homeserverEdits _), homeserverEdits, subreconcilersForSynapse]
  simp only [List.append_assoc, List.singleton_append]
  rw [List.drop_left' (by split <;> rfl)]
  refine .keep (statusStep_keeps s0 status (builds_updateSynapseStatusBridges hs mss)) <|
    .append (.ite fun asked => ?_) <|
    .append (.ite fun _ => .edit _ (configMapStep_updates c s0 status) .nil) <|
    .append (.ite fun _ => .edit _ (configMapStep_updates c s0 status) .nil) <| .keeping ?_
  · refine .keep (childStep_keeps c s0 status fun _ _ _ made => ?_) <|
      .keep (child (by simp only [builtChildren, asked, if_true, List.mem_append, List.mem_cons, true_or, or_true])) <|
      .keep (statusStep_keeps s0 status builds_updateSynapseStatusWithPostgreSQLInfos) <|
      .edit _ (configMapStep_updates c s0 status) .nil
    cases made
    simp only [builtChildren, asked, if_true, List.mem_append, List.mem_cons, true_or, or_true]
  · simp only [List.mem_append, List.mem_ite_nil_right, List.mem_cons, List.not_mem_nil, or_false]
    rintro f (⟨openshift, rfl | rfl⟩ | rfl | rfl | rfl | rfl)
    · exact child (by simp only [builtChildren, openshift, if_true, List.mem_append, List.mem_cons, true_or, or_true])
    · exact child (by simp only [builtChildren, openshift, if_true, List.mem_append, List.mem_cons, true_or, or_true])
    · exact child (by simp only [builtChildren, List.mem_append, List.mem_cons, true_or, or_true])
    · exact child (by simp only [builtChildren, List.mem_append, List.mem_cons, true_or, or_true])
    · exact child (by simp only [builtChildren, List.mem_append, List.mem_cons, true_or, or_true])
    · exact statusStep_keeps s0 status builds_setSynapseStatusAsRunning

/-- The first two steps of a run that returned `DoNotRequeue` put the base
data in homeserver.yaml's ConfigMap: the first found its writer settled and
continued without writing, and the second wrote the data `baseConfigMapData`
reads at the start. -/
theorem baseSteps_put (hs : List Heisenbridge) (mss : List MautrixSignal) {store store' : Store Text Body}
    (held : HoldsAt s0 status store)
    (ran : runSubreconcilers (subreconcilersForSynapse c hs mss s0.key { s0 with status }) store =
      (.doNotRequeue, store')) :
    (∃ w, configurationWriter c s0 store { s0 with status } = some w ∧
      w.candidate { s0 with status } = some { s0 with status }) ∧
    ∃ base mid, baseConfigMapData c s0 store = some base ∧ mid.configMap? s0.key = some base ∧
      HoldsAt s0 status mid ∧
      runSubreconcilers ((subreconcilersForSynapse c hs mss s0.key { s0 with status }).drop 2) mid =
        (.doNotRequeue, store') := by
  unfold subreconcilersForSynapse at ran ⊢
  simp only [List.append_assoc] at ran ⊢
  rw [List.drop_left' (by split <;> rfl)]
  cases given : s0.spec.configMap with
  | none =>
    simp only [given, Option.isSome_none, Bool.false_eq_true, ↓reduceIte, List.cons_append,
      List.nil_append] at ran ⊢
    rw [runSubreconcilers_cons] at ran
    by_cases first : (setStatusHomeserverConfiguration s0.key store).1 = .continueReconciling
    · have unchanged : (setStatusHomeserverConfiguration s0.key store).2 = store :=
        congrArg Prod.snd (statusStep_continue builds_setStatusHomeserverConfiguration held rfl first).1
      rw [if_pos first, unchanged, runSubreconcilers_cons] at ran
      have touches := reconcileSynapseConfigMap_touches c s0 status
      by_cases second : (reconcileSynapseConfigMap c s0.key store).1 = .continueReconciling
      · rw [if_pos second] at ran
        have put : (reconcileSynapseConfigMap c s0.key store).2.objects (homeserverConfigMap s0) =
            some (configMapForSynapse c { s0 with status }) := resourceStep_makes held rfl
        refine ⟨?_, _, _, by rw [baseConfigMapData, given], Store.configMap?_iff.mpr put,
          (touches.continues store held second).1, ran⟩
        simpa [configurationWriter, given] using
          statusStep_settled s0 status builds_setStatusHomeserverConfiguration held first
      · rw [if_neg second] at ran
        exact absurd (congrArg Prod.fst ran) (touches.never store held)
    · rw [if_neg first] at ran
      exact absurd (congrArg Prod.fst ran)
        (statusStep_never s0 status builds_setStatusHomeserverConfiguration held)
  | some ref =>
    simp only [given, Option.isSome_some, ↓reduceIte, List.cons_append, List.nil_append] at ran ⊢
    rw [runSubreconcilers_cons] at ran
    by_cases first : (parseInputSynapseConfigMap c s0.key store).1 = .continueReconciling
    · have unchanged : (parseInputSynapseConfigMap c s0.key store).2 = store :=
        congrArg Prod.snd (statusStep_continue (builds_parseInputSynapseConfigMap c) held rfl first).1
      rw [if_pos first, unchanged, runSubreconcilers_cons] at ran
      have touches : Touches s0 status _ (@copyInputSynapseConfigMap Text Body _ _ s0.key) :=
        copyInputSynapseConfigMap_touches s0 status
      by_cases second : (copyInputSynapseConfigMap s0.key store).1 = .continueReconciling
      · rw [if_pos second] at ran
        obtain ⟨id, object, made, -⟩ := resourceStep_continued held second
        obtain ⟨ref', data, given', stored, rfl, rfl⟩ := copy_desired s0 made
        cases given.symm.trans given'
        have put : (copyInputSynapseConfigMap s0.key store).2.objects (homeserverConfigMap s0) =
            some (.configMap data) := resourceStep_makes held made
        refine ⟨?_, data, _, by rw [baseConfigMapData, given]; exact stored, Store.configMap?_iff.mpr put,
          (touches.continues store held second).1, ran⟩
        simpa [configurationWriter, given] using
          statusStep_settled s0 status (builds_parseInputSynapseConfigMap c) held first
      · rw [if_neg second] at ran
        exact absurd (congrArg Prod.fst ran) (touches.never store held)
    · rw [if_neg first] at ran
      exact absurd (congrArg Prod.fst ran)
        (statusStep_never s0 status (builds_parseInputSynapseConfigMap c) held)

end HomeserverYaml

/-! ## The Status -/

section Status
variable [DecidableEq Text] [DecidableEq Body] (c : Collaborators Text Body) (s0 : Synapse)
  (status : SynapseStatus) (hs : List Heisenbridge) (mss : List MautrixSignal)

/-- A fact that every continuing step keeps outside the run's footprint holds
at the end of a run of the listed steps that returned `DoNotRequeue`, ... -/
theorem subreconcilersForSynapse_keep {Post : Store Text Body → Prop}
    (keeps : ∀ a b : Store Text Body, (∀ id, ¬ RunFootprint c s0 status id → b.objects id = a.objects id) →
      Post a → Post b)
    {store store' : Store Text Body} (held : HoldsAt s0 status store) (post : Post store)
    (ran : runSubreconcilers (subreconcilersForSynapse c hs mss s0.key { s0 with status }) store =
      (.doNotRequeue, store')) : Post store' :=
  runSubreconcilers_keep (fun g listed a held' =>
    have touches := subreconcilersForSynapse_touches c s0 status hs mss g listed
    ⟨touches.never a held', fun continued => ⟨(touches.continues a held' continued).1,
      keeps a _ (touches.continues a held' continued).2⟩⟩) held post ran

/-- ... and so does what one listed step establishes when it continues. -/
theorem subreconcilersForSynapse_establishes {Post : Store Text Body → Prop}
    (keeps : ∀ a b : Store Text Body, (∀ id, ¬ RunFootprint c s0 status id → b.objects id = a.objects id) →
      Post a → Post b)
    {f : Store Text Body → Outcome × Store Text Body}
    (listed : f ∈ subreconcilersForSynapse c hs mss s0.key { s0 with status })
    (makes : ∀ a, HoldsAt s0 status a → (f a).1 = .continueReconciling → Post (f a).2)
    {store store' : Store Text Body} (held : HoldsAt s0 status store)
    (ran : runSubreconcilers (subreconcilersForSynapse c hs mss s0.key { s0 with status }) store =
      (.doNotRequeue, store')) : Post store' :=
  runSubreconcilers_doNotRequeue listed (fun g listed' a held' =>
    have touches := subreconcilersForSynapse_touches c s0 status hs mss g listed'
    ⟨touches.never a held', fun continued => ⟨(touches.continues a held' continued).1,
      keeps a _ (touches.continues a held' continued).2⟩⟩) makes held ran

/-- A status step whose writer does not read the store, listed in a run that
returned `DoNotRequeue`, found the Synapse to be its writer's candidate. -/
theorem statusStep_settles (w : StatusWriter) {edit : Synapse → Synapse}
    (writes : ∀ s, w.candidate s = some (edit s))
    (listed : statusStep (fun s (_ : Store Text Body) => .ok (edit s)) s0.key ∈
      subreconcilersForSynapse c hs mss s0.key { s0 with status })
    {store store' : Store Text Body} (held : HoldsAt s0 status store)
    (ran : runSubreconcilers (subreconcilersForSynapse c hs mss s0.key { s0 with status }) store =
      (.doNotRequeue, store')) : edit { s0 with status } = { s0 with status } := by
  refine @subreconcilersForSynapse_establishes Text Body _ _ c s0 status hs mss
    (fun _ => edit { s0 with status } = { s0 with status }) (fun _ _ _ same => same) _ listed
    (fun a held' continued => ?_) store store' held ran
  obtain ⟨w', made, settled⟩ := statusStep_settled s0 status (builds_of_edit w writes) held' continued
  cases made
  rw [writes] at settled
  exact Option.some.inj settled

/-- A parse that gives back the Synapse it was handed found the Synapse's
configuration in the document. -/
theorem parseHomeserverConfigMap_eq_self {s : Synapse} {homeserver : Fields}
    (same : parseHomeserverConfigMap s homeserver = .ok s) :
    homeserver.get? (lit "server_name") = some (.str s.status.homeserverConfiguration.serverName) ∧
      homeserver.get? (lit "report_stats") = some (.bool s.status.homeserverConfiguration.reportStats) := by
  unfold parseHomeserverConfigMap at same
  split at same
  · cases same
  · rename_i serverName named
    split at same
    · cases same
    · rename_i reportStats reported
      have parsed : (⟨serverName, reportStats⟩ : HomeserverConfiguration) = s.status.homeserverConfiguration :=
        congrArg (·.status.homeserverConfiguration) (Except.ok.inj same)
      rw [named, reported, ← parsed]
      exact ⟨rfl, rfl⟩
    · cases same
  · cases same

/-- A run that returns `DoNotRequeue`, and does not take the branch for a
missing Postgres operator, wrote no Status, and the Status it read is the one
every status step would write: RUNNING with no reason and no pending
reconcile, the bridges of the List results, the homeserver configuration of
`Spec.Homeserver.Values` or of the user's homeserver.yaml, and, when the Spec
asks for PostgreSQL, the connection data of the PostgreSQL Secret. -/
theorem reconcile_status_settled {store store' : Store Text Body}
    (found : store.synapse? s0.key = some { s0 with status })
    (ready : ¬ (s0.spec.createNewPostgreSQL ∧ store.postgresOperatorInstalled = false))
    (ran : reconcile c hs mss s0.key store = (.doNotRequeue, store')) :
    store'.synapse? s0.key = some { s0 with status } ∧
      status.state = lit "RUNNING" ∧ status.reason = [] ∧ status.needsReconcile = false ∧
      status.bridges = (markListedBridges { s0 with status } hs mss).status.bridges ∧
      (s0.spec.configMap = none →
        status.homeserverConfiguration = ⟨s0.spec.values.serverName, s0.spec.values.reportStats⟩) ∧
      (∀ ref, s0.spec.configMap = some ref → ∃ data config,
        store.configMap? (inputConfigMapKey s0 ref) = some data ∧
        loadYAMLFileFromConfigMapData c.codec data homeserverYamlKey = .ok config ∧
        config.get? (lit "server_name") = some (.str status.homeserverConfiguration.serverName) ∧
        config.get? (lit "report_stats") = some (.bool status.homeserverConfiguration.reportStats)) ∧
      (s0.spec.createNewPostgreSQL → ∃ data, store.secret? (postgresSecretKey s0) = some data ∧
        updateSynapseStatusDatabase { s0 with status } data = .ok { s0 with status }) := by
  simp only [reconcile, getLatestSynapse_of_found found] at ran
  rw [if_neg ready] at ran
  obtain ⟨⟨w, configured, settled⟩, -⟩ := baseSteps_put c s0 status hs mss found ran
  have running : asRunning { s0 with status } = { s0 with status } :=
    statusStep_settles c s0 status hs mss .setSynapseStatusAsRunning (fun _ => rfl)
      (show setSynapseStatusAsRunning s0.key ∈ _ by simp [subreconcilersForSynapse]) found ran
  have bridges : markListedBridges { s0 with status } hs mss = { s0 with status } :=
    statusStep_settles c s0 status hs mss (.updateSynapseStatusBridges hs mss) (fun _ => rfl)
      (show updateSynapseStatusBridges hs mss s0.key ∈ _ by simp [subreconcilersForSynapse]) found ran
  have secret : ¬ RunFootprint c s0 status (.of .secret (postgresSecretKey s0)) :=
    not_runFootprint_of_kind (.inr rfl)
  refine ⟨@subreconcilersForSynapse_keep Text Body _ _ c s0 status hs mss (HoldsAt s0 status)
      (fun _ _ frame held' => (Store.synapse?_congr (frame _
        (not_runFootprint_of_kind (.inl rfl)))).trans held') store store' found found ran,
    (congrArg (·.status.state) running).symm, (congrArg (·.status.reason) running).symm,
    (congrArg (·.status.needsReconcile) running).symm, (congrArg (·.status.bridges) bridges).symm,
    fun given => ?_, fun ref given => ?_, fun asked => ?_⟩
  · simp only [configurationWriter, given, Option.isSome_none, Bool.false_eq_true, ↓reduceIte,
      Option.some.injEq] at configured
    subst configured
    exact (congrArg (·.status.homeserverConfiguration) (Option.some.inj settled)).symm
  · simp only [configurationWriter, given, Option.isSome_some, ↓reduceIte, parseWriter_with_status,
      parseWriter] at configured
    obtain ⟨data, stored, loaded⟩ := Option.bind_eq_some.mp configured
    obtain ⟨config, decoded, rfl⟩ := Option.map_eq_some'.mp loaded
    exact ⟨data, config, stored, except_toOption_eq_some.mp decoded,
      parseHomeserverConfigMap_eq_self (except_toOption_eq_some.mp settled)⟩
  · have atEnd : ∃ w, postgreSQLWriter s0 store' = some w ∧
        w.candidate { s0 with status } = some { s0 with status } :=
      @subreconcilersForSynapse_establishes Text Body _ _ c s0 status hs mss
        (fun τ => ∃ w, postgreSQLWriter s0 τ = some w ∧ w.candidate { s0 with status } = some { s0 with status })
        (fun _ _ frame settled => by
          simpa only [postgreSQLWriter, Store.secret?_congr (frame _ secret)] using settled)
        _ (show updateSynapseStatusWithPostgreSQLInfos s0.key ∈ _ by simp [subreconcilersForSynapse, asked])
        (fun a held' continued => by
          have same : (updateSynapseStatusWithPostgreSQLInfos s0.key a).2 = a := congrArg Prod.snd
            (statusStep_continue builds_updateSynapseStatusWithPostgreSQLInfos held' rfl continued).1
          simpa [same] using
            statusStep_settled s0 status builds_updateSynapseStatusWithPostgreSQLInfos held' continued)
        store store' found ran
    have kept : store'.secret? (postgresSecretKey s0) = store.secret? (postgresSecretKey s0) :=
      @subreconcilersForSynapse_keep Text Body _ _ c s0 status hs mss
        (fun τ => τ.secret? (postgresSecretKey s0) = store.secret? (postgresSecretKey s0))
        (fun _ _ frame same => (Store.secret?_congr (frame _ secret)).trans same) store store' found rfl ran
    obtain ⟨w, read, settled⟩ := atEnd
    obtain ⟨data, stored, rfl⟩ := Option.map_eq_some'.mp read
    exact ⟨data, kept ▸ stored, except_toOption_eq_some.mp settled⟩

theorem reconcile_status_settled_example :
    let s0 := runningSynapse
    let status := runningSynapse.status
    let run := reconcile exampleCollaborators [heisenbridgeA] [] s0.key runningStore
    runningStore.synapse? s0.key = some { s0 with status } ∧
      ¬ (s0.spec.createNewPostgreSQL ∧ runningStore.postgresOperatorInstalled = false) ∧
      run = (.doNotRequeue, run.2) ∧
      run.2.synapse? s0.key = some { s0 with status } ∧
      status.state = lit "RUNNING" ∧ status.reason = [] ∧ status.needsReconcile = false ∧
      status.bridges = (markListedBridges { s0 with status } [heisenbridgeA] []).status.bridges ∧
      (s0.spec.configMap = none →
        status.homeserverConfiguration = ⟨s0.spec.values.serverName, s0.spec.values.reportStats⟩) ∧
      (∀ ref, s0.spec.configMap = some ref → ∃ data config,
        runningStore.configMap? (inputConfigMapKey s0 ref) = some data ∧
        loadYAMLFileFromConfigMapData documentCodec data homeserverYamlKey = .ok config ∧
        config.get? (lit "server_name") = some (.str status.homeserverConfiguration.serverName) ∧
        config.get? (lit "report_stats") = some (.bool status.homeserverConfiguration.reportStats)) ∧
      (s0.spec.createNewPostgreSQL → ∃ data, runningStore.secret? (postgresSecretKey s0) = some data ∧
        updateSynapseStatusDatabase { s0 with status } data = .ok { s0 with status }) :=
  ⟨by decide, by decide, Prod.ext (by decide) rfl,
    reconcile_status_settled exampleCollaborators runningSynapse runningSynapse.status [heisenbridgeA] []
      (by decide) (by decide) (Prod.ext (by decide) rfl)⟩

end Status

/-! ## Without the Postgres operator -/

/-- `setFailedState` on a stored Synapse: one Patch of it, FAILED with the
reason, unless its Status is that already. -/
theorem afterFailedState_eq (s : Synapse) (reason : Bytes) {store : Store Text Body}
    (found : store.synapse? s.key = some s) :
    afterFailedState s reason store =
      if (asFailed s reason).status = s.status then store
      else (store.put (.of .synapse s.key) (.synapse (asFailed s reason))).record (.patch (.of .synapse s.key)) := by
  have found' : store.synapse? (asFailed s reason).key = some s := found
  unfold afterFailedState setFailedState
  rw [updateSynapseStatus_of_found found']
  split_ifs <;> rfl

section Failed
variable [DecidableEq Text] [DecidableEq Body] (c : Collaborators Text Body) (s0 : Synapse)
  (status : SynapseStatus)

/-- On a cluster without the Postgres operator, a run on a Synapse whose Spec
asks for PostgreSQL returns `DoNotRequeue` after patching the Synapse FAILED
with the reason and nothing else; from then on every run, with any List
results, writes nothing and returns `DoNotRequeue`. -/
theorem reconcile_without_postgres_operator (hs : List Heisenbridge) (mss : List MautrixSignal)
    {store : Store Text Body} (found : store.synapse? s0.key = some { s0 with status })
    (asked : s0.spec.createNewPostgreSQL = true) (missing : store.postgresOperatorInstalled = false) :
    let after := reconcile c hs mss s0.key store
    after.1 = .doNotRequeue ∧
      after.2.synapse? s0.key = some (asFailed { s0 with status } postgresOperatorMissing) ∧
      (∀ id, id ≠ .of .synapse s0.key → after.2.objects id = store.objects id) ∧
      store.PatchesOnly (· = .of .synapse s0.key) after.2 ∧
      ∀ (hs' : List Heisenbridge) (mss' : List MautrixSignal),
        reconcile c hs' mss' s0.key after.2 = (.doNotRequeue, after.2) := by
  have failedBranch : reconcile c hs mss s0.key store =
      (.doNotRequeue, afterFailedState { s0 with status } postgresOperatorMissing store) := by
    simp only [reconcile, getLatestSynapse_of_found found]
    exact if_pos ⟨asked, missing⟩
  obtain ⟨failed, installed⟩ := afterFailedState_of_found { s0 with status } postgresOperatorMissing found
  have patched := afterFailedState_eq { s0 with status } postgresOperatorMissing found
  dsimp only
  rw [failedBranch]
  refine ⟨rfl, failed, fun id other => afterFailedState_objects _ _ _ other, ?_, fun hs' mss' => ?_⟩
  · rw [patched]
    split_ifs
    · exact .refl store
    · exact ⟨[.patch (.of .synapse s0.key)], rfl, by simp⟩
  · have failed' : (afterFailedState { s0 with status } postgresOperatorMissing store).synapse? s0.key =
        some (asFailed { s0 with status } postgresOperatorMissing) := failed
    have stillMissing : (asFailed { s0 with status } postgresOperatorMissing).spec.createNewPostgreSQL ∧
        store.postgresOperatorInstalled = false := ⟨asked, missing⟩
    simp only [reconcile, getLatestSynapse_of_found failed', installed]
    rw [if_pos stillMissing, afterFailedState_of_failed failed]

theorem reconcile_without_postgres_operator_example :
    let s0 := Database.exampleSynapse
    let after := reconcile exampleCollaborators [] [] s0.key postgresStore
    postgresStore.synapse? s0.key = some { s0 with status := s0.status } ∧
      s0.spec.createNewPostgreSQL = true ∧ postgresStore.postgresOperatorInstalled = false ∧
      after.1 = .doNotRequeue ∧
      after.2.synapse? s0.key = some (asFailed { s0 with status := s0.status } postgresOperatorMissing) ∧
      (∀ id, id ≠ .of .synapse s0.key → after.2.objects id = postgresStore.objects id) ∧
      postgresStore.PatchesOnly (· = .of .synapse s0.key) after.2 ∧
      ∀ (hs' : List Heisenbridge) (mss' : List MautrixSignal),
        reconcile exampleCollaborators hs' mss' s0.key after.2 = (.doNotRequeue, after.2) :=
  ⟨by decide, rfl, rfl, reconcile_without_postgres_operator exampleCollaborators Database.exampleSynapse
    Database.exampleSynapse.status [] [] (by decide) rfl rfl⟩

/-- The reason `parseInputSynapseConfigMap` records when the user's ConfigMap
`ref` is missing. -/
def missingConfigMapReason (s : Synapse) (ref : ObjectRef) : Bytes :=
  lit "ConfigMap " ++ ref.name ++ lit " does not exist in namespace " ++ (inputConfigMapKey s ref).ns

/-- A run on a Synapse whose user ConfigMap is missing ends at its first step:
it sets the Synapse FAILED with the reason that names the ConfigMap and its
namespace, changes nothing else, and requeues after the delay with the
NotFound error of the `Get`. -/
theorem reconcile_without_input_configMap (hs : List Heisenbridge) (mss : List MautrixSignal)
    {store : Store Text Body} (found : store.synapse? s0.key = some { s0 with status }) {ref : ObjectRef}
    (given : s0.spec.configMap = some ref)
    (ready : ¬ (s0.spec.createNewPostgreSQL ∧ store.postgresOperatorInstalled = false))
    (missing : store.configMap? (inputConfigMapKey s0 ref) = none) :
    let after := reconcile c hs mss s0.key store
    after.1 = .requeueWithDelayAndError 30 (notFound "configmaps" ref.name) ∧
      after.2.synapse? s0.key = some (asFailed { s0 with status } (missingConfigMapReason s0 ref)) ∧
      ∀ id, id ≠ .of .synapse s0.key → after.2.objects id = store.objects id := by
  have missing' : store.configMap? (inputConfigMapKey { s0 with status } ref) = none := missing
  have parsed : parseInputSynapseConfigMap c s0.key store =
      (.requeueWithDelayAndError 30 (notFound "configmaps" ref.name),
        afterFailedState { s0 with status } (missingConfigMapReason s0 ref) store) := by
    simp only [parseInputSynapseConfigMap, statusStep, getLatestSynapse_of_found found,
      parseInputSynapseConfigMapCandidate, given, missing']
    rfl
  have ran : reconcile c hs mss s0.key store = parseInputSynapseConfigMap c s0.key store := by
    simp only [reconcile, getLatestSynapse_of_found found]
    rw [if_neg ready, subreconcilersForSynapse]
    simp only [given, Option.isSome_some, ↓reduceIte, List.cons_append, List.append_assoc]
    rw [runSubreconcilers_cons, if_neg (by rw [parsed]; nofun)]
  dsimp only
  rw [ran, parsed]
  exact ⟨rfl, (afterFailedState_of_found { s0 with status } _ found).1,
    fun id other => afterFailedState_objects _ _ _ other⟩

/-- `runningSynapse` reading its homeserver.yaml from the user's ConfigMap
`synapse-input`, and a store that holds it without that ConfigMap. -/
def inputSynapse : Synapse :=
  { runningSynapse with spec.configMap := some ⟨lit "synapse-input", []⟩ }

def inputStore : Store Fields Unit where
  objects id := if id = .of .synapse inputSynapse.key then some (.synapse inputSynapse) else none
  postgresOperatorInstalled := true
  writes := []

theorem reconcile_without_input_configMap_example :
    let ref : ObjectRef := ⟨lit "synapse-input", []⟩
    let after := reconcile exampleCollaborators [] [] inputSynapse.key inputStore
    inputStore.synapse? inputSynapse.key = some { inputSynapse with status := inputSynapse.status } ∧
      inputSynapse.spec.configMap = some ref ∧
      ¬ (inputSynapse.spec.createNewPostgreSQL ∧ inputStore.postgresOperatorInstalled = false) ∧
      inputStore.configMap? (inputConfigMapKey inputSynapse ref) = none ∧
      after.1 = .requeueWithDelayAndError 30 (notFound "configmaps" ref.name) ∧
      after.2.synapse? inputSynapse.key =
        some (asFailed { inputSynapse with status := inputSynapse.status } (missingConfigMapReason inputSynapse ref)) ∧
      ∀ id, id ≠ .of .synapse inputSynapse.key → after.2.objects id = inputStore.objects id :=
  ⟨by decide, rfl, by decide, by decide, reconcile_without_input_configMap exampleCollaborators inputSynapse
    inputSynapse.status [] [] (by decide) rfl (by decide) (by decide)⟩

end Failed

/-! ## What a run never writes -/

section Frame
variable (c : Collaborators Text Body) (s0 : Synapse) (status : SynapseStatus)

/-- Every object a run may write besides the Synapse is in its namespace,
under its name or, when the Spec asks for PostgreSQL, under the
PostgresCluster's name. -/
theorem runFootprint_cases {id : Identity} (written : RunFootprint c s0 status id) :
    id.ns = s0.ns ∧
      (id.name = s0.name ∨ id.name = getPostgresClusterResourceName s0 ∧ s0.spec.createNewPostgreSQL) := by
  rcases written with rfl | ⟨_, listed⟩
  · exact ⟨rfl, .inl rfl⟩
  · unfold builtChildren at listed
    split_ifs at listed <;>
      simp only [List.mem_append, List.mem_cons, List.not_mem_nil, or_false, List.nil_append,
        or_assoc, Prod.mk.injEq] at listed <;>
      rcases listed with ⟨rfl, -⟩ | ⟨rfl, -⟩ | ⟨rfl, -⟩ | ⟨rfl, -⟩ | ⟨rfl, -⟩ | ⟨rfl, -⟩ |
        ⟨rfl, -⟩ <;>
      simp_all [getPostgresClusterResourceName]

/-- The user's ConfigMap is in a run's footprint only when it is the
homeserver.yaml ConfigMap or, with PostgreSQL, the PostgresCluster's. -/
theorem runFootprint_configMap {key : ObjectRef} (written : RunFootprint c s0 status (.of .configMap key)) :
    key = s0.key ∨ (s0.spec.createNewPostgreSQL ∧ key = ⟨getPostgresClusterResourceName s0, s0.ns⟩) := by
  obtain ⟨ns, own | ⟨named, asked⟩⟩ := runFootprint_cases c s0 status written
  · exact .inl (by cases key; simp_all [Identity.of, Synapse.key])
  · exact .inr ⟨asked, by cases key; simp_all [Identity.of]⟩

/-- `s0` asks for PostgreSQL and `s1` is named after its PostgresCluster, in its
namespace: `s0`'s PostgresCluster ConfigMap is `s1`'s homeserver.yaml
ConfigMap. -/
def PostgresSibling (s0 s1 : Synapse) : Prop :=
  s0.spec.createNewPostgreSQL ∧ s1.key = ⟨getPostgresClusterResourceName s0, s0.ns⟩

/-- What two distinct Synapses own, each itself and its run's footprint, is
apart unless one is the other's PostgreSQL sibling. -/
theorem runFootprint_apart {s1 : Synapse} {status1 : SynapseStatus} (distinct : s1.key ≠ s0.key)
    (notSibling : ¬ PostgresSibling s0 s1) (notSibling' : ¬ PostgresSibling s1 s0) {id : Identity}
    (owned : id = .of .synapse s1.key ∨ RunFootprint c s1 status1 id) :
    id ≠ .of .synapse s0.key ∧ ¬ RunFootprint c s0 status id := by
  rcases owned with rfl | owned
  · exact ⟨fun same => distinct (Identity.of_inj.mp same).2, not_runFootprint_of_kind (.inl rfl)⟩
  refine ⟨fun same => not_runFootprint_of_kind (.inl (by rw [same]; rfl)) owned, fun written => ?_⟩
  obtain ⟨ns1, named1⟩ := runFootprint_cases c s1 status1 owned
  obtain ⟨ns0, named0⟩ := runFootprint_cases c s0 status written
  have sameNs : s1.ns = s0.ns := ns1.symm.trans ns0
  rcases named1 with own1 | ⟨postgres1, asked1⟩ <;> rcases named0 with own0 | ⟨postgres0, asked0⟩
  · exact synapse_key_ne.mp distinct ⟨sameNs, own1.symm.trans own0⟩
  · exact notSibling ⟨asked0, by rw [Synapse.key, ← own1, postgres0, sameNs]⟩
  · exact notSibling' ⟨asked1, by rw [Synapse.key, ← own0, postgres1, ← sameNs]⟩
  · exact synapse_key_ne.mp distinct
      ⟨sameNs, getPostgresClusterResourceName_inj.mp (postgres1.symm.trans postgres0)⟩

variable [DecidableEq Text] [DecidableEq Body] (hs : List Heisenbridge) (mss : List MautrixSignal)

/-- Whatever it returns, a run changes no object but the Synapse and the run's
footprint. -/
theorem reconcile_objects_outside {store : Store Text Body} (held : HoldsAt s0 status store)
    {id : Identity} (other : id ≠ .of .synapse s0.key) (apart : ¬ RunFootprint c s0 status id) :
    (reconcile c hs mss s0.key store).2.objects id = store.objects id := by
  simp only [reconcile, getLatestSynapse_of_found held]
  split
  · exact afterFailedState_objects _ _ _ other
  · refine @runSubreconcilers_preserve _ (HoldsAt s0 status)
      (fun a b => ∀ id : Identity, id ≠ .of .synapse s0.key → ¬ RunFootprint c s0 status id →
        b.objects id = a.objects id)
      (fun _ _ _ _ => rfl) (fun first second id other apart => (second id other apart).trans
        (first id other apart)) _ (fun f listed a held' => ?_) store held id other apart
    have touches := subreconcilersForSynapse_touches c s0 status hs mss f listed
    exact ⟨touches.within a held', fun continued => (touches.continues a held' continued).1⟩

/-- Whatever it returns, a run on a stored Synapse changes no object but the
Synapse itself, its homeserver.yaml ConfigMap and its children: no Secret, no
bridge, no other Synapse. In particular it leaves the user's ConfigMap as it
is, unless that is the homeserver.yaml ConfigMap itself or, with PostgreSQL,
the PostgresCluster's. -/
theorem reconcile_changes_only_footprint {store : Store Text Body} (held : HoldsAt s0 status store) :
    (∀ id, (reconcile c hs mss s0.key store).2.objects id ≠ store.objects id →
      id = .of .synapse s0.key ∨ RunFootprint c s0 status id) ∧
    ∀ ref, s0.spec.configMap = some ref → inputConfigMapKey s0 ref ≠ s0.key →
      ¬ (s0.spec.createNewPostgreSQL ∧
        inputConfigMapKey s0 ref = ⟨getPostgresClusterResourceName s0, s0.ns⟩) →
      (reconcile c hs mss s0.key store).2.configMap? (inputConfigMapKey s0 ref) =
        store.configMap? (inputConfigMapKey s0 ref) := by
  refine ⟨fun id changed => not_not.mp fun outside => changed ?_, fun ref _ notOwn notPostgres => ?_⟩
  · exact reconcile_objects_outside c s0 status hs mss held (not_or.mp outside).1 (not_or.mp outside).2
  · refine Store.configMap?_congr (reconcile_objects_outside c s0 status hs mss held (by simp) fun written => ?_)
    rcases runFootprint_configMap c s0 status written with own | postgres
    exacts [notOwn own, notPostgres postgres]

theorem reconcile_changes_only_footprint_example :
    HoldsAt runningSynapse runningSynapse.status runningStore ∧
      let run := reconcile exampleCollaborators [heisenbridgeA] [] runningSynapse.key runningStore
      (∀ id, run.2.objects id ≠ runningStore.objects id →
        id = .of .synapse runningSynapse.key ∨
          RunFootprint exampleCollaborators runningSynapse runningSynapse.status id) ∧
      ∀ ref, runningSynapse.spec.configMap = some ref → inputConfigMapKey runningSynapse ref ≠ runningSynapse.key →
        ¬ (runningSynapse.spec.createNewPostgreSQL ∧
          inputConfigMapKey runningSynapse ref = ⟨getPostgresClusterResourceName runningSynapse, runningSynapse.ns⟩) →
        run.2.configMap? (inputConfigMapKey runningSynapse ref) =
          runningStore.configMap? (inputConfigMapKey runningSynapse ref) :=
  have held : HoldsAt runningSynapse runningSynapse.status runningStore := by
    unfold HoldsAt
    decide
  ⟨held, reconcile_changes_only_footprint exampleCollaborators runningSynapse _ [heisenbridgeA] [] held⟩

/-- A run of one Synapse leaves every object of another Synapse as it is:
that Synapse, its homeserver.yaml ConfigMap and its children. The one
exception is a pair of PostgreSQL siblings, where one run writes the
PostgresCluster ConfigMap that is the other's homeserver.yaml ConfigMap. -/
theorem reconcile_leaves_other_synapse {store : Store Text Body} (held : HoldsAt s0 status store)
    (s1 : Synapse) (status1 : SynapseStatus) (distinct : s1.key ≠ s0.key)
    (notSibling : ¬ PostgresSibling s0 s1) (notSibling' : ¬ PostgresSibling s1 s0) {id : Identity}
    (owned : id = .of .synapse s1.key ∨ RunFootprint c s1 status1 id) :
    (reconcile c hs mss s0.key store).2.objects id = store.objects id :=
  have apart := runFootprint_apart c s0 status distinct notSibling notSibling' owned
  reconcile_objects_outside c s0 status hs mss held apart.1 apart.2

theorem reconcile_leaves_other_synapse_example :
    let other : Synapse := { runningSynapse with name := lit "other" }
    HoldsAt runningSynapse runningSynapse.status runningStore ∧ other.key ≠ runningSynapse.key ∧
      ¬ PostgresSibling runningSynapse other ∧ ¬ PostgresSibling other runningSynapse ∧
      (reconcile exampleCollaborators [heisenbridgeA] [] runningSynapse.key runningStore).2.objects
        (homeserverConfigMap other) = runningStore.objects (homeserverConfigMap other) := by
  intro other
  have held : HoldsAt runningSynapse runningSynapse.status runningStore := by
    unfold HoldsAt
    decide
  have distinct : other.key ≠ runningSynapse.key := by decide
  have notSibling : ¬ PostgresSibling runningSynapse other := fun sibling => absurd sibling.1 (by decide)
  have notSibling' : ¬ PostgresSibling other runningSynapse := fun sibling => absurd sibling.1 (by decide)
  exact ⟨held, distinct, notSibling, notSibling', reconcile_leaves_other_synapse exampleCollaborators
    runningSynapse _ [heisenbridgeA] [] held other other.status distinct notSibling notSibling' (.inr (.inl rfl))⟩

/-- The Synapse of `Database.exampleSynapse`, which asks for PostgreSQL, once
its Status holds its values' configuration. -/
def postgresSynapse : Synapse := withValuesConfiguration Database.exampleSynapse

/-- Its PostgreSQL sibling `synapse-pgsql`. -/
def siblingSynapse : Synapse := { runningSynapse with name := lit "synapse-pgsql" }

/-- A store with both, the sibling's homeserver.yaml ConfigMap, and the
Postgres operator. -/
def siblingStore : Store Fields Unit where
  objects id :=
    if id = .of .synapse postgresSynapse.key then some (.synapse postgresSynapse)
    else if id = .of .synapse siblingSynapse.key then some (.synapse siblingSynapse)
    else if id = homeserverConfigMap siblingSynapse then some (.configMap [(homeserverYamlKey, .nil)])
    else none
  postgresOperatorInstalled := true
  writes := []

/-- The exception is real: a run of `synapse` rewrites the homeserver.yaml
ConfigMap of `synapse-pgsql`. -/
example :
    PostgresSibling postgresSynapse siblingSynapse ∧
      (reconcile exampleCollaborators [] [] postgresSynapse.key siblingStore).2.objects
        (homeserverConfigMap siblingSynapse) ≠ siblingStore.objects (homeserverConfigMap siblingSynapse) :=
  ⟨⟨rfl, by decide⟩, by decide⟩

end Frame

end SynapseOperator.SynapseOutput
