import SynapseOperator.SynapseReconciler

/-!
What each step of `SynapseReconciler.Reconcile` does to a store that holds the
Synapse, in the terms the chain of runs is argued in (`SynapseRuns`).

1. **`pending` counts the status steps that would still write**: the
   configuration, the bridges, PostgreSQL when the Spec asks for it, and the
   running state, one each while the step's candidate is not the stored
   Synapse. A status step that patches settles itself and leaves every other
   status step as settled as it was, because the steps write disjoint leaves
   of the Status (`pending_after_patch`, from
   `StatusWriter.settled_after_disjoint`).
2. **What a continuing step may change** is `Kept`: the Synapse stays, what
   the status steps read stays (`SameView`), and `Frame` lets it write only the
   homeserver.yaml ConfigMap and the children, each as built. `Converged` is
   where a run that ran every step leaves the store.
3. **`StepSpec`** bundles what the chain theorems need of a step, and each of
   the three shapes of step has its lemma: `statusStep_spec`,
   `resourceStep_spec` and `configMapStep_spec`. The last also covers a user
   ConfigMap that is homeserver.yaml's own: an edit that keeps `server_name`
   and `report_stats` leaves what the configuration step parses, through the
   YAML round trip (`configuration_after_update`).
-/

namespace SynapseOperator.SynapseConvergence
open SynapseOperator.Api SynapseOperator.Document SynapseOperator.Naming SynapseOperator.Cluster
  SynapseOperator.Status SynapseOperator.Bridges SynapseOperator.Database SynapseOperator.AppService
  SynapseOperator.SynapseReconciler

variable {Text Body : Type}

section Vocabulary
variable (s0 : Synapse)

/-- The store holds the Synapse under its key, with its name and Spec and some
Status. -/
def Holds (store : Store Text Body) : Prop :=
  ∃ status, store.synapse? s0.key = some { s0 with status }

/-- The identity of the homeserver.yaml ConfigMap. -/
def homeserverConfigMap : Identity := .of .configMap s0.key

/-- Every write from one store to the other is a Patch of the homeserver.yaml
ConfigMap. -/
def OnlyPatches (store store' : Store Text Body) : Prop :=
  store.PatchesOnly (· = homeserverConfigMap s0) store'

theorem OnlyPatches.refl (store : Store Text Body) : OnlyPatches s0 store store :=
  Store.PatchesOnly.refl store

theorem OnlyPatches.trans {a b c : Store Text Body} (first : OnlyPatches s0 a b)
    (second : OnlyPatches s0 b c) : OnlyPatches s0 a c :=
  Store.PatchesOnly.trans first second

end Vocabulary

/-! ## The status steps still to write -/

section Pending
variable (c : Collaborators Text Body) (s0 : Synapse) (hs : List Heisenbridge)
  (mss : List MautrixSignal)

/-- The writer of the step that sets the homeserver configuration: the user's
ConfigMap when one is given, `Spec.Homeserver.Values` otherwise. -/
def configurationWriter (store : Store Text Body) (s : Synapse) : Option StatusWriter :=
  if s0.spec.configMap.isSome then parseWriter c s store else some .setStatusHomeserverConfiguration

/-- The writer reads the user's ConfigMap only. -/
theorem configurationWriter_congr {store store' : Store Text Body}
    (same : ∀ ref, s0.spec.configMap = some ref →
      store'.configMap? (inputConfigMapKey s0 ref) = store.configMap? (inputConfigMapKey s0 ref))
    (status : SynapseStatus) :
    configurationWriter c s0 store' { s0 with status } =
      configurationWriter c s0 store { s0 with status } := by
  unfold configurationWriter
  cases given : s0.spec.configMap with
  | none => rfl
  | some ref =>
    simp only [Option.isSome_some, ↓reduceIte, parseWriter_with_status]
    simp only [parseWriter, given]
    rw [same ref given]

/-- An edit of homeserver.yaml that leaves the two keys the configuration step
parses. -/
def KeepsConfiguration (updateData : Fields → Except Bytes Fields) : Prop :=
  ∀ doc doc', updateData doc = .ok doc' →
    doc'.get? (lit "server_name") = doc.get? (lit "server_name") ∧
      doc'.get? (lit "report_stats") = doc.get? (lit "report_stats")

/-- The status steps of a run: what each writes does not depend on where the
Spec makes the run take it from. -/
inductive Position where
  | configuration
  | bridges
  | postgreSQL
  | running
  deriving DecidableEq

/-- The writer of each status step, from what the store holds, with `hs` and
`mss` as the List results of the bridge loops. -/
def Position.writer : Position → Store Text Body → Synapse → Option StatusWriter
  | .configuration, store, s => configurationWriter c s0 store s
  | .bridges, _, _ => some (.updateSynapseStatusBridges hs mss)
  | .postgreSQL, store, s => postgreSQLWriter s store
  | .running, _, _ => some .setSynapseStatusAsRunning

/-- The PostgreSQL step runs only when the Spec asks for PostgreSQL. -/
def Position.Active : Position → Prop
  | .postgreSQL => s0.spec.createNewPostgreSQL
  | _ => True

/-- One for a status step that would still write: its writer has no candidate,
or one that is not the Synapse. -/
def pendingCount (s : Synapse) (w : Option StatusWriter) : Nat :=
  if w.bind (·.candidate s) = some s then 0 else 1

/-- The status steps of a run that would still write. -/
def pending (store : Store Text Body) : Nat :=
  match store.synapse? s0.key with
  | none => 0
  | some s =>
    pendingCount s (Position.configuration.writer c s0 hs mss store s) +
      pendingCount s (Position.bridges.writer c s0 hs mss store s) +
      (if s0.spec.createNewPostgreSQL then
        pendingCount s (Position.postgreSQL.writer c s0 hs mss store s) else 0) +
      pendingCount s (Position.running.writer c s0 hs mss store s)

theorem pendingCount_le_one (s : Synapse) (w : Option StatusWriter) : pendingCount s w ≤ 1 := by
  unfold pendingCount
  split <;> omega

/-- At most the four status steps would write. -/
theorem pending_le_four (store : Store Text Body) : pending c s0 hs mss store ≤ 4 := by
  unfold pending
  split
  · omega
  · rename_i s _
    have := pendingCount_le_one s (Position.configuration.writer c s0 hs mss store s)
    have := pendingCount_le_one s (Position.bridges.writer c s0 hs mss store s)
    have := pendingCount_le_one s (Position.postgreSQL.writer c s0 hs mss store s)
    have := pendingCount_le_one s (Position.running.writer c s0 hs mss store s)
    split_ifs <;> omega

/-- An active step's count is part of `pending`. -/
theorem pendingCount_le_pending {store : Store Text Body} {s : Synapse}
    (found : store.synapse? s0.key = some s) {p : Position} (active : p.Active s0) :
    pendingCount s (p.writer c s0 hs mss store s) ≤ pending c s0 hs mss store := by
  simp only [pending, found]
  cases p with
  | postgreSQL =>
    simp only [Position.Active] at active
    simp only [active, ↓reduceIte]
    omega
  | _ => omega

/-- Two stores agree on what the status steps read: the Synapse, the
configuration the user's ConfigMap gives, and the Secrets. -/
structure SameView (store store' : Store Text Body) : Prop where
  synapse : store'.synapse? s0.key = store.synapse? s0.key
  configuration : ∀ status : SynapseStatus,
    (configurationWriter c s0 store' { s0 with status }).bind (·.candidate { s0 with status }) =
      (configurationWriter c s0 store { s0 with status }).bind (·.candidate { s0 with status })
  secret : ∀ key, store'.secret? key = store.secret? key

theorem SameView.refl (store : Store Text Body) : SameView c s0 store store :=
  ⟨rfl, fun _ => rfl, fun _ => rfl⟩

theorem SameView.trans {a b d : Store Text Body} (first : SameView c s0 a b)
    (second : SameView c s0 b d) : SameView c s0 a d :=
  ⟨second.synapse.trans first.synapse, fun st => (second.configuration st).trans (first.configuration st),
    fun key => (second.secret key).trans (first.secret key)⟩

/-- A step keeping what the status steps read keeps each step's count. -/
theorem pendingCount_of_sameView {store store' : Store Text Body} (view : SameView c s0 store store')
    (p : Position) (status : SynapseStatus) :
    pendingCount { s0 with status } (p.writer c s0 hs mss store' { s0 with status }) =
      pendingCount { s0 with status } (p.writer c s0 hs mss store { s0 with status }) := by
  cases p with
  | configuration => simp only [pendingCount, Position.writer, view.configuration status]
  | postgreSQL => simp only [pendingCount, Position.writer, postgreSQLWriter, view.secret]
  | _ => rfl

theorem pending_eq_of_sameView {store store' : Store Text Body} (held : Holds s0 store)
    (view : SameView c s0 store store') : pending c s0 hs mss store' = pending c s0 hs mss store := by
  obtain ⟨status, found⟩ := held
  simp only [pending, view.synapse, found, pendingCount_of_sameView c s0 hs mss view]

/-- The status step at `p` would not write. -/
def Settled (p : Position) (store : Store Text Body) : Prop :=
  ∀ status, store.synapse? s0.key = some { s0 with status } →
    pendingCount { s0 with status } (p.writer c s0 hs mss store { s0 with status }) = 0

theorem Settled.of_sameView {p : Position} {store store' : Store Text Body}
    (view : SameView c s0 store store') (settled : Settled c s0 hs mss p store) :
    Settled c s0 hs mss p store' := fun status found => by
  rw [pendingCount_of_sameView c s0 hs mss view]
  exact settled status (view.synapse.symm.trans found)

/-- No status step would write when no active one would. -/
theorem pending_eq_zero {store : Store Text Body} (held : Holds s0 store)
    (settled : ∀ p : Position, p.Active s0 → Settled c s0 hs mss p store) :
    pending c s0 hs mss store = 0 := by
  obtain ⟨status, found⟩ := held
  simp only [pending, found, settled .configuration trivial status found,
    settled .bridges trivial status found, settled .running trivial status found]
  split_ifs with asked
  · simp [settled .postgreSQL asked status found]
  · rfl

theorem configurationWriter_fields {store : Store Text Body} {s : Synapse} {w : StatusWriter}
    (held : configurationWriter c s0 store s = some w) : w.fields = [.serverName, .reportStats] := by
  unfold configurationWriter parseWriter at held
  split at held
  · split at held
    · cases held
    · obtain ⟨_, -, loaded⟩ := Option.bind_eq_some.mp held
      obtain ⟨_, -, rfl⟩ := Option.map_eq_some'.mp loaded
      rfl
  · cases held
    rfl

theorem postgreSQLWriter_fields {store : Store Text Body} {s : Synapse} {w : StatusWriter}
    (held : postgreSQLWriter s store = some w) :
    w.fields = [.connectionURL, .databaseName, .user, .password, .databaseState] := by
  obtain ⟨_, -, rfl⟩ := Option.map_eq_some'.mp held
  rfl

/-- A patch by a step leaves the count of a step with other fields as it was. -/
theorem pendingCount_after {w : StatusWriter} {s s' : Synapse} (built : w.candidate s = some s')
    {v : Option StatusWriter} {fields : List StatusField} (writes : ∀ w' ∈ v, w'.fields = fields)
    (apart : ∀ f ∈ fields, f ∉ w.fields) : pendingCount s' v = pendingCount s v := by
  cases v with
  | none => rfl
  | some w' =>
    have same := StatusWriter.settled_after_disjoint built
      (fun f listed => apart f (writes w' rfl ▸ listed))
    simp only [StatusWriter.Settled] at same
    simp only [pendingCount, Option.some_bind, same]

/-- The step that patched counts one before its patch and none after. -/
theorem pendingCount_patched {w : StatusWriter} {s s' : Synapse} (built : w.candidate s = some s')
    (moved : s' ≠ s) : pendingCount s (some w) = 1 ∧ pendingCount s' (some w) = 0 := by
  have settled := StatusWriter.settled_candidate built
  simp only [StatusWriter.Settled] at settled
  simp [pendingCount, built, moved, settled]

/-- A status step that patches the Synapse lowers `pending`: it is settled
afterwards, and every other status step writes other fields. -/
theorem pending_after_patch {store : Store Text Body} {status : SynapseStatus}
    (found : store.synapse? s0.key = some { s0 with status }) {p : Position} (active : p.Active s0)
    {w : StatusWriter} (held : p.writer c s0 hs mss store { s0 with status } = some w) {s' : Synapse}
    (built : w.candidate { s0 with status } = some s') (moved : s' ≠ { s0 with status }) :
    pending c s0 hs mss ((store.put (.of .synapse s0.key) (.synapse s')).record
      (.patch (.of .synapse s0.key))) < pending c s0 hs mss store := by
  have rebuilt : s' = { s0 with status := s'.status } := (StatusWriter.candidate_eq built).trans rfl
  set patched := (store.put (.of .synapse s0.key) (.synapse s')).record (.patch (.of .synapse s0.key))
  have other : ∀ {kind : Kind} {key : ObjectRef}, kind ≠ .synapse →
      patched.objects (.of kind key) = store.objects (.of kind key) := fun different => by
    simp [patched, Identity.of, different]
  have configuration : configurationWriter c s0 patched s' =
      configurationWriter c s0 store { s0 with status } := by
    have maps : ∀ key, patched.configMap? key = store.configMap? key :=
      fun _ => Store.configMap?_congr (other (by decide))
    rw [rebuilt]
    simp only [configurationWriter, parseWriter, maps]
    rfl
  have secret : postgreSQLWriter s' patched = postgreSQLWriter { s0 with status } store := by
    rw [rebuilt]
    simp only [postgreSQLWriter, Store.secret?_congr (other (by decide))]
    rfl
  have after : patched.synapse? s0.key = some s' := by simp [patched]
  simp only [pending, after, found, Position.writer, configuration, secret]
  have configurationWrites := fun w' (held : w' ∈ configurationWriter c s0 store { s0 with status }) =>
    configurationWriter_fields c s0 held
  have postgreSQLWrites := fun w' (held : w' ∈ postgreSQLWriter { s0 with status } store) =>
    postgreSQLWriter_fields held
  have bridgesWrites : ∀ w' ∈ some (StatusWriter.updateSynapseStatusBridges hs mss),
      w'.fields = [.heisenbridgeEnabled, .heisenbridgeName, .mautrixSignalEnabled,
        .mautrixSignalName] := fun w' held => by cases held; rfl
  have runningWrites : ∀ w' ∈ some StatusWriter.setSynapseStatusAsRunning,
      w'.fields = [.needsReconcile, .state, .reason] := fun w' held => by cases held; rfl
  obtain ⟨before, settled⟩ := pendingCount_patched built moved
  cases p with
  | configuration =>
    have fields := configurationWriter_fields c s0 held
    simp only [Position.writer] at held
    rw [held, pendingCount_after built bridgesWrites (by rw [fields]; decide),
      pendingCount_after built postgreSQLWrites (by rw [fields]; decide),
      pendingCount_after built runningWrites (by rw [fields]; decide)]
    omega
  | bridges =>
    cases held
    have fields : (StatusWriter.updateSynapseStatusBridges hs mss).fields =
      [.heisenbridgeEnabled, .heisenbridgeName, .mautrixSignalEnabled, .mautrixSignalName] := rfl
    rw [pendingCount_after built configurationWrites (by rw [fields]; decide),
      pendingCount_after built postgreSQLWrites (by rw [fields]; decide),
      pendingCount_after built runningWrites (by rw [fields]; decide)]
    omega
  | postgreSQL =>
    have fields := postgreSQLWriter_fields held
    simp only [Position.writer] at held
    simp only [Position.Active] at active
    rw [held, if_pos active, if_pos active,
      pendingCount_after built configurationWrites (by rw [fields]; decide),
      pendingCount_after built bridgesWrites (by rw [fields]; decide),
      pendingCount_after built runningWrites (by rw [fields]; decide)]
    omega
  | running =>
    cases held
    rw [pendingCount_after built configurationWrites (by decide),
      pendingCount_after built bridgesWrites (by decide),
      pendingCount_after built postgreSQLWrites (by decide)]
    omega

end Pending

/-! ## What a step may change -/

section Frames
variable (c : Collaborators Text Body) (s0 : Synapse) (hs : List Heisenbridge)
  (mss : List MautrixSignal)

/-- The children a run builds for the Synapse `s` besides the homeserver.yaml
ConfigMap, each under its identity with its desired object. -/
def builtChildren (s : Synapse) : List (Identity × Object Text Body) :=
  (if s.spec.createNewPostgreSQL then
      [(⟨.configMap, s.ns, getPostgresClusterResourceName s⟩,
          .configMap (c.postgresClusterConfigMapData s)),
        (⟨.postgresCluster, s.ns, getPostgresClusterResourceName s⟩,
          .built (c.build .postgresCluster s))]
    else []) ++
  (if s.spec.isOpenshift then
      [(⟨.serviceAccount, s.ns, s.name⟩, .built (c.build .serviceAccount s)),
        (⟨.roleBinding, s.ns, s.name⟩, .built (c.build .roleBinding s))]
    else []) ++
  [(⟨.service, s.ns, s.name⟩, .built (c.build .service s)),
    (⟨.persistentVolumeClaim, s.ns, s.name⟩, .built (c.build .persistentVolumeClaim s)),
    (⟨.deployment, s.ns, s.name⟩, .built (c.build .deployment s))]

/-- No child is the Synapse, a Secret or the homeserver.yaml ConfigMap, and
each identity has one desired object. -/
theorem builtChildren_apart {status : SynapseStatus} {child : Identity × Object Text Body}
    (listed : child ∈ builtChildren c { s0 with status }) :
    child.1.kind ≠ .synapse ∧ child.1.kind ≠ .secret ∧ child.1 ≠ homeserverConfigMap s0 ∧
      ∀ object, (child.1, object) ∈ builtChildren c { s0 with status } → object = child.2 := by
  have suffixed : getPostgresClusterResourceName { s0 with status } ≠ s0.name := by
    simp [getPostgresClusterResourceName, join_pair, lit]
  unfold builtChildren at listed ⊢
  split_ifs at listed ⊢ <;> simp only [List.mem_append, List.mem_cons, List.not_mem_nil, or_false,
    List.nil_append, false_or, or_assoc] at listed <;>
    rcases listed with rfl | rfl | rfl | rfl | rfl | rfl | rfl <;>
    simp [homeserverConfigMap, Identity.of, Synapse.key, suffixed]

/-- What a continuing step may change: the homeserver.yaml ConfigMap, which it
never removes, and the children, each only to its desired object. -/
structure Frame (store store' : Store Text Body) : Prop where
  objects : ∀ s, store.synapse? s0.key = some s → ∀ id, id ≠ homeserverConfigMap s0 →
    store'.objects id = store.objects id ∨
      ∃ object, (id, object) ∈ builtChildren c s ∧ store'.objects id = some object
  configMap : (∃ data, store.configMap? s0.key = some data) →
    ∃ data, store'.configMap? s0.key = some data
  installed : store'.postgresOperatorInstalled = store.postgresOperatorInstalled

theorem Frame.refl (store : Store Text Body) : Frame c s0 store store :=
  ⟨fun _ _ _ _ => .inl rfl, id, rfl⟩

/-- What a continuing step keeps: the Synapse, what the status steps read, and
`Frame`. -/
def Kept (store store' : Store Text Body) : Prop :=
  Holds s0 store' ∧ SameView c s0 store store' ∧ Frame c s0 store store'

theorem Kept.refl {store : Store Text Body} (held : Holds s0 store) : Kept c s0 store store :=
  ⟨held, .refl c s0 store, .refl c s0 store⟩

/-- A child a continuing step keeps as built: `Frame` lets a step write a
child only as built, and no step writes a child as the homeserver.yaml
ConfigMap. -/
theorem Kept.child {store store' : Store Text Body} {status : SynapseStatus}
    (found : store.synapse? s0.key = some { s0 with status }) (kept : Kept c s0 store store')
    {child : Identity × Object Text Body} (listed : child ∈ builtChildren c { s0 with status })
    (stored : store.objects child.1 = some child.2) : store'.objects child.1 = some child.2 := by
  obtain ⟨-, -, other, functional⟩ := builtChildren_apart c s0 listed
  rcases kept.2.2.objects _ found child.1 other with same | ⟨object, listed', stored'⟩
  · rw [same, stored]
  · rw [stored', functional object listed']

/-- Where a run that ran every step leaves the store: the run takes the steps'
branch, no status step would write, every child is as built, and the
homeserver.yaml ConfigMap exists. -/
structure Converged (store : Store Text Body) : Prop where
  ready : ¬ (s0.spec.createNewPostgreSQL ∧ store.postgresOperatorInstalled = false)
  settled : pending c s0 hs mss store = 0
  children : ∀ s, store.synapse? s0.key = some s →
    ∀ child ∈ builtChildren c s, store.objects child.1 = some child.2
  configMap : ∃ data, store.configMap? s0.key = some data

/-- A continuing step keeps a converged store converged. -/
theorem Converged.of_kept {store store' : Store Text Body} (held : Holds s0 store)
    (converged : Converged c s0 hs mss store) (kept : Kept c s0 store store') :
    Converged c s0 hs mss store' := by
  obtain ⟨status, found⟩ := held
  refine ⟨by rw [kept.2.2.installed]; exact converged.ready,
    (pending_eq_of_sameView c s0 hs mss ⟨status, found⟩ kept.2.1).trans converged.settled,
    fun s found' child listed => ?_, kept.2.2.configMap converged.configMap⟩
  rw [kept.2.1.synapse, found, Option.some.injEq] at found'
  subst found'
  exact kept.child c s0 found listed (converged.children _ found child listed)

/-- What every step of a run does, from a store that holds the Synapse: when it
does not continue it returns `Requeue` or an error; when it continues it keeps
what `Kept` asks; when it returns `Requeue` it lowers `pending`; on a
converged store it writes nothing but Patches of the homeserver.yaml
ConfigMap. -/
structure StepSpec (f : Store Text Body → Outcome × Store Text Body) : Prop where
  halts : ∀ store, Holds s0 store → (f store).1 ≠ .continueReconciling →
    (f store).1 = .requeue ∨ (f store).1.IsError
  continues : ∀ store, Holds s0 store → (f store).1 = .continueReconciling →
    Kept c s0 store (f store).2
  requeues : ∀ store, Holds s0 store → (f store).1 = .requeue →
    Holds s0 (f store).2 ∧ pending c s0 hs mss (f store).2 < pending c s0 hs mss store
  converged : ∀ store, Holds s0 store → Converged c s0 hs mss store →
    OnlyPatches s0 store (f store).2

variable {c s0 hs mss} in
/-- No step ends a run with `DoNotRequeue`. -/
theorem StepSpec.never {f : Store Text Body → Outcome × Store Text Body}
    (spec : StepSpec c s0 hs mss f) {store : Store Text Body} (held : Holds s0 store) :
    (f store).1 ≠ .doNotRequeue := fun stopped => by
  rcases spec.halts store held (by rw [stopped]; nofun) with requeued | error
  · rw [stopped] at requeued
    cases requeued
  · exact error.ne.2.2 stopped

/-- A step that never requeues: it ends with an error and writes nothing, or
continues within `Kept`. -/
theorem StepSpec.of_continuing {f : Store Text Body → Outcome × Store Text Body}
    (each : ∀ store, Holds s0 store → ((f store).1.IsError ∧ (f store).2 = store) ∨
      ((f store).1 = .continueReconciling ∧ Kept c s0 store (f store).2))
    (converged : ∀ store, Holds s0 store → Converged c s0 hs mss store →
      (f store).1 = .continueReconciling → OnlyPatches s0 store (f store).2) :
    StepSpec c s0 hs mss f := by
  constructor
  · intro store held halted
    rcases each store held with ⟨error, -⟩ | ⟨continued, -⟩
    exacts [.inr error, absurd continued halted]
  · intro store held continued
    rcases each store held with ⟨error, -⟩ | ⟨-, kept⟩
    exacts [absurd continued error.ne.1, kept]
  · intro store held requeued
    rcases each store held with ⟨error, -⟩ | ⟨continued, -⟩
    exacts [absurd requeued error.ne.2.1, absurd requeued (by simp [continued])]
  · intro store held settled
    rcases each store held with ⟨-, unchanged⟩ | ⟨continued, -⟩
    exacts [by rw [unchanged]; exact .refl s0 store, converged store held settled continued]

end Frames

/-! ## The three shapes of step -/

section Steps
variable (c : Collaborators Text Body) (s0 : Synapse) (hs : List Heisenbridge)
  (mss : List MautrixSignal)

/-- A status step of position `p`: a step as `StepSpec` says, which leaves
`p` settled when it continues. -/
structure SettlesAt (p : Position) (f : Store Text Body → Outcome × Store Text Body)
    extends StepSpec c s0 hs mss f : Prop where
  settles : ∀ store, Holds s0 store → (f store).1 = .continueReconciling →
    Settled c s0 hs mss p (f store).2

/-- A status step whose candidates are those of an active position's writer. -/
theorem statusStep_spec
    {candidate : Synapse → Store Text Body → Except (Outcome × Store Text Body) Synapse}
    {writerOf : Synapse → Store Text Body → Option StatusWriter} (builds : BuildsBy candidate writerOf)
    (p : Position) (active : p.Active s0)
    (agrees : ∀ store status,
      (writerOf { s0 with status } store).bind (·.candidate { s0 with status }) =
        (p.writer c s0 hs mss store { s0 with status }).bind (·.candidate { s0 with status })) :
    SettlesAt c s0 hs mss p (statusStep candidate s0.key) := by
  refine ⟨⟨?_, ?_, ?_, ?_⟩, ?_⟩
  · rintro store ⟨status, found⟩
    exact statusStep_halts builds found rfl
  · rintro store held continued
    obtain ⟨status, found⟩ := held
    rw [(statusStep_continue builds found rfl continued).1]
    exact .refl c s0 ⟨status, found⟩
  · rintro store ⟨status, found⟩ requeued
    obtain ⟨w, s', held, built, moved, stored⟩ := statusStep_requeue builds found rfl requeued
    have counted := agrees store status
    rw [held, Option.some_bind, built] at counted
    obtain ⟨w', held', built'⟩ := Option.bind_eq_some.mp counted.symm
    rw [stored]
    refine ⟨⟨s'.status, ?_⟩, pending_after_patch c s0 hs mss found active held' built' moved⟩
    rw [StatusWriter.candidate_eq built]
    simp
  · rintro store ⟨status, found⟩ converged
    have zero := (pendingCount_le_pending c s0 hs mss found active).trans_eq converged.settled
    have settled : (p.writer c s0 hs mss store { s0 with status }).bind
        (·.candidate { s0 with status }) = some { s0 with status } := by
      by_contra unsettled
      simp [pendingCount, unsettled] at zero
    rw [← agrees] at settled
    obtain ⟨w, held, built⟩ := Option.bind_eq_some.mp settled
    rw [statusStep_of_settled builds found rfl held built]
    exact .refl s0 store
  · rintro store ⟨status, found⟩ continued status' found'
    obtain ⟨unchanged, w, held, settled⟩ := statusStep_continue builds found rfl continued
    rw [unchanged] at found' ⊢
    obtain rfl : status = status' :=
      congrArg Synapse.status (Option.some.inj (found.symm.trans found'))
    have agreed := agrees store status
    rw [held, Option.some_bind, settled] at agreed
    simp [pendingCount, ← agreed]

/-- Where a resource step for the Synapse `s` may write: the homeserver.yaml
ConfigMap, or a child as built. -/
def Placed (s : Synapse) (id : Identity) (object : Object Text Body) : Prop :=
  (id = homeserverConfigMap s0 ∧ ∃ data, object = .configMap data) ∨ (id, object) ∈ builtChildren c s

variable [DecidableEq Text] [DecidableEq Body]

/-- `ReconcileResource` of a placed object that leaves the user's ConfigMap
as it is keeps what `Kept` asks. -/
theorem reconcileResource_kept {store : Store Text Body} {status : SynapseStatus}
    (found : store.synapse? s0.key = some { s0 with status }) {id : Identity}
    {object : Object Text Body} (placed : Placed c s0 { s0 with status } id object)
    (input : ∀ ref, s0.spec.configMap = some ref → id = .of .configMap (inputConfigMapKey s0 ref) →
      store.objects id = some object) :
    Kept c s0 store (reconcileResource id object store) := by
  have kinds : id.kind ≠ .synapse ∧ id.kind ≠ .secret := by
    rcases placed with ⟨rfl, -⟩ | listed
    · exact ⟨nofun, nofun⟩
    · exact ⟨(builtChildren_apart c s0 listed).1, (builtChildren_apart c s0 listed).2.1⟩
  have other : ∀ {kind : Kind} {key : ObjectRef}, kind ≠ id.kind →
      (reconcileResource id object store).objects (.of kind key) = store.objects (.of kind key) :=
    fun different => reconcileResource_objects_eq fun same => absurd (congrArg Identity.kind same) different
  have synapse : (reconcileResource id object store).synapse? s0.key = store.synapse? s0.key :=
    Store.synapse?_congr (other (Ne.symm kinds.1))
  refine ⟨⟨status, synapse.trans found⟩, ⟨synapse, fun st => ?_, fun key =>
    Store.secret?_congr (other (Ne.symm kinds.2))⟩, ⟨fun s found' id' unplaced => ?_, ?_, by simp⟩⟩
  · rw [configurationWriter_congr c s0 (fun ref given => Store.configMap?_congr
      (reconcileResource_objects_eq (input ref given ∘ Eq.symm)))]
  · rw [found, Option.some.injEq] at found'
    subst found'
    by_cases same : id' = id
    · subst same
      rcases placed with ⟨home, -⟩ | listed
      · exact absurd home unplaced
      · exact .inr ⟨object, listed, by simp⟩
    · exact .inl (reconcileResource_objects_eq (absurd · same))
  · rintro ⟨data, stored⟩
    rcases placed with ⟨rfl, data', rfl⟩ | listed
    · exact ⟨data', by simp [homeserverConfigMap]⟩
    · have apart := (builtChildren_apart c s0 listed).2.2.1
      exact ⟨data, (Store.configMap?_congr (reconcileResource_objects_eq
        fun same => absurd same.symm apart)).trans stored⟩

/-- On a converged store, `ReconcileResource` of a placed object writes at
most a Patch of the homeserver.yaml ConfigMap. -/
theorem reconcileResource_onlyPatches {store : Store Text Body} {status : SynapseStatus}
    (found : store.synapse? s0.key = some { s0 with status })
    (converged : Converged c s0 hs mss store) {id : Identity} {object : Object Text Body}
    (placed : Placed c s0 { s0 with status } id object) :
    OnlyPatches s0 store (reconcileResource id object store) := by
  rcases placed with ⟨rfl, -⟩ | listed
  · obtain ⟨data, stored⟩ := converged.configMap
    rw [Store.configMap?_iff] at stored
    refine ⟨_, reconcileResource_writes _ _ _, fun w written => ?_⟩
    simp only [homeserverConfigMap, stored] at written
    split at written <;> simp_all [homeserverConfigMap]
  · rw [reconcileResource_of_stored (converged.children _ found _ listed)]
    exact .refl s0 store

/-- A resource step whose object is placed, and which writes the user's
ConfigMap only with what it holds. -/
theorem resourceStep_spec
    {desired : Synapse → Store Text Body → Except Bytes (Identity × Object Text Body)}
    (placed : ∀ status store id object, desired { s0 with status } store = .ok (id, object) →
      Placed c s0 { s0 with status } id object)
    (input : ∀ status store id object, desired { s0 with status } store = .ok (id, object) →
      ∀ ref, s0.spec.configMap = some ref → id = .of .configMap (inputConfigMapKey s0 ref) →
        store.objects id = some object) :
    StepSpec c s0 hs mss (resourceStep desired s0.key) := by
  refine StepSpec.of_continuing c s0 hs mss (fun store ⟨status, found⟩ => ?_)
    (fun store ⟨status, found⟩ converged => ?_)
  · rw [resourceStep_eq found]
    cases made : desired { s0 with status } store with
    | error err => exact .inl ⟨trivial, rfl⟩
    | ok built =>
      obtain ⟨id, object⟩ := built
      exact .inr ⟨rfl, reconcileResource_kept c s0 found (placed _ _ _ _ made) (input _ _ _ _ made)⟩
  · rw [resourceStep_eq found]
    cases made : desired { s0 with status } store with
    | error err => exact fun _ => .refl s0 store
    | ok built =>
      obtain ⟨id, object⟩ := built
      exact fun _ => reconcileResource_onlyPatches c s0 hs mss found converged (placed _ _ _ _ made)

variable {c s0} in
/-- A successful `UpdateConfigMap` of homeserver.yaml writes at most one Patch
of it. -/
theorem updateConfigMap_onlyPatches {store store' : Store Text Body}
    {updateData : Fields → Except Bytes Fields}
    (success : updateConfigMap c.codec s0.key updateData homeserverYamlKey store = .ok store') :
    OnlyPatches s0 store store' := by
  obtain ⟨data, config, updated, -, -, -, rfl⟩ := updateConfigMap_eq_ok success
  split_ifs
  · exact .refl s0 store
  · exact ⟨[.patch (homeserverConfigMap s0)], rfl, by simp⟩

/-- What the configuration step reads survives an edit of homeserver.yaml that
keeps `server_name` and `report_stats`, also when the user's ConfigMap is
homeserver.yaml's own: the step then reads the edited document back. -/
theorem configuration_after_update {store : Store Text Body} {data : List (Bytes × Text)}
    {config updated : Fields} (stored : store.configMap? s0.key = some data)
    (loaded : loadYAMLFileFromConfigMapData c.codec data homeserverYamlKey = .ok config)
    (serverName : updated.get? (lit "server_name") = config.get? (lit "server_name"))
    (reportStats : updated.get? (lit "report_stats") = config.get? (lit "report_stats"))
    (status : SynapseStatus) :
    let patched := (store.put (homeserverConfigMap s0)
      (.configMap (dataSet data homeserverYamlKey (c.codec.marshal updated)))).record
        (.patch (homeserverConfigMap s0))
    (configurationWriter c s0 patched { s0 with status }).bind (·.candidate { s0 with status }) =
      (configurationWriter c s0 store { s0 with status }).bind (·.candidate { s0 with status }) := by
  intro patched
  by_cases own : ∀ ref, s0.spec.configMap = some ref → inputConfigMapKey s0 ref ≠ s0.key
  · have same : ∀ ref, s0.spec.configMap = some ref →
        patched.configMap? (inputConfigMapKey s0 ref) = store.configMap? (inputConfigMapKey s0 ref) :=
      fun ref given => Store.configMap?_congr (by simp [patched, homeserverConfigMap, own ref given])
    rw [configurationWriter_congr c s0 same]
  · push_neg at own
    obtain ⟨ref, given, same⟩ := own
    have reread : loadYAMLFileFromConfigMapData c.codec
        (dataSet data homeserverYamlKey (c.codec.marshal updated)) homeserverYamlKey =
          .ok updated.normalize := by
      simp [loadYAMLFileFromConfigMapData, c.codec.unmarshal_marshal]
    have sameKey : inputConfigMapKey { s0 with status } ref = s0.key := same
    have after : configurationWriter c s0 patched { s0 with status } =
        some (.parseInputSynapseConfigMap updated.normalize) := by
      simp only [configurationWriter, given, Option.isSome_some, ↓reduceIte, parseWriter_with_status,
        parseWriter, sameKey, patched, Store.configMap?_record, homeserverConfigMap,
        Store.configMap?_put_self, Option.some_bind, reread]
      rfl
    have before : configurationWriter c s0 store { s0 with status } =
        some (.parseInputSynapseConfigMap config) := by
      simp only [configurationWriter, given, Option.isSome_some, ↓reduceIte, parseWriter_with_status,
        parseWriter, sameKey, stored, Option.some_bind, loaded]
      rfl
    simp only [after, before, Option.some_bind, StatusWriter.candidate,
      parseHomeserverConfigMap_normalize, parseHomeserverConfigMap_congr serverName reportStats]

/-- A successful edit of homeserver.yaml that keeps `server_name` and
`report_stats` keeps what `Kept` asks. -/
theorem updateConfigMap_kept {store store' : Store Text Body} {status : SynapseStatus}
    (found : store.synapse? s0.key = some { s0 with status })
    {updateData : Fields → Except Bytes Fields}
    (keeps : KeepsConfiguration updateData) (success : updateConfigMap c.codec s0.key updateData homeserverYamlKey store = .ok store') :
    Kept c s0 store store' := by
  obtain ⟨data, config, updated, stored, loaded, made, rfl⟩ := updateConfigMap_eq_ok success
  split_ifs
  · exact .refl c s0 ⟨status, found⟩
  have other : ∀ {kind : Kind} {key : ObjectRef}, kind ≠ .configMap →
      ((store.put (homeserverConfigMap s0)
        (.configMap (dataSet data homeserverYamlKey (c.codec.marshal updated)))).record
          (.patch (homeserverConfigMap s0))).objects (.of kind key) = store.objects (.of kind key) :=
    fun different => by simp [homeserverConfigMap, different]
  have synapse := @Store.synapse?_congr _ _ _ _ s0.key (other (by decide))
  refine ⟨⟨status, synapse.trans found⟩, ⟨synapse, fun st => ?_, fun key =>
    Store.secret?_congr (other (by decide))⟩, ⟨fun _ _ id unplaced => .inl ?_, fun _ => ?_, by simp⟩⟩
  · obtain ⟨serverName, reportStats⟩ := keeps config updated made
    exact configuration_after_update c s0 stored loaded serverName reportStats st
  · exact Function.update_noteq unplaced _ _
  · exact ⟨dataSet data homeserverYamlKey (c.codec.marshal updated), by simp [homeserverConfigMap]⟩

/-- A step that edits homeserver.yaml with an `updateDataFunc` that keeps
`server_name` and `report_stats`. -/
theorem configMapStep_spec {updateData : Synapse → Fields → Except Bytes Fields}
    (keeps : ∀ s, KeepsConfiguration (updateData s)) :
    StepSpec c s0 hs mss (configMapStep c updateData s0.key) := by
  have keyed : ∀ status : SynapseStatus, ({ s0 with status } : Synapse).key = s0.key := fun _ => rfl
  refine StepSpec.of_continuing c s0 hs mss (fun store ⟨status, found⟩ => ?_)
    (fun store ⟨status, found⟩ _ => ?_)
  · rw [configMapStep_eq c found, keyed]
    cases made : updateConfigMap c.codec s0.key (updateData { s0 with status }) homeserverYamlKey
      store with
    | error err => exact .inl ⟨trivial, rfl⟩
    | ok store' => exact .inr ⟨rfl, updateConfigMap_kept c s0 found (keeps _) made⟩
  · rw [configMapStep_eq c found, keyed]
    cases made : updateConfigMap c.codec s0.key (updateData { s0 with status }) homeserverYamlKey
      store with
    | error err => exact fun _ => .refl s0 store
    | ok store' => exact fun _ => updateConfigMap_onlyPatches made

end Steps

end SynapseOperator.SynapseConvergence
