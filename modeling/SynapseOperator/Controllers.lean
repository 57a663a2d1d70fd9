import SynapseOperator.SynapseOutput
import SynapseOperator.MautrixSignalOutput

/-!
The two controllers on one store: the runs of `SynapseReconciler.Reconcile`
and of `MautrixSignalReconciler.Reconcile`, on any request and in any order,
and the writes of other parties between them.

1. **What a step may do to a Synapse.** A `StatusRelation` holds from a
   Synapse to each edit of its Status that either controller makes: the
   homeserver configuration, the database connection, the listed bridges,
   RUNNING, the two FAILED reasons, and `NeedsReconcile` set. Two are used:
   `Moved s s'`, where `s'` is `s` with another Status whose State and Reason
   are `s`'s or a pair the Synapse controller records (`Recorded`): FAILED with
   the reason of the missing user ConfigMap its Spec names, FAILED without the
   Postgres operator when its Spec asks for PostgreSQL, or RUNNING with no
   reason; and `KeepsBridges s s'`, where `s'` still marks enabled each kind of
   bridge `s` marks enabled. `Flagged s s'`: `s'` is `s`, or `s` with
   `NeedsReconcile` set. `EverySynapse R` relates every Synapse of one store
   to the one under its key in the next.
2. **The only write of a Synapse.** `updateSynapseStatus` writes the Synapse
   it reads again, with the Status it is handed (`updateSynapseStatus_every`);
   every other step leaves every Synapse identity alone (`SynapsesAlone`).
3. **Steps and runs.** From a store where each Synapse is stored under its own
   key (`Keyed`), every step of the Synapse controller relates every Synapse
   by every status relation and every step of the bridge controller flags it,
   and so do their runs, on any request (`reconcile_relates`,
   `bridgeReconcile_flags`). Both keep `Keyed`.
4. **Histories.** Across any interleaving of the runs of both controllers with
   the writes of other parties, every status relation holds from a Synapse
   those writes leave alone to the one at the end (`interleaving_relates`), and
   no Synapse appears under a key that held none. So the Synapse keeps its name
   and Spec, and its State and Reason are the ones it had or a recorded pair
   (`interleaving_moves`); and a kind of bridge its Status marks enabled stays
   enabled, whatever later List results say (`interleaving_keeps_bridges`).
5. **A Synapse and a bridge of one name.** Both controllers build the
   ConfigMap of that name in that namespace. Without user ConfigMaps, a
   Synapse run that returns `DoNotRequeue` leaves homeserver.yaml in it and a
   bridge run leaves config.yaml alone, so no store is at rest for both
   controllers (`same_name_never_both_at_rest`): each rewrites what the other
   wrote, on every run.
6. **A bridge and the Synapse it references.** Every run of the bridge,
   whatever it returns, leaves that Synapse with `NeedsReconcile` set and
   otherwise as it was (`bridgeReconcile_sets`); a run of the Synapse
   controller that returns `DoNotRequeue` found it clear, since its last step
   clears it (`reconcile_found_clear`). No bridge run changes whether the
   Postgres operator is installed (`bridgeReconcile_installed`). So from every
   store at rest for the Synapse the bridge run changes it, and from the store
   every bridge run leaves no Synapse run returns `DoNotRequeue`
   (`bridge_run_unsettles_synapse`): the Synapse's last step has to patch the
   flag clear again.

What is assumed: in 2 to 4, every Synapse is stored under its own key at the
start, and every write of another party keeps that so; the API server does,
since it stores an object under its name and namespace. Without it a step that
reads one Synapse could write its Status into another. In 5, the store holds
the Synapse and the bridge, the bridge's Synapse is ready, and the Synapse run
does not take the branch for a missing Postgres operator. In 6, the store holds
the bridge and its Synapse, and the Synapse run does not take that branch
either; no key is assumed, since the trigger reads the Synapse under the key
the bridge names and writes it back under its own.
-/
namespace SynapseOperator.Controllers
open SynapseOperator.Api SynapseOperator.Document SynapseOperator.Naming SynapseOperator.Cluster
  SynapseOperator.Status
  SynapseOperator.Bridges SynapseOperator.SynapseReconciler
open SynapseOperator.MautrixSignalReconciler (triggerSynapseReconciliation buildMautrixSignalStatus
  copyInputMautrixSignalConfigMap configureMautrixSignalConfigMap subreconcilersForMautrixSignal
  fetchSynapseInstance getLatestMautrixSignal_of_found configYamlKey)

variable {Text Body : Type}

/-! ## What a step may do to a Synapse -/

/-- The State and Reason the Synapse controller records on the Synapse `s`:
FAILED with the reason `parseInputSynapseConfigMap` gives for the user's
ConfigMap the Spec names, FAILED with `postgresOperatorMissing` when the Spec
asks for PostgreSQL, and RUNNING with no reason. -/
def Recorded (s : Synapse) (shown : Bytes × Bytes) : Prop :=
  (∃ ref, s.spec.configMap = some ref ∧
    shown = (lit "FAILED", SynapseOutput.missingConfigMapReason s ref)) ∨
  (s.spec.createNewPostgreSQL = true ∧ shown = (lit "FAILED", postgresOperatorMissing)) ∨
  shown = (lit "RUNNING", [])

/-- `s'` is the Synapse `s` with another Status, whose State and Reason are
`s`'s or a recorded pair. -/
def Moved (s s' : Synapse) : Prop :=
  s' = { s with status := s'.status } ∧
    ((s'.status.state, s'.status.reason) = (s.status.state, s.status.reason) ∨
      Recorded s (s'.status.state, s'.status.reason))

theorem Moved.refl (s : Synapse) : Moved s s := ⟨rfl, .inl rfl⟩

theorem Moved.trans {s s' s'' : Synapse} (first : Moved s s') (second : Moved s' s'') :
    Moved s s'' := by
  obtain ⟨rebuilt, kept⟩ := first
  obtain ⟨rebuilt', kept'⟩ := second
  rw [rebuilt] at rebuilt' kept'
  refine ⟨rebuilt', ?_⟩
  rcases kept' with same | recorded
  · rw [same]
    exact kept
  · exact .inr recorded

theorem Moved.key {s s' : Synapse} (moved : Moved s s') : s'.key = s.key := by
  rw [moved.1]
  rfl

/-- `s'` is `s`, or `s` with `NeedsReconcile` set: what the bridge controller's
trigger writes. -/
def Flagged (s s' : Synapse) : Prop := s' = s ∨ s' = { s with status.needsReconcile := true }

theorem Flagged.refl (s : Synapse) : Flagged s s := .inl rfl

theorem Flagged.trans {s s' s'' : Synapse} (first : Flagged s s') (second : Flagged s' s'') :
    Flagged s s'' := by
  rcases first with rfl | rfl <;> rcases second with rfl | rfl
  exacts [.inl rfl, .inr rfl, .inr rfl, .inr rfl]

theorem Flagged.key {s s' : Synapse} (flagged : Flagged s s') : s'.key = s.key := by
  rcases flagged with rfl | rfl <;> rfl

/-- Setting `NeedsReconcile` keeps the State and Reason. -/
theorem Flagged.moved {s s' : Synapse} (flagged : Flagged s s') : Moved s s' := by
  rcases flagged with rfl | rfl
  exacts [.refl _, ⟨rfl, .inl rfl⟩]

/-- `s'` is `s` with another Status that still marks enabled each kind of
bridge that `s`'s Status marks enabled. -/
def KeepsBridges (s s' : Synapse) : Prop :=
  s' = { s with status := s'.status } ∧
    (s.status.bridges.heisenbridge.enabled = true → s'.status.bridges.heisenbridge.enabled = true) ∧
    (s.status.bridges.mautrixSignal.enabled = true → s'.status.bridges.mautrixSignal.enabled = true)

/-- A relation from a Synapse to a later one that every write of either
controller keeps: it is reflexive and transitive, relates only Synapses that
differ in their Status, and holds from a Synapse to each edit of its Status
that one of the controllers makes. -/
structure StatusRelation (R : Synapse → Synapse → Prop) : Prop where
  refl : ∀ s, R s s
  trans : ∀ {s s' s''}, R s s' → R s' s'' → R s s''
  onlyStatus : ∀ {s s'}, R s s' → s' = { s with status := s'.status }
  configured : ∀ s configuration, R s { s with status.homeserverConfiguration := configuration }
  database : ∀ s info, R s { s with status.databaseConnectionInfo := info }
  marked : ∀ s hs mss, R s (markListedBridges s hs mss)
  running : ∀ s, R s (asRunning s)
  failedInput : ∀ s ref, s.spec.configMap = some ref →
    R s (asFailed s (SynapseOutput.missingConfigMapReason s ref))
  failedOperator : ∀ s, s.spec.createNewPostgreSQL = true → R s (asFailed s postgresOperatorMissing)
  flagged : ∀ s, R s { s with status.needsReconcile := true }

section StatusRelation
variable {R : Synapse → Synapse → Prop} (rel : StatusRelation R)
include rel

theorem StatusRelation.key {s s' : Synapse} (related : R s s') : s'.key = s.key := by
  rw [rel.onlyStatus related]
  rfl

theorem StatusRelation.of_flagged {s s' : Synapse} (flagged : Flagged s s') : R s s' := by
  rcases flagged with rfl | rfl
  exacts [rel.refl _, rel.flagged _]

end StatusRelation

/-- Every edit either controller makes to a Status keeps the State and Reason
or sets a recorded pair. -/
theorem moved_statusRelation : StatusRelation Moved where
  refl := Moved.refl
  trans := Moved.trans
  onlyStatus moved := moved.1
  configured _ _ := ⟨rfl, .inl rfl⟩
  database _ _ := ⟨rfl, .inl rfl⟩
  marked _ _ _ := ⟨rfl, .inl rfl⟩
  running _ := ⟨rfl, .inr (.inr (.inr rfl))⟩
  failedInput _ ref given := ⟨rfl, .inr (.inl ⟨ref, given, rfl⟩)⟩
  failedOperator _ asked := ⟨rfl, .inr (.inr (.inl ⟨asked, rfl⟩))⟩
  flagged _ := Flagged.moved (.inr rfl)

/-- Marking the listed bridges only ever sets `Enabled`. -/
theorem markBridges_enabled {Bridge : Type} (name synapseName : Bridge → Bytes) (s : Synapse)
    {status : BridgeStatus} (items : List Bridge) (enabled : status.enabled = true) :
    (markBridges name synapseName s status items).enabled = true := by
  rw [markBridges_eq]
  split
  · rfl
  · exact enabled

/-- No edit either controller makes to a Status clears the `Enabled` of a kind
of bridge. -/
theorem keepsBridges_statusRelation : StatusRelation KeepsBridges where
  refl _ := ⟨rfl, id, id⟩
  trans := by
    rintro s s' s'' ⟨rebuilt, heisenbridge, mautrixSignal⟩ ⟨rebuilt', heisenbridge', mautrixSignal'⟩
    rw [rebuilt] at rebuilt'
    exact ⟨rebuilt', heisenbridge' ∘ heisenbridge, mautrixSignal' ∘ mautrixSignal⟩
  onlyStatus kept := kept.1
  configured _ _ := ⟨rfl, id, id⟩
  database _ _ := ⟨rfl, id, id⟩
  marked s _ _ := ⟨rfl, markBridges_enabled _ _ s _, markBridges_enabled _ _ s _⟩
  running _ := ⟨rfl, id, id⟩
  failedInput _ _ _ := ⟨rfl, id, id⟩
  failedOperator _ _ := ⟨rfl, id, id⟩
  flagged _ := ⟨rfl, id, id⟩

/-! ## Every Synapse of a store -/

section Relations
variable {R R' : Synapse → Synapse → Prop}

/-- Every Synapse of `store` is in `store'` under the same key, related to it
by `R`, and `store'` holds no Synapse under a key where `store` holds none. -/
def EverySynapse (R : Synapse → Synapse → Prop) (store store' : Store Text Body) : Prop :=
  ∀ k, Option.Rel R (store.synapse? k) (store'.synapse? k)

/-- Every Synapse of the store is stored under its own key. -/
def Keyed (store : Store Text Body) : Prop := ∀ k s, store.synapse? k = some s → s.key = k

theorem rel_trans (trans : ∀ {s s' s''}, R s s' → R s' s'' → R s s'') :
    ∀ {x y z : Option Synapse}, Option.Rel R x y → Option.Rel R y z → Option.Rel R x z
  | _, _, _, .some first, .some second => .some (trans first second)
  | _, _, _, .none, .none => .none

theorem rel_mono (sub : ∀ {s s'}, R s s' → R' s s') :
    ∀ {x y : Option Synapse}, Option.Rel R x y → Option.Rel R' x y
  | _, _, .some related => .some (sub related)
  | _, _, .none => .none

theorem EverySynapse.refl (refl : ∀ s, R s s) (store : Store Text Body) : EverySynapse R store store := by
  intro k
  cases store.synapse? k with
  | none => exact .none
  | some s => exact .some (refl s)

theorem EverySynapse.trans (trans : ∀ {s s' s''}, R s s' → R s' s'' → R s s'')
    {a b d : Store Text Body} (first : EverySynapse R a b) (second : EverySynapse R b d) :
    EverySynapse R a d :=
  fun k => @rel_trans R trans _ _ _ (first k) (second k)

theorem EverySynapse.mono (sub : ∀ {s s'}, R s s' → R' s s') {a b : Store Text Body}
    (related : EverySynapse R a b) : EverySynapse R' a b :=
  fun k => @rel_mono R R' sub _ _ (related k)

/-- A Synapse of the later store comes from one of the earlier. -/
theorem EverySynapse.found {a b : Store Text Body} (related : EverySynapse R a b) {k : ObjectRef}
    {s' : Synapse} (found : b.synapse? k = some s') : ∃ s, a.synapse? k = some s ∧ R s s' := by
  have rel := related k
  rw [found] at rel
  generalize a.synapse? k = x at rel
  cases rel with
  | some r => exact ⟨_, rfl, r⟩

theorem Keyed.of_every (keeps : ∀ {s s'}, R s s' → s'.key = s.key) {a b : Store Text Body}
    (keyed : Keyed a) (related : EverySynapse R a b) : Keyed b := by
  intro k s' found
  obtain ⟨s, read, r⟩ := related.found found
  exact (keeps r).trans (keyed k s read)

/-- A write that leaves every Synapse identity alone relates every Synapse to
itself. -/
theorem EverySynapse.of_objects (refl : ∀ s, R s s) {a b : Store Text Body}
    (alone : ∀ k, b.objects (.of .synapse k) = a.objects (.of .synapse k)) : EverySynapse R a b := by
  intro k
  rw [Store.synapse?_congr (alone k)]
  exact EverySynapse.refl refl a k

/-- Writing under `k` a Synapse related to the one read there. -/
theorem EverySynapse.of_put (refl : ∀ s, R s s) {a : Store Text Body} {k : ObjectRef} {s s' : Synapse}
    (found : a.synapse? k = some s) (related : R s s') (w : Write) :
    EverySynapse R a ((a.put (.of .synapse k) (.synapse s')).record w) := by
  intro k'
  by_cases same : k' = k
  · subst same
    rw [found, Store.synapse?_record, Store.synapse?_put_self]
    exact .some related
  · have other : ((a.put (.of .synapse k) (.synapse s')).record w).synapse? k' = a.synapse? k' :=
      Store.synapse?_congr (by simp [Function.update_apply, same])
    rw [other]
    exact EverySynapse.refl refl a k'

/-- `updateSynapseStatus` writes at most the Synapse under its argument's key,
as it read it, with its argument's Status. -/
theorem updateSynapseStatus_every (refl : ∀ s, R s s) {synapse : Synapse} {a b : Store Text Body}
    {patched : Bool} (success : updateSynapseStatus synapse a = .ok (patched, b))
    (related : ∀ current, a.synapse? synapse.key = some current →
      R current { current with status := synapse.status }) :
    EverySynapse R a b := by
  unfold updateSynapseStatus at success
  split at success
  · cases success
  rename_i current found
  split_ifs at success <;> cases success
  · exact .refl refl a
  · rw [mergeStatus_self]
    exact .of_put refl found (related current found) _

/-- A step leaves every Synapse identity alone, whatever it returns. -/
def SynapsesAlone (f : Store Text Body → Outcome × Store Text Body) : Prop :=
  ∀ a k, (f a).2.objects (.of .synapse k) = a.objects (.of .synapse k)

/-- A step relates every Synapse by `R`, from every store that keeps each under
its own key. -/
def StepRelates (R : Synapse → Synapse → Prop) (f : Store Text Body → Outcome × Store Text Body) :
    Prop :=
  ∀ a, Keyed a → EverySynapse R a (f a).2

theorem SynapsesAlone.relates (refl : ∀ s, R s s) {f : Store Text Body → Outcome × Store Text Body}
    (alone : SynapsesAlone f) : StepRelates R f :=
  fun a _ => .of_objects refl (alone a)

/-- A run of such steps relates every Synapse by `R` too, and keeps every
Synapse under its own key, whatever it returns. -/
theorem runSubreconcilers_relates (refl : ∀ s, R s s)
    (trans : ∀ {s s' s''}, R s s' → R s' s'' → R s s'') (keeps : ∀ {s s'}, R s s' → s'.key = s.key)
    {steps : List (Store Text Body → Outcome × Store Text Body)} (each : ∀ f ∈ steps, StepRelates R f) :
    StepRelates R (runSubreconcilers steps) :=
  fun a keyed => @runSubreconcilers_preserve _ Keyed (EverySynapse R) (EverySynapse.refl refl)
    (@EverySynapse.trans Text Body R trans) steps
    (fun f listed b keyed' => ⟨each f listed b keyed', fun _ => keyed'.of_every keeps (each f listed b keyed')⟩)
    a keyed

/-- A run of steps that each keep a view of the store keeps it too, whatever
it returns. -/
theorem runSubreconcilers_keeps {β : Type} (view : Store Text Body → β)
    {steps : List (Store Text Body → Outcome × Store Text Body)}
    (each : ∀ f ∈ steps, ∀ a, view (f a).2 = view a) (a : Store Text Body) :
    view (runSubreconcilers steps a).2 = view a :=
  @runSubreconcilers_preserve _ (fun _ => True) (fun (b b' : Store Text Body) => view b' = view b)
    (fun _ => rfl) (fun first second => second.trans first) steps
    (fun f listed b _ => ⟨each f listed b, fun _ => trivial⟩) a trivial

/-- A run of steps that each leave every Synapse identity alone does too. -/
theorem runSubreconcilers_alone {steps : List (Store Text Body → Outcome × Store Text Body)}
    (each : ∀ f ∈ steps, SynapsesAlone f) : SynapsesAlone (runSubreconcilers steps) :=
  fun a k => runSubreconcilers_keeps (·.objects (.of .synapse k)) (fun f listed b => each f listed b k) a

end Relations

/-! ## The Synapse controller keeps every status relation -/

/-- A status step's candidate hands on the Synapse it read, related by `R`,
and when it ends the step it leaves every Synapse related. -/
structure RelatesBy (R : Synapse → Synapse → Prop)
    (candidate : Synapse → Store Text Body → Except (Outcome × Store Text Body) Synapse) : Prop where
  ok : ∀ s a s', candidate s a = .ok s' → R s s'
  ended : ∀ s a ended, a.synapse? s.key = some s → candidate s a = .error ended →
    EverySynapse R a ended.2

theorem relatesBy_edit {R : Synapse → Synapse → Prop} (edit : Synapse → Synapse) (related : ∀ s, R s (edit s)) :
    @RelatesBy Text Body R fun s _ => .ok (edit s) :=
  ⟨fun s _ _ made => by cases made; exact related s, fun _ _ _ _ made => by cases made⟩

section Synapse
variable {R : Synapse → Synapse → Prop} (rel : StatusRelation R)
include rel

/-- `setFailedState` on the Synapse read, with an edit `R` allows. -/
theorem afterFailedState_relates {s : Synapse} {reason : Bytes} {a : Store Text Body}
    (found : a.synapse? s.key = some s) (failed : R s (asFailed s reason)) :
    EverySynapse R a (afterFailedState s reason a) := by
  unfold afterFailedState setFailedState
  rcases written : updateSynapseStatus (asFailed s reason) a with _ | ⟨patched, b⟩
  · exact .refl rel.refl a
  · refine updateSynapseStatus_every rel.refl written fun current read => ?_
    cases read.symm.trans found
    exact failed

theorem relatesBy_parseInputSynapseConfigMapCandidate (c : Collaborators Text Body) :
    RelatesBy R (parseInputSynapseConfigMapCandidate c) := by
  constructor
  · intro s a s' made
    unfold parseInputSynapseConfigMapCandidate at made
    dsimp only at made
    split at made
    · cases made
    split at made
    · cases made
    split at made <;> cases made
    rename_i parsed
    obtain ⟨_, -, parsing⟩ := except_bind_eq_ok.mp parsed
    obtain ⟨_, rfl⟩ := parseHomeserverConfigMap_eq_ok parsing
    exact rel.configured s _
  · intro s a ended found made
    unfold parseInputSynapseConfigMapCandidate at made
    dsimp only at made
    split at made
    · cases made
      exact .refl rel.refl a
    rename_i ref given
    split at made
    · cases made
      exact afterFailedState_relates rel found (rel.failedInput s ref given)
    split at made <;> cases made
    exact .refl rel.refl a

theorem relatesBy_postgreSQLInfosCandidate : @RelatesBy Text Body R postgreSQLInfosCandidate := by
  constructor
  · intro s a s' made
    unfold postgreSQLInfosCandidate at made
    split at made
    · cases made
    split at made <;> cases made
    rename_i updating
    obtain ⟨_, rfl⟩ := updateSynapseStatusDatabase_eq_ok updating
    exact rel.database s _
  · intro s a ended _ made
    unfold postgreSQLInfosCandidate at made
    split at made
    · cases made
      exact .refl rel.refl a
    split at made <;> cases made
    exact .refl rel.refl a

/-- A status step reads the Synapse under its request and writes it back,
related. -/
theorem statusStep_relates {candidate : Synapse → Store Text Body → Except (Outcome × Store Text Body) Synapse}
    (relates : RelatesBy R candidate) (req : ObjectRef) : StepRelates R (statusStep candidate req) := by
  intro a keyed
  cases found : a.synapse? req with
  | none =>
    simp only [statusStep, getLatestSynapse, found]
    exact .refl rel.refl a
  | some s =>
    have read : a.synapse? s.key = some s := by rw [keyed req s found]; exact found
    simp only [statusStep, getLatestSynapse_of_found found]
    split
    · exact relates.ended s a _ read ‹_›
    rename_i s' made
    have related := relates.ok s a s' made
    split
    · exact .refl rel.refl a
    all_goals
      rename_i written
      refine updateSynapseStatus_every rel.refl written fun current current_read => ?_
      rw [rel.key related, read] at current_read
      cases current_read
      exact (congrArg (R _) (rel.onlyStatus related)).mp related

end Synapse

section Resources
variable [DecidableEq Text]

theorem configMapStep_alone (c : Collaborators Text Body) (updateData : Synapse → Fields → Except Bytes Fields)
    (req : ObjectRef) : SynapsesAlone (configMapStep c updateData req) := by
  intro a k
  unfold configMapStep
  split
  · rfl
  split
  · rfl
  · exact updateConfigMap_objects ‹_› (by simp)

variable [DecidableEq Body]

/-- A resource step whose builder names no Synapse. -/
theorem resourceStep_alone {desired : Synapse → Store Text Body → Except Bytes (Identity × Object Text Body)}
    (other : ∀ s a id object, desired s a = .ok (id, object) → id.kind ≠ .synapse) (req : ObjectRef) :
    SynapsesAlone (resourceStep desired req) := by
  intro a k
  unfold resourceStep
  split
  · rfl
  split
  · rfl
  · rename_i made
    exact reconcileResource_objects_eq fun same => absurd (congrArg Identity.kind same).symm (other _ _ _ _ made)

theorem builtChild_alone (c : Collaborators Text Body) {kind : Kind} (other : kind ≠ .synapse)
    (name : Synapse → Bytes) (req : ObjectRef) : SynapsesAlone (builtChild c kind name req) :=
  resourceStep_alone (fun _ _ _ _ made => by cases made; exact other) req

variable {R : Synapse → Synapse → Prop} (rel : StatusRelation R) (c : Collaborators Text Body)
include rel

/-- Every step a run of the Synapse controller lists relates every Synapse by
every status relation. -/
theorem subreconcilersForSynapse_relates (hs : List Heisenbridge) (mss : List MautrixSignal)
    (req : ObjectRef) (s : Synapse) : ∀ f ∈ subreconcilersForSynapse c hs mss req s, StepRelates R f := by
  have alone : ∀ {f : Store Text Body → Outcome × Store Text Body}, SynapsesAlone f → StepRelates R f :=
    fun alone => alone.relates rel.refl
  have child : ∀ {kind : Kind} {name : Synapse → Bytes}, kind ≠ .synapse →
      StepRelates R (builtChild c kind name req) :=
    fun other => alone (builtChild_alone c other _ req)
  intro f listed
  simp only [subreconcilersForSynapse, List.mem_append, List.mem_cons, List.mem_ite_nil_right,
    List.not_mem_nil, or_false, or_assoc] at listed
  rcases listed with first | rfl | ⟨-, rfl | rfl | rfl | rfl⟩ | ⟨-, rfl⟩ | ⟨-, rfl⟩ | ⟨-, rfl | rfl⟩ |
    rfl | rfl | rfl | rfl
  · split at first <;> simp only [List.mem_cons, List.not_mem_nil, or_false] at first <;>
      rcases first with rfl | rfl
    · exact statusStep_relates rel (relatesBy_parseInputSynapseConfigMapCandidate rel c) req
    · refine alone (resourceStep_alone (fun s a id object made => ?_) req)
      cases copied : configMapForSynapseCopy s a <;> rw [copied] at made <;> cases made
      nofun
    · exact statusStep_relates rel (relatesBy_edit withValuesConfiguration fun s => rel.configured s _) req
    · exact alone (resourceStep_alone (fun _ _ _ _ made => by cases made; nofun) req)
  · exact statusStep_relates rel (relatesBy_edit (markListedBridges · hs mss) fun s => rel.marked s hs mss) req
  · exact alone (resourceStep_alone (fun _ _ _ _ made => by cases made; nofun) req)
  · exact child nofun
  · exact statusStep_relates rel (relatesBy_postgreSQLInfosCandidate rel) req
  all_goals first
    | exact alone (configMapStep_alone c _ req)
    | exact child nofun
    | exact statusStep_relates rel (relatesBy_edit asRunning rel.running) req

/-- Every run of the Synapse controller, on any request and whatever it
returns, relates every Synapse by every status relation. -/
theorem reconcile_relates (hs : List Heisenbridge) (mss : List MautrixSignal) (req : ObjectRef) :
    StepRelates R (reconcile c hs mss req) := by
  intro a keyed
  cases found : a.synapse? req with
  | none =>
    simp only [reconcile, getLatestSynapse, found]
    exact .refl rel.refl a
  | some s =>
    have read : a.synapse? s.key = some s := by rw [keyed req s found]; exact found
    simp only [reconcile, getLatestSynapse_of_found found]
    split_ifs with missing
    · exact afterFailedState_relates rel read (rel.failedOperator s missing.1)
    · exact runSubreconcilers_relates rel.refl rel.trans rel.key
        (subreconcilersForSynapse_relates rel c hs mss req s) a keyed

end Resources

/-! ## The bridge controller only flags a Synapse -/

/-- The trigger reads the bridge's Synapse and writes it back with
`NeedsReconcile` set. -/
theorem triggerSynapseReconciliation_flags (req : ObjectRef) :
    StepRelates Flagged (@triggerSynapseReconciliation Text Body req) := by
  intro a keyed
  unfold triggerSynapseReconciliation
  split
  · exact .refl Flagged.refl a
  rename_i ms _
  split
  · exact .refl Flagged.refl a
  rename_i s fetched
  split
  · exact .refl Flagged.refl a
  rename_i b success
  have found : a.synapse? ms.synapseKey = some s := by
    unfold fetchSynapseInstance at fetched
    split at fetched <;> cases fetched
    assumption
  have read : a.synapse? s.key = some s := by rw [keyed _ s found]; exact found
  unfold MautrixSignalReconciler.updateSynapseStatus at success
  rcases written : updateSynapseStatus { s with status.needsReconcile := true } a with _ | ⟨patched, b'⟩ <;>
    rw [written] at success <;> cases success
  refine updateSynapseStatus_every Flagged.refl written fun current current_read => ?_
  cases read.symm.trans current_read
  exact .inr rfl

/-- With the bridge and the Synapse it references stored, the trigger continues
and leaves that Synapse with `NeedsReconcile` set. -/
theorem triggerSynapseReconciliation_sets {req : ObjectRef} {store : Store Text Body} {ms : MautrixSignal}
    {s : Synapse} (bridge : store.mautrixSignal? req = some ms) (refers : ms.synapseKey = s.key)
    (found : store.synapse? s.key = some s) :
    (triggerSynapseReconciliation req store).1 = .continueReconciling ∧
      (triggerSynapseReconciliation req store).2.synapse? s.key = some { s with status.needsReconcile := true } := by
  have fetched : fetchSynapseInstance ms store = .ok s := by simp [fetchSynapseInstance, refers, found]
  simp only [triggerSynapseReconciliation, getLatestMautrixSignal_of_found bridge, fetched,
    MautrixSignalReconciler.updateSynapseStatus, updateSynapseStatus_of_found (show
      store.synapse? (Synapse.key { s with status.needsReconcile := true }) = some s from found)]
  split_ifs with same
  · rw [same]
    exact ⟨rfl, found⟩
  · exact ⟨rfl, (Store.synapse?_record _ _ _).trans (Store.synapse?_put_self _ _ _)⟩

theorem buildMautrixSignalStatus_alone (c : MautrixSignalReconciler.Collaborators Text Body) (req : ObjectRef) :
    SynapsesAlone (buildMautrixSignalStatus c req) := by
  intro a k
  unfold buildMautrixSignalStatus
  split
  · rfl
  split
  · rfl
  split
  · rfl
  split
  · rfl
  all_goals
    rename_i success
    obtain ⟨-, -, -, others⟩ := MautrixSignalOutput.updateMautrixSignalStatus_eq_ok success
    exact others _ (by simp)

section Resources
variable [DecidableEq Text]

theorem configureMautrixSignalConfigMap_alone (c : MautrixSignalReconciler.Collaborators Text Body)
    (req : ObjectRef) : SynapsesAlone (configureMautrixSignalConfigMap c req) := by
  intro a k
  unfold configureMautrixSignalConfigMap
  split
  · rfl
  split
  · rfl
  · exact updateConfigMap_objects ‹_› (by simp)

variable [DecidableEq Body]

theorem copyInputMautrixSignalConfigMap_alone (req : ObjectRef) :
    SynapsesAlone (@copyInputMautrixSignalConfigMap Text Body _ _ req) := by
  intro a k
  unfold copyInputMautrixSignalConfigMap
  split
  · rfl
  split
  · split
    · rename_i success
      obtain ⟨-, -, -, others⟩ := MautrixSignalOutput.updateMautrixSignalStatus_eq_ok success
      exact others _ (by simp)
    · rfl
  · split
    · rfl
    · exact reconcileResource_objects_eq (by simp)

/-- A resource step of the bridge controller whose builder names no Synapse. -/
theorem bridgeResourceStep_alone
    {desired : MautrixSignal → Store Text Body → Except Bytes (Identity × Object Text Body)}
    (other : ∀ ms a id object, desired ms a = .ok (id, object) → id.kind ≠ .synapse) (req : ObjectRef) :
    SynapsesAlone (MautrixSignalReconciler.resourceStep desired req) := by
  intro a k
  unfold MautrixSignalReconciler.resourceStep
  split
  · rfl
  split
  · rfl
  · rename_i made
    exact reconcileResource_objects_eq fun same => absurd (congrArg Identity.kind same).symm (other _ _ _ _ made)

variable (c : MautrixSignalReconciler.Collaborators Text Body)

/-- The steps a run of the bridge controller lists after the trigger: the
Status step, the two steps on the user's ConfigMap, the step that builds the
default one, and builders of children of other kinds than Synapse. -/
theorem bridgeSteps_cases {req : ObjectRef} {ms : MautrixSignal} {f : Store Text Body → Outcome × Store Text Body}
    (listed : f ∈ (subreconcilersForMautrixSignal c req ms).tail) :
    f = buildMautrixSignalStatus c req ∨ f = copyInputMautrixSignalConfigMap req ∨
      f = configureMautrixSignalConfigMap c req ∨
      f = MautrixSignalReconciler.reconcileMautrixSignalConfigMap c req ∨
      ∃ kind name, kind ≠ .synapse ∧ f = MautrixSignalReconciler.builtChild c kind name req := by
  simp only [subreconcilersForMautrixSignal, List.cons_append, List.singleton_append, List.tail_cons,
    List.mem_append, List.mem_cons, List.mem_ite_nil_right, List.not_mem_nil, or_false, false_or,
    or_assoc] at listed
  rcases listed with rfl | first | ⟨-, rfl | rfl⟩ | rfl | rfl | rfl | rfl | rfl
  · exact .inl rfl
  · split_ifs at first <;> simp only [List.mem_cons, List.not_mem_nil, or_false] at first
    · rcases first with rfl | rfl
      exacts [.inr (.inl rfl), .inr (.inr (.inl rfl))]
    · exact .inr (.inr (.inr (.inl first)))
  all_goals exact .inr (.inr (.inr (.inr ⟨_, _, by decide, rfl⟩)))

/-- Every step a run of the bridge controller lists after the trigger leaves
every Synapse identity alone. -/
theorem bridgeSteps_alone (req : ObjectRef) (ms : MautrixSignal) :
    ∀ f ∈ (subreconcilersForMautrixSignal c req ms).tail, SynapsesAlone f := by
  intro f listed
  rcases bridgeSteps_cases c listed with rfl | rfl | rfl | rfl | ⟨kind, name, other, rfl⟩
  exacts [buildMautrixSignalStatus_alone c req, copyInputMautrixSignalConfigMap_alone req,
    configureMautrixSignalConfigMap_alone c req, bridgeResourceStep_alone (fun _ _ _ _ made => by
      cases made; nofun) req, bridgeResourceStep_alone (fun _ _ _ _ made => by cases made; exact other) req]

/-- Every step a run of the bridge controller lists flags every Synapse. -/
theorem subreconcilersForMautrixSignal_flags (req : ObjectRef) (ms : MautrixSignal) :
    ∀ f ∈ subreconcilersForMautrixSignal c req ms, StepRelates Flagged f := by
  intro f listed
  rcases List.mem_cons.mp listed with rfl | later
  · exact triggerSynapseReconciliation_flags req
  · exact (bridgeSteps_alone c req ms f later).relates Flagged.refl

/-- Every run of the bridge controller, on any request and whatever it
returns, leaves every Synapse as it was or with `NeedsReconcile` set. -/
theorem bridgeReconcile_flags (req : ObjectRef) :
    StepRelates Flagged (MautrixSignalReconciler.reconcile c req) := by
  intro a keyed
  unfold MautrixSignalReconciler.reconcile
  split
  · exact .refl Flagged.refl a
  · exact runSubreconcilers_relates Flagged.refl Flagged.trans Flagged.key
      (subreconcilersForMautrixSignal_flags c req _) a keyed

/-- A run of a bridge, whatever it returns, leaves the stored Synapse it
references with `NeedsReconcile` set and otherwise as it was. -/
theorem bridgeReconcile_sets {req : ObjectRef} {store : Store Text Body} {ms : MautrixSignal} {s : Synapse}
    (bridge : store.mautrixSignal? req = some ms) (refers : ms.synapseKey = s.key)
    (found : store.synapse? s.key = some s) :
    (MautrixSignalReconciler.reconcile c req store).2.synapse? s.key =
      some { s with status.needsReconcile := true } := by
  obtain ⟨continued, flagged⟩ := triggerSynapseReconciliation_sets bridge refers found
  simp only [MautrixSignalReconciler.reconcile, getLatestMautrixSignal_of_found bridge]
  rw [show subreconcilersForMautrixSignal c req ms =
      triggerSynapseReconciliation req :: (subreconcilersForMautrixSignal c req ms).tail from rfl,
    runSubreconcilers_cons, if_pos continued,
    Store.synapse?_congr (runSubreconcilers_alone (bridgeSteps_alone c req ms) _ s.key)]
  exact flagged

end Resources

/-! ## Histories -/

section Histories
variable [DecidableEq Text] [DecidableEq Body] (c : Collaborators Text Body)
  (c' : MautrixSignalReconciler.Collaborators Text Body)

/-- How the store can go from one state to another under both controllers:
the runs of either, on any request and with any List results, and between
them the writes of other parties that keep every Synapse under its own key and
leave the Synapse under `key` alone. -/
inductive Interleaving (key : ObjectRef) : Store Text Body → Store Text Body → Prop
  | done (store : Store Text Body) : Interleaving key store store
  | synapseRun {store store' : Store Text Body} (hs : List Heisenbridge) (mss : List MautrixSignal)
      (req : ObjectRef) :
      Interleaving key (reconcile c hs mss req store).2 store' → Interleaving key store store'
  | bridgeRun {store store' : Store Text Body} (req : ObjectRef) :
      Interleaving key (MautrixSignalReconciler.reconcile c' req store).2 store' →
        Interleaving key store store'
  | other {store mid store' : Store Text Body} (keeps : Keyed store → Keyed mid)
      (alone : mid.objects (.of .synapse key) = store.objects (.of .synapse key)) :
      Interleaving key mid store' → Interleaving key store store'

/-- Across any interleaving of both controllers' runs with the writes of other
parties, from a store that keeps every Synapse under its own key, every status
relation holds from the Synapse under `key` to the one there at the end; and
none appears there if none was. -/
theorem interleaving_relates {R : Synapse → Synapse → Prop} (rel : StatusRelation R) {key : ObjectRef}
    {store store' : Store Text Body} (keyed : Keyed store) (history : Interleaving c c' key store store') :
    Option.Rel R (store.synapse? key) (store'.synapse? key) := by
  induction history with
  | done store => exact EverySynapse.refl rel.refl store key
  | synapseRun hs mss req _ ih =>
    have relates := reconcile_relates rel c hs mss req _ keyed
    exact @rel_trans R rel.trans _ _ _ (relates key) (ih (keyed.of_every rel.key relates))
  | bridgeRun req _ ih =>
    have flags := bridgeReconcile_flags c' req _ keyed
    exact @rel_trans R rel.trans _ _ _ (@rel_mono Flagged R rel.of_flagged _ _ (flags key))
      (ih (keyed.of_every Flagged.key flags))
  | other keeps alone _ ih =>
    rw [← Store.synapse?_congr alone]
    exact ih (keeps keyed)

/-- Across any interleaving of both controllers' runs with the writes of other
parties, from a store that keeps every Synapse under its own key, the Synapse
under `key` keeps its name and Spec, and its State and Reason are the ones it
had or a pair the Synapse controller records; and none appears there if none
was. -/
theorem interleaving_moves {key : ObjectRef} {store store' : Store Text Body} (keyed : Keyed store)
    (history : Interleaving c c' key store store') :
    Option.Rel Moved (store.synapse? key) (store'.synapse? key) :=
  interleaving_relates c c' moved_statusRelation keyed history

/-- The store of the bridge examples keeps its one Synapse under its key. -/
theorem bridgeStore_keyed : Keyed (MautrixSignalRuns.bridgeStore true) := by
  intro k s found
  by_cases same : k = MautrixSignalRuns.readySynapse.key
  · subst same
    simp [Store.synapse?, MautrixSignalRuns.bridgeStore] at found
    rw [← found]
  · simp [Store.synapse?, MautrixSignalRuns.bridgeStore, same] at found

/-- A run of the bridge controller, then a run of the Synapse controller with
the bridge listed. -/
theorem interleaving_moves_example :
    let store := MautrixSignalRuns.bridgeStore true
    let bridged := (MautrixSignalReconciler.reconcile MautrixSignalRuns.exampleCollaborators
      MautrixSignalRuns.freshBridge.key store).2
    let last := (reconcile SynapseRuns.exampleCollaborators [] [MautrixSignalRuns.freshBridge]
      MautrixSignalRuns.readySynapse.key bridged).2
    Keyed store ∧
      Interleaving SynapseRuns.exampleCollaborators MautrixSignalRuns.exampleCollaborators
        MautrixSignalRuns.readySynapse.key store last ∧
      Option.Rel Moved (store.synapse? MautrixSignalRuns.readySynapse.key)
        (last.synapse? MautrixSignalRuns.readySynapse.key) := by
  intro store bridged last
  have history : Interleaving SynapseRuns.exampleCollaborators MautrixSignalRuns.exampleCollaborators
      MautrixSignalRuns.readySynapse.key store last :=
    .bridgeRun _ (.synapseRun [] [MautrixSignalRuns.freshBridge] _ (.done _))
  exact ⟨bridgeStore_keyed, history, interleaving_moves _ _ bridgeStore_keyed history⟩

/-- Once the Status of the Synapse under `key` marks a kind of bridge enabled,
it stays so across any interleaving of both controllers' runs with the writes
of other parties, from a store that keeps every Synapse under its own key:
whatever the List results of later runs, even with no bridge of that kind left.
`updateSynapseStatusBridges` only ever sets `Enabled`, and no other write
clears it. -/
theorem interleaving_keeps_bridges {key : ObjectRef} {store store' : Store Text Body} (keyed : Keyed store)
    (history : Interleaving c c' key store store') :
    Option.Rel KeepsBridges (store.synapse? key) (store'.synapse? key) :=
  interleaving_relates c c' keepsBridges_statusRelation keyed history

/-- A run of the Synapse controller with the bridge listed, then one with it
gone, then a run of the bridge controller. -/
theorem interleaving_keeps_bridges_example :
    let store := MautrixSignalRuns.bridgeStore true
    let listed := (reconcile SynapseRuns.exampleCollaborators [] [MautrixSignalRuns.freshBridge]
      MautrixSignalRuns.readySynapse.key store).2
    let gone := (reconcile SynapseRuns.exampleCollaborators [] [] MautrixSignalRuns.readySynapse.key listed).2
    let last := (MautrixSignalReconciler.reconcile MautrixSignalRuns.exampleCollaborators
      MautrixSignalRuns.freshBridge.key gone).2
    Keyed store ∧
      Interleaving SynapseRuns.exampleCollaborators MautrixSignalRuns.exampleCollaborators
        MautrixSignalRuns.readySynapse.key store last ∧
      Option.Rel KeepsBridges (store.synapse? MautrixSignalRuns.readySynapse.key)
        (last.synapse? MautrixSignalRuns.readySynapse.key) := by
  intro store listed gone last
  have history : Interleaving SynapseRuns.exampleCollaborators MautrixSignalRuns.exampleCollaborators
      MautrixSignalRuns.readySynapse.key store last :=
    .synapseRun [] [MautrixSignalRuns.freshBridge] _ (.synapseRun [] [] _ (.bridgeRun _ (.done _)))
  exact ⟨bridgeStore_keyed, history, interleaving_keeps_bridges _ _ bridgeStore_keyed history⟩

/-- The bridge, once listed, stays enabled in the Synapse's Status after a run
that lists no bridge. -/
example :
    let store := MautrixSignalRuns.bridgeStore true
    let listed := (reconcile SynapseRuns.exampleCollaborators [] [MautrixSignalRuns.freshBridge]
      MautrixSignalRuns.readySynapse.key store).2
    let gone := (reconcile SynapseRuns.exampleCollaborators [] [] MautrixSignalRuns.readySynapse.key listed).2
    (gone.synapse? MautrixSignalRuns.readySynapse.key).map (·.status.bridges.mautrixSignal.enabled) =
      some true := by
  decide

end Histories

/-! ## A Synapse and a bridge of one name -/

section SharedName
variable [DecidableEq Text] [DecidableEq Body] (c : Collaborators Text Body)
  (c' : MautrixSignalReconciler.Collaborators Text Body) (s0 : Synapse) (status : SynapseStatus)
  (m0 : MautrixSignal) (mstatus : MautrixSignalStatus)

theorem configYamlKey_ne_homeserverYamlKey : configYamlKey ≠ homeserverYamlKey := by decide

/-- A bridge named after the Synapse it references, in its namespace. -/
def twinBridge : MautrixSignal :=
  { name := lit "synapse", ns := lit "matrix",
    spec := { configMap := ⟨[], []⟩, synapse := ⟨lit "synapse", []⟩ } }

/-- A store with `readySynapse` and its twin bridge. -/
def twinStore : Store Fields Unit where
  objects id :=
    if id = .of .mautrixSignal twinBridge.key then some (.mautrixSignal twinBridge)
    else if id = .of .synapse MautrixSignalRuns.readySynapse.key then
      some (.synapse MautrixSignalRuns.readySynapse)
    else none
  postgresOperatorInstalled := true
  writes := []

end SharedName

/-! ## A bridge and the Synapse it references -/

section Operator

/-- A step keeps whether the Postgres operator is installed. -/
def KeepsOperator (f : Store Text Body → Outcome × Store Text Body) : Prop :=
  ∀ a, (f a).2.postgresOperatorInstalled = a.postgresOperatorInstalled

theorem bridgeUpdateSynapseStatus_installed {synapse : Synapse} {a b : Store Text Body}
    (success : MautrixSignalReconciler.updateSynapseStatus synapse a = .ok b) :
    b.postgresOperatorInstalled = a.postgresOperatorInstalled := by
  unfold MautrixSignalReconciler.updateSynapseStatus updateSynapseStatus at success
  split at success
  · cases success
  · split_ifs at success <;> cases success <;> rfl

theorem updateMautrixSignalStatus_installed {ms : MautrixSignal} {a b : Store Text Body} {patched : Bool}
    (success : MautrixSignalReconciler.updateMautrixSignalStatus ms a = .ok (patched, b)) :
    b.postgresOperatorInstalled = a.postgresOperatorInstalled := by
  unfold MautrixSignalReconciler.updateMautrixSignalStatus at success
  split at success
  · cases success
  · split_ifs at success <;> cases success <;> rfl

theorem triggerSynapseReconciliation_installed (req : ObjectRef) :
    KeepsOperator (@triggerSynapseReconciliation Text Body req) := by
  intro a
  unfold triggerSynapseReconciliation
  split
  · rfl
  split
  · rfl
  split
  · rfl
  · exact bridgeUpdateSynapseStatus_installed ‹_›

theorem buildMautrixSignalStatus_installed (c : MautrixSignalReconciler.Collaborators Text Body)
    (req : ObjectRef) : KeepsOperator (buildMautrixSignalStatus c req) := by
  intro a
  unfold buildMautrixSignalStatus
  split
  · rfl
  split
  · rfl
  split
  · rfl
  split
  · rfl
  all_goals exact updateMautrixSignalStatus_installed ‹_›

variable [DecidableEq Text]

theorem configureMautrixSignalConfigMap_installed (c : MautrixSignalReconciler.Collaborators Text Body)
    (req : ObjectRef) : KeepsOperator (configureMautrixSignalConfigMap c req) := by
  intro a
  unfold configureMautrixSignalConfigMap
  split
  · rfl
  split
  · rfl
  · obtain ⟨_, _, _, -, -, -, rfl⟩ := updateConfigMap_eq_ok ‹_›
    split_ifs <;> rfl

variable [DecidableEq Body]

theorem copyInputMautrixSignalConfigMap_installed (req : ObjectRef) :
    KeepsOperator (@copyInputMautrixSignalConfigMap Text Body _ _ req) := by
  intro a
  unfold copyInputMautrixSignalConfigMap
  split
  · rfl
  split
  · split
    · exact updateMautrixSignalStatus_installed ‹_›
    · rfl
  · split
    · rfl
    · simp

theorem bridgeResourceStep_installed
    (desired : MautrixSignal → Store Text Body → Except Bytes (Identity × Object Text Body)) (req : ObjectRef) :
    KeepsOperator (MautrixSignalReconciler.resourceStep desired req) := by
  intro a
  unfold MautrixSignalReconciler.resourceStep
  split
  · rfl
  split
  · rfl
  · simp

/-- No run of the bridge controller changes whether the Postgres operator is
installed. -/
theorem bridgeReconcile_installed (c : MautrixSignalReconciler.Collaborators Text Body) (req : ObjectRef) :
    KeepsOperator (MautrixSignalReconciler.reconcile c req) := by
  intro a
  unfold MautrixSignalReconciler.reconcile
  split
  · rfl
  refine runSubreconcilers_keeps (·.postgresOperatorInstalled) (fun f listed b => ?_) a
  rcases List.mem_cons.mp listed with rfl | later
  · exact triggerSynapseReconciliation_installed req b
  rcases bridgeSteps_cases c later with rfl | rfl | rfl | rfl | ⟨kind, name, -, rfl⟩
  exacts [buildMautrixSignalStatus_installed c req b, copyInputMautrixSignalConfigMap_installed req b,
    configureMautrixSignalConfigMap_installed c req b, bridgeResourceStep_installed _ req b,
    bridgeResourceStep_installed _ req b]

end Operator

section Trigger
variable [DecidableEq Text] [DecidableEq Body] (c : Collaborators Text Body)
  (c' : MautrixSignalReconciler.Collaborators Text Body) (s0 : Synapse) (status : SynapseStatus)

/-- A run of the Synapse controller that returns `DoNotRequeue`, without the
branch for a missing Postgres operator, found its Synapse with
`NeedsReconcile` clear: its last step clears it, and the run wrote no Status. -/
theorem reconcile_found_clear (hs : List Heisenbridge) (mss : List MautrixSignal)
    {store store' : Store Text Body} (found : store.synapse? s0.key = some { s0 with status })
    (ready : ¬ (s0.spec.createNewPostgreSQL ∧ store.postgresOperatorInstalled = false))
    (ran : reconcile c hs mss s0.key store = (.doNotRequeue, store')) : status.needsReconcile = false := by
  simp only [reconcile, getLatestSynapse_of_found found] at ran
  rw [if_neg ready] at ran
  have running : asRunning { s0 with status } = { s0 with status } :=
    SynapseOutput.statusStep_settles c s0 status hs mss .setSynapseStatusAsRunning (fun _ => rfl)
      (show setSynapseStatusAsRunning s0.key ∈ _ by simp [subreconcilersForSynapse]) found ran
  exact (congrArg (·.status.needsReconcile) running).symm

/-- A bridge and the Synapse it references are never both at rest. Every run of
the bridge, whatever it returns, leaves that Synapse with `NeedsReconcile` set
and otherwise as it was; a run of the Synapse controller that returns
`DoNotRequeue`, without the branch for a missing Postgres operator, needs it
clear. So from every store at rest for the Synapse the bridge run changes it,
and from the store every bridge run leaves no run of the Synapse controller
returns `DoNotRequeue`. -/
theorem bridge_run_unsettles_synapse (hs : List Heisenbridge) (mss : List MautrixSignal) {req : ObjectRef}
    {store : Store Text Body} {ms : MautrixSignal} (bridge : store.mautrixSignal? req = some ms)
    (refers : ms.synapseKey = s0.key) (found : store.synapse? s0.key = some { s0 with status })
    (ready : ¬ (s0.spec.createNewPostgreSQL ∧ store.postgresOperatorInstalled = false)) :
    (MautrixSignalReconciler.reconcile c' req store).2.synapse? s0.key =
        some { s0 with status := { status with needsReconcile := true } } ∧
      (∀ store', reconcile c hs mss s0.key store = (.doNotRequeue, store') →
        (MautrixSignalReconciler.reconcile c' req store).2.synapse? s0.key ≠ store.synapse? s0.key) ∧
      ∀ store', reconcile c hs mss s0.key (MautrixSignalReconciler.reconcile c' req store).2 ≠
        (.doNotRequeue, store') := by
  have after := @bridgeReconcile_sets _ _ _ _ c' _ _ _ { s0 with status } bridge refers found
  have ready' : ¬ (s0.spec.createNewPostgreSQL ∧
      (MautrixSignalReconciler.reconcile c' req store).2.postgresOperatorInstalled = false) := by
    rwa [bridgeReconcile_installed c' req store]
  refine ⟨after, fun store' ran changed => ?_, fun store' ran => ?_⟩
  · have clear := reconcile_found_clear c s0 status hs mss found ready ran
    have flag := congrArg (·.status.needsReconcile)
      (Option.some.inj (found.symm.trans (changed.symm.trans after)))
    simp only [clear, Bool.false_eq_true] at flag
  · have flagged := reconcile_found_clear c s0 { status with needsReconcile := true } hs mss after ready' ran
    simp at flagged

theorem bridge_run_unsettles_synapse_example :
    let store := MautrixSignalRuns.bridgeStore true
    let s0 := MautrixSignalRuns.readySynapse
    let after := (MautrixSignalReconciler.reconcile MautrixSignalRuns.exampleCollaborators
      MautrixSignalRuns.freshBridge.key store).2
    store.mautrixSignal? MautrixSignalRuns.freshBridge.key = some MautrixSignalRuns.freshBridge ∧
      MautrixSignalRuns.freshBridge.synapseKey = s0.key ∧
      store.synapse? s0.key = some { s0 with status := s0.status } ∧
      ¬ (s0.spec.createNewPostgreSQL ∧ store.postgresOperatorInstalled = false) ∧
      after.synapse? s0.key = some { s0 with status := { s0.status with needsReconcile := true } } ∧
      (∀ store', reconcile SynapseRuns.exampleCollaborators [] [MautrixSignalRuns.freshBridge] s0.key store =
        (.doNotRequeue, store') → after.synapse? s0.key ≠ store.synapse? s0.key) ∧
      ∀ store', reconcile SynapseRuns.exampleCollaborators [] [MautrixSignalRuns.freshBridge] s0.key after ≠
        (.doNotRequeue, store') :=
  have bridge : (MautrixSignalRuns.bridgeStore true).mautrixSignal? MautrixSignalRuns.freshBridge.key =
      some MautrixSignalRuns.freshBridge := by decide
  have found : (MautrixSignalRuns.bridgeStore true).synapse? MautrixSignalRuns.readySynapse.key =
      some { MautrixSignalRuns.readySynapse with status := MautrixSignalRuns.readySynapse.status } := by
    decide
  ⟨bridge, rfl, found, by decide, bridge_run_unsettles_synapse SynapseRuns.exampleCollaborators
    MautrixSignalRuns.exampleCollaborators _ _ [] [MautrixSignalRuns.freshBridge] bridge rfl found (by decide)⟩

end Trigger

end SynapseOperator.Controllers
