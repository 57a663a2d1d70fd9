import SynapseOperator.Bridges
import SynapseOperator.Database

/-!
The merge patch of a Synapse's Status, and the six steps that write it.

A JSON merge patch addresses the leaves of the Status (`SynapseStatus.field`).
`mergeStatus` is the store's application of the patch `client.MergeFrom(current)`
computes for a modified object: a leaf where the modified object differs from
`current` takes the modified value, every other leaf keeps what is stored
(`field_mergeStatus`).

Each status-writing step reads the Synapse, edits some leaves of its Status
and hands the result to `updateSynapseStatus`. `StatusWriter.candidate` is
that edit, and `StatusWriter.candidate_field` says it leaves every leaf
outside `StatusWriter.fields` as it was read.
-/

namespace SynapseOperator.Status
open SynapseOperator.Api SynapseOperator.Document SynapseOperator.Database
open SynapseOperator.Bridges

/-! ## The merge patch -/

/-- One leaf of a merge patch: a modified value that differs from the patch's
base is carried and written; otherwise the stored value stays. -/
def pick {α : Type} [DecidableEq α] (base modified stored : α) : α :=
  if modified = base then stored else modified

/-- The Status the store holds after applying the merge patch from `current`
to `modified`, when it held `stored`. -/
def mergeStatus (current modified stored : SynapseStatus) : SynapseStatus :=
  { state := pick current.state modified.state stored.state
    reason := pick current.reason modified.reason stored.reason
    needsReconcile := pick current.needsReconcile modified.needsReconcile stored.needsReconcile
    homeserverConfiguration :=
      { serverName := pick current.homeserverConfiguration.serverName
          modified.homeserverConfiguration.serverName stored.homeserverConfiguration.serverName
        reportStats := pick current.homeserverConfiguration.reportStats
          modified.homeserverConfiguration.reportStats stored.homeserverConfiguration.reportStats }
    databaseConnectionInfo :=
      { connectionURL := pick current.databaseConnectionInfo.connectionURL
          modified.databaseConnectionInfo.connectionURL stored.databaseConnectionInfo.connectionURL
        databaseName := pick current.databaseConnectionInfo.databaseName
          modified.databaseConnectionInfo.databaseName stored.databaseConnectionInfo.databaseName
        user := pick current.databaseConnectionInfo.user modified.databaseConnectionInfo.user
          stored.databaseConnectionInfo.user
        password := pick current.databaseConnectionInfo.password
          modified.databaseConnectionInfo.password stored.databaseConnectionInfo.password
        state := pick current.databaseConnectionInfo.state modified.databaseConnectionInfo.state
          stored.databaseConnectionInfo.state }
    bridges :=
      { heisenbridge :=
          { enabled := pick current.bridges.heisenbridge.enabled
              modified.bridges.heisenbridge.enabled stored.bridges.heisenbridge.enabled
            name := pick current.bridges.heisenbridge.name modified.bridges.heisenbridge.name
              stored.bridges.heisenbridge.name }
        mautrixSignal :=
          { enabled := pick current.bridges.mautrixSignal.enabled
              modified.bridges.mautrixSignal.enabled stored.bridges.mautrixSignal.enabled
            name := pick current.bridges.mautrixSignal.name modified.bridges.mautrixSignal.name
              stored.bridges.mautrixSignal.name } } }

/-- A leaf after the patch: the modified value where it differs from the base,
the stored value elsewhere. -/
theorem field_mergeStatus (current modified stored : SynapseStatus) (f : StatusField) :
    (mergeStatus current modified stored).field f =
      if modified.field f = current.field f then stored.field f else modified.field f := by
  cases f <;>
    simp only [mergeStatus, pick, SynapseStatus.field, FieldValue.text.injEq,
      FieldValue.flag.injEq] <;>
    split_ifs <;> rfl

/-- Without a concurrent write the patch writes the modified Status itself. -/
theorem mergeStatus_self (current modified : SynapseStatus) :
    mergeStatus current modified current = modified :=
  SynapseStatus.ext_field fun f => by rw [field_mergeStatus]; split <;> simp_all

/-! ## The status writers -/

/-- `SynapseReconciler.ParseHomeserverConfigMap`, once homeserver.yaml is
loaded: `server_name` and `report_stats` copied into the Status. -/
def parseHomeserverConfigMap (synapse : Synapse) (homeserver : Fields) : Except Bytes Synapse :=
  match homeserver.get? (lit "server_name") with
  | none => throw (lit "missing server_name key in homeserver.yaml")
  | some (.str serverName) =>
    match homeserver.get? (lit "report_stats") with
    | none => throw (lit "missing report_stats key in homeserver.yaml")
    | some (.bool reportStats) =>
      pure { synapse with
        status.homeserverConfiguration.serverName := serverName,
        status.homeserverConfiguration.reportStats := reportStats }
    | some _ => throw (lit "error converting report_stats to bool")
  | some _ => throw (lit "error converting server_name to string")

theorem parseHomeserverConfigMap_eq_ok {synapse parsed : Synapse} {homeserver : Fields}
    (success : parseHomeserverConfigMap synapse homeserver = .ok parsed) :
    ∃ configuration, parsed = { synapse with status.homeserverConfiguration := configuration } := by
  unfold parseHomeserverConfigMap at success
  split at success
  · cases success
  · split at success
    · cases success
    · exact ⟨_, (Except.ok.inj success).symm⟩
    · cases success
  · cases success

theorem updateSynapseStatusDatabase_eq_ok {synapse updated : Synapse}
    {data : List (Bytes × Bytes)} (success : updateSynapseStatusDatabase synapse data = .ok updated) :
    ∃ info, updated = { synapse with status.databaseConnectionInfo := info } := by
  unfold updateSynapseStatusDatabase at success
  repeat' split at success
  all_goals first | exact ⟨_, (Except.ok.inj success).symm⟩ | cases success

/-- What the parse writes depends on the Synapse only through where it writes. -/
theorem parseHomeserverConfigMap_rebase {s parsed : Synapse} (s' : Synapse) {homeserver : Fields}
    (success : parseHomeserverConfigMap s homeserver = .ok parsed) :
    parseHomeserverConfigMap s' homeserver =
      .ok { s' with status.homeserverConfiguration := parsed.status.homeserverConfiguration } := by
  unfold parseHomeserverConfigMap at success ⊢
  repeat' split at success
  all_goals first | (cases success; done) | (cases success; simp only [*]; rfl)

/-- The parse reads `server_name` and `report_stats` only, and a YAML round
trip keeps a string and a bool as they are. -/
theorem parseHomeserverConfigMap_normalize (synapse : Synapse) (homeserver : Fields) :
    parseHomeserverConfigMap synapse homeserver.normalize =
      parseHomeserverConfigMap synapse homeserver := by
  unfold parseHomeserverConfigMap
  rw [Fields.get?_normalize, Fields.get?_normalize]
  cases homeserver.get? (lit "server_name") with
  | none => rfl
  | some v =>
    cases v <;> try rfl
    cases homeserver.get? (lit "report_stats") with
    | none => rfl
    | some w => cases w <;> rfl

theorem parseHomeserverConfigMap_congr {synapse : Synapse} {homeserver homeserver' : Fields}
    (serverName : homeserver'.get? (lit "server_name") = homeserver.get? (lit "server_name"))
    (reportStats : homeserver'.get? (lit "report_stats") = homeserver.get? (lit "report_stats")) :
    parseHomeserverConfigMap synapse homeserver' = parseHomeserverConfigMap synapse homeserver := by
  simp only [parseHomeserverConfigMap, serverName, reportStats]

theorem updateSynapseStatusDatabase_rebase {s updated : Synapse} (s' : Synapse)
    {data : List (Bytes × Bytes)} (success : updateSynapseStatusDatabase s data = .ok updated) :
    updateSynapseStatusDatabase s' data =
      .ok { s' with status.databaseConnectionInfo := updated.status.databaseConnectionInfo } := by
  unfold updateSynapseStatusDatabase at success ⊢
  repeat' split at success
  all_goals first | (cases success; done) | (cases success; simp only [*]; rfl)

/-- The six steps that write a Synapse's Status through `updateSynapseStatus`,
each with what it reads besides the Synapse. -/
inductive StatusWriter where
  | setStatusHomeserverConfiguration
  | parseInputSynapseConfigMap (homeserver : Fields)
  | updateSynapseStatusBridges (hList : List Heisenbridge) (msList : List MautrixSignal)
  | updateSynapseStatusWithPostgreSQLInfos (postgresSecretData : List (Bytes × Bytes))
  | setSynapseStatusAsRunning
  | setFailedState (reason : Bytes)

/-- `setStatusHomeserverConfiguration`'s edit: the configuration of
`Spec.Homeserver.Values`. -/
def withValuesConfiguration (s : Synapse) : Synapse :=
  { s with
    status.homeserverConfiguration.serverName := s.spec.values.serverName,
    status.homeserverConfiguration.reportStats := s.spec.values.reportStats }

/-- `setSynapseStatusAsRunning`'s edit. -/
def asRunning (s : Synapse) : Synapse :=
  { s with status.needsReconcile := false, status.state := lit "RUNNING", status.reason := [] }

/-- `setFailedState`'s edit. -/
def asFailed (s : Synapse) (reason : Bytes) : Synapse :=
  { s with status.state := lit "FAILED", status.reason := reason }

/-- The Synapse a step hands to `updateSynapseStatus`, from the one it read;
`none` when the step returns before. -/
def StatusWriter.candidate : StatusWriter → Synapse → Option Synapse
  | .setStatusHomeserverConfiguration, s => some (withValuesConfiguration s)
  | .parseInputSynapseConfigMap homeserver, s => (parseHomeserverConfigMap s homeserver).toOption
  | .updateSynapseStatusBridges hList msList, s => some (markListedBridges s hList msList)
  | .updateSynapseStatusWithPostgreSQLInfos data, s => (updateSynapseStatusDatabase s data).toOption
  | .setSynapseStatusAsRunning, s => some (asRunning s)
  | .setFailedState reason, s => some (asFailed s reason)

/-- The leaves a step may change. -/
def StatusWriter.fields : StatusWriter → List StatusField
  | .setStatusHomeserverConfiguration | .parseInputSynapseConfigMap _ => [.serverName, .reportStats]
  | .updateSynapseStatusBridges _ _ =>
    [.heisenbridgeEnabled, .heisenbridgeName, .mautrixSignalEnabled, .mautrixSignalName]
  | .updateSynapseStatusWithPostgreSQLInfos _ =>
    [.connectionURL, .databaseName, .user, .password, .databaseState]
  | .setSynapseStatusAsRunning => [.needsReconcile, .state, .reason]
  | .setFailedState _ => [.state, .reason]

/-- A step changes the Status only: what it hands on is the Synapse it read
with another Status. -/
theorem StatusWriter.candidate_eq {w : StatusWriter} {s s' : Synapse}
    (built : w.candidate s = some s') : s' = { s with status := s'.status } := by
  cases w with
  | parseInputSynapseConfigMap homeserver =>
    obtain ⟨_, rfl⟩ := parseHomeserverConfigMap_eq_ok (except_toOption_eq_some.mp built)
    rfl
  | updateSynapseStatusWithPostgreSQLInfos data =>
    obtain ⟨_, rfl⟩ := updateSynapseStatusDatabase_eq_ok (except_toOption_eq_some.mp built)
    rfl
  | _ => cases built; rfl

/-- Every leaf outside a step's fields is handed on as it was read. -/
theorem StatusWriter.candidate_field {w : StatusWriter} {s s' : Synapse}
    (built : w.candidate s = some s') {f : StatusField} (unowned : f ∉ w.fields) :
    s'.status.field f = s.status.field f := by
  cases w with
  | parseInputSynapseConfigMap homeserver =>
    obtain ⟨_, rfl⟩ := parseHomeserverConfigMap_eq_ok (except_toOption_eq_some.mp built)
    cases f <;> simp_all [fields, SynapseStatus.field]
  | updateSynapseStatusWithPostgreSQLInfos data =>
    obtain ⟨_, rfl⟩ := updateSynapseStatusDatabase_eq_ok (except_toOption_eq_some.mp built)
    cases f <;> simp_all [fields, SynapseStatus.field]
  | _ =>
    cases built
    cases f <;> simp_all [fields, SynapseStatus.field, markListedBridges, withValuesConfiguration,
      asRunning, asFailed]

/-- A step's edit of the Status of the Synapse `s`, whose name and Spec stay
as they are. -/
def StatusWriter.edit (w : StatusWriter) (s : Synapse) (status : SynapseStatus) :
    Option SynapseStatus :=
  (w.candidate { s with status }).map Synapse.status

/-- `candidate` agrees with `status` on every leaf outside `fields`. -/
def Agrees (fields : List StatusField) (candidate status : SynapseStatus) : Prop :=
  ∀ f, f ∉ fields → candidate.field f = status.field f

theorem StatusWriter.edit_agrees {w : StatusWriter} {s : Synapse} {status candidate : SynapseStatus}
    (built : w.edit s status = some candidate) : Agrees w.fields candidate status := by
  obtain ⟨s', made, rfl⟩ := Option.map_eq_some'.mp built
  exact fun f unowned => candidate_field made unowned

/-! ## Settled steps

A step is settled on a Synapse when the Synapse it would hand to
`updateSynapseStatus` is that Synapse, which is then not patched. Whether it is
depends on the Status only through the step's own fields (`settled_congr`);
a step is settled on its own candidate (`settled_candidate`); so a step's
patch leaves every step with other fields exactly as settled as it was
(`settled_after_disjoint`). -/

/-- The step would hand on the Synapse it read, and `updateSynapseStatus`
would not patch. -/
def StatusWriter.Settled (w : StatusWriter) (s : Synapse) : Prop := w.candidate s = some s

instance (w : StatusWriter) (s : Synapse) : Decidable (w.Settled s) :=
  inferInstanceAs (Decidable (w.candidate s = some s))

theorem StatusWriter.settled_congr (w : StatusWriter) {s : Synapse} {st : SynapseStatus}
    (agree : ∀ f ∈ w.fields, st.field f = s.status.field f) :
    w.Settled { s with status := st } ↔ w.Settled s := by
  obtain ⟨name, ns, spec, state, reason, needsReconcile, ⟨serverName, reportStats⟩,
    ⟨connectionURL, databaseName, user, password, databaseState⟩,
    ⟨⟨heisenbridgeEnabled, heisenbridgeName⟩, ⟨mautrixSignalEnabled, mautrixSignalName⟩⟩⟩ := s
  obtain ⟨state', reason', needsReconcile', ⟨serverName', reportStats'⟩,
    ⟨connectionURL', databaseName', user', password', databaseState'⟩,
    ⟨⟨heisenbridgeEnabled', heisenbridgeName'⟩, ⟨mautrixSignalEnabled', mautrixSignalName'⟩⟩⟩ := st
  cases w <;>
    simp only [fields, List.mem_cons, List.mem_singleton, forall_eq_or_imp, forall_eq,
      List.not_mem_nil, or_false, SynapseStatus.field, FieldValue.text.injEq,
      FieldValue.flag.injEq] at agree
  case setStatusHomeserverConfiguration =>
    obtain ⟨rfl, rfl⟩ := agree
    simp [Settled, candidate, withValuesConfiguration]
  case parseInputSynapseConfigMap =>
    obtain ⟨rfl, rfl⟩ := agree
    simp only [Settled, candidate, except_toOption_eq_some]
    unfold parseHomeserverConfigMap
    split
    · simp
    · split <;> simp
    · simp
  case updateSynapseStatusBridges =>
    obtain ⟨rfl, rfl, rfl, rfl⟩ := agree
    simp [Settled, candidate, markListedBridges, markBridges]
  case updateSynapseStatusWithPostgreSQLInfos =>
    obtain ⟨rfl, rfl, rfl, rfl, rfl⟩ := agree
    simp only [Settled, candidate, except_toOption_eq_some]
    unfold updateSynapseStatusDatabase
    repeat' split
    all_goals simp
  case setSynapseStatusAsRunning =>
    obtain ⟨rfl, rfl, rfl⟩ := agree
    simp [Settled, candidate, asRunning]
  case setFailedState =>
    obtain ⟨rfl, rfl⟩ := agree
    simp [Settled, candidate, asFailed]

/-- Handing on a step's candidate a second time changes nothing. -/
theorem StatusWriter.settled_candidate {w : StatusWriter} {s s' : Synapse}
    (built : w.candidate s = some s') : w.Settled s' := by
  cases w with
  | parseInputSynapseConfigMap homeserver =>
    have success := except_toOption_eq_some.mp built
    simp [Settled, candidate, parseHomeserverConfigMap_rebase s' success]
  | updateSynapseStatusWithPostgreSQLInfos data =>
    have success := except_toOption_eq_some.mp built
    simp [Settled, candidate, updateSynapseStatusDatabase_rebase s' success]
  | updateSynapseStatusBridges hList msList =>
    cases built
    simp only [Settled, candidate, markListedBridges, markBridges_with_status, markBridges_idem]
  | _ => cases built; rfl

/-- A step's patch leaves a step whose fields it does not write as settled as
it was. -/
theorem StatusWriter.settled_after_disjoint {w w' : StatusWriter} {s s' : Synapse}
    (built : w.candidate s = some s') (apart : ∀ f ∈ w'.fields, f ∉ w.fields) :
    w'.Settled s' ↔ w'.Settled s := by
  rw [candidate_eq built]
  exact settled_congr w' fun f listed => candidate_field built (apart f listed)

end SynapseOperator.Status
