import SynapseOperator.Database

/-!
What the two document mutators touch, and that they are idempotent.

`updateMautrixSignalData` rewrites six settings of the user's config.yaml so
that the bridge and Synapse can reach each other; `updateHomeserverWithPostgreSQLInfos`
replaces the `database` section of homeserver.yaml. Each is an `updateDataFunc`:
`utils.UpdateConfigMap` decodes the ConfigMap, runs it, and writes the result
back only if it returns no error.

1. `updateMautrixSignalData_eq_ok` says once what a successful run found and
   what it built. From it, `updateMautrixSignalData_wroteOnly`: every setting
   holds its value and every path apart from the six reads as before (the
   frame, `ChangesOnly`, composed from one lemma per kind of map write); and
   `updateMautrixSignalData_idempotent`: run on its own result it succeeds and
   changes nothing.
2. The same two facts for `updateHomeserverWithPostgreSQLInfos`, whose one
   setting is the section `fetchDatabaseDataFromSynapseStatus` builds.

Go's maps are references and the mutator edits the nested sections in place
before assigning them back. A freshly decoded document shares no map between
two keys (yaml.v2 decodes an alias anew), so the in-place edits and the
assignments of the functional model agree. On an error the caller discards
the partly edited document.
-/

namespace SynapseOperator.ConfigMutation
open SynapseOperator.Api SynapseOperator.Document SynapseOperator.Database

/-! ## The mautrix-signal config -/

/-- `m[key] = value` on a `map[string]string`. -/
def assignString : List (Bytes × Bytes) → Bytes → Bytes → List (Bytes × Bytes)
  | [], key, value => [(key, value)]
  | (k, v) :: rest, key, value =>
    if k = key then (k, value) :: rest else (k, v) :: assignString rest key value

/-- A `map[string]string{...}` literal: its elements assigned in order, so a
key repeated at run time keeps its last value. -/
def stringMapLiteral (elements : List (Bytes × Bytes)) : List (Bytes × Bytes) :=
  elements.foldl (fun m element => assignString m element.1 element.2) []

/-- The error for a section that is missing or not a generic map. -/
def sectionError (name : String) : Bytes :=
  lit ("cannot parse mautrix-signal config.yaml: error parsing \x27" ++ name ++ "\x27 section")

/-- `section, ok := v.(map[interface{}]interface{}); if !ok { return errors.New(...) }`. -/
def assertSection (found : Option Value) (name : String) : Except Bytes Entries :=
  match found with
  | some (.map entries) => .ok entries
  | _ => .error (sectionError name)

@[simp] theorem assertSection_eq_ok {found : Option Value} {name : String} {entries : Entries} :
    assertSection found name = .ok entries ↔ found = some (.map entries) := by
  unfold assertSection
  split <;> simp_all

/-- `MautrixSignalReconciler.updateMautrixSignalData`. -/
def updateMautrixSignalData (ms : MautrixSignal) (config : Fields) : Except Bytes Fields := do
  let synapseName := ms.spec.synapse.name
  let synapseNamespace := computeNamespace ms.ns ms.spec.synapse.ns
  let synapseServerName := ms.status.synapseServerName
  -- the homeserver section, so that the bridge can reach Synapse
  let configHomeserver ← assertSection (config.get? (lit "homeserver")) "homeserver"
  let configHomeserver := configHomeserver.set (.str (lit "address"))
    (.str (lit "http://" ++ computeFQDN synapseName synapseNamespace ++ lit ":8008"))
  let configHomeserver := configHomeserver.set (.str (lit "domain")) (.str synapseServerName)
  let config := config.set (lit "homeserver") (.map configHomeserver)
  -- the appservice section, so that Synapse can reach the bridge
  let configAppservice ← assertSection (config.get? (lit "appservice")) "appservice"
  let configAppservice := configAppservice.set (.str (lit "address"))
    (.str (lit "http://" ++ computeFQDN ms.name ms.ns ++ lit ":29328"))
  let config := config.set (lit "appservice") (.map configAppservice)
  -- the path to the signald socket
  let configSignal ← assertSection (config.get? (lit "signal")) "signal"
  let configSignal := configSignal.set (.str (lit "socket_path")) (.str (lit "/signald/signald.sock"))
  let config := config.set (lit "signal") (.map configSignal)
  -- the permissions, under the right domain name
  let configBridge ← assertSection (config.get? (lit "bridge")) "bridge"
  let configBridge := configBridge.set (.str (lit "permissions")) (.stringMap (stringMapLiteral
    [(lit "*", lit "relay"), (synapseServerName, lit "user"),
      (lit "@admin:" ++ synapseServerName, lit "admin")]))
  let config := config.set (lit "bridge") (.map configBridge)
  -- the path to the log file
  let configLogging ← assertSection (config.get? (lit "logging")) "logging"
  let configLoggingHandlers ← assertSection (configLogging.get? (.str (lit "handlers")))
    "logging/handlers"
  let configLoggingHandlersFile ← assertSection (configLoggingHandlers.get? (.str (lit "file")))
    "logging/handlers/file"
  let configLoggingHandlersFile := configLoggingHandlersFile.set (.str (lit "filename"))
    (.str (lit "/data/mautrix-signal.log"))
  let configLoggingHandlers := configLoggingHandlers.set (.str (lit "file"))
    (.map configLoggingHandlersFile)
  let configLogging := configLogging.set (.str (lit "handlers")) (.map configLoggingHandlers)
  pure (config.set (lit "logging") (.map configLogging))

/-- The six settings `updateMautrixSignalData` owns, each with the value it
computes from the MautrixSignal. -/
def mautrixSignalSettings (ms : MautrixSignal) : List (List Value × Value) :=
  [(keyPath ["homeserver", "address"], .str (lit "http://" ++
      computeFQDN ms.spec.synapse.name (computeNamespace ms.ns ms.spec.synapse.ns) ++ lit ":8008")),
    (keyPath ["homeserver", "domain"], .str ms.status.synapseServerName),
    (keyPath ["appservice", "address"], .str (lit "http://" ++ computeFQDN ms.name ms.ns ++
      lit ":29328")),
    (keyPath ["signal", "socket_path"], .str (lit "/signald/signald.sock")),
    (keyPath ["bridge", "permissions"], .stringMap (stringMapLiteral
      [(lit "*", lit "relay"), (ms.status.synapseServerName, lit "user"),
        (lit "@admin:" ++ ms.status.synapseServerName, lit "admin")])),
    (keyPath ["logging", "handlers", "file", "filename"], .str (lit "/data/mautrix-signal.log"))]

/-- Where the settings are does not depend on the MautrixSignal. -/
theorem mautrixSignalSettings_paths (ms : MautrixSignal) :
    (mautrixSignalSettings ms).map Prod.fst =
      [keyPath ["homeserver", "address"], keyPath ["homeserver", "domain"],
        keyPath ["appservice", "address"], keyPath ["signal", "socket_path"],
        keyPath ["bridge", "permissions"], keyPath ["logging", "handlers", "file", "filename"]] :=
  rfl

/-- A mutation from `before` to `after` that wrote exactly `settings`: each
holds its value, and every path apart from them reads as before. -/
def WroteOnly (settings : List (List Value × Value)) (before after : Fields) : Prop :=
  (∀ setting ∈ settings, (Value.object after).lookup setting.1 = some setting.2) ∧
    ChangesOnly (settings.map Prod.fst) (.object before) (.object after)

/-- A successful run, section by section: what it found and what it built. -/
theorem updateMautrixSignalData_eq_ok_iff {ms : MautrixSignal} {config result : Fields} :
    updateMautrixSignalData ms config = .ok result ↔
    ∃ homeserver appservice signal bridge logging handlers file : Entries,
      config.get? (lit "homeserver") = some (Value.map homeserver) ∧
      config.get? (lit "appservice") = some (Value.map appservice) ∧
      config.get? (lit "signal") = some (Value.map signal) ∧
      config.get? (lit "bridge") = some (Value.map bridge) ∧
      config.get? (lit "logging") = some (Value.map logging) ∧
      logging.get? (.str (lit "handlers")) = some (Value.map handlers) ∧
      handlers.get? (.str (lit "file")) = some (Value.map file) ∧
      result = (config
        |>.set (lit "homeserver") (.map ((homeserver.set (.str (lit "address")) (.str (lit "http://" ++
          computeFQDN ms.spec.synapse.name (computeNamespace ms.ns ms.spec.synapse.ns) ++
          lit ":8008"))).set (.str (lit "domain")) (.str ms.status.synapseServerName)))
        |>.set (lit "appservice") (.map (appservice.set (.str (lit "address"))
          (.str (lit "http://" ++ computeFQDN ms.name ms.ns ++ lit ":29328"))))
        |>.set (lit "signal") (.map (signal.set (.str (lit "socket_path"))
          (.str (lit "/signald/signald.sock"))))
        |>.set (lit "bridge") (.map (bridge.set (.str (lit "permissions")) (.stringMap
          (stringMapLiteral [(lit "*", lit "relay"), (ms.status.synapseServerName, lit "user"),
            (lit "@admin:" ++ ms.status.synapseServerName, lit "admin")]))))
        |>.set (lit "logging") (.map (logging.set (.str (lit "handlers")) (.map (handlers.set
          (.str (lit "file")) (.map (file.set (.str (lit "filename"))
            (.str (lit "/data/mautrix-signal.log"))))))))) := by
  constructor
  · intro success
    simp (disch := decide) only [updateMautrixSignalData, except_bind_eq_ok, assertSection_eq_ok,
      except_pure, Except.ok.injEq, Fields.get?_set_of_ne] at success
    obtain ⟨homeserver, homeHeld, appservice, appHeld, signal, signalHeld, bridge, bridgeHeld,
      logging, loggingHeld, handlers, handlersHeld, file, fileHeld, rfl⟩ := success
    exact ⟨_, _, _, _, _, _, _, homeHeld, appHeld, signalHeld, bridgeHeld, loggingHeld,
      handlersHeld, fileHeld, rfl⟩
  · rintro ⟨homeserver, appservice, signal, bridge, logging, handlers, file, homeHeld, appHeld,
      signalHeld, bridgeHeld, loggingHeld, handlersHeld, fileHeld, rfl⟩
    simp (disch := decide) only [updateMautrixSignalData, assertSection, Fields.get?_set_of_ne,
      homeHeld, appHeld, signalHeld, bridgeHeld, loggingHeld, handlersHeld, fileHeld, except_ok_bind,
      except_pure]

/-- Widening the written paths keeps a frame. -/
theorem ChangesOnly.mono {written more : List (List Value)} {a b : Value}
    (changes : ChangesOnly written a b) (covered : ∀ w ∈ written, w ∈ more) : ChangesOnly more a b :=
  fun path apart => changes path fun w mem => apart w (covered w mem)

/-- A successful run writes the six settings and nothing apart from them. -/
theorem updateMautrixSignalData_wroteOnly {ms : MautrixSignal} {config result : Fields}
    (success : updateMautrixSignalData ms config = .ok result) :
    WroteOnly (mautrixSignalSettings ms) config result := by
  obtain ⟨homeserver, appservice, signal, bridge, logging, handlers, file, homeHeld, appHeld,
    signalHeld, bridgeHeld, loggingHeld, handlersHeld, fileHeld, rfl⟩ :=
    updateMautrixSignalData_eq_ok_iff.mp success
  constructor
  · simp (disch := decide) [mautrixSignalSettings, keyPath, Fields.get?_set_of_ne,
      Entries.get?_set_of_ne]
  · exact ChangesOnly.mono
      (ChangesOnly.trans
        (ChangesOnly.trans
          (ChangesOnly.trans
            (ChangesOnly.trans
              (changesOnly_object_nested homeHeld
                (ChangesOnly.trans (changesOnly_map_set _) (changesOnly_map_set _)))
              (changesOnly_object_nested (by simpa (disch := decide) only [Fields.get?_set_of_ne])
                (changesOnly_map_set _)))
            (changesOnly_object_nested (by simpa (disch := decide) only [Fields.get?_set_of_ne])
              (changesOnly_map_set _)))
          (changesOnly_object_nested (by simpa (disch := decide) only [Fields.get?_set_of_ne])
            (changesOnly_map_set _)))
        (changesOnly_object_nested (by simpa (disch := decide) only [Fields.get?_set_of_ne])
          (changesOnly_map_nested handlersHeld
            (changesOnly_map_nested fileHeld (changesOnly_map_set _)))))
      (by rw [mautrixSignalSettings_paths]; decide)

/-- Run on its own result, the mutator succeeds and changes nothing: every
section it asserts is there, and every assignment is to the value the key
already holds. -/
theorem updateMautrixSignalData_idempotent {ms : MautrixSignal} {config result : Fields}
    (success : updateMautrixSignalData ms config = .ok result) :
    updateMautrixSignalData ms result = .ok result := by
  obtain ⟨homeserver, appservice, signal, bridge, logging, handlers, file, homeHeld, appHeld,
    signalHeld, bridgeHeld, loggingHeld, handlersHeld, fileHeld, rfl⟩ :=
    updateMautrixSignalData_eq_ok_iff.mp success
  exact updateMautrixSignalData_eq_ok_iff.mpr ⟨_, _, _, _, _, _, _,
    by repeat rw [Fields.get?_set_of_ne (by decide)]
       exact Fields.get?_set_self,
    by repeat rw [Fields.get?_set_of_ne (by decide)]
       exact Fields.get?_set_self,
    by repeat rw [Fields.get?_set_of_ne (by decide)]
       exact Fields.get?_set_self,
    by repeat rw [Fields.get?_set_of_ne (by decide)]
       exact Fields.get?_set_self,
    Fields.get?_set_self, Entries.get?_set_self, Entries.get?_set_self,
    by simp (disch := first | decide | simp (disch := decide) only [Fields.get?_set_of_ne,
      Fields.get?_set_self, Entries.get?_set_of_ne, Entries.get?_set_self]) only
      [Fields.set_of_get?, Entries.set_of_get?]⟩

/-! ## The homeserver database section -/

theorem updateHomeserverWithPostgreSQLInfos_eq_ok_iff {s : Synapse} {homeserver result : Fields} :
    updateHomeserverWithPostgreSQLInfos s homeserver = .ok result ↔
      ∃ databaseData, fetchDatabaseDataFromSynapseStatus s = .ok databaseData ∧
        result = homeserver.set (lit "database") (.object databaseData) := by
  simp only [updateHomeserverWithPostgreSQLInfos, except_bind_eq_ok, except_pure, Except.ok.injEq]
  exact exists_congr fun _ => and_congr_right fun _ => eq_comm

/-- The section replaces the `database` key and nothing else. -/
theorem updateHomeserverWithPostgreSQLInfos_wroteOnly {databaseData homeserver : Fields} :
    WroteOnly [(keyPath ["database"], .object databaseData)] homeserver
      (homeserver.set (lit "database") (.object databaseData)) :=
  ⟨by simp [keyPath], changesOnly_object_set homeserver (lit "database")⟩

/-- Run again on its result, it writes the same section over itself. -/
theorem updateHomeserverWithPostgreSQLInfos_idempotent {s : Synapse} {homeserver result : Fields}
    (success : updateHomeserverWithPostgreSQLInfos s homeserver = .ok result) :
    updateHomeserverWithPostgreSQLInfos s result = .ok result := by
  obtain ⟨databaseData, fetched, rfl⟩ := updateHomeserverWithPostgreSQLInfos_eq_ok_iff.mp success
  exact updateHomeserverWithPostgreSQLInfos_eq_ok_iff.mpr
    ⟨databaseData, fetched, (Fields.set_set_self _ _).symm⟩

/-! ## Both mutators -/

/-- Each mutator writes only the settings it owns, with the values it computes
(for the homeserver, the section `fetchDatabaseDataFromSynapseStatus` builds),
and a second application to its own result succeeds and changes nothing. -/
theorem owned_settings_frame_idempotent :
    (∀ (ms : MautrixSignal) (config result : Fields),
      updateMautrixSignalData ms config = .ok result →
        WroteOnly (mautrixSignalSettings ms) config result ∧
          updateMautrixSignalData ms result = .ok result) ∧
    (∀ (s : Synapse) (homeserver result : Fields),
      updateHomeserverWithPostgreSQLInfos s homeserver = .ok result →
        ∃ databaseData, fetchDatabaseDataFromSynapseStatus s = .ok databaseData ∧
          WroteOnly [(keyPath ["database"], .object databaseData)] homeserver result ∧
          updateHomeserverWithPostgreSQLInfos s result = .ok result) :=
  ⟨fun _ _ _ success =>
    ⟨updateMautrixSignalData_wroteOnly success, updateMautrixSignalData_idempotent success⟩,
  fun _ _ _ success => by
    obtain ⟨databaseData, fetched, rfl⟩ := updateHomeserverWithPostgreSQLInfos_eq_ok_iff.mp success
    exact ⟨databaseData, fetched, updateHomeserverWithPostgreSQLInfos_wroteOnly,
      updateHomeserverWithPostgreSQLInfos_idempotent success⟩⟩

/-- A bridge named `mautrix-signal` next to the Synapse `synapse`, whose server
name is `example.com`. -/
def exampleMautrixSignal : MautrixSignal :=
  { name := lit "mautrix-signal", ns := lit "matrix",
    spec := { configMap := ⟨lit "mautrix-signal-input", []⟩, synapse := ⟨lit "synapse", []⟩ },
    status := { synapseServerName := lit "example.com" } }

/-- A config.yaml with the five sections, as yaml.v2 decodes it. -/
def exampleConfig : Fields :=
  .cons (lit "homeserver") (.map (.cons (.str (lit "address")) (.str (lit "https://example.com"))
    .nil)) <|
  .cons (lit "appservice") (.map (.cons (.str (lit "port")) (.int 29328) .nil)) <|
  .cons (lit "signal") (.map .nil) <|
  .cons (lit "bridge") (.map .nil) <|
  .cons (lit "logging") (.map (.cons (.str (lit "handlers"))
    (.map (.cons (.str (lit "file")) (.map .nil) .nil)) .nil)) .nil

/-- The example Synapse, once its Status holds a PostgreSQL connection. -/
def exampleSynapseWithDatabase : Synapse :=
  { exampleSynapse with
    status.databaseConnectionInfo :=
      connectionInfo (lit "db") (Strconv.formatInt 5432) (lit "synapse") (lit "secret") }

theorem owned_settings_frame_idempotent_example :
    (∃ result, updateMautrixSignalData exampleMautrixSignal exampleConfig = .ok result ∧
      WroteOnly (mautrixSignalSettings exampleMautrixSignal) exampleConfig result ∧
      updateMautrixSignalData exampleMautrixSignal result = .ok result) ∧
    (∃ result, updateHomeserverWithPostgreSQLInfos exampleSynapseWithDatabase .nil = .ok result ∧
      ∃ databaseData, fetchDatabaseDataFromSynapseStatus exampleSynapseWithDatabase = .ok databaseData ∧
        WroteOnly [(keyPath ["database"], .object databaseData)] .nil result ∧
        updateHomeserverWithPostgreSQLInfos exampleSynapseWithDatabase result = .ok result) :=
  ⟨⟨_, rfl, owned_settings_frame_idempotent.1 _ _ _ rfl⟩,
    ⟨_, rfl, owned_settings_frame_idempotent.2 _ _ _ rfl⟩⟩

end SynapseOperator.ConfigMutation
