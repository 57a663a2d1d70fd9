import SynapseOperator.Document
import SynapseOperator.Strconv
import SynapseOperator.Base64

/-! The PostgreSQL connection data, on its way from the Secret the Postgres
operator creates, through `Status.DatabaseConnectionInfo`, into the
`database` section of homeserver.yaml. `updateSynapseStatusDatabase` encodes
the host and port as `host:port` and the password in base64;
`fetchDatabaseDataFromSynapseStatus` splits the URL on `:` and decodes the
password. The round trip holds for every Secret whose host has no `:` and
whose user and password are non-empty; the latter two are checked on the way
back, the former is not. -/
namespace SynapseOperator.Database
open SynapseOperator.Api SynapseOperator.Document SynapseOperator.Strconv SynapseOperator.Base64

/-- `Secret.Data[key]`, with the `ok` form: the first entry with the key. -/
def secretGet? : List (Bytes × Bytes) → Bytes → Option Bytes
  | [], _ => none
  | (k, v) :: rest, key => if k = key then some v else secretGet? rest key

/-- The byte `:` that joins host and port. -/
def colon : UInt8 := 58

/-- The connection data `updateSynapseStatusDatabase` writes into the Status. -/
def connectionInfo (host port user password : Bytes) : DatabaseConnectionInfo :=
  { connectionURL := host ++ [colon] ++ port
    databaseName := lit "synapse"
    user := user
    password := base64encode password
    state := lit "READY" }

/-- `SynapseReconciler.updateSynapseStatusDatabase`: the Status with the
connection data of the Secret. The `dbname` key must be present but its value
is not used; the database is always `synapse`. -/
def updateSynapseStatusDatabase (s : Synapse) (postgresSecretData : List (Bytes × Bytes)) :
    Except Bytes Synapse := do
  let some host := secretGet? postgresSecretData (lit "host")
    | throw (lit "missing host in PostgreSQL Secret")
  let some port := secretGet? postgresSecretData (lit "port")
    | throw (lit "missing port in PostgreSQL Secret")
  let some _ := secretGet? postgresSecretData (lit "dbname")
    | throw (lit "missing dbname in PostgreSQL Secret")
  let some user := secretGet? postgresSecretData (lit "user")
    | throw (lit "missing user in PostgreSQL Secret")
  let some password := secretGet? postgresSecretData (lit "password")
    | throw (lit "missing password in PostgreSQL Secret")
  pure { s with status := { s.status with
    databaseConnectionInfo := connectionInfo host port user password } }

/-- `HomeserverPgsqlDatabase.Args`. -/
structure PgsqlArgs where
  user : Bytes
  password : Bytes
  database : Bytes
  host : Bytes
  port : BitVec 64
  cpMin : BitVec 64
  cpMax : BitVec 64
  deriving DecidableEq, Repr

/-- `HomeserverPgsqlDatabase`, the `database` section of homeserver.yaml. -/
structure HomeserverPgsqlDatabase where
  name : Bytes
  txnLimit : BitVec 64
  args : PgsqlArgs
  deriving DecidableEq, Repr

/-- `utils.ConvertStructToMap` on a `HomeserverPgsqlDatabase`. The helper is
not among the sources; it is modelled as the struct under its yaml tags read
back by yaml.v2 into a `map[string]interface{}`, whose nested `args` is then a
generic map. -/
def convertStructToMap (database : HomeserverPgsqlDatabase) : Fields :=
  .cons (lit "name") (.str database.name) <|
  .cons (lit "txn_limit") (.int database.txnLimit.toInt) <|
  .cons (lit "args") (.map <|
    .cons (.str (lit "user")) (.str database.args.user) <|
    .cons (.str (lit "password")) (.str database.args.password) <|
    .cons (.str (lit "database")) (.str database.args.database) <|
    .cons (.str (lit "host")) (.str database.args.host) <|
    .cons (.str (lit "port")) (.int database.args.port.toInt) <|
    .cons (.str (lit "cp_min")) (.int database.args.cpMin.toInt) <|
    .cons (.str (lit "cp_max")) (.int database.args.cpMax.toInt) .nil) .nil

/-- `NumError.Error()` of a failed `ParseInt`. Go quotes the numeral with
`strconv.Quote`, which also escapes unprintable bytes; no caller reads the text. -/
def parseIntMessage (num : Bytes) : NumError → Bytes
  | .errSyntax => lit "strconv.ParseInt: parsing \"" ++ num ++ lit "\": invalid syntax"
  | .errRange => lit "strconv.ParseInt: parsing \"" ++ num ++ lit "\": value out of range"

/-- The section `fetchDatabaseDataFromSynapseStatus` builds from the Status. -/
def pgsqlDatabase (info : DatabaseConnectionInfo) (host : Bytes) (port : BitVec 64) :
    HomeserverPgsqlDatabase :=
  { name := lit "psycopg2"
    txnLimit := 0
    args := { user := info.user, password := base64decode info.password,
              database := info.databaseName, host := host, port := port, cpMin := 5, cpMax := 10 } }

/-- `SynapseReconciler.fetchDatabaseDataFromSynapseStatus`. -/
def fetchDatabaseDataFromSynapseStatus (s : Synapse) : Except Bytes Fields := do
  let info := s.status.databaseConnectionInfo
  if info = {} then throw (lit "missing DatabaseConnectionInfo in Synapse status")
  if info.user = [] then throw (lit "missing User in DatabaseConnectionInfo")
  if info.password = [] then throw (lit "missing Password in DatabaseConnectionInfo")
  if info.databaseName = [] then throw (lit "missing DatabaseName in DatabaseConnectionInfo")
  if info.connectionURL = [] then throw (lit "missing ConnectionURL in DatabaseConnectionInfo")
  match info.connectionURL.splitOn colon with
  | host :: portText :: _ =>
    match parseInt portText with
    | .error e => throw (parseIntMessage portText e)
    | .ok port => pure (convertStructToMap (pgsqlDatabase info host port))
  | _ => throw (lit "error parsing the Connection URL with value: " ++ info.connectionURL)

/-- `SynapseReconciler.updateHomeserverWithPostgreSQLInfos`, an `updateDataFunc`. -/
def updateHomeserverWithPostgreSQLInfos (s : Synapse) (homeserver : Fields) :
    Except Bytes Fields := do
  let databaseData ← fetchDatabaseDataFromSynapseStatus s
  pure (homeserver.set (lit "database") (.object databaseData))

/-! ## The round trip -/

/-- What a Secret turns into when the round trip works: the Status update
succeeds, the stored URL splits back into the host and the port's rendering,
and the section built from the Status carries the Secret's values. -/
def ConnectionRoundTrip (s : Synapse) (data : List (Bytes × Bytes)) (host user password : Bytes)
    (port : BitVec 64) : Prop :=
  ∃ updated, updateSynapseStatusDatabase s data = .ok updated ∧
    updated.status.databaseConnectionInfo.connectionURL.splitOn colon = [host, formatInt port] ∧
    fetchDatabaseDataFromSynapseStatus updated = .ok (convertStructToMap
      { name := lit "psycopg2", txnLimit := 0,
        args := { user := user, password := password, database := lit "synapse", host := host,
                  port := port, cpMin := 5, cpMax := 10 } })

/-- The Status `updateSynapseStatusDatabase` writes for a Secret holding every key. -/
theorem updateSynapseStatusDatabase_ok {s : Synapse} {data : List (Bytes × Bytes)}
    {host port dbname user password : Bytes}
    (hostHeld : secretGet? data (lit "host") = some host)
    (portHeld : secretGet? data (lit "port") = some port)
    (dbnameHeld : secretGet? data (lit "dbname") = some dbname)
    (userHeld : secretGet? data (lit "user") = some user)
    (passwordHeld : secretGet? data (lit "password") = some password) :
    updateSynapseStatusDatabase s data = .ok { s with status := { s.status with
      databaseConnectionInfo := connectionInfo host port user password } } := by
  simp [updateSynapseStatusDatabase, hostHeld, portHeld, dbnameHeld, userHeld, passwordHeld]

theorem colon_not_mem_formatUint (n : Nat) : colon ∉ formatUint n := by
  obtain ⟨digits, -, -⟩ := decimalDigits_spec (n + 1) n (by omega)
  simp only [formatUint, List.mem_map, not_exists, not_and]
  intro d mem same
  have byteValue : (digitByte d).toNat = 48 + d :=
    UInt8.toNat_ofNat_of_lt (by have := digits d mem; show 48 + d < 256; omega)
  have := congrArg UInt8.toNat same
  rw [byteValue] at this
  change 48 + d = 58 at this
  have := digits d mem
  omega

/-- A port's rendering has no `:`, so it is always the last piece of the URL. -/
theorem colon_not_mem_formatInt (port : BitVec 64) : colon ∉ formatInt port := by
  unfold formatInt
  split
  · simp only [lit, String.toList, List.map, List.cons_append, List.nil_append, List.mem_cons,
      not_or]
    exact ⟨by decide, colon_not_mem_formatUint _⟩
  · exact colon_not_mem_formatUint _

/-- Splitting `host:port` on `:` gives back host and port when neither holds a `:`. -/
theorem splitOn_connectionURL {host port : Bytes} (hostPlain : colon ∉ host)
    (portPlain : colon ∉ port) : (host ++ colon :: port).splitOn colon = [host, port] := by
  have joined : [colon].intercalate [host, port] = host ++ colon :: port := by
    simp [List.intercalate]
  rw [← joined, List.splitOn_intercalate _ _ (by simp [hostPlain, portPlain]) (by simp)]

/-- The section read back from what `updateSynapseStatusDatabase` wrote: every
check of `fetchDatabaseDataFromSynapseStatus` passes, the URL splits back,
the port parses and the password decodes. -/
theorem fetchDatabaseData_connectionInfo {s : Synapse} {host user password : Bytes}
    {port : BitVec 64}
    (held : s.status.databaseConnectionInfo = connectionInfo host (formatInt port) user password)
    (hostPlain : colon ∉ host) (userGiven : user ≠ []) (passwordGiven : password ≠ []) :
    fetchDatabaseDataFromSynapseStatus s = .ok (convertStructToMap
      { name := lit "psycopg2", txnLimit := 0,
        args := { user := user, password := password, database := lit "synapse", host := host,
                  port := port, cpMin := 5, cpMax := 10 } }) := by
  have encoded : base64encode password ≠ [] := base64encode_eq_nil_iff.not.mpr passwordGiven
  have notEmpty : connectionInfo host (formatInt port) user password ≠ {} := fun empty => by
    simpa [connectionInfo, lit] using congrArg DatabaseConnectionInfo.state empty
  simp [fetchDatabaseDataFromSynapseStatus, held, notEmpty, userGiven, encoded, connectionInfo,
    lit, splitOn_connectionURL hostPlain (colon_not_mem_formatInt port), parseInt_formatInt,
    pgsqlDatabase, base64decode_base64encode]

/-- Every Secret holding the five keys, with a host free of `:`, a non-empty
user and a non-empty password, round-trips: the port through its decimal
rendering, the password through base64, the host through the URL. -/
theorem postgres_secret_round_trip (s : Synapse) (data : List (Bytes × Bytes))
    (host dbname user password : Bytes) (port : BitVec 64)
    (hostHeld : secretGet? data (lit "host") = some host)
    (portHeld : secretGet? data (lit "port") = some (formatInt port))
    (dbnameHeld : secretGet? data (lit "dbname") = some dbname)
    (userHeld : secretGet? data (lit "user") = some user)
    (passwordHeld : secretGet? data (lit "password") = some password)
    (hostPlain : colon ∉ host) (userGiven : user ≠ []) (passwordGiven : password ≠ []) :
    ConnectionRoundTrip s data host user password port :=
  ⟨_, updateSynapseStatusDatabase_ok hostHeld portHeld dbnameHeld userHeld passwordHeld,
    by simpa [connectionInfo] using splitOn_connectionURL hostPlain (colon_not_mem_formatInt port),
    fetchDatabaseData_connectionInfo rfl hostPlain userGiven passwordGiven⟩

/-- A Synapse with a PostgreSQL database and a Secret whose host is `db:1`. -/
def exampleSynapse : Synapse :=
  { name := lit "synapse", ns := lit "matrix",
    spec := { configMap := none, values := ⟨lit "example.com", false⟩,
              createNewPostgreSQL := true, isOpenshift := false } }

theorem postgres_secret_round_trip_example :
    colon ∉ lit "db" ∧ lit "synapse" ≠ [] ∧ lit "secret" ≠ [] ∧
      ConnectionRoundTrip exampleSynapse
        [(lit "host", lit "db"), (lit "port", formatInt 5432), (lit "dbname", lit "synapse"),
          (lit "user", lit "synapse"), (lit "password", lit "secret")]
        (lit "db") (lit "synapse") (lit "secret") 5432 :=
  ⟨by decide, by decide, by decide,
    postgres_secret_round_trip exampleSynapse _ (lit "db") (lit "synapse") (lit "synapse")
      (lit "secret") 5432 rfl rfl rfl rfl rfl (by decide) (by decide) (by decide)⟩

/-- A Secret whose host holds a `:`. -/
def colonSecret : List (Bytes × Bytes) :=
  [(lit "host", lit "db:1"), (lit "port", formatInt 5432), (lit "dbname", lit "synapse"),
    (lit "user", lit "synapse"), (lit "password", lit "secret")]

/-- A host that holds a `:` is cut at it: the Secret `host = db:1`,
`port = 5432` comes back as host `db`, port `1`. -/
theorem postgres_secret_host_with_colon :
    ¬ ∀ (s : Synapse) (data : List (Bytes × Bytes)) (host dbname user password : Bytes)
        (port : BitVec 64),
      secretGet? data (lit "host") = some host →
      secretGet? data (lit "port") = some (formatInt port) →
      secretGet? data (lit "dbname") = some dbname →
      secretGet? data (lit "user") = some user →
      secretGet? data (lit "password") = some password →
      ConnectionRoundTrip s data host user password port := by
  intro roundTrip
  obtain ⟨updated, written, -, fetched⟩ := roundTrip exampleSynapse colonSecret
    (lit "db:1") (lit "synapse") (lit "synapse") (lit "secret") 5432 rfl rfl rfl rfl rfl
  rw [@updateSynapseStatusDatabase_ok exampleSynapse colonSecret (lit "db:1") (formatInt 5432)
    (lit "synapse") (lit "synapse") (lit "secret") rfl rfl rfl rfl rfl, Except.ok.injEq] at written
  subst written
  have pipeline := congrArg Except.toOption fetched
  revert pipeline
  decide

end SynapseOperator.Database
