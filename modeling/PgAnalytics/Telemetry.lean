import PgAnalytics.Basics
import PgAnalytics.Commands
import PgAnalytics.Runs

/-! The telemetry of an extension: the file that a data directory is known by, the events that
are posted under it, and the worker that posts them, over any number of restarts. -/

namespace PgAnalytics.Telemetry
open Basics (Fault)
open Commands Runs

inductive ParadeExtension where
  | pgSearch
  | pgAnalytics
  | pgLakehouse
  deriving DecidableEq, Repr

def ParadeExtension.name : ParadeExtension → String
  | .pgSearch => "pg_search"
  | .pgAnalytics => "pg_analytics"
  | .pgLakehouse => "pg_lakehouse"

def ParadeExtension.toI32 : ParadeExtension → ℤ
  | .pgSearch => 1
  | .pgAnalytics => 2
  | .pgLakehouse => 3

def ParadeExtension.fromI32 (n : ℤ) : Option ParadeExtension :=
  if n = 1 then some .pgSearch
  else if n = 2 then some .pgAnalytics
  else if n = 3 then some .pgLakehouse
  else none

theorem ParadeExtension.fromI32_toI32 (extension : ParadeExtension) :
    fromI32 extension.toI32 = some extension := by
  cases extension <;> rfl

structure Build where
  paradedbTelemetry : Option String
  posthogApiKey : Option String
  posthogHost : Option String
  commitSha : Option String
  version : String
  deriving DecidableEq, Repr

structure BgWorkerTelemetryConfig where
  posthogApiKey : String
  posthogHostUrl : String
  extensionName : String
  rootDataDirectory : String
  deriving DecidableEq, Repr

def BgWorkerTelemetryConfig.new (build : Build) (dataDir extensionName : String) :
    Except Fault BgWorkerTelemetryConfig := do
  let posthogApiKey ← match build.posthogApiKey with
    | some key => .ok key
    | none => .error (.error "posthog api key missing")
  let posthogHostUrl ← match build.posthogHost with
    | some host => .ok host
    | none => .error (.error "posthog host missing")
  return ⟨posthogApiKey, posthogHostUrl, extensionName, dataDir⟩

inductive TelemetryEvent where
  | deployment (timestamp arch extensionName extensionVersion extensionPath : String)
      (osType osVersion : String) (replicationMode : Option String)
      (postgresVersion postgresVersionDetails : String)
  | directoryStatus (extensionName : String) (replicationMode : Option String) (path : String)
      (size : ℕ) (humansize : String)
  deriving DecidableEq, Repr

def TelemetryEvent.name : TelemetryEvent → String
  | .deployment _ _ extensionName _ _ _ _ _ _ _ => extensionName ++ " Deployment"
  | .directoryStatus extensionName _ _ _ _ => extensionName ++ " Directory Status"

def TelemetryEvent.isDeployment : TelemetryEvent → Bool
  | .deployment _ _ _ _ _ _ _ _ _ _ => true
  | .directoryStatus _ _ _ _ _ => false

structure Capture where
  endpoint : String
  apiKey : String
  event : String
  distinctId : String
  properties : TelemetryEvent
  commitSha : Option String
  deriving DecidableEq, Repr

inductive Written where
  | whole
  | unopened (message : String)
  | cut (length : ℕ) (message : String)
  deriving DecidableEq, Repr

/-- What is outside while one event is made and posted. A file that exists may not be seen, or
not be read; the text of a new UUID is random. -/
structure Outside where
  seen : Bool
  readable : Bool
  newUuid : String
  createDirAll : Except Fault Unit
  written : Written
  fileSizes : List ℕ
  timestamp : String
  arch : Option String
  osType : String
  osVersion : String
  replicationMode : Option String
  postgresVersion : Except Fault String
  postgresVersionDetails : Except Fault String
  connection : Except Fault Unit
  connectWorkerToSpi : Except Fault Unit
  setting : Except String (Option String)
  post : Except Fault Unit

structure Worker where
  uuidFile : Option String
  connectedToSpi : Bool
  spiConnections : ℕ
  posted : List Capture
  deriving DecidableEq, Repr

/-- `Path::join` of a relative path. -/
def joinPath (root name : String) : String :=
  if root = "" ∨ root.endsWith "/" then root ++ name else root ++ "/" ++ name

def extensionPath (config : BgWorkerTelemetryConfig) : Except Fault String :=
  match config.extensionName with
  | "pg_analytics" => .ok (joinPath config.rootDataDirectory "deltalake")
  | "pg_search" => .ok (joinPath (joinPath config.rootDataDirectory "paradedb") "pg_search")
  | "pg_lakehouse" => .ok (joinPath (joinPath config.rootDataDirectory "paradedb") "pg_lakehouse")
  | name => .error (.panic ("no extension_path for unrecognized extension: \"" ++ name ++ "\""))

def extensionUuidPath (config : BgWorkerTelemetryConfig) : Except Fault String := do
  let path ← extensionPath config
  return joinPath path (config.extensionName ++ "_uuid")

def extensionSize (config : BgWorkerTelemetryConfig) (o : Outside) : Except Fault ℕ := do
  let _ ← extensionPath config
  return o.fileSizes.sum

section Events

-- `Uuid::parse_str` and the text of what it reads; `humansize::format_size`.
variable (parseUuid : String → Option String) (formatSize : ℕ → String)
variable (build : Build) (config : BgWorkerTelemetryConfig)

def readUuid (o : Outside) (w : Worker) : Option String :=
  if o.readable then w.uuidFile.bind parseUuid else none

/-- A UUID that cannot be read is replaced. -/
def extensionUuid (o : Outside) : Command Worker Fault String := do
  let _ ← ofResult (extensionUuidPath config)
  match readUuid parseUuid o (← get) with
  | some uuid => return uuid
  | none =>
    ofResult o.createDirAll
    match o.written with
    | .whole =>
      modify fun w => { w with uuidFile := some o.newUuid }
      return o.newUuid
    | .unopened message => throw (.error message)
    | .cut length message =>
      modify fun w => { w with uuidFile := some (String.ofList (o.newUuid.toList.take length)) }
      throw (.error message)

/-- The connection to Postgres, which a process must not make twice. -/
def connectOnce (o : Outside) : Command Worker Fault Unit := do
  if (← get).connectedToSpi then
    return ()
  else
    modify fun w => { w with spiConnections := w.spiConnections + 1 }
    ofResult o.connectWorkerToSpi
    modify fun w => { w with connectedToSpi := true }

def settingOn (setting : Except String (Option String)) : Except Fault Bool :=
  match setting with
  | .ok (some "true") => .ok true
  | .ok (some "on") => .ok true
  | .error message => .error (.error ("error checking telemetry guc setting: " ++ message))
  | .ok _ => .ok false

/-- `check_telemetry_setting`. -/
def telemetryEnabled (o : Outside) : Command Worker Fault Bool := do
  connectOnce o
  ofResult (settingOn o.setting)

/-- `send`; an event that has been posted may have arrived even when posting it fails. -/
def send (o : Outside) (uuid : String) (event : TelemetryEvent) : Command Worker Fault Unit := do
  ofResult o.connection
  if ← telemetryEnabled o then
    modify fun w => { w with posted := w.posted ++
      [⟨config.posthogHostUrl ++ "/capture", config.posthogApiKey, event.name, uuid, event,
        build.commitSha⟩] }
    ofResult o.post
  else
    return ()

def sendDeployment (o : Outside) : Command Worker Fault Unit := do
  let _ ← ofResult (extensionUuidPath config)
  if (← get).uuidFile.isSome && o.seen then
    return ()
  else
    let uuid ← extensionUuid parseUuid config o
    let path ← ofResult (extensionPath config)
    let postgresVersion ← ofResult o.postgresVersion
    let postgresVersionDetails ← ofResult o.postgresVersionDetails
    send build config o uuid (.deployment o.timestamp (o.arch.getD "") config.extensionName
      build.version path o.osType o.osVersion o.replicationMode postgresVersion
      postgresVersionDetails)

def sendDirectoryCheck (o : Outside) : Command Worker Fault Unit := do
  let uuid ← extensionUuid parseUuid config o
  let size ← ofResult (extensionSize config o)
  let path ← ofResult (extensionPath config)
  send build config o uuid
    (.directoryStatus config.extensionName o.replicationMode path size (formatSize size))

end Events

/-- The process has called `connect_worker_to_spi` once if it is connected, and else never. -/
def Worker.ConnectedOnce (w : Worker) : Prop :=
  w.spiConnections = if w.connectedToSpi then 1 else 0

theorem connectOnce_cases (o : Outside) (w : Worker) :
    ∃ r connected n, exec (connectOnce o) w =
        (r, { w with connectedToSpi := connected, spiConnections := n }) ∧
      (r = .ok () → connected = true) ∧ (w.ConnectedOnce → n ≤ 1 ∧ (r = .ok () → n = 1)) := by
  unfold Worker.ConnectedOnce
  rw [connectOnce, exec_bind, exec_get]
  dsimp only
  cases already : w.connectedToSpi with
  | true =>
    refine ⟨.ok (), true, w.spiConnections, ?_, fun _ => rfl, fun once => ?_⟩
    · rw [if_pos rfl, exec_pure, ← already]
    · rw [if_pos rfl] at once
      exact ⟨by omega, fun _ => once⟩
  | false =>
    rw [if_neg Bool.false_ne_true, exec_bind, exec_modify]
    dsimp only
    rw [exec_bind, exec_ofResult]
    cases o.connectWorkerToSpi with
    | error fault =>
      refine ⟨.error fault, false, w.spiConnections + 1, by rw [← already], nofun, fun once => ?_⟩
      rw [if_neg Bool.false_ne_true] at once
      exact ⟨by omega, nofun⟩
    | ok _ =>
      refine ⟨.ok (), true, w.spiConnections + 1, rfl, fun _ => rfl, fun once => ?_⟩
      rw [if_neg Bool.false_ne_true] at once
      exact ⟨by omega, fun _ => by omega⟩

section Made

variable {parseUuid : String → Option String} {formatSize : ℕ → String}
variable {build : Build} {config : BgWorkerTelemetryConfig} {o : Outside}

structure Made (parseUuid : String → Option String) (o : Outside) (w : Worker)
    (made : Except Fault Unit × Worker) : Prop where
  file : readUuid parseUuid o w ≠ none → made.2.uuidFile = w.uuidFile
  posted : made.2.posted = w.posted ∨ ∃ capture, settingOn o.setting = .ok true ∧
    made.2.posted = w.posted ++ [capture] ∧
    (parseUuid o.newUuid = some o.newUuid →
      ∃ content, made.2.uuidFile = some content ∧ parseUuid content = some capture.distinctId) ∧
    (capture.properties.isDeployment → (w.uuidFile.isSome && o.seen) = false) ∧
    made.2.connectedToSpi = true ∧ (w.ConnectedOnce → made.2.spiConnections = 1)
  once : w.ConnectedOnce → made.2.spiConnections ≤ 1 ∧ (made.1 = .ok () → made.2.ConnectedOnce)

theorem made_of_file {w : Worker} {file : Option String} {r : Except Fault Unit}
    (kept : readUuid parseUuid o w ≠ none → file = w.uuidFile) :
    Made parseUuid o w (r, { w with uuidFile := file }) where
  file := kept
  posted := .inl rfl
  once once := by
    refine ⟨?_, fun _ => once⟩
    rw [Worker.ConnectedOnce] at once
    split at once <;> simp [once]

theorem extensionUuid_cases (w : Worker) :
    ∃ r file, exec (extensionUuid parseUuid config o) w = (r, { w with uuidFile := file }) ∧
      (readUuid parseUuid o w ≠ none → file = w.uuidFile) ∧
      ∀ uuid, r = .ok uuid → parseUuid o.newUuid = some o.newUuid →
        ∃ content, file = some content ∧ parseUuid content = some uuid := by
  rw [extensionUuid, exec_bind, exec_ofResult]
  cases extensionUuidPath config with
  | error fault => exact ⟨.error fault, w.uuidFile, rfl, fun _ => rfl, nofun⟩
  | ok path =>
    dsimp only
    rw [exec_bind, exec_get]
    dsimp only
    cases read : readUuid parseUuid o w with
    | some uuid =>
      refine ⟨.ok uuid, w.uuidFile, rfl, fun _ => rfl, fun uuid' same _ => ?_⟩
      cases same
      unfold readUuid at read
      split at read
      · exact Option.bind_eq_some_iff.mp read
      · cases read
    | none =>
      dsimp only
      rw [exec_bind, exec_ofResult]
      cases o.createDirAll with
      | error fault => exact ⟨.error fault, w.uuidFile, rfl, fun _ => rfl, nofun⟩
      | ok _ =>
        dsimp only
        cases o.written with
        | whole =>
          refine ⟨.ok o.newUuid, some o.newUuid, rfl, fun gone => absurd rfl gone,
            fun uuid same fresh => ?_⟩
          cases same
          exact ⟨_, rfl, fresh⟩
        | unopened message => exact ⟨_, w.uuidFile, rfl, fun _ => rfl, nofun⟩
        | cut length message => exact ⟨_, _, rfl, fun gone => absurd rfl gone, nofun⟩

theorem send_made {uuid : String} {event : TelemetryEvent} {w : Worker} {file : Option String}
    (kept : readUuid parseUuid o w ≠ none → file = w.uuidFile)
    (named : parseUuid o.newUuid = some o.newUuid →
      ∃ content, file = some content ∧ parseUuid content = some uuid)
    (first : event.isDeployment → (w.uuidFile.isSome && o.seen) = false) :
    Made parseUuid o w (exec (send build config o uuid event) { w with uuidFile := file }) := by
  rw [send, exec_bind, exec_ofResult]
  cases o.connection with
  | error fault => exact made_of_file kept
  | ok _ =>
    obtain ⟨r, connected, n, ran, done, once⟩ := connectOnce_cases o { w with uuidFile := file }
    dsimp only
    rw [exec_bind, telemetryEnabled, exec_bind, ran]
    cases r with
    | error fault => exact ⟨kept, .inl rfl, fun before => ⟨(once before).1, nofun⟩⟩
    | ok _ =>
      dsimp only
      rw [exec_ofResult]
      cases on : settingOn o.setting with
      | error fault => exact ⟨kept, .inl rfl, fun before => ⟨(once before).1, nofun⟩⟩
      | ok enabled =>
        obtain rfl : connected = true := done rfl
        have connects : w.ConnectedOnce → n = 1 := fun before => (once before).2 rfl
        cases enabled with
        | false => exact ⟨kept, .inl rfl, fun before => ⟨(once before).1, fun _ =>
            connects before⟩⟩
        | true =>
          exact ⟨kept, .inr ⟨_, on, rfl, named, first, rfl, connects⟩, fun before =>
            ⟨(once before).1, fun _ => connects before⟩⟩

theorem sendDeployment_made (w : Worker) :
    Made parseUuid o w (exec (sendDeployment parseUuid build config o) w) := by
  rw [sendDeployment, exec_bind, exec_ofResult]
  cases extensionUuidPath config with
  | error fault => exact made_of_file fun _ => rfl
  | ok path =>
    dsimp only
    rw [exec_bind, exec_get]
    dsimp only
    cases known : w.uuidFile.isSome && o.seen with
    | true => exact made_of_file fun _ => rfl
    | false =>
      obtain ⟨r, file, ran, kept, named⟩ := @extensionUuid_cases parseUuid config o w
      rw [if_neg Bool.false_ne_true, exec_bind, ran]
      cases r with
      | error fault => exact made_of_file kept
      | ok uuid =>
        dsimp only
        simp only [exec_bind, exec_ofResult]
        cases extensionPath config with
        | error fault => exact made_of_file kept
        | ok path =>
          cases o.postgresVersion with
          | error fault => exact made_of_file kept
          | ok postgresVersion =>
            cases o.postgresVersionDetails with
            | error fault => exact made_of_file kept
            | ok details => exact send_made kept (named uuid rfl) fun _ => known

theorem sendDirectoryCheck_made (w : Worker) :
    Made parseUuid o w (exec (sendDirectoryCheck parseUuid formatSize build config o) w) := by
  obtain ⟨r, file, ran, kept, named⟩ := @extensionUuid_cases parseUuid config o w
  rw [sendDirectoryCheck, exec_bind, ran]
  cases r with
  | error fault => exact made_of_file kept
  | ok uuid =>
    dsimp only
    simp only [exec_bind, exec_ofResult]
    cases extensionSize config o with
    | error fault => exact made_of_file kept
    | ok size =>
      cases extensionPath config with
      | error fault => exact made_of_file kept
      | ok path => exact send_made kept (named uuid rfl) fun deployment => by cases deployment

end Made

structure TelemetryController where
  directoryCheckInterval : ℕ
  sleepInterval : ℕ
  deriving DecidableEq, Repr

/-- The controller of `telemetry_worker`: twelve hours, and one second. -/
def TelemetryController.ofWorker : TelemetryController where
  directoryCheckInterval := 12 * 3600 * 10 ^ 9
  sleepInterval := 10 ^ 9

structure Process where
  config : BgWorkerTelemetryConfig
  startedAt : ℕ
  lastActionTime : ℕ
  now : ℕ
  checks : ℕ
  deriving DecidableEq, Repr

structure Server where
  worker : Worker
  process : Option Process
  deriving DecidableEq, Repr

def Server.new : Server := ⟨⟨none, false, 0, []⟩, none⟩

/-- The worker is started, and is in its loop at `done`; it goes round the loop once, sleeping to
`wake` and polling at `done`; or it is killed. -/
inductive Action where
  | start (o : Outside) (starts done : ℕ)
  | iterate (o : Outside) (wake done : ℕ) (sigtermReceived : Bool)
  | kill

section Worker

variable (parseUuid : String → Option String) (formatSize : ℕ → String) (build : Build)
variable (controller : TelemetryController) (dataDir : String) (extension : ParadeExtension)

/-- `telemetry_worker` up to the loop. Nothing runs when it is not compiled in. -/
def telemetryWorker (o : Outside) (starts done : ℕ) : Command Worker Fault (Option Process) := do
  match ParadeExtension.fromI32 extension.toI32 with
  | none => throw (.panic ("unexpected extension i32 passed to bgworker " ++
      toString extension.toI32))
  | some extension =>
    if build.paradedbTelemetry ≠ some "true" then
      return none
    else
      let config ← ofResult (BgWorkerTelemetryConfig.new build dataDir extension.name)
      sendDeployment parseUuid build config o
      return some ⟨config, starts, starts, done, 0⟩

/-- The body of the loop of `run`. -/
def iterate (process : Process) (o : Outside) (wake done : ℕ) (sigtermReceived : Bool) :
    Command Worker Fault (Option Process) := do
  if controller.directoryCheckInterval ≤ wake - process.lastActionTime then
    sendDirectoryCheck parseUuid formatSize build process.config o
    return if sigtermReceived then none else some { process with
      lastActionTime := done, now := done, checks := process.checks + 1 }
  else
    return if sigtermReceived then none else some { process with now := done }

/-- The process is gone when its command has failed; the answer is what it has posted. -/
def settle (w : Worker) (ran : Except Fault (Option Process) × Worker) : Server × List Capture :=
  (⟨ran.2, match ran.1 with
    | .ok process => process
    | .error _ => none⟩, ran.2.posted.drop w.posted.length)

/-- Time does not go back in a process, which sleeps for the interval at least. -/
def server : Machine Server Action (List Capture)
  | ⟨w, none⟩, .start o starts done =>
    if starts ≤ done then
      some (settle w (exec (telemetryWorker parseUuid build dataDir extension o starts done)
        { w with connectedToSpi := false, spiConnections := 0 }))
    else
      none
  | ⟨w, some process⟩, .iterate o wake done sigtermReceived =>
    if process.now + controller.sleepInterval ≤ wake ∧ wake ≤ done then
      some (settle w (exec (iterate parseUuid formatSize build controller process o wake done
        sigtermReceived) w))
    else
      none
  | ⟨w, some _⟩, .kill => some (⟨w, none⟩, [])
  | _, _ => none

end Worker

theorem ok_of_settle (w : Worker) {ran : Except Fault (Option Process) × Worker}
    {process : Process} (running : (settle w ran).1.process = some process) :
    ran.1 = .ok (some process) := by
  obtain ⟨fault | process', w'⟩ := ran
  · cases running
  · exact congrArg Except.ok running

section Runs

variable {parseUuid : String → Option String} {formatSize : ℕ → String} {build : Build}
variable {controller : TelemetryController} {dataDir : String} {extension : ParadeExtension}

def Acted (parseUuid : String → Option String) (o : Outside) (w : Worker)
    (ran : Except Fault (Option Process) × Worker) : Prop :=
  ∃ r, Made parseUuid o w (r, ran.2) ∧ ∀ process, ran.1 = .ok (some process) → r = .ok ()

theorem telemetryWorker_cases (o : Outside) (starts done : ℕ) (w : Worker) :
    Acted parseUuid o w
        (exec (telemetryWorker parseUuid build dataDir extension o starts done) w) ∧
      ∀ process, (exec (telemetryWorker parseUuid build dataDir extension o starts done) w).1 =
        .ok (some process) → ∃ config, process = ⟨config, starts, starts, done, 0⟩ := by
  have silent : ∀ r : Except Fault (Option Process), Acted parseUuid o w (r, w) := fun r =>
    ⟨.ok (), made_of_file fun _ => rfl, fun _ _ => rfl⟩
  rw [telemetryWorker, ParadeExtension.fromI32_toI32]
  dsimp only
  split
  · exact ⟨silent _, fun process same => by cases same⟩
  · rw [exec_bind, exec_ofResult]
    cases BgWorkerTelemetryConfig.new build dataDir extension.name with
    | error fault => exact ⟨silent _, fun process same => by cases same⟩
    | ok config =>
      dsimp only
      have made : Made parseUuid o w (exec (sendDeployment parseUuid build config o) w) :=
        sendDeployment_made w
      rw [exec_bind]
      rcases ran : exec (sendDeployment parseUuid build config o) w with ⟨fault | _, w'⟩
      all_goals rw [ran] at made
      · exact ⟨⟨_, made, fun process same => by cases same⟩, fun process same => by cases same⟩
      · refine ⟨⟨_, made, fun _ _ => rfl⟩, fun process same => ?_⟩
        cases same
        exact ⟨config, rfl⟩

/-- Where the time stands after a round of the loop: it checked, or it did not have to. -/
def Iterated (controller : TelemetryController) (process process' : Process) (wake done : ℕ) :
    Prop :=
  process' = { process with
    lastActionTime := done, now := done, checks := process.checks + 1 } ∧
      controller.directoryCheckInterval ≤ wake - process.lastActionTime ∨
  process' = { process with now := done } ∧
    wake - process.lastActionTime < controller.directoryCheckInterval

theorem iterate_cases (process : Process) (o : Outside) (wake done : ℕ) (sigtermReceived : Bool)
    (w : Worker) :
    Acted parseUuid o w (exec (iterate parseUuid formatSize build controller process o wake done
        sigtermReceived) w) ∧
      ∀ process', (exec (iterate parseUuid formatSize build controller process o wake done
        sigtermReceived) w).1 = .ok (some process') →
          Iterated controller process process' wake done := by
  rw [iterate]
  split
  · rename_i due
    have made : Made parseUuid o w
        (exec (sendDirectoryCheck parseUuid formatSize build process.config o) w) :=
      sendDirectoryCheck_made w
    rw [exec_bind]
    rcases ran : exec (sendDirectoryCheck parseUuid formatSize build process.config o) w
      with ⟨fault | _, w'⟩
    all_goals rw [ran] at made
    · exact ⟨⟨_, made, fun _ same => by cases same⟩, fun _ same => by cases same⟩
    · refine ⟨⟨_, made, fun _ _ => rfl⟩, fun process' same => ?_⟩
      cases sigtermReceived with
      | true => cases same
      | false =>
        cases same
        exact .inl ⟨rfl, due⟩
  · rename_i early
    refine ⟨⟨.ok (), made_of_file fun _ => rfl, fun _ _ => rfl⟩, fun process' same => ?_⟩
    cases sigtermReceived with
    | true => cases same
    | false =>
      cases same
      exact .inr ⟨rfl, by omega⟩

def Action.outside : Action → Option Outside
  | .start o _ _ => some o
  | .iterate o _ _ _ => some o
  | .kill => none

/-- Where the time stands after an action that leaves a process. -/
def Timed (controller : TelemetryController) (process : Option Process) (process' : Process) :
    Action → Prop
  | .start _ starts done => starts ≤ done ∧ ∃ config, process' = ⟨config, starts, starts, done, 0⟩
  | .iterate _ wake done _ => ∃ before, process = some before ∧
    before.now + controller.sleepInterval ≤ wake ∧ wake ≤ done ∧
      Iterated controller before process' wake done
  | .kill => False

/-- A step of the server: the worker is killed, or acts, in a new process or in the one it has. -/
theorem server_cases {s s' : Server} {action : Action} {posted : List Capture}
    (step : server parseUuid formatSize build controller dataDir extension s action =
      some (s', posted)) :
    (∀ process', s'.process = some process' → Timed controller s.process process' action) ∧
    (action = .kill ∧ s' = ⟨s.worker, none⟩ ∧ posted = [] ∨
      ∃ o w ran, action.outside = some o ∧ Acted parseUuid o w ran ∧
        (s', posted) = settle w ran ∧ w.uuidFile = s.worker.uuidFile ∧
        w.posted = s.worker.posted ∧ (w.ConnectedOnce ∨ s.process.isSome ∧ w = s.worker)) := by
  obtain ⟨w, process⟩ := s
  cases action with
  | start o starts done =>
    cases process with
    | some process => cases step
    | none =>
      unfold server at step
      dsimp only at step
      split at step
      · rename_i forward
        obtain ⟨acted, timed⟩ := @telemetryWorker_cases parseUuid build dataDir extension o starts
          done { w with connectedToSpi := false, spiConnections := 0 }
        cases step
        exact ⟨fun process' same => ⟨forward, timed _ (ok_of_settle w same)⟩,
          .inr ⟨o, _, _, rfl, acted, rfl, rfl, rfl, .inl rfl⟩⟩
      · cases step
  | iterate o wake done sigtermReceived =>
    cases process with
    | none => cases step
    | some process =>
      unfold server at step
      dsimp only at step
      split at step
      · rename_i slept
        obtain ⟨acted, timed⟩ := @iterate_cases parseUuid formatSize build controller process o
          wake done sigtermReceived w
        cases step
        exact ⟨fun process' same => ⟨process, rfl, slept.1, slept.2, timed _ (ok_of_settle w same)⟩,
          .inr ⟨o, w, _, rfl, acted, rfl, rfl, rfl, .inr ⟨rfl, rfl⟩⟩⟩
      · cases step
  | kill =>
    cases process with
    | none => cases step
    | some process =>
      cases step
      refine ⟨fun process' same => ?_, .inl ⟨rfl, rfl, rfl⟩⟩
      cases same

theorem Acted.posted {o : Outside} {w : Worker} {ran : Except Fault (Option Process) × Worker}
    {s' : Server} {posted : List Capture} (acted : Acted parseUuid o w ran)
    (settled : (s', posted) = settle w ran) :
    s'.worker = ran.2 ∧ s'.worker.posted = w.posted ++ posted ∧
      ∀ capture ∈ posted, settingOn o.setting = .ok true ∧
        (parseUuid o.newUuid = some o.newUuid → ∃ content, ran.2.uuidFile = some content ∧
          parseUuid content = some capture.distinctId) ∧
        (capture.properties.isDeployment → (w.uuidFile.isSome && o.seen) = false) ∧
        (ran.2.connectedToSpi = true ∧ (w.ConnectedOnce → ran.2.spiConnections = 1)) ∧
        posted = [capture] := by
  obtain ⟨r, made, -⟩ := acted
  obtain ⟨rfl, rfl⟩ := Prod.mk.inj settled
  have grown : ran.2.posted = w.posted ∨ _ := made.posted
  rcases grown with same | ⟨capture, on, same, named, first, connected⟩
  · have none : ran.2.posted.drop w.posted.length = [] := by rw [same, List.drop_length]
    rw [none]
    exact ⟨rfl, same.trans (List.append_nil _).symm, fun _ mem => absurd mem List.not_mem_nil⟩
  · have only : ran.2.posted.drop w.posted.length = [capture] := by
      rw [show ran.2.posted = w.posted ++ [capture] from same, List.drop_left]
    rw [only]
    refine ⟨rfl, same, fun other mem => ?_⟩
    obtain rfl := List.mem_singleton.mp mem
    exact ⟨on, named, first, connected, rfl⟩

/-- Everything that has been posted went under the UUID that the file holds. -/
def Named (parseUuid : String → Option String) (w : Worker) : Prop :=
  w.posted = [] ∨ ∃ content uuid, w.uuidFile = some content ∧ parseUuid content = some uuid ∧
    ∀ capture ∈ w.posted, capture.distinctId = uuid

/-- The file is seen and read when it is there, and the text of a new UUID is read as it is
written. -/
def Sees (parseUuid : String → Option String) (action : Action) : Prop :=
  ∀ o ∈ action.outside, o.seen = true ∧ o.readable = true ∧
    parseUuid o.newUuid = some o.newUuid

instance (parseUuid : String → Option String) (action : Action) :
    Decidable (Sees parseUuid action) := by
  unfold Sees
  infer_instance

/-- As long as the file of the UUID is seen and read, every event of a server is posted under one
UUID, and the deployment before all others, however often the worker is started. -/
theorem events_carry_one_uuid (inputs : List Action)
    (sees : ∀ action ∈ inputs, Sees parseUuid action) :
    Always (server parseUuid formatSize build controller dataDir extension) (fun s _ posted =>
      ∀ capture ∈ posted, posted = [capture] ∧
        (∀ earlier ∈ s.worker.posted, earlier.distinctId = capture.distinctId) ∧
        (capture.properties.isDeployment → s.worker.posted = [])) Server.new inputs := by
  refine always_of_invariant (fun s => Named parseUuid s.worker) ?_ (.inl rfl) inputs
    (along_of_forall sees)
  intro s action s' posted named sees step
  obtain ⟨-, ⟨-, rfl, rfl⟩ | ⟨o, w, ran, outside, acted, settled, file, history, -⟩⟩ :=
    server_cases step
  · exact ⟨named, fun _ mem => absurd mem List.not_mem_nil⟩
  · obtain ⟨seen, readable, fresh⟩ := sees o outside
    obtain ⟨after, grown, each⟩ := acted.posted settled
    obtain ⟨r, made, -⟩ := acted
    -- The UUID of earlier events is still in the file.
    have stays : ∀ content uuid, s.worker.uuidFile = some content →
        parseUuid content = some uuid → ran.2.uuidFile = some content := by
      intro content uuid held parsed
      rw [← file] at held
      rw [← held]
      exact made.file (by simp [readUuid, readable, held, parsed])
    have uuids : ∀ capture ∈ posted, ∀ earlier ∈ s.worker.posted,
        earlier.distinctId = capture.distinctId := by
      intro capture mem earlier before
      obtain ⟨-, here, -⟩ := each capture mem
      obtain ⟨content, held, parsed⟩ := here fresh
      rcases named with none | ⟨content', uuid, held', parsed', all⟩
      · rw [none] at before
        cases before
      · rw [stays content' uuid held' parsed', Option.some.injEq] at held
        rw [← held, parsed', Option.some.injEq] at parsed
        rw [all earlier before, parsed]
    constructor
    · unfold Named
      rw [grown, history, after]
      cases posted with
      | nil =>
        refine named.imp (fun none => by simp [none]) fun held => ?_
        obtain ⟨content, uuid, held, parsed, all⟩ := held
        exact ⟨content, uuid, stays content uuid held parsed, parsed, by simpa using all⟩
      | cons capture rest =>
        obtain ⟨-, here, -, -, one⟩ := each capture List.mem_cons_self
        obtain ⟨content, held, parsed⟩ := here fresh
        refine .inr ⟨content, capture.distinctId, held, parsed, fun other mem => ?_⟩
        rw [one] at mem
        rcases List.mem_append.mp mem with before | now
        · exact uuids capture List.mem_cons_self other before
        · rw [List.mem_singleton.mp now]
    · intro capture mem
      obtain ⟨-, -, first, -, one⟩ := each capture mem
      refine ⟨one, uuids capture mem, fun deployment => ?_⟩
      have gone := first deployment
      rw [seen, Bool.and_true, file] at gone
      rcases named with none | ⟨content, uuid, held, -⟩
      · exact none
      · rw [held] at gone
        cases gone

/-- An event is posted only in a step in which the setting reads as on, by a process that has
connected to Postgres once, and no process connects twice. -/
theorem posted_only_when_on (inputs : List Action) :
    Always (server parseUuid formatSize build controller dataDir extension) (fun s action posted =>
      s.worker.spiConnections ≤ 1 ∧ ∀ capture ∈ posted, posted = [capture] ∧
        ∃ o s', action.outside = some o ∧ settingOn o.setting = .ok true ∧
          server parseUuid formatSize build controller dataDir extension s action =
            some (s', posted) ∧
          s'.worker.connectedToSpi = true ∧ s'.worker.spiConnections = 1) Server.new inputs := by
  refine always_of_inductive (fun s => s.worker.spiConnections ≤ 1 ∧
    (s.process.isSome → s.worker.ConnectedOnce)) ?_ ⟨by decide, fun none => by cases none⟩ inputs
  rintro s action s' posted ⟨most, once⟩ step
  obtain ⟨-, ⟨-, rfl, rfl⟩ | ⟨o, w, ran, outside, acted, settled, -, -, connected⟩⟩ :=
    server_cases step
  · exact ⟨⟨most, fun running => by cases running⟩, most, fun _ mem => absurd mem List.not_mem_nil⟩
  · obtain ⟨after, -, each⟩ := acted.posted settled
    obtain ⟨r, made, goes⟩ := acted
    have before : w.ConnectedOnce := by
      rcases connected with fresh | ⟨running, rfl⟩
      · exact fresh
      · exact once running
    obtain ⟨atMost, connectedOnce⟩ := made.once before
    refine ⟨⟨by rwa [after], fun running => ?_⟩, most, fun capture mem => ?_⟩
    · rw [after]
      obtain ⟨process, running⟩ := Option.isSome_iff_exists.mp running
      rw [(Prod.mk.inj settled).1] at running
      exact connectedOnce (goes process (ok_of_settle w running))
    · obtain ⟨on, -, -, ⟨made, number⟩, one⟩ := each capture mem
      refine ⟨one, o, s', outside, on, step, ?_, ?_⟩
      · rw [after, made]
      · rw [after, number before]

/-- What the time of a step comes to: at most `d` passes while the worker starts, and while it goes
round its loop. -/
def Within (d : ℕ) (s : Server) : Action → Prop
  | .start _ starts done => done - starts ≤ d
  | .iterate _ _ done _ => ∀ process ∈ s.process, done - process.now ≤ d
  | .kill => True

structure OnTime (controller : TelemetryController) (d : ℕ) (process : Process) : Prop where
  started : process.startedAt + process.checks * controller.directoryCheckInterval ≤
    process.lastActionTime
  acted : process.lastActionTime ≤ process.startedAt +
    process.checks * (controller.directoryCheckInterval + 2 * d)
  past : process.lastActionTime ≤ process.now
  soon : process.now ≤ process.lastActionTime + controller.directoryCheckInterval + d

instance (d : ℕ) (s : Server) (action : Action) : Decidable (Within d s action) := by
  cases action <;> unfold Within <;> infer_instance

theorem Iterated.onTime {process process' : Process} {wake done d : ℕ}
    (iterated : Iterated controller process process' wake done)
    (slept : process.now + controller.sleepInterval ≤ wake) (polled : wake ≤ done)
    (within : done - process.now ≤ d) (onTime : OnTime controller d process) :
    OnTime controller d process' := by
  obtain ⟨started, acted, past, soon⟩ := onTime
  rcases iterated with ⟨rfl, due⟩ | ⟨rfl, early⟩
  · refine ⟨?_, ?_, ?_, ?_⟩
    · dsimp only
      rw [Nat.succ_mul]
      omega
    · dsimp only
      rw [Nat.succ_mul]
      omega
    · dsimp only
      omega
    · dsimp only
      omega
  · refine ⟨started, acted, ?_, ?_⟩
    · dsimp only
      omega
    · dsimp only
      omega

/-- When no round of the loop takes longer than `d`, a process has checked the directory at every
time as often as the interval has gone by, and no more often: up to a delay of `2 * d` for
each check. -/
theorem checks_on_time (d : ℕ) (inputs : List Action)
    (along : Along (server parseUuid formatSize build controller dataDir extension)
      (Within d) Server.new inputs) :
    Always (server parseUuid formatSize build controller dataDir extension) (fun s _ _ =>
      ∀ process ∈ s.process,
        process.checks * controller.directoryCheckInterval ≤ process.now - process.startedAt ∧
        process.now - process.startedAt ≤
          (process.checks + 1) * (controller.directoryCheckInterval + 2 * d))
      Server.new inputs := by
  refine always_of_invariant (fun s => ∀ process ∈ s.process, OnTime controller d process) ?_
    (fun _ mem => by cases mem) inputs along
  intro s action s' posted onTime within step
  constructor
  · intro process' running
    have timed := (server_cases step).1 process' running
    cases action with
    | start o starts done =>
      obtain ⟨forward, config, rfl⟩ := timed
      have started : done - starts ≤ d := within
      exact ⟨by simp, by simp, forward, by dsimp only; omega⟩
    | iterate o wake done sigtermReceived =>
      obtain ⟨process, before, slept, polled, iterated⟩ := timed
      exact iterated.onTime slept polled (within process before) (onTime process before)
    | kill => exact timed.elim
  · intro process running
    obtain ⟨started, acted, past, soon⟩ := onTime process running
    rw [Nat.succ_mul]
    constructor <;> omega

end Runs

def calm (newUuid : String) : Outside where
  seen := true
  readable := true
  newUuid := newUuid
  createDirAll := .ok ()
  written := .whole
  fileSizes := [512]
  timestamp := "2024-08-01T00:00:00+00:00"
  arch := some "x86_64"
  osType := "Linux"
  osVersion := "22.04"
  replicationMode := none
  postgresVersion := .ok "16.3"
  postgresVersionDetails := .ok "PostgreSQL 16.3"
  connection := .ok ()
  connectWorkerToSpi := .ok ()
  setting := .ok (some "on")
  post := .ok ()

def calmBuild : Build := ⟨some "true", some "key", some "https://host", none, "0.1.0"⟩

/-- `Uuid::parse_str` of a text with hyphens and small letters. -/
def parseHyphenated (text : String) : Option String :=
  if (text.toList.splitOn '-').map List.length = [8, 4, 4, 4, 12] ∧
      text.toList.all (fun c => c = '-' ∨ c.isDigit ∨ 'a' ≤ c ∧ c ≤ 'f') then
    some text
  else
    none

def twoStarts : List Action :=
  [.start (calm "0b1e7c52-3f0a-4d6b-9c1e-5a2f8d7e4b90") 0 0,
    .iterate (calm "c9a4d1f8-72be-4e05-8a37-16f0b2c3d4e5") (10 ^ 9) (10 ^ 9) false,
    .iterate (calm "5d20f6e3-b894-4c7a-a1d2-e8390c5b6f71") (43200 * 10 ^ 9) (43201 * 10 ^ 9) false,
    .kill,
    .start (calm "e7f3a2b1-0c9d-4856-b3e4-92d17a6c8f05") 0 (10 ^ 9),
    .iterate (calm "18c5b9d7-e6f2-4a30-94b8-3d7e0f1a2c6b") (43200 * 10 ^ 9) (43200 * 10 ^ 9) true]

theorem events_carry_one_uuid_twoStarts :
    Always (server parseHyphenated (fun _ => "512 B") calmBuild .ofWorker "/data" .pgLakehouse)
      (fun s _ posted => ∀ capture ∈ posted, posted = [capture] ∧
        (∀ earlier ∈ s.worker.posted, earlier.distinctId = capture.distinctId) ∧
        (capture.properties.isDeployment → s.worker.posted = [])) Server.new twoStarts :=
  events_carry_one_uuid twoStarts (by decide)

def fourSeconds : TelemetryController := ⟨4 * 10 ^ 9, 10 ^ 9⟩

def polls : List Action :=
  [.start (calm "0b1e7c52-3f0a-4d6b-9c1e-5a2f8d7e4b90") 0 (10 ^ 8),
    .iterate (calm "c9a4d1f8-72be-4e05-8a37-16f0b2c3d4e5") (15 * 10 ^ 8) (15 * 10 ^ 8) false,
    .iterate (calm "5d20f6e3-b894-4c7a-a1d2-e8390c5b6f71") (3 * 10 ^ 9) (3 * 10 ^ 9) false,
    .iterate (calm "e7f3a2b1-0c9d-4856-b3e4-92d17a6c8f05") (4 * 10 ^ 9) (45 * 10 ^ 8) false,
    .iterate (calm "18c5b9d7-e6f2-4a30-94b8-3d7e0f1a2c6b") (55 * 10 ^ 8) (6 * 10 ^ 9) false]

theorem checks_on_time_polls :
    Always (server parseHyphenated (fun _ => "512 B") calmBuild fourSeconds "/data" .pgLakehouse)
      (fun s _ _ => ∀ process ∈ s.process,
        process.checks * fourSeconds.directoryCheckInterval ≤ process.now - process.startedAt ∧
        process.now - process.startedAt ≤
          (process.checks + 1) * (fourSeconds.directoryCheckInterval + 2 * (15 * 10 ^ 8)))
      Server.new polls :=
  checks_on_time (15 * 10 ^ 8) polls (by decide)

end PgAnalytics.Telemetry
