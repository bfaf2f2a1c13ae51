import Talkback.App.Cli
import Talkback.App.Console
import Talkback.App.Paths
import Talkback.App.Store
import Talkback.Audio.Device
import Talkback.Transport.Socket
import Talkback.Upload.Tcp

/-!
A whole run of the console program, from its command line to its exit.

The command line is read first: help, the version and refusals are printed at once. Listing
devices comes next and reads no settings. Otherwise the settings file is placed from the
command line and the environment; writing the default settings there ends the run too.
Then the settings are loaded, the client begins, the audio device opens and the connection
is made. A failure there ends the run with the failure and its causes. Once connected, the
console runs against the loop until it ends and the loop has stopped.

The host this runs on has no network. The server is reached only through the stand-in peer
when the environment names a transcript for it; otherwise the connection cannot be made. The
audio device is a stand-in as well: its capture delivers a fixed number of frames at once,
and its playback takes whatever it is given.
-/

namespace Talkback.App

/-- What the program starts with: its arguments, its environment, the files on disk, and what
is done to it while it runs. -/
structure Launch where
  args : List String
  env : List (String × String)
  files : Host.Files
  actions : List Action
  deriving Inhabited

/-- How a run ends: the exit code (none when the program had to be killed), the lines the
console wrote, the lines of the error output, what each action reported, and the files left
on disk. -/
structure Ending where
  exitCode : Option Nat
  stdout : List String
  stderr : List String
  reports : List Report
  files : Host.Files
  deriving Inhabited

namespace Launch

/-- The value of an environment variable. -/
def var (l : Launch) (name : String) : Option String := l.env.lookup name

/-- The variables that place the settings file; an empty home counts as none. -/
def environment (l : Launch) : Environment :=
  { configFile := l.var "VOXLINK_CONFIG", configHome := l.var "XDG_CONFIG_HOME",
    home := (l.var "HOME").filter fun h => !h.isEmpty }

end Launch

/-- The devices a list such as `in*:Mic;out:Speakers` names, in the host's order: each entry
has a kind before its first colon (`in` or `out`, with `*` for the host's default) and a name
after it; entries of another kind or without a colon are skipped. -/
def deviceList (spec : String) : List Audio.DeviceInfo :=
  Audio.sortDevices ((spec.splitOn ";").filterMap fun entry =>
    match entry.splitOn ":" with
    | kind :: part :: more =>
      let name := String.intercalate ":" (part :: more)
      if kind == "in" then some ⟨name, .input, false⟩
      else if kind == "in*" then some ⟨name, .input, true⟩
      else if kind == "out" then some ⟨name, .output, false⟩
      else if kind == "out*" then some ⟨name, .output, true⟩
      else none
    | _ => none)

/-- A device as listed: its direction padded to six columns, then its name. -/
def deviceLine (d : Audio.DeviceInfo) : String :=
  let dir := d.direction.name
  dir ++ String.ofList (List.replicate (6 - dir.length) ' ') ++ " " ++ d.name ++
    (if d.isDefault then " (default)" else "")

/-- The error output of a run that failed while doing `context`: the causes, outermost first,
are numbered when there are several. -/
def errorLines (context : String) (causes : List String) : List String :=
  ["Error: " ++ context, "", "Caused by:"] ++
    match causes with
    | [c] => ["    " ++ c]
    | cs => ((List.range cs.length).zip cs).map fun (i, c) => "    " ++ toString i ++ ": " ++ c

/-- The frames the stand-in device captures at each start: byte `j` of frame `i` is
`7 i + j` modulo 256. -/
def deviceFrames (count size : Nat) : List (List UInt8) :=
  (List.range count).map fun i => (List.range size).map fun j => ((7 * i + j) % 256).toUInt8

/-- More turns of the loop than a session of typed input can use. -/
def turnLimit : Nat := 10000000

/-- The lines the console wrote, without the printers' lines. -/
def consoleLines (s : Session) : List String :=
  (s.out.toList.filter fun p => !p.byPrinter).map (·.text)

/-- The ending of a program that exited with `code`, having written the lines of `s` and the
error output `err`, with the files `fs`; the actions then find it gone. -/
def exitEarly (code : Nat) (s : Session) (err : List String) (fs : Host.Files) (actions : List Action) :
    Ending :=
  let (s, fs) := s.afterExit fs actions
  { exitCode := some code, stdout := consoleLines s, stderr := err, reports := s.reports.toList, files := fs }

/-- The ending once the console session is over: the program exited when the console is done
and was killed when it is not. -/
def closeSession (s : Session) (fs : Host.Files) : Ending :=
  { exitCode := if s.stance == .done then some 0 else none, stdout := consoleLines s, stderr := [],
    reports := s.reports.toList, files := fs }

/-- The stand-in peer the environment names, if it names one. -/
def Launch.wire (l : Launch) : Option Wire :=
  (l.var "VOXLINK_FAKE_WS").map fun path =>
    { peer := { transcript := path, reject := l.var "VOXLINK_FAKE_WS_REJECT" }, files := l.files }

/-- Open the device and make the connection, giving the opened connection to the peer. -/
def openConnection (l : Launch) (settings : Settings) : Except Error Wire :=
  match l.var "VOXLINK_FAKE_OPEN_ERROR" with
  | some m => .error (.audioDevice m)
  | none =>
    let auth := settings.auth none
    match l.wire with
    | some wire =>
      match wire.connect settings.socketConfig.url auth.header with
      | (.ok (), wire) => .ok wire
      | (.error e, _) => .error e
    | none =>
      match (Transport.Socket.connect { config := settings.socketConfig } auth).2 with
      | .error e => .error e
      | .ok () => .error (.io IoError.unreachable)

/-- Run the console against a client with `settings`. -/
def connectAndServe (l : Launch) (settings : Settings) : Ending :=
  let s : Session := { actions := l.actions }
  match Client.Shared.create settings.clientConfig with
  | .error _ => exitEarly 101 s [] l.files l.actions
  | .ok sh =>
    match sh.begin with
    | .error _ => exitEarly 101 s [] l.files l.actions
    | .ok sh =>
    match openConnection l settings with
    | .error e =>
      let s := s.print (sh.fail e)
      exitEarly 1 s (errorLines "connecting to server" (e.message :: e.causes)) l.files l.actions
    | .ok wire =>
      let url := settings.socketConfig.url
      let s := s.say ["connected to " ++ url ++ " (type `help` for commands)"]
      let cfg := sh.config
      let count := ((l.var "VOXLINK_FAKE_FRAMES").bind (Text.readUnsigned? 64)).getD 2
      let size := (cfg.format.frameBytes cfg.framesPerBuffer).toOption.getD 0
      let w : Stage := { shared := sh, device := { startFrames := deviceFrames count size, drains := true },
                         conn := wire, peer := () }
      let target : Upload.TcpTarget := { host := settings.serverHost, port := settings.serverPort }
      let (s, w) := Client.serve Wire.link target.connector Session.service turnLimit s w
      match s.frozen with
      | some fs => closeSession s fs
      | none =>
        let (s, w) := Session.afterLoop s.actions s w
        closeSession s w.conn.files

/-- Run the program. -/
def run (l : Launch) : Ending :=
  let s : Session := { actions := l.actions }
  match Invocation.parse l.args with
  | .help => exitEarly 0 (s.say helpLines) [] l.files l.actions
  | .version => exitEarly 0 (s.say [versionText]) [] l.files l.actions
  | .refused m tip usage => exitEarly 2 s (refusalLines m tip usage) l.files l.actions
  | .run o =>
    if o.listDevices then
      let devices := ((l.var "VOXLINK_FAKE_DEVICES").map deviceList).getD []
      exitEarly 0 (s.say (devices.map deviceLine)) [] l.files l.actions
    else
      let path := l.environment.settingsPath o.config
      if o.writeDefault then
        match saveSettings l.files path {} with
        | .ok fs => exitEarly 0 (s.say ["wrote " ++ path]) [] fs l.actions
        | .error e => exitEarly 1 s (errorLines ("writing " ++ path) [e.text]) l.files l.actions
      else connectAndServe l (loadSettings l.files path)

end Talkback.App
