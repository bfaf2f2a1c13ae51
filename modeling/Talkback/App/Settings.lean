import Talkback.Client.Config
import Talkback.Json.Decode
import Talkback.Transport.Auth
import Talkback.Transport.Socket

/-!
The console's settings, kept as a JSON document with camel-case field names.

Every field has a default, so a document may give any of them, and an unreadable document
gives the defaults. After reading, settings are normalized: texts are trimmed, an empty host
or path falls back to its default and a path gets a leading `/`, the three choices are read
leniently (`bearer` is `token`, `ulaw` is `mulaw`, `push` is `blocking`, and so on), and every
number is clamped to its range.
-/

namespace Talkback.App

/-- The console's settings. -/
structure Settings where
  serverHost : String := "127.0.0.1"
  serverPort : Nat := 8080
  wsPath : String := "/ws"
  authMode : String := "basic"
  username : String := "John"
  password : String := "Doe"
  apiKey : Option String := none
  apiSecret : Option String := none
  uploadPath : String := "/api/v1/audio/stream"
  sampleRate : Nat := 16000
  channels : Nat := 1
  encoding : String := "pcm16"
  framesPerBuffer : Nat := 512
  queueCapacity : Nat := 10
  playbackBufferKib : Nat := 1024
  playbackMode : String := "pull"
  maxRecordingSecs : Nat := 60
  uploadChunkQueue : Nat := 50
  pingIntervalSecs : Nat := 0
  preferredInputDevice : Option String := none
  preferredOutputDevice : Option String := none
  deriving DecidableEq, Repr, Inhabited

/-- A text without surrounding blanks, if anything is left. -/
def nonEmpty (raw : String) : Option String :=
  let t := Text.trimBlank raw
  if t.isEmpty then none else some t

/-- A path without surrounding blanks and with a leading `/`; `fallback` when empty. -/
def normalizePath (raw fallback : String) : String :=
  match nonEmpty raw with
  | none => fallback
  | some p => if p.startsWith "/" then p else "/" ++ p

/-- The ASCII lower case of a trimmed text. -/
def folded (raw : String) : String := (Text.trimBlank raw).map Char.toLower

/-- The authentication mode: `token`, `none` or `basic`. -/
def normalizeAuthMode (raw : String) : String :=
  match folded raw with
  | "token" | "bearer" | "jwt" => "token"
  | "none" | "off" => "none"
  | _ => "basic"

/-- The sample encoding: `mulaw` or `pcm16`. -/
def normalizeEncoding (raw : String) : String :=
  match folded raw with
  | "mulaw" | "mu-law" | "ulaw" | "g711" => "mulaw"
  | _ => "pcm16"

/-- The playback mode: `blocking` or `pull`. -/
def normalizePlaybackMode (raw : String) : String :=
  match folded raw with
  | "blocking" | "write" | "push" => "blocking"
  | _ => "pull"

/-- `n` held within `lo` and `hi`. -/
def clampTo (lo hi n : Nat) : Nat := max lo (min hi n)

namespace Settings

/-- The field names, in order. -/
def names : List String :=
  ["serverHost", "serverPort", "wsPath", "authMode", "username", "password", "apiKey",
    "apiSecret", "uploadPath", "sampleRate", "channels", "encoding", "framesPerBuffer",
    "queueCapacity", "playbackBufferKib", "playbackMode", "maxRecordingSecs",
    "uploadChunkQueue", "pingIntervalSecs", "preferredInputDevice", "preferredOutputDevice"]

/-- Settings brought to their canonical form. -/
def normalize (s : Settings) : Settings :=
  { serverHost := (nonEmpty s.serverHost).getD "127.0.0.1"
    serverPort := if s.serverPort = 0 then 8080 else s.serverPort
    wsPath := normalizePath s.wsPath "/ws"
    authMode := normalizeAuthMode s.authMode
    username := s.username
    password := s.password
    apiKey := s.apiKey.bind nonEmpty
    apiSecret := s.apiSecret.bind nonEmpty
    uploadPath := normalizePath s.uploadPath "/api/v1/audio/stream"
    sampleRate := clampTo 8000 48000 s.sampleRate
    channels := clampTo 1 2 s.channels
    encoding := normalizeEncoding s.encoding
    framesPerBuffer := clampTo 64 8192 s.framesPerBuffer
    queueCapacity := clampTo 1 1024 s.queueCapacity
    playbackBufferKib := clampTo 16 (16 * 1024) s.playbackBufferKib
    playbackMode := normalizePlaybackMode s.playbackMode
    maxRecordingSecs := clampTo 1 600 s.maxRecordingSecs
    uploadChunkQueue := clampTo 1 1000 s.uploadChunkQueue
    pingIntervalSecs := min 3600 s.pingIntervalSecs
    preferredInputDevice := s.preferredInputDevice.bind nonEmpty
    preferredOutputDevice := s.preferredOutputDevice.bind nonEmpty }

open Json Json.Decoder in
/-- Read settings from a document; absent fields keep their defaults. -/
def decode : Decoder Settings := fun v => do
  let s ← fieldsOrDefaults names v
  let d : Settings := {}
  let choice (i : Nat) : Option (Option String) :=
    match s.getD i none with
    | none => some none
    | some v => option string v
  -- a field given as null is refused unless it is optional; an absent one keeps its default
  let textReq (i : Nat) (dflt : String) : Option String :=
    match s.getD i none with
    | none => some dflt
    | some v => string v
  let numReq (i bits : Nat) (dflt : Nat) : Option Nat :=
    match s.getD i none with
    | none => some dflt
    | some v => unsigned bits v
  return {
    serverHost := ← textReq 0 d.serverHost
    serverPort := ← numReq 1 16 d.serverPort
    wsPath := ← textReq 2 d.wsPath
    authMode := ← textReq 3 d.authMode
    username := ← textReq 4 d.username
    password := ← textReq 5 d.password
    apiKey := ← choice 6
    apiSecret := ← choice 7
    uploadPath := ← textReq 8 d.uploadPath
    sampleRate := ← numReq 9 32 d.sampleRate
    channels := ← numReq 10 16 d.channels
    encoding := ← textReq 11 d.encoding
    framesPerBuffer := ← numReq 12 64 d.framesPerBuffer
    queueCapacity := ← numReq 13 64 d.queueCapacity
    playbackBufferKib := ← numReq 14 64 d.playbackBufferKib
    playbackMode := ← textReq 15 d.playbackMode
    maxRecordingSecs := ← numReq 16 32 d.maxRecordingSecs
    uploadChunkQueue := ← numReq 17 64 d.uploadChunkQueue
    pingIntervalSecs := ← numReq 18 64 d.pingIntervalSecs
    preferredInputDevice := ← choice 19
    preferredOutputDevice := ← choice 20 }

/-- The settings as a document, fields in order. -/
def toJson (s : Settings) : Json.Value :=
  let t := fun (x : String) => Json.Value.str x
  let o := Json.Value.ofOption Json.Value.str
  .obj (names.zip [t s.serverHost, .ofNat s.serverPort, t s.wsPath, t s.authMode, t s.username,
    t s.password, o s.apiKey, o s.apiSecret, t s.uploadPath, .ofNat s.sampleRate, .ofNat s.channels,
    t s.encoding, .ofNat s.framesPerBuffer, .ofNat s.queueCapacity, .ofNat s.playbackBufferKib,
    t s.playbackMode, .ofNat s.maxRecordingSecs, .ofNat s.uploadChunkQueue, .ofNat s.pingIntervalSecs,
    o s.preferredInputDevice, o s.preferredOutputDevice])

/-- Settings read from a file's text: the defaults when there is no text or it does not
read, normalized either way. -/
def load (text : Option String) : Settings :=
  let read := text.bind fun t => (Json.parse t).bind decode
  (read.getD {}).normalize

/-- The text written to the settings file. -/
def render (s : Settings) : String := s.toJson.pretty 0

/-- The audio format. -/
def audioFormat (s : Settings) : Audio.Format :=
  { sampleRate := s.sampleRate.toUInt32, channels := s.channels.toUInt16,
    encoding := if s.encoding = "mulaw" then .mulaw else .pcm16 }

/-- The client's settings. -/
def clientConfig (s : Settings) : Client.Config :=
  { format := s.audioFormat, framesPerBuffer := s.framesPerBuffer, queueCapacity := s.queueCapacity,
    playbackBufferBytes := s.playbackBufferKib * 1024,
    playbackMode := if s.playbackMode = "blocking" then .blocking else .pull,
    maxRecordingSecs := s.maxRecordingSecs, uploadChunkQueue := s.uploadChunkQueue,
    upload := { path := s.uploadPath } }

/-- The WebSocket settings. -/
def socketConfig (s : Settings) : Transport.SocketConfig :=
  { url := "ws://" ++ s.serverHost ++ ":" ++ toString s.serverPort ++ s.wsPath,
    pingIntervalMs := if s.pingIntervalSecs > 0 then some (s.pingIntervalSecs * 1000) else none }

/-- The base of the server's HTTP endpoints. -/
def apiBase (s : Settings) : String := "http://" ++ s.serverHost ++ ":" ++ toString s.serverPort

/-- The credentials for the WebSocket handshake; a token is used in `token` mode only. -/
def auth (s : Settings) (token : Option String) : Transport.Auth :=
  match s.authMode, token with
  | "token", some t => .bearer t
  | "none", _ => .none
  | _, _ => .basic s.username s.password

end Settings

end Talkback.App
