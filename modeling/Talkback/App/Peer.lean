import Talkback.Client.World
import Talkback.Host.Files
import Talkback.Text.Numeral
import Talkback.Transport.Link

/-!
A stand-in server at the other end of the voice connection, for running the console without
a network. It writes a transcript of what it sees to a file and answers each message.

Opening records the address and credentials, or fails as told; opening an open connection does
nothing. Each service call reports, in order, a pending open, a writable slot if one was asked
for since the last call and the peer is not stalled, and at most one answer waiting. A text
`!close` is answered by closing, `!error m` by failing the service call with `m`, `!say x` by
the text `x`, `!audio n` by `n` bytes of audio (at most 100000), `!flood n` by `n` numbered
texts one call at a time, `!stall` by `stalled` and no writable slot ever again, and
`!closeon p` by `armed`, after which the first call that finds `p` on disk reports only a
close. Any other text is echoed; binary data is answered with its length. A close ends the
connection and drops the answers still waiting. Closing a connection that is open writes
`close` to the transcript.
-/

namespace Talkback.App

/-- An answer waiting to be given. -/
inductive Answer where
  | text (s : String)
  | binary (data : List UInt8)
  | close
  | fail (message : String)
  deriving DecidableEq, Repr, Inhabited

/-- The stand-in server: where its transcript goes, its refusal if told to refuse, and the
state of the connection. -/
structure Peer where
  transcript : String
  reject : Option String := none
  connected : Bool := false
  openDue : Bool := false
  writableAsked : Bool := false
  stalled : Bool := false
  answers : List Answer := []
  closeOn : Option String := none
  deriving DecidableEq, Repr, Inhabited

/-- The peer and the files around it. -/
structure Wire where
  peer : Peer
  files : Host.Files
  deriving DecidableEq, Repr, Inhabited

/-- Two lowercase hexadecimal digits per byte. -/
def hexBytes (bs : List UInt8) : String :=
  String.join (bs.map fun b => String.ofList (Nat.toDigits 16 (b.toNat / 16) ++ Nat.toDigits 16 (b.toNat % 16)))

/-- A count given after a command word, or zero when it is not a number. -/
def countOf (arg : String) : Nat := (Text.readUnsigned? 64 arg).getD 0

/-- The answers to a text, and whether it stalls the peer or arms a close. -/
def answersTo (t : String) : List Answer × Bool × Option String :=
  let (word, arg) := match t.splitOn " " with
    | w :: rest => (w, String.intercalate " " rest)
    | [] => (t, "")
  if word == "!close" then ([.close], false, none)
  else if word == "!error" then ([.fail arg], false, none)
  else if word == "!say" then ([.text arg], false, none)
  else if word == "!audio" then
    ([.binary ((List.range (min (countOf arg) 100000)).map fun i => (i % 256).toUInt8)], false, none)
  else if word == "!flood" then ((List.range (countOf arg)).map fun i => .text ("flood " ++ toString i), false, none)
  else if word == "!stall" then ([.text "stalled"], true, none)
  else if word == "!closeon" then ([.text "armed"], false, some arg)
  else ([.text ("echo: " ++ t)], false, none)

namespace Wire

/-- Add a line to the transcript. -/
def note (w : Wire) (line : String) : Wire :=
  { w with files := w.files.append w.peer.transcript (line ++ "\n").toUTF8.toList }

/-- End the connection, dropping the answers waiting. -/
def hangUp (w : Wire) : Wire :=
  { w with peer := { w.peer with connected := false, answers := [], closeOn := none } }

/-- Open the connection to `url` with the `Authorization` value `header`. -/
def connect (w : Wire) (url : String) (header : Option String) : Except Error Unit × Wire :=
  match w.peer.reject with
  | some r => (.error (.transport r), w)
  | none =>
    if w.peer.connected then (.ok (), w)
    else
      let w := w.note ("connect " ++ url ++ " " ++ header.getD "-")
      (.ok (), { w with peer := { w.peer with connected := true, openDue := true } })

/-- Send a message, queueing the peer's answer. -/
def send (m : Dispatch.Message) (w : Wire) : Except Error Unit × Wire :=
  if !w.peer.connected then (.error (.transport "websocket is not connected"), w)
  else
    match m with
    | .binary d =>
      let w := w.note ("binary " ++ toString d.length ++ " " ++ hexBytes (d.take 16))
      (.ok (), { w with peer := { w.peer with answers := w.peer.answers ++ [.text ("got " ++ toString d.length ++ " bytes")] } })
    | .text t =>
      let w := w.note ("text " ++ t)
      let (more, stall, arm) := answersTo t
      (.ok (), { w with peer := { w.peer with answers := w.peer.answers ++ more,
                                              stalled := w.peer.stalled || stall,
                                              closeOn := arm.orElse fun _ => w.peer.closeOn } })

/-- Close the connection. -/
def close (w : Wire) : Except Error Unit × Wire :=
  (.ok (), if w.peer.connected then (w.note "close").hangUp else w)

/-- The link to the peer. -/
def link : Client.Link Wire where
  requestWritable w := { w with peer := { w.peer with writableAsked := true } }
  send := send
  close := close

/-- Whether the armed close is due. -/
def closeDue (w : Wire) : Bool :=
  w.peer.connected && (w.peer.closeOn.map w.files.exists_).getD false

/-- A service call: what the peer reports. -/
def service (w : Wire) : Except Error (List Transport.LinkEvent) × Wire :=
  let opened : List Transport.LinkEvent := if w.peer.openDue then [.connected] else []
  let w := { w with peer := { w.peer with openDue := false } }
  if w.closeDue then (.ok (opened ++ [.closed]), w.hangUp)
  else
    let slot := w.peer.writableAsked && !w.peer.stalled
    let w := if slot then { w with peer := { w.peer with writableAsked := false } } else w
    let ready := opened ++ (if slot then [.writable] else [])
    match w.peer.answers with
    | [] => (.ok ready, w)
    | a :: rest =>
      let w := { w with peer := { w.peer with answers := rest } }
      match a with
      | .text s => (.ok (ready ++ [.received (.text s)]), w)
      | .binary d => (.ok (ready ++ [.received (.binary d)]), w)
      | .close => (.ok (ready ++ [.closed]), w.hangUp)
      | .fail m => (.error (.transport m), w.hangUp)

/-- Whether a service call would report nothing. -/
def idle (w : Wire) : Bool :=
  !w.peer.openDue && !w.closeDue && !(w.peer.writableAsked && !w.peer.stalled) && w.peer.answers.isEmpty

end Wire

end Talkback.App
