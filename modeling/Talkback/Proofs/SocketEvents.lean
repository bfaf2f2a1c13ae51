import Talkback.Transport.Socket

/-!
The events a WebSocket reports, whatever the far end does.

A ledger read off the answers of the calls alone keeps what the contract of a connection speaks
of: whether it is up, whether a `connected` event is owed, and whether a writable slot was asked
for since the last one was reported, the connection was reported closed or it was closed.
Against it every service call reports the owed `connected` once, first, and at no other time;
at most one writable slot, and only an asked-for one on an up connection; nothing at all while
the connection is down; and a closed connection as its last event.

The socket agrees with its ledger (`Socket.Agrees`): it is open exactly when the ledger has the
connection up, it holds the owed `connected` event and nothing else, and it keeps a writable
slot asked for only where the ledger does. Every call keeps that agreement and answers as the
contract allows (`Socket.Agrees.perform`), so a whole run from a new socket does.
-/

namespace Talkback.Transport

/-- A call on a socket, with the far end's part in it. -/
inductive Call where
  | connect (auth : Auth) (reach : String → Except Error Unit) (now : Nat)
  | requestWritable
  | service (timeoutMs : Nat) (poll : Poll)
  | send (m : Dispatch.Message) (deliver : Dispatch.Message → Except String Unit)
  | close

/-- What a call answers: the result of opening, asking, sending or closing, or the events of a
service call. -/
inductive Answer where
  | done (r : Except Error Unit)
  | events (r : Except Error (List LinkEvent))

namespace Socket

/-- Make a call. -/
def perform (s : Socket) : Call → Socket × Answer
  | .connect auth reach now => (s.connectTo auth reach now).map id .done
  | .requestWritable => (s.requestWritable, .done (.ok ()))
  | .service timeoutMs poll => (s.service timeoutMs poll).map id .events
  | .send m deliver => (s, .done (s.send m deliver))
  | .close => (s.close, .done (.ok ()))

/-- Make the calls one after another, each with its answer. -/
def replay (s : Socket) : List Call → List (Call × Answer)
  | [] => []
  | c :: cs => (c, (s.perform c).2) :: (s.perform c).1.replay cs

end Socket

/-- What the contract keeps of the calls so far, read off their answers alone. -/
structure Ledger where
  up : Bool := false
  owed : Bool := false
  asked : Bool := false
  deriving DecidableEq, Repr

namespace Ledger

/-- The ledger after a call and its answer: an opening that succeeds on a connection that is
down brings it up and owes a `connected` event; a service call pays what is owed, and one that
reports the connection closed, or fails, takes it down; a writable slot stays asked for until
one is reported, the connection is reported closed, or it is closed. -/
def note (l : Ledger) : Call → Answer → Ledger
  | .connect .., .done (.ok ()) => if l.up then l else { l with up := true, owed := true }
  | .requestWritable, _ => { l with asked := true }
  | .service .., .events (.ok es) =>
    { up := l.up && decide (LinkEvent.closed ∉ es), owed := false,
      asked := l.asked && decide (LinkEvent.writable ∉ es ∧ LinkEvent.closed ∉ es) }
  | .service .., .events (.error _) => { l with up := false, owed := false }
  | .close, _ => {}
  | _, _ => l

/-- The events a service call may report against the ledger: the owed `connected` event,
first, and no other; at most one writable slot, only an asked-for one on an up connection;
and a closed connection last. -/
structure Reports (l : Ledger) (es : List LinkEvent) : Prop where
  connected_count : es.count .connected = if l.owed then 1 else 0
  connected_first : l.owed = true → es.head? = some .connected
  writable_count : es.count .writable ≤ 1
  writable_asked : LinkEvent.writable ∈ es → l.up = true ∧ l.asked = true
  closed_last : LinkEvent.closed ∈ es → es.getLast? = some .closed

/-- What the contract allows a call to answer against the ledger: opening an up connection
succeeds, and a service call reports nothing while the connection is down and otherwise events
the ledger allows. -/
def Allows (l : Ledger) : Call → Answer → Prop
  | .connect .., a => l.up = true → a = .done (.ok ())
  | .service .., .events r => (l.up = false → r = .ok []) ∧ ∀ es, r = .ok es → l.Reports es
  | .service .., .done _ => False
  | _, _ => True

/-- Each call of a log answers as the contract allows, against the ledger of the calls before
it. -/
def Keeps : Ledger → List (Call × Answer) → Prop
  | _, [] => True
  | l, (c, a) :: rest => l.Allows c a ∧ (l.note c a).Keeps rest

end Ledger

/-! ### What each call does to the socket -/

namespace Socket

variable {s : Socket}

theorem connectTo_of_open (h : s.open_ = true) (auth : Auth) (reach : String → Except Error Unit)
    (now : Nat) : s.connectTo auth reach now = (s, .ok ()) := by
  simp [connectTo, h]

/-- Opening fails with the socket as it was, or, on a closed socket, opens it. -/
theorem connectTo_cases (s : Socket) (auth : Auth) (reach : String → Except Error Unit)
    (now : Nat) :
    (s.open_ = true ∧ s.connectTo auth reach now = (s, .ok ())) ∨
      (s.open_ = false ∧ ∃ e, s.connectTo auth reach now = (s, .error e)) ∨
      (s.open_ = false ∧ s.connectTo auth reach now = (s.opened now, .ok ())) := by
  cases hopen : s.open_
  · -- every check that fails keeps the socket; only the far end's yes opens it
    rw [connectTo, if_neg (Bool.eq_false_iff.1 hopen)]
    split
    · exact .inr (.inl ⟨rfl, _, rfl⟩)
    · split
      · exact .inr (.inl ⟨rfl, _, rfl⟩)
      · split
        · exact .inr (.inl ⟨rfl, _, rfl⟩)
        · split
          · exact .inr (.inl ⟨rfl, _, rfl⟩)
          · exact .inr (.inr ⟨rfl, rfl⟩)
  · exact .inl ⟨rfl, connectTo_of_open hopen auth reach now⟩

theorem service_of_closed (h : s.open_ = false) (timeoutMs : Nat) (poll : Poll) :
    s.service timeoutMs poll = ({ s with pending := [] }, .ok s.pending) := by
  simp [service, h]

/-- What a read adds and whether the connection stays up after it: nothing or a message with the
connection up, or the connection closed. -/
inductive ReadEnd : List LinkEvent → Bool → Prop
  | quiet : ReadEnd [] true
  | message (m : Inbound) : ReadEnd [.received m] true
  | closed : ReadEnd [.closed] false

theorem afterRead_pending (events : List LinkEvent) (r : Reading) :
    (s.afterRead events r).1.pending = s.pending := by
  cases r <;> rfl

theorem afterRead_writableRequested (h : s.writableRequested = false) (events : List LinkEvent)
    (r : Reading) : (s.afterRead events r).1.writableRequested = false := by
  cases r <;> simp [afterRead, markClosed, h]

/-- A read ends with what `ReadEnd` allows, the connection up as before unless it closed, or
fails with the connection dropped. -/
theorem afterRead_cases (s : Socket) (events : List LinkEvent) (r : Reading) :
    (∃ tail up, ReadEnd tail up ∧ (s.afterRead events r).2 = .ok (events ++ tail) ∧
        (s.afterRead events r).1.open_ = (s.open_ && up)) ∨
      (∃ e, (s.afterRead events r).2 = .error e ∧ (s.afterRead events r).1.open_ = false) := by
  cases r with
  | text t => exact .inl ⟨_, _, .message (.text t), rfl, by simp [afterRead]⟩
  | binary d => exact .inl ⟨_, _, .message (.binary d), rfl, by simp [afterRead]⟩
  | closeFrame | gone => exact .inl ⟨_, _, .closed, rfl, by simp [afterRead, markClosed]⟩
  | control | timedOut => exact .inl ⟨[], _, .quiet, by simp [afterRead], by simp [afterRead]⟩
  | failed m => exact .inr ⟨_, rfl, rfl⟩

/-- The events a service call on an open socket reports: those it was handed, a writable slot if
one was asked for, and what the read (or a failed ping, which closes the connection) adds; or it
fails with the connection dropped. -/
theorem serviceOpen_cases (s : Socket) (events : List LinkEvent) (timeoutMs : Nat) (poll : Poll) :
    (∃ tail up, ReadEnd tail up ∧
        (s.serviceOpen events timeoutMs poll).2 =
          .ok (events ++ (if s.writableRequested then [.writable] else []) ++ tail) ∧
        (s.serviceOpen events timeoutMs poll).1.open_ = (s.open_ && up)) ∨
      (∃ e, (s.serviceOpen events timeoutMs poll).2 = .error e ∧
        (s.serviceOpen events timeoutMs poll).1.open_ = false) := by
  have hw : (if s.writableRequested then events ++ [.writable] else events) =
      events ++ if s.writableRequested then [.writable] else [] := by
    split <;> simp
  simp only [serviceOpen]
  split
  · -- the keepalive ping failed
    exact .inl ⟨_, _, .closed, by rw [hw], by simp [markClosed]⟩
  · rcases afterRead_cases _ _ _ with ⟨tail, up, hend, hr, hopen⟩ | ⟨e, hr, hopen⟩
    · exact .inl ⟨tail, up, hend, by rw [hr, hw], hopen⟩
    · exact .inr ⟨e, hr, hopen⟩

theorem serviceOpen_pending (events : List LinkEvent) (timeoutMs : Nat) (poll : Poll) :
    (s.serviceOpen events timeoutMs poll).1.pending = s.pending := by
  simp only [serviceOpen]
  split
  · rfl
  · exact afterRead_pending _ _

theorem serviceOpen_writableRequested (events : List LinkEvent) (timeoutMs : Nat) (poll : Poll) :
    (s.serviceOpen events timeoutMs poll).1.writableRequested = false := by
  simp only [serviceOpen]
  split
  · rfl
  · exact afterRead_writableRequested rfl _ _

end Socket

/-! ### The events against the ledger -/

namespace Ledger

variable {l : Ledger}

theorem reports_nil (h : l.owed = false) : l.Reports [] where
  connected_count := by simp [h]
  connected_first := by simp [h]
  writable_count := by simp
  writable_asked := by simp
  closed_last := by simp

/-- The events of a service call on an up connection: the owed `connected` event, a writable
slot if one was asked for, and what the read adds. -/
theorem reports_serviced {asked up : Bool} {tail : List LinkEvent} (hup : l.up = true)
    (hasked : asked = true → l.asked = true) (htail : Socket.ReadEnd tail up) :
    l.Reports ((if l.owed then [.connected] else []) ++
      (if asked then [.writable] else []) ++ tail) := by
  cases htail <;> cases howed : l.owed <;> cases asked <;>
    constructor <;> simp_all

/-- A closed connection is in the events of a service call exactly when the read closed it. -/
theorem closed_mem_serviced (owed asked : Bool) {up : Bool} {tail : List LinkEvent}
    (htail : Socket.ReadEnd tail up) :
    LinkEvent.closed ∈ (if owed then [.connected] else []) ++
      (if asked then [.writable] else []) ++ tail ↔ up = false := by
  cases htail <;> cases owed <;> cases asked <;> simp

/-- On a down connection the contract asks nothing of an opening. -/
theorem allows_connect_of_down (hup : l.up = false) (auth : Auth)
    (reach : String → Except Error Unit) (now : Nat) (a : Answer) :
    l.Allows (.connect auth reach now) a :=
  fun h => absurd (hup ▸ h) (by decide)

/-- On an up connection a service call may answer anything whose events the ledger allows. -/
theorem allows_service_of_up (hup : l.up = true) {timeoutMs : Nat} {poll : Poll}
    {r : Except Error (List LinkEvent)} (hr : ∀ es, r = .ok es → l.Reports es) :
    l.Allows (.service timeoutMs poll) (.events r) :=
  ⟨fun h => absurd (hup ▸ h) (by decide), hr⟩

end Ledger

/-! ### The socket agrees with its ledger -/

namespace Socket

/-- A socket agrees with a ledger: it is open exactly when the ledger has the connection up, it
holds the owed `connected` event and nothing else, and it keeps a writable slot asked for only
where the ledger does. -/
structure Agrees (s : Socket) (l : Ledger) : Prop where
  up : s.open_ = l.up
  pending : s.pending = if l.owed then [.connected] else []
  owed_up : l.owed = true → l.up = true
  asked : s.writableRequested = true → l.asked = true

variable {s : Socket} {l : Ledger}

theorem agrees_new (config : SocketConfig) (now : Nat) : (Socket.new config now).Agrees {} where
  up := rfl
  pending := rfl
  owed_up := fun h => h
  asked := fun h => h

theorem agrees_close (s : Socket) : s.close.Agrees {} where
  up := rfl
  pending := rfl
  owed_up := fun h => h
  asked := fun h => h

/-- A socket that agrees with a ledger holds nothing while it is closed. -/
theorem Agrees.owed_of_closed (h : s.Agrees l) (hopen : s.open_ = false) :
    l.up = false ∧ l.owed = false ∧ s.pending = [] := by
  have hup : l.up = false := h.up ▸ hopen
  have howed : l.owed = false := by
    cases howed : l.owed
    · rfl
    · simp [h.owed_up howed] at hup
  exact ⟨hup, howed, by simp [h.pending, howed]⟩

theorem Agrees.connect (h : s.Agrees l) (auth : Auth) (reach : String → Except Error Unit)
    (now : Nat) :
    l.Allows (.connect auth reach now) (.done (s.connectTo auth reach now).2) ∧
      (s.connectTo auth reach now).1.Agrees
        (l.note (.connect auth reach now) (.done (s.connectTo auth reach now).2)) := by
  rcases connectTo_cases s auth reach now with ⟨hopen, hc⟩ | ⟨hopen, e, hc⟩ | ⟨hopen, hc⟩
  · -- opening an open socket: nothing changes
    have hup : l.up = true := h.up ▸ hopen
    rw [hc]
    exact ⟨fun _ => rfl, by simpa [Ledger.note, hup] using h⟩
  · -- a failed opening leaves socket and ledger as they were
    obtain ⟨hup, -, -⟩ := h.owed_of_closed hopen
    rw [hc]
    exact ⟨Ledger.allows_connect_of_down hup auth reach now _, h⟩
  · -- the connection opens and owes its `connected` event
    obtain ⟨hup, -, hpend⟩ := h.owed_of_closed hopen
    rw [hc]
    refine ⟨Ledger.allows_connect_of_down hup auth reach now _, ?_⟩
    simp only [Ledger.note, hup, Bool.false_eq_true, if_false]
    exact ⟨rfl, by simp [opened, hpend], fun _ => rfl, h.asked⟩

theorem Agrees.requestWritable (h : s.Agrees l) :
    s.requestWritable.Agrees { l with asked := true } :=
  ⟨h.up, h.pending, h.owed_up, fun _ => rfl⟩

/-- A service call on a closed socket reports nothing and leaves it closed. -/
theorem Agrees.service_closed (h : s.Agrees l) (hopen : s.open_ = false) (timeoutMs : Nat)
    (poll : Poll) :
    l.Allows (.service timeoutMs poll) (.events (s.service timeoutMs poll).2) ∧
      (s.service timeoutMs poll).1.Agrees
        (l.note (.service timeoutMs poll) (.events (s.service timeoutMs poll).2)) := by
  obtain ⟨hup, howed, hpend⟩ := h.owed_of_closed hopen
  rw [service_of_closed hopen, hpend]
  refine ⟨⟨fun _ => rfl, fun es hes => ?_⟩, ?_⟩
  · cases hes
    exact Ledger.reports_nil howed
  · exact ⟨by simp [hopen, hup, Ledger.note], rfl, by simp [Ledger.note],
      by simpa [Ledger.note] using h.asked⟩

/-- A service call on an open socket reports the owed `connected` event, a writable slot asked
for and what the read adds, and the socket is left open unless the connection closed or the
read failed. -/
theorem Agrees.service_open (h : s.Agrees l) (hopen : s.open_ = true) (timeoutMs : Nat)
    (poll : Poll) :
    l.Allows (.service timeoutMs poll) (.events (s.service timeoutMs poll).2) ∧
      (s.service timeoutMs poll).1.Agrees
        (l.note (.service timeoutMs poll) (.events (s.service timeoutMs poll).2)) := by
  have hup : l.up = true := h.up ▸ hopen
  rw [Socket.service, if_pos hopen]
  have hpend' := serviceOpen_pending (s := { s with pending := [] }) s.pending timeoutMs poll
  have hwant' := serviceOpen_writableRequested (s := { s with pending := [] }) s.pending
    timeoutMs poll
  have hcases := serviceOpen_cases { s with pending := [] } s.pending timeoutMs poll
  -- from here on only what the lemmas say of the serviced socket is used
  generalize { s with pending := [] }.serviceOpen s.pending timeoutMs poll = res
    at hpend' hwant' hcases ⊢
  obtain ⟨s', r⟩ := res
  simp only [hopen, Bool.true_and] at hpend' hwant' hcases ⊢
  rcases hcases with ⟨tail, up, htail, rfl, hopen'⟩ | ⟨e, rfl, hopen'⟩
  · -- the events: the owed `connected`, a writable slot asked for, what the read added
    rw [h.pending]
    refine ⟨Ledger.allows_service_of_up hup fun es hes => ?_, ?_⟩
    · cases hes
      exact Ledger.reports_serviced hup h.asked htail
    · have hclosed := Ledger.closed_mem_serviced l.owed s.writableRequested htail
      refine ⟨?_, by simp [Ledger.note, hpend'], by simp [Ledger.note], by simp [hwant']⟩
      cases up <;> simp_all [Ledger.note]
  · -- a failed read drops the connection
    exact ⟨Ledger.allows_service_of_up hup (fun _ hes => by cases hes),
      by simp [Ledger.note, hopen'], by simp [Ledger.note, hpend'], by simp [Ledger.note],
      by simp [hwant']⟩

/-- **One call.** A call on a socket that agrees with its ledger answers as the contract allows,
and the socket after it agrees with the ledger after it. -/
theorem Agrees.perform (h : s.Agrees l) (c : Call) :
    l.Allows c (s.perform c).2 ∧ (s.perform c).1.Agrees (l.note c (s.perform c).2) := by
  cases c with
  | connect auth reach now => exact h.connect auth reach now
  | requestWritable => exact ⟨trivial, h.requestWritable⟩
  | service timeoutMs poll =>
    cases hopen : s.open_
    · exact h.service_closed hopen timeoutMs poll
    · exact h.service_open hopen timeoutMs poll
  | send m deliver => exact ⟨trivial, h⟩
  | close => exact ⟨trivial, agrees_close s⟩

/-- Every run from a socket that agrees with its ledger answers as the contract allows. -/
theorem Agrees.replay (h : s.Agrees l) (calls : List Call) : l.Keeps (s.replay calls) := by
  induction calls generalizing s l with
  | nil => trivial
  | cons c cs ih =>
    obtain ⟨hallows, hnext⟩ := h.perform c
    exact ⟨hallows, ih hnext⟩

end Socket

/-- **The events of a WebSocket.** From a new socket, whatever calls are made and whatever the
far end does, each call answers as the contract allows against the ledger of the calls before
it: the owed `connected` event comes first in the next service call and never again, a writable
slot is reported at most once per call and only when asked for on an up connection, a connection
reported closed, failed or closed reports nothing until it opens again, and a closed connection
is the last event reported. Opening an open socket changes nothing. -/
theorem socket_events_follow_contract (config : SocketConfig) (now : Nat) (calls : List Call) :
    Ledger.Keeps {} ((Socket.new config now).replay calls) ∧
      ∀ (s : Socket) (auth : Auth) (reach : String → Except Error Unit) (t : Nat),
        s.open_ = true → s.connectTo auth reach t = (s, .ok ()) :=
  ⟨(Socket.agrees_new config now).replay calls,
    fun _ auth reach t h => Socket.connectTo_of_open h auth reach t⟩

end Talkback.Transport
