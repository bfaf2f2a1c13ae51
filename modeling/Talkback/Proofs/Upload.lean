import Mathlib.Tactic.Lemma
import Talkback.Upload.Session

/-!
An upload session keeps its promises whatever the network does.

Each call is taken apart once (`init_of_active`, `init_of_idle`, `append_of_idle`,
`append_of_active`, `finish_of_idle`, `phase_finish`): an `init` on an open request changes
nothing; any other `init` takes the next upload number, whether or not it then connects and
sends the request head; appending to or finishing an idle session changes nothing; an empty
chunk is skipped; a failed append leaves the session as it was; finishing always leaves it
idle. Sequences of calls are run by `Session.calls`, which also reports whether a request was
open at each call, so that attempts can be counted: the `k`-th `init` that finds the session
idle is named `upload-k`.

What goes over the wire is watched through `Connector.traced`, which keeps the bytes written on
the connection opened last. When every write succeeds, an upload's connection carries its
request head, each non-empty chunk framed in order, and, once finished, the terminal chunk.
-/

namespace Talkback.Upload

variable {ω : Type}

/-! ### Actions on the network -/

namespace Net

variable {α β : Type}

lemma exec_bind_ok {a : Net ω α} {f : α → Net ω β} {w w' : ω} {x : α}
    (h : a.exec w = (.ok x, w')) : (a >>= f).exec w = (f x).exec w' := by
  simp only [exec, ExceptT.run, bind, ExceptT.bind, ExceptT.mk, ExceptT.bindCont, StateT.run,
    StateT.bind] at h ⊢
  rw [h]

lemma exec_bind_error {a : Net ω α} {f : α → Net ω β} {w w' : ω} {e : IoError}
    (h : a.exec w = (.error e, w')) : (a >>= f).exec w = (.error e, w') := by
  simp only [exec, ExceptT.run, bind, ExceptT.bind, ExceptT.mk, ExceptT.bindCont, StateT.run,
    StateT.bind] at h ⊢
  rw [h]
  rfl

/-- The action that runs `f` on the world. -/
def lift (f : ω → Except IoError α × ω) : Net ω α := ExceptT.mk fun w => f w

@[simp] lemma exec_lift (f : ω → Except IoError α × ω) (w : ω) : (lift f).exec w = f w := rfl

end Net

/-! ### One call at a time -/

namespace Session

variable (c : Connector ω) {s : Session} {w : ω}

lemma isActive_eq_false : s.isActive = false ↔ s.phase = .idle := by
  simp [isActive]

lemma exists_active (h : s.isActive = true) : ∃ id chunks bytes, s.phase = .active id chunks bytes := by
  cases hp : s.phase with
  | idle => simp [isActive, hp] at h
  | active id chunks bytes => exact ⟨id, chunks, bytes, rfl⟩

/-- An `init` on an open request is refused, and nothing is touched. -/
lemma init_of_active (token : String) (h : s.isActive = true) :
    s.init c token w = (.error .sessionActive, s, w) := by
  simp [init, h]

/-- Any other `init` takes the next upload number; it opens a request under that name or fails
and leaves the session idle. -/
lemma init_of_idle (token : String) (h : s.isActive = false) :
    (s.init c token w).2.1.started = s.started + 1 ∧ (s.init c token w).2.1.config = s.config ∧
      ((∃ e, (s.init c token w).1 = .error e ∧ (s.init c token w).2.1.phase = .idle) ∨
        ((s.init c token w).1 = .ok (uploadName (s.started + 1)) ∧
          (s.init c token w).2.1.phase = .active (uploadName (s.started + 1)) 0 0)) := by
  have hidle := isActive_eq_false.1 h
  simp only [init, h, Bool.false_eq_true, if_false]
  split
  · exact ⟨rfl, rfl, .inl ⟨_, rfl, hidle⟩⟩
  · split
    · exact ⟨rfl, rfl, .inl ⟨_, rfl, hidle⟩⟩
    · exact ⟨rfl, rfl, .inr ⟨rfl, rfl⟩⟩

/-- An `init` that succeeds found the session idle and opened a request under the next
number. -/
lemma init_eq_ok {token id : String} (h : (s.init c token w).1 = .ok id) :
    s.isActive = false ∧ id = uploadName (s.started + 1) ∧
      (s.init c token w).2.1.phase = .active id 0 0 := by
  cases ha : s.isActive
  · rcases (init_of_idle c (w := w) token ha).2.2 with ⟨e, he, -⟩ | ⟨hok, hphase⟩
    · rw [he] at h; cases h
    · rw [hok] at h
      obtain rfl := (Except.ok.inj h).symm
      exact ⟨rfl, rfl, hphase⟩
  · rw [init_of_active c token ha] at h; cases h

/-- An `init` that fails leaves a request open or not, as it found it. -/
lemma isActive_init_of_error {token : String} {e : Error} (h : (s.init c token w).1 = .error e) :
    (s.init c token w).2.1.isActive = s.isActive := by
  cases ha : s.isActive
  · rcases (init_of_idle c (w := w) token ha).2.2 with ⟨-, -, hidle⟩ | ⟨hok, -⟩
    · simp [isActive, hidle]
    · rw [hok] at h; cases h
  · rw [init_of_active c token ha]
    exact ha

lemma append_of_idle (data : List UInt8) (h : s.isActive = false) :
    s.append c data w = (.error .sessionInactive, s, w) := by
  simp [append, isActive_eq_false.1 h]

/-- Appending to an open request: an empty chunk is skipped; otherwise the chunk is counted if
it goes out, and a failure leaves the session as it was. -/
lemma append_of_active {id : String} {chunks bytes : Nat} (data : List UInt8)
    (h : s.phase = .active id chunks bytes) :
    (data = [] ∧ s.append c data w = (.ok (), s, w)) ∨
      (data ≠ [] ∧ ∃ e, (s.append c data w).1 = .error e ∧ (s.append c data w).2.1 = s) ∨
      (data ≠ [] ∧ (s.append c data w).1 = .ok () ∧
        (s.append c data w).2.1 = { s with phase := .active id (chunks + 1) (bytes + data.length) }) := by
  simp only [append, h]
  cases data with
  | nil => exact .inl ⟨rfl, rfl⟩
  | cons b bs =>
    simp only [List.isEmpty_cons, Bool.false_eq_true, if_false]
    split
    · exact .inr (.inl ⟨List.cons_ne_nil _ _, _, rfl, rfl⟩)
    · exact .inr (.inr ⟨List.cons_ne_nil _ _, rfl, rfl⟩)

lemma finish_of_idle (h : s.isActive = false) :
    s.finish c w = (.error .sessionInactive, s, w) := by
  simp [finish, isActive_eq_false.1 h]

/-- Finishing leaves the session idle, whatever happens, and keeps its number and settings. -/
lemma finish_session : (s.finish c w).2.1 = { s with phase := .idle } := by
  unfold finish
  split
  · next h => cases s; simp_all
  · dsimp only
    split
    · rfl
    · split <;> rfl

lemma started_append (data : List UInt8) : (s.append c data w).2.1.started = s.started := by
  unfold append
  split
  · rfl
  · split
    · rfl
    · split <;> rfl

lemma started_finish : (s.finish c w).2.1.started = s.started := by
  rw [finish_session]

end Session

/-! ### Sequences of calls -/

/-- A call on an upload session. -/
inductive Call where
  | init (token : String)
  | append (data : List UInt8)
  | finish
  | abort

/-- What a call gives back when it succeeds. -/
inductive Reply where
  | opened (id : String)
  | appended
  | finished (response : Response)
  | aborted

namespace Session

variable (c : Connector ω)

/-- Make one call. -/
def call (s : Session) (w : ω) : Call → Except Error Reply × Session × ω
  | .init token => let (r, s, w) := s.init c token w; (r.map .opened, s, w)
  | .append data => let (r, s, w) := s.append c data w; (r.map fun _ => .appended, s, w)
  | .finish => let (r, s, w) := s.finish c w; (r.map .finished, s, w)
  | .abort => (.ok .aborted, s.abort, w)

/-- Make calls in order: each call with whether a request was open when it was made and its
answer, then the session and the world after the last. -/
def calls : List Call → Session → ω → List (Call × Bool × Except Error Reply) × Session × ω
  | [], s, w => ([], s, w)
  | k :: ks, s, w =>
    let (r, s', w') := s.call c w k
    let (rest, s'', w'') := calls ks s' w'
    ((k, s.isActive, r) :: rest, s'', w'')

/-- The attempts to open a request in a history of calls: the `init`s made while none was
open. -/
def attempts (history : List (Call × Bool × Except Error Reply)) : Nat :=
  history.countP fun | (.init _, false, _) => true | _ => false

@[simp] lemma attempts_nil : attempts [] = 0 := rfl

lemma attempts_cons (k : Call) (active : Bool) (r : Except Error Reply)
    (history : List (Call × Bool × Except Error Reply)) :
    attempts ((k, active, r) :: history) = attempts [(k, active, r)] + attempts history := by
  simp only [attempts, List.countP_cons, List.countP_nil]
  omega

variable {s : Session} {w : ω}

/-- A call takes an upload number exactly when it is an attempt. -/
lemma started_call (k : Call) :
    (s.call c w k).2.1.started = s.started + attempts [(k, s.isActive, (s.call c w k).1)] := by
  cases k with
  | init token =>
    cases h : s.isActive
    · simpa [call, attempts] using (init_of_idle c token h).1
    · simp [call, attempts, init_of_active c token h]
  | append data => simp [call, attempts, started_append]
  | finish => simp [call, attempts, started_finish]
  | abort => simp [call, attempts, abort]

/-- **Upload numbers count attempts.** After any sequence of calls the session has taken one
upload number for each attempt to open a request among them. -/
lemma started_calls (ks : List Call) (s : Session) (w : ω) :
    (calls c ks s w).2.1.started = s.started + attempts (calls c ks s w).1 := by
  induction ks generalizing s w with
  | nil => simp [calls]
  | cons k ks ih =>
    simp only [calls]
    rw [attempts_cons k s.isActive _ (calls c ks _ _).1, ih, started_call]
    omega

end Session

/-! ### What goes over the wire -/

namespace Connector

/-- `c`, keeping a record of the bytes written on the connection it opened last. -/
def traced (c : Connector ω) : Connector (ω × List UInt8) where
  host := c.host
  connect := Net.lift fun p => ((c.connect.exec p.1).1, (c.connect.exec p.1).2, [])
  write bs := Net.lift fun p =>
    match (c.write bs).exec p.1 with
    | (.ok (), w) => (.ok (), w, p.2 ++ bs)
    | (.error e, w) => (.error e, w, p.2)
  flush := Net.lift fun p => ((c.flush.exec p.1).1, (c.flush.exec p.1).2, p.2)
  read n := Net.lift fun p => (((c.read n).exec p.1).1, ((c.read n).exec p.1).2, p.2)
  patience p := c.patience p.1
  halts p := c.halts p.1

/-- Every write of `c` succeeds, whatever the world. -/
def WritesSucceed (c : Connector ω) : Prop := ∀ bs w, ((c.write bs).exec w).1 = .ok ()

variable {c : Connector ω}

@[simp] lemma host_traced : c.traced.host = c.host := rfl

lemma exec_write (hw : c.WritesSucceed) (bs : List UInt8) (p : ω × List UInt8) :
    (c.traced.write bs).exec p = (.ok (), ((c.write bs).exec p.1).2, p.2 ++ bs) := by
  have h := hw bs p.1
  simp only [traced, Net.exec_lift]
  split
  · next w heq => rw [heq]
  · next e w heq => rw [heq] at h; cases h

/-- Flushing and reading leave the record as it is. -/
lemma record_flush (p : ω × List UInt8) : ((c.traced.flush).exec p).2.2 = p.2 := rfl

lemma record_of_flush {p p' : ω × List UInt8} {r : Except IoError Unit}
    (h : c.traced.flush.exec p = (r, p')) : p'.2 = p.2 :=
  (congrArg (fun x => x.2.2) h).symm

lemma record_read {n : Nat} {p p' : ω × List UInt8} {r : Except IoError (List UInt8)}
    (h : (c.traced.read n).exec p = (r, p')) : p'.2 = p.2 :=
  (congrArg (fun x => x.2.2) h).symm

lemma record_readLoop (n : Nat) (raw : List UInt8) (p : ω × List UInt8) :
    (readLoop c.traced n raw p).2.2 = p.2 := by
  -- the loop only reads: each case ends where a read left the record, or goes on from there
  fun_induction readLoop c.traced n raw p with
  | case1 | case2 => rfl
  | case3 => rename_i hread; exact record_read hread
  | case4 => rename_i hread _ _; exact record_read hread
  | case5 => rename_i hread _ _ ih; exact ih.trans (record_read hread)
  | case6 => rename_i hread _ ih; exact ih.trans (record_read hread)
  | case7 | case8 => rename_i hread _ _; exact record_read hread

lemma record_readResponse (p : ω × List UInt8) : (readResponse c.traced p).2.2 = p.2 := by
  unfold readResponse
  split
  · next p' heq =>
    have h := record_readLoop (c := c) (responseLimit + c.traced.patience p + 1) [] p
    rw [heq] at h
    exact h
  · exact record_readLoop (c := c) _ [] p

/-- An upload that opens has written its request head, and nothing else, on its connection. -/
lemma record_init (hw : c.WritesSucceed) {s : Session} {token id : String} {p : ω × List UInt8}
    (h : (s.init c.traced token p).1 = .ok id) :
    (s.init c.traced token p).2.2.2 = (requestHead s.config c.host token).toUTF8.toList := by
  have ha : s.isActive = false := by
    cases ha : s.isActive
    · rfl
    · simp [Session.init_of_active _ token ha] at h
  -- a fresh connection starts an empty record; the head is then written whole
  rcases hconn : c.traced.connect.exec p with ⟨_ | ⟨⟩, p₁⟩
  · simp [Session.init, ha, hconn] at h
  have hp₁ : p₁.2 = [] := by simpa [traced] using (congrArg (fun x => x.2.2) hconn).symm
  have hwr := exec_write hw (requestHead s.config c.host token).toUTF8.toList p₁
  rcases hfl : c.traced.flush.exec (((c.write (requestHead s.config c.host token).toUTF8.toList).exec p₁.1).2,
      p₁.2 ++ (requestHead s.config c.host token).toUTF8.toList) with ⟨_ | ⟨⟩, p₂⟩
  · simp only [Session.init, ha, Bool.false_eq_true, if_false, hconn, host_traced,
      Net.exec_bind_ok hwr, hfl] at h
    cases h
  · have hp₂ := (congrArg (fun x => x.2.2) hfl).symm
    simp only [record_flush] at hp₂
    simp only [Session.init, ha, Bool.false_eq_true, if_false, hconn, host_traced,
      Net.exec_bind_ok hwr, hfl]
    rw [hp₂, hp₁, List.nil_append]

/-- An append on an open request writes the chunk framed, unless it is empty, whether or not
the flush then succeeds; the request stays open under its name. -/
lemma record_append (hw : c.WritesSucceed) {s : Session} {id : String} {chunks bytes : Nat}
    (h : s.phase = .active id chunks bytes) (data : List UInt8) (p : ω × List UInt8) :
    (s.append c.traced data p).2.2.2 = p.2 ++ (if data = [] then [] else Codec.Chunked.frame data) ∧
      ∃ chunks' bytes', (s.append c.traced data p).2.1.phase = .active id chunks' bytes' := by
  refine ⟨?_, ?_⟩
  · simp only [Session.append, h]
    cases data with
    | nil => simp
    | cons b bs =>
      simp only [List.isEmpty_cons, Bool.false_eq_true, if_false, reduceCtorEq]
      rw [Net.exec_bind_ok (exec_write hw _ _), Net.exec_bind_ok (exec_write hw _ _),
        Net.exec_bind_ok (exec_write hw _ _)]
      split
      · next e p' hfl => simp [record_of_flush hfl, Codec.Chunked.frame]
      · next p' hfl => simp [record_of_flush hfl, Codec.Chunked.frame]
  · rcases Session.append_of_active c.traced (w := p) data h with ⟨-, heq⟩ | ⟨-, -, -, heq⟩ | ⟨-, -, heq⟩
    · exact ⟨chunks, bytes, by rw [heq]; exact h⟩
    · exact ⟨chunks, bytes, by rw [heq]; exact h⟩
    · exact ⟨_, _, by rw [heq]⟩

/-- Finishing an open request writes the terminal chunk, and nothing after it. -/
lemma record_finish (hw : c.WritesSucceed) {s : Session} (h : s.isActive = true)
    (p : ω × List UInt8) : (s.finish c.traced p).2.2.2 = p.2 ++ Codec.Chunked.terminal := by
  have hphase : s.phase ≠ .idle := fun he => by simp [Session.isActive, he] at h
  unfold Session.finish
  split
  · next he => exact absurd he hphase
  · dsimp only
    rw [Net.exec_bind_ok (exec_write hw _ _)]
    split
    · next e p' hfl => exact record_of_flush hfl
    · next p' hfl =>
      -- reading the answer writes nothing
      have hread := record_readResponse (c := c) p'
      split
      · next e p'' hr => rw [hr] at hread; exact hread.trans (record_of_flush hfl)
      · next raw p'' hr => rw [hr] at hread; exact hread.trans (record_of_flush hfl)

/-- Appends to an open request write the non-empty chunks framed, in order, and leave the
request open under its name. -/
lemma record_appends (hw : c.WritesSucceed) {s : Session} {id : String} {chunks bytes : Nat}
    (h : s.phase = .active id chunks bytes) (ds : List (List UInt8)) (p : ω × List UInt8) :
    (Session.calls c.traced (ds.map .append) s p).2.2.2 =
        p.2 ++ Codec.Chunked.body (ds.filter fun d => !d.isEmpty) false ∧
      ∃ chunks' bytes', (Session.calls c.traced (ds.map .append) s p).2.1.phase =
        .active id chunks' bytes' := by
  induction ds generalizing s chunks bytes p with
  | nil => exact ⟨by simp [Session.calls, Codec.Chunked.body], chunks, bytes, h⟩
  | cons d ds ih =>
    obtain ⟨hrec, chunks', bytes', hphase⟩ := record_append hw h d p
    obtain ⟨hrest, hopen⟩ := ih hphase (s.append c.traced d p).2.2
    refine ⟨?_, hopen⟩
    simp only [List.map_cons, Session.calls, Session.call] at hrest ⊢
    rw [hrest, hrec]
    cases d with
    | nil => simp [Codec.Chunked.body]
    | cons b bs => simp [Codec.Chunked.body]

end Connector

/-! ### The session's laws -/

/-- **An upload session keeps its promises over any connector.** Whatever the connector's
operations do, and however they fail: an `init` on an open request is refused and touches
neither the session nor the network; after any calls, an `init` on an idle session is the next
attempt to open a request, takes the next upload number and names itself by it, whether or not
it succeeds; a failed `init` leaves the session open or idle as it found it; appending to or
finishing an idle session is refused and touches nothing; an empty chunk is skipped, touching
nothing; a failed append leaves the session as it was; finishing and aborting always leave the
session idle. And on a connector whose writes all succeed, an upload that opens writes on its
connection its request head, then each non-empty chunk framed, in order, and once finished the
terminal chunk. -/
theorem upload_session_laws (c : Connector ω) :
    (∀ (s : Session) (w : ω) (token : String), s.isActive = true →
      s.init c token w = (.error .sessionActive, s, w)) ∧
    (∀ (ks : List Call) (s : Session) (w : ω) history (s₁ : Session) (w₁ : ω) (token : String),
      Session.calls c ks s w = (history, s₁, w₁) → s₁.isActive = false →
      (s₁.init c token w₁).2.1.started = s.started + Session.attempts history + 1 ∧
      (s₁.init c token w₁).2.1.lastId? =
        some (uploadName (s.started + Session.attempts history + 1)) ∧
      ∀ id, (s₁.init c token w₁).1 = .ok id →
        id = uploadName (s.started + Session.attempts history + 1)) ∧
    (∀ (s : Session) (w : ω) (token : String) (e : Error), (s.init c token w).1 = .error e →
      (s.init c token w).2.1.isActive = s.isActive) ∧
    (∀ (s : Session) (w : ω) (data : List UInt8), s.isActive = false →
      s.append c data w = (.error .sessionInactive, s, w) ∧
        s.finish c w = (.error .sessionInactive, s, w)) ∧
    (∀ (s : Session) (w : ω), s.isActive = true → s.append c [] w = (.ok (), s, w)) ∧
    (∀ (s : Session) (w : ω) (data : List UInt8) (e : Error), s.isActive = true →
      (s.append c data w).1 = .error e → (s.append c data w).2.1 = s) ∧
    (∀ (s : Session) (w : ω), (s.finish c w).2.1.isActive = false ∧ s.abort.isActive = false) ∧
    (c.WritesSucceed → ∀ (s : Session) (p : ω × List UInt8) (token id : String)
      (ds : List (List UInt8)), (s.init c.traced token p).1 = .ok id →
      (Session.calls c.traced (ds.map .append) (s.init c.traced token p).2.1
          (s.init c.traced token p).2.2).2.2.2 =
        (requestHead s.config c.host token).toUTF8.toList ++
          Codec.Chunked.body (ds.filter fun d => !d.isEmpty) false ∧
      ((Session.calls c.traced (ds.map .append) (s.init c.traced token p).2.1
          (s.init c.traced token p).2.2).2.1.finish c.traced
          (Session.calls c.traced (ds.map .append) (s.init c.traced token p).2.1
            (s.init c.traced token p).2.2).2.2).2.2.2 =
        (requestHead s.config c.host token).toUTF8.toList ++
          Codec.Chunked.body (ds.filter fun d => !d.isEmpty) true) := by
  refine ⟨fun s w token h => Session.init_of_active c token h, ?_,
    fun s w token e he => Session.isActive_init_of_error c he,
    fun s w data h => ⟨Session.append_of_idle c data h, Session.finish_of_idle c h⟩, ?_, ?_,
    fun s w => ⟨by simp [Session.finish_session, Session.isActive], by simp [Session.abort, Session.isActive]⟩,
    ?_⟩
  · intro ks s w history s₁ w₁ token hrun hidle
    -- the sequence took one number per attempt; this `init` is one more
    have hstarted : s₁.started = s.started + Session.attempts history := by
      simpa [hrun] using Session.started_calls c ks s w
    have hnext := (Session.init_of_idle c (w := w₁) token hidle).1
    refine ⟨by rw [hnext, hstarted], by simp [Session.lastId?, hnext, hstarted], fun id hid => ?_⟩
    rw [(Session.init_eq_ok c hid).2.1, hstarted]
  · intro s w h
    obtain ⟨id, chunks, bytes, hs⟩ := Session.exists_active h
    rcases Session.append_of_active c (w := w) [] hs with ⟨-, heq⟩ | ⟨hne, -⟩ | ⟨hne, -⟩
    · exact heq
    · exact absurd rfl hne
    · exact absurd rfl hne
  · intro s w data e h he
    obtain ⟨id, chunks, bytes, hs⟩ := Session.exists_active h
    rcases Session.append_of_active c (w := w) data hs with ⟨-, heq⟩ | ⟨-, -, -, heq⟩ | ⟨-, hok, -⟩
    · rw [heq]
    · exact heq
    · rw [hok] at he; cases he
  · intro hw s p token id ds hinit
    -- the upload opened: its record is the head, and the request is open under its name
    have hhead := Connector.record_init hw hinit
    obtain ⟨happ, chunks, bytes, hphase⟩ :=
      Connector.record_appends hw (Session.init_eq_ok c.traced hinit).2.2 ds (s.init c.traced token p).2.2
    have hactive : (Session.calls c.traced (ds.map .append) (s.init c.traced token p).2.1
        (s.init c.traced token p).2.2).2.1.isActive = true := by
      simp [Session.isActive, hphase]
    refine ⟨by rw [happ, hhead], ?_⟩
    rw [Connector.record_finish hw hactive, happ, hhead]
    simp [Codec.Chunked.body]

/-- A peer that connects, takes every byte and answers nothing. -/
def Connector.sink : Connector Unit where
  host := "127.0.0.1:8080"
  connect := pure ()
  write _ := pure ()
  flush := pure ()
  read _ := pure []
  patience _ := 0

/-- An upload of a three-byte chunk and an empty one to a peer that takes every byte: its
connection carries the head, the one non-empty chunk framed, and the terminal chunk. -/
theorem sink_upload_wire :
    Connector.sink.WritesSucceed ∧
      (({} : Session).init Connector.sink.traced "tok" ((), [])).1 = .ok "upload-1" ∧
      ((Session.calls Connector.sink.traced ([[1, 2, 3], []].map .append)
          (({} : Session).init Connector.sink.traced "tok" ((), [])).2.1
          (({} : Session).init Connector.sink.traced "tok" ((), [])).2.2).2.1.finish
          Connector.sink.traced
          (Session.calls Connector.sink.traced ([[1, 2, 3], []].map .append)
            (({} : Session).init Connector.sink.traced "tok" ((), [])).2.1
            (({} : Session).init Connector.sink.traced "tok" ((), [])).2.2).2.2).2.2.2 =
        (requestHead ({} : Session).config Connector.sink.host "tok").toUTF8.toList ++
          Codec.Chunked.body ([[1, 2, 3], []].filter fun d => !d.isEmpty) true := by
  have hw : Connector.sink.WritesSucceed := fun _ _ => rfl
  have hinit : (({} : Session).init Connector.sink.traced "tok" ((), [])).1 = .ok "upload-1" := rfl
  exact ⟨hw, hinit, ((upload_session_laws Connector.sink).2.2.2.2.2.2.2 hw {} ((), []) "tok" "upload-1"
    [[1, 2, 3], []] hinit).2⟩

end Talkback.Upload
