import Talkback.Upload.Scripted

/-!
Reading the server's answer to an upload.

The loop asks for a buffer's worth at a time, and never for more than the cap of
`responseLimit` bytes leaves. `Run` gives its rules, read off the loop's exits: bytes that leave
the answer incomplete and under the cap, and an interrupted read, go on; the end of the stream, a
read that fills the cap or completes the answer, and a read that would wait after some bytes
came, stop it with every byte read; the end of the stream or a wait before any byte, and any
other failure, stop it with a transport error.

A `Run` is a finite derivation, so the answer is reached after finitely many reads. For a reader
that gives at most the bytes asked for and whose `patience` counts down the interruptions it has
left, the bytes the cap still allows plus the patience left fall with every read that goes on,
so the loop's fuel, which starts above that measure, never runs out first (`run_readLoop`). A
complete answer stays complete as more bytes follow (`isComplete_append`).
-/

namespace Talkback.Upload

/-! ### The end of the head -/

theorem le_of_blankLineAt?_go {i j : Nat} {bs : List UInt8} (h : blankLineAt?.go i bs = some j) :
    i ≤ j ∧ j + 4 ≤ i + bs.length := by
  fun_induction blankLineAt?.go i bs with
  | case1 i rest =>
    cases h
    simp
  | case2 i x rest _ ih =>
    have := ih h
    simp only [List.length_cons]
    omega
  | case3 i => cases h

/-- The first blank line of a byte list is still the first once more bytes follow. -/
theorem blankLineAt?_go_append {i j : Nat} {bs : List UInt8} (h : blankLineAt?.go i bs = some j)
    (more : List UInt8) : blankLineAt?.go i (bs ++ more) = some j := by
  fun_induction blankLineAt?.go i bs with
  | case1 i rest =>
    cases h
    simp [blankLineAt?.go]
  | case2 i x rest hfirst ih =>
    -- the blank line lies inside `rest`, so `rest` has the three bytes that would have to
    -- follow `x` for the line to start at `x`
    have hlen := le_of_blankLineAt?_go h
    obtain ⟨a, b, d, rest', rfl⟩ : ∃ a b d rest', rest = a :: b :: d :: rest' := by
      rcases rest with _ | ⟨a, _ | ⟨b, _ | ⟨d, rest'⟩⟩⟩
      all_goals simp only [List.length_cons, List.length_nil] at hlen
      all_goals first | omega | exact ⟨a, b, d, rest', rfl⟩
    rw [List.cons_append, blankLineAt?.go]
    · exact ih h
    · intro tail hx heq
      subst hx
      simp only [List.cons_append, List.cons.injEq] at heq
      obtain ⟨rfl, rfl, rfl, -⟩ := heq
      exact hfirst rest' rfl rfl
  | case3 i => cases h

theorem blankLineAt?_append {raw : List UInt8} {e : Nat} (h : blankLineAt? raw = some e)
    (more : List UInt8) : blankLineAt? (raw ++ more) = some e ∧ e + 4 ≤ raw.length := by
  unfold blankLineAt? at h ⊢
  exact ⟨blankLineAt?_go_append h more, by simpa using (le_of_blankLineAt?_go h).2⟩

/-- A complete answer stays complete when more bytes follow: its head is unchanged and its body
only grows. -/
theorem isComplete_append {raw : List UInt8} (h : isComplete raw = true) (more : List UInt8) :
    isComplete (raw ++ more) = true := by
  unfold isComplete at h ⊢
  cases hb : blankLineAt? raw with
  | none => simp [hb] at h
  | some e =>
    obtain ⟨hb', he⟩ := blankLineAt?_append hb more
    have hhead : (raw ++ more).take e = raw.take e := List.take_append_of_le_length (by omega)
    simp only [hb] at h
    simp only [hb', hhead]
    split at h
    · next n hn =>
      simp only [List.length_append, decide_eq_true_eq] at h ⊢
      omega
    · cases h

/-! ### The loop's rules -/

section

variable {ω : Type} (c : Connector ω)

/-- The read the loop makes with `raw` read so far: a buffer's worth, and no more than the cap
leaves. -/
def Connector.nextRead (raw : List UInt8) (w : ω) : Except IoError (List UInt8) × ω :=
  (c.read (min 1024 (responseLimit - raw.length))).exec w

/-- A run of the response loop: with `raw` read so far, reading on from world `w` ends with the
answer `r` in world `w'`. -/
inductive Run : List UInt8 → ω → Except Error (List UInt8) → ω → Prop
  /-- Bytes that leave the answer under the cap and incomplete: read on. -/
  | more {raw w bs w₁ r w₂} : c.nextRead raw w = (.ok bs, w₁) → bs ≠ [] →
      (raw ++ bs).length < responseLimit → isComplete (raw ++ bs) = false →
      Run (raw ++ bs) w₁ r w₂ → Run raw w r w₂
  /-- An interrupted read: read again. -/
  | retry {raw w e w₁ r w₂} : c.nextRead raw w = (.error e, w₁) → e.kind = .interrupted →
      Run raw w₁ r w₂ → Run raw w r w₂
  /-- Bytes that fill the cap or complete the answer: the answer is every byte read. -/
  | full {raw w bs w'} : c.nextRead raw w = (.ok bs, w') → bs ≠ [] →
      (responseLimit ≤ (raw ++ bs).length ∨ isComplete (raw ++ bs) = true) →
      Run raw w (.ok (raw ++ bs)) w'
  /-- The end of the stream after some bytes: the answer is the bytes read. -/
  | ended {raw w w'} : c.nextRead raw w = (.ok [], w') → raw ≠ [] → Run raw w (.ok raw) w'
  /-- A read that would wait after some bytes: the answer is the bytes read. -/
  | waited {raw w e w'} : c.nextRead raw w = (.error e, w') →
      (e.kind = .wouldBlock ∨ e.kind = .timedOut) → raw ≠ [] → Run raw w (.ok raw) w'
  /-- The end of the stream before any byte: there is no answer. -/
  | silent {w w'} : c.nextRead [] w = (.ok [], w') →
      Run [] w (.error (.transport "server sent no upload response")) w'
  /-- A read that would wait before any byte, or that fails in any other way. -/
  | failed {raw w e w'} : c.nextRead raw w = (.error e, w') → e.kind ≠ .interrupted →
      ((e.kind = .wouldBlock ∨ e.kind = .timedOut) → raw = []) →
      Run raw w (.error (.transport ("upload response failed: " ++ e.text))) w'

/-- The answer the loop's result stands for: no bytes at all is no answer. -/
def answerOf : Except Error (List UInt8) → Except Error (List UInt8)
  | .ok [] => .error (.transport "server sent no upload response")
  | r => r

variable {c}

theorem answerOf_ok {raw : List UInt8} (h : raw ≠ []) : answerOf (.ok raw) = .ok raw := by
  cases raw with
  | nil => exact absurd rfl h
  | cons b bs => rfl

theorem readResponse_eq (w : ω) :
    readResponse c w = (answerOf (readLoop c (responseLimit + c.patience w + 1) [] w).1,
      (readLoop c (responseLimit + c.patience w + 1) [] w).2) := by
  unfold readResponse
  generalize readLoop c (responseLimit + c.patience w + 1) [] w = l
  obtain ⟨res, w'⟩ := l
  cases res with
  | error e => rfl
  | ok bs => cases bs <;> rfl

/-! ### One turn of the loop -/

variable {fuel : Nat} {raw : List UInt8} {w w₁ : ω}

theorem readLoop_of_full (h : responseLimit ≤ raw.length) : readLoop c fuel raw w = (.ok raw, w) := by
  cases fuel with
  | zero => rfl
  | succ fuel => simp [readLoop, h]

theorem readLoop_ended (hraw : raw.length < responseLimit) (h : c.nextRead raw w = (.ok [], w₁)) :
    readLoop c (fuel + 1) raw w = (.ok raw, w₁) := by
  simp only [Connector.nextRead] at h
  simp [readLoop, Nat.not_le.2 hraw, h]

theorem readLoop_bytes {bs : List UInt8} (hraw : raw.length < responseLimit)
    (h : c.nextRead raw w = (.ok bs, w₁)) (hbs : bs ≠ []) :
    readLoop c (fuel + 1) raw w =
      if isComplete (raw ++ bs) then (.ok (raw ++ bs), w₁) else readLoop c fuel (raw ++ bs) w₁ := by
  simp only [Connector.nextRead] at h
  cases bs with
  | nil => exact absurd rfl hbs
  | cons b bs => simp [readLoop, Nat.not_le.2 hraw, h]

theorem readLoop_failed {e : IoError} (hraw : raw.length < responseLimit)
    (h : c.nextRead raw w = (.error e, w₁)) :
    readLoop c (fuel + 1) raw w =
      if e.kind = .interrupted then readLoop c fuel raw w₁
      else if (e.kind = .wouldBlock ∨ e.kind = .timedOut) ∧ raw ≠ [] then (.ok raw, w₁)
      else (.error (.transport ("upload response failed: " ++ e.text)), w₁) := by
  simp only [Connector.nextRead] at h
  simp [readLoop, Nat.not_le.2 hraw, h]

/-! ### Every run reaches a stop -/

/-- Given fuel above the bytes the cap still allows plus the patience left, the loop follows its
rules to a stop. The measure falls with every read that goes on: bytes shrink what the cap
allows and never raise the patience, an interruption lowers the patience. -/
theorem run_readLoop
    (hkeep : ∀ n w r w', (c.read n).exec w = (r, w') → c.patience w' ≤ c.patience w)
    (hretry : ∀ n w e w', (c.read n).exec w = (.error e, w') → e.kind = .interrupted →
      c.patience w' < c.patience w) :
    ∀ (fuel : Nat) (raw : List UInt8) (w : ω), raw.length < responseLimit →
      responseLimit - raw.length + c.patience w < fuel →
      Run c raw w (answerOf (readLoop c fuel raw w).1) (readLoop c fuel raw w).2 := by
  intro fuel
  induction fuel with
  | zero =>
    intro raw w _ hfuel
    omega
  | succ fuel ih =>
    intro raw w hraw hfuel
    rcases hread : c.nextRead raw w with ⟨o, w₁⟩
    have hp : c.patience w₁ ≤ c.patience w := hkeep _ _ _ _ hread
    cases o with
    | ok bs =>
      cases bs with
      | nil =>
        -- the end of the stream
        rw [readLoop_ended hraw hread]
        by_cases hempty : raw = []
        · subst hempty
          exact .silent hread
        · rw [answerOf_ok hempty]
          exact .ended hread hempty
      | cons b bs =>
        have hne : b :: bs ≠ [] := List.cons_ne_nil _ _
        have hlong : raw ++ b :: bs ≠ [] := by simp
        rw [readLoop_bytes hraw hread hne]
        split
        · next hdone =>
          rw [answerOf_ok hlong]
          exact .full hread hne (.inr hdone)
        · next hdone =>
          by_cases hcap : responseLimit ≤ (raw ++ b :: bs).length
          · rw [readLoop_of_full hcap, answerOf_ok hlong]
            exact .full hread hne (.inl hcap)
          · -- the bytes go on: the cap now allows fewer
            have hlen : (raw ++ b :: bs).length = raw.length + bs.length + 1 := by
              simp only [List.length_append, List.length_cons]
              omega
            refine .more hread hne (by omega) (by simpa using hdone) (ih _ _ (by omega) ?_)
            omega
    | error e =>
      rw [readLoop_failed hraw hread]
      split
      · next hint =>
        -- an interruption: the patience falls
        have hq : c.patience w₁ < c.patience w := hretry _ _ _ _ hread hint
        exact .retry hread hint (ih raw w₁ hraw (by omega))
      · next hint =>
        split
        · next hwait =>
          rw [answerOf_ok hwait.2]
          exact .waited hread hwait.1 hwait.2
        · next hwait =>
          exact .failed hread hint fun hk => Classical.byContradiction fun hraw' => hwait ⟨hk, hraw'⟩

/-- An answer holds at least one byte and no more than the cap, when every read gives at most
the bytes asked for. -/
theorem Run.length_ok
    (hsize : ∀ n w bs w', (c.read n).exec w = (.ok bs, w') → bs.length ≤ n)
    {res : Except Error (List UInt8)} {w' : ω} (h : Run c raw w res w') :
    ∀ r, res = .ok r → raw.length ≤ responseLimit → 0 < r.length ∧ r.length ≤ responseLimit := by
  induction h with
  | more _ _ hlt _ _ ih => exact fun r hr _ => ih r hr (Nat.le_of_lt hlt)
  | retry _ _ _ ih => exact ih
  | full hread hne _ =>
    intro r hr hraw
    cases hr
    have hbs := hsize _ _ _ _ hread
    have hpos : 0 < _ := List.length_pos_iff.2 hne
    simp only [List.length_append]
    omega
  | ended _ hne | waited _ _ hne =>
    intro r hr hraw
    cases hr
    exact ⟨List.length_pos_iff.2 hne, hraw⟩
  | silent _ | failed _ _ _ =>
    intro r hr
    cases hr

/-! ### A run's answer is the loop's -/

/-- With enough fuel the loop gives the answer of any run of its rules. -/
theorem Run.readLoop_eq {r : Except Error (List UInt8)} {w' : ω} (h : Run c raw w r w')
    (hraw : raw.length < responseLimit) :
    ∃ n, ∀ k, (answerOf (readLoop c (k + n) raw w).1, (readLoop c (k + n) raw w).2) = (r, w') := by
  induction h with
  | more hread hne hlt hinc _ ih =>
    obtain ⟨n, hn⟩ := ih hlt
    refine ⟨n + 1, fun k => ?_⟩
    rw [show k + (n + 1) = k + n + 1 from rfl, readLoop_bytes hraw hread hne,
      if_neg (by simp [hinc])]
    exact hn k
  | retry hread hint _ ih =>
    obtain ⟨n, hn⟩ := ih hraw
    refine ⟨n + 1, fun k => ?_⟩
    rw [show k + (n + 1) = k + n + 1 from rfl, readLoop_failed hraw hread, if_pos hint]
    exact hn k
  | @full raw₀ w₀ bs w₁ hread hne hstop =>
    refine ⟨1, fun k => ?_⟩
    have hlong : raw₀ ++ bs ≠ [] := List.append_ne_nil_of_right_ne_nil raw₀ hne
    rw [readLoop_bytes hraw hread hne]
    split
    · rw [answerOf_ok hlong]
    · next hinc =>
      rw [readLoop_of_full (hstop.resolve_right hinc), answerOf_ok hlong]
  | ended hread hne =>
    refine ⟨1, fun k => ?_⟩
    rw [readLoop_ended hraw hread, answerOf_ok hne]
  | @waited raw₀ w₀ e w₁ hread hk hne =>
    refine ⟨1, fun k => ?_⟩
    have hint : e.kind ≠ .interrupted := by rcases hk with hk | hk <;> rw [hk] <;> decide
    rw [readLoop_failed hraw hread, if_neg hint, if_pos ⟨hk, hne⟩, answerOf_ok hne]
  | silent hread =>
    refine ⟨1, fun k => ?_⟩
    rw [readLoop_ended hraw hread]
    rfl
  | failed hread hint hk =>
    refine ⟨1, fun k => ?_⟩
    rw [readLoop_failed hraw hread, if_neg hint, if_neg fun hwait => hwait.2 (hk hwait.1)]
    rfl

/-- The loop's rules give one answer. -/
theorem Run.unique {r₁ r₂ : Except Error (List UInt8)} {w₁ w₂ : ω} (h₁ : Run c raw w r₁ w₁)
    (h₂ : Run c raw w r₂ w₂) (hraw : raw.length < responseLimit) : r₁ = r₂ ∧ w₁ = w₂ := by
  obtain ⟨n₁, hn₁⟩ := h₁.readLoop_eq hraw
  obtain ⟨n₂, hn₂⟩ := h₂.readLoop_eq hraw
  -- both are what the loop gives with fuel enough for either
  have hsame := (hn₁ n₂).symm.trans ((Nat.add_comm n₁ n₂) ▸ hn₂ n₁)
  simpa only [Prod.mk.injEq] using hsame

end

/-! ### Reading the answer -/

/-- Reading the server's answer from a reader that gives at most the bytes asked for, and whose
`patience` counts down the interruptions it has left (no read raises it, an interrupted one
lowers it): the answer is the one the loop's rules give at the first stop, after finitely many
reads; an answer holds between one byte and `responseLimit` bytes; and an answer once complete
stays complete however many bytes follow. -/
theorem response_read_to_first_stop {ω : Type} (c : Connector ω)
    (hsize : ∀ n w bs w', (c.read n).exec w = (.ok bs, w') → bs.length ≤ n)
    (hkeep : ∀ n w r w', (c.read n).exec w = (r, w') → c.patience w' ≤ c.patience w)
    (hretry : ∀ n w e w', (c.read n).exec w = (.error e, w') → e.kind = .interrupted →
      c.patience w' < c.patience w)
    (w : ω) :
    (∀ r w', Run c [] w r w' ↔ readResponse c w = (r, w')) ∧
      (∀ r, (readResponse c w).1 = .ok r → 0 < r.length ∧ r.length ≤ responseLimit) ∧
      ∀ raw more : List UInt8, isComplete raw = true → isComplete (raw ++ more) = true := by
  have hrun : Run c [] w (readResponse c w).1 (readResponse c w).2 := by
    rw [readResponse_eq]
    exact run_readLoop hkeep hretry _ [] w (by decide) (by simp)
  refine ⟨fun r w' => ⟨fun h => ?_, fun h => ?_⟩,
    fun r hr => hrun.length_ok hsize r hr (by simp), fun raw more h => isComplete_append h more⟩
  · -- the rules give one answer, and the loop's is one
    obtain ⟨hr, hw⟩ := hrun.unique h (by decide)
    exact Prod.ext hr hw
  · rw [h] at hrun
    exact hrun

/-! ### The in-memory peer as a reader -/

namespace Scripted

theorem read_exec {h : String} {n : Nat} {p : Scripted} {r : Except IoError (List UInt8)}
    {rest : List ReadItem} (hr : readFrom n p.pending = (r, rest)) :
    ((connector h).read n).exec p = (r, { p with pending := rest }) := by
  -- the read hands on whatever pair the script gives, taken apart by its projections
  have hread : ∀ q : Except IoError (List UInt8) × List ReadItem, readFrom n p.pending = q →
      ((connector h).read n).exec p =
        (liftExcept q.1 : Net Scripted (List UInt8)).exec { p with pending := q.2 } := by
    intro q hq
    subst hq
    rfl
  rw [hread _ hr]
  cases r <;> rfl

theorem scriptWorth_add (items : List ReadItem) (a : Nat) :
    items.foldl (fun acc item => acc + 1 + item.length) a = a + scriptWorth items := by
  induction items generalizing a with
  | nil => rfl
  | cons item items ih =>
    have hitems : scriptWorth (item :: items) = 0 + 1 + item.length + scriptWorth items := by
      rw [scriptWorth, List.foldl_cons, ih]
    rw [List.foldl_cons, ih, hitems]
    omega

theorem scriptWorth_cons (item : ReadItem) (items : List ReadItem) :
    scriptWorth (item :: items) = scriptWorth items + 1 + item.length := by
  rw [scriptWorth, List.foldl_cons, scriptWorth_add]
  omega

/-- A read gives at most the bytes asked for. -/
theorem length_readFrom_le {n : Nat} {items rest : List ReadItem} {bs : List UInt8}
    (h : readFrom n items = (.ok bs, rest)) : bs.length ≤ n := by
  match items, h with
  | [], h =>
    cases h
    exact Nat.zero_le n
  | .bytes d :: _, h =>
    cases h
    exact List.length_take_le n d

/-- A read never adds to what the script is worth. -/
theorem scriptWorth_readFrom_le (n : Nat) (items : List ReadItem) :
    scriptWorth (readFrom n items).2 ≤ scriptWorth items := by
  match items with
  | [] => exact Nat.le_refl _
  | .failure e :: rest =>
    rw [scriptWorth_cons]
    exact Nat.le_add_right_of_le (Nat.le_succ _)
  | .bytes d :: rest =>
    -- what is left of the item is worth no more than the item
    have hdrop : (d.drop n).length ≤ d.length := by
      rw [List.length_drop]
      omega
    simp only [readFrom, scriptWorth_cons]
    split
    · simp only [ReadItem.length]
      omega
    · simp only [scriptWorth_cons, ReadItem.length]
      omega

/-- A failed read uses up its item. -/
theorem scriptWorth_readFrom_lt {n : Nat} {items rest : List ReadItem} {e : IoError}
    (h : readFrom n items = (.error e, rest)) : scriptWorth rest < scriptWorth items := by
  match items, h with
  | .failure e :: rest, h =>
    cases h
    rw [scriptWorth_cons]
    omega

/-- The peer gives at most the bytes asked for, no read raises its patience, and a failed read,
an interruption among them, lowers it. -/
theorem reads_within_patience (h : String) :
    (∀ n w bs w', ((connector h).read n).exec w = (.ok bs, w') → bs.length ≤ n) ∧
      (∀ n w r w', ((connector h).read n).exec w = (r, w') →
        (connector h).patience w' ≤ (connector h).patience w) ∧
      ∀ n w e w', ((connector h).read n).exec w = (.error e, w') → e.kind = .interrupted →
        (connector h).patience w' < (connector h).patience w := by
  refine ⟨fun n w bs w' hread => ?_, fun n w r w' hread => ?_, fun n w e w' hread _ => ?_⟩
  all_goals
    rcases hrf : readFrom n w.pending with ⟨r', rest⟩
    rw [read_exec hrf, Prod.mk.injEq] at hread
    obtain ⟨rfl, rfl⟩ := hread
  · exact length_readFrom_le hrf
  · have := scriptWorth_readFrom_le n w.pending
    rw [hrf] at this
    exact this
  · exact scriptWorth_readFrom_lt hrf

end Scripted

/-- The in-memory peer, interrupted once before the default reply, is a reader the reading
theorem holds for. -/
theorem interrupted_reply_read_to_first_stop :
    let c := Scripted.connector "127.0.0.1:8080"
    let w : Scripted := { pending := .failure ⟨.interrupted, "interrupted"⟩ :: defaultReply }
    (∀ n w bs w', (c.read n).exec w = (.ok bs, w') → bs.length ≤ n) ∧
      (∀ n w r w', (c.read n).exec w = (r, w') → c.patience w' ≤ c.patience w) ∧
      (∀ n w e w', (c.read n).exec w = (.error e, w') → e.kind = .interrupted →
        c.patience w' < c.patience w) ∧
      (∀ r w', Run c [] w r w' ↔ readResponse c w = (r, w')) ∧
      (∀ r, (readResponse c w).1 = .ok r → 0 < r.length ∧ r.length ≤ responseLimit) ∧
      ∀ raw more : List UInt8, isComplete raw = true → isComplete (raw ++ more) = true := by
  intro c w
  obtain ⟨hsize, hkeep, hretry⟩ := Scripted.reads_within_patience "127.0.0.1:8080"
  exact ⟨hsize, hkeep, hretry, response_read_to_first_stop c hsize hkeep hretry w⟩

end Talkback.Upload
