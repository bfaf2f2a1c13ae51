import Talkback.Audio.Device
import Talkback.Audio.Format
import Talkback.Event
import Talkback.Proofs.JsonRecords

/-!
Every event, device and format document reads back from its text.

Each record is written as an object naming its fields in order, choices as their names, and
variant records as objects whose first member is the tag (`result` for an upload's outcome,
`type` for a device activity). For every value whose numbers fit the widths of its fields
(`InRange`), the compact text of its document parses and decodes back to the value; and a value
decoded from any text fits those widths, so its own text reads back to it again
(`event_documents_read_back`).

Each type's facts are three: its reader takes back what its writer writes (`decode_toJson`), its
documents are plain and shallow, and its reader reads only values in range
(`inRange_of_decode`); `textRoundTrip_of` assembles them.
-/

namespace Talkback

open Json Json.Decoder

namespace Audio

theorem Encoding.decode_toJson (e : Encoding) : Encoding.decode e.toJson = some e := by
  cases e <;> decide

theorem Direction.decode_name (d : Direction) : Direction.decode (.str d.name) = some d := by
  cases d <;> decide

theorem Format.decode_toJson (f : Format) : Format.decode f.toJson = some f := by
  have hrate : f.sampleRate.toNat < Nat.pow 2 32 := f.sampleRate.toNat_lt
  have hchannels : f.channels.toNat < Nat.pow 2 16 := f.channels.toNat_lt
  simp [Format.decode, Format.toJson, fields_members, req, unsigned_ofNat hrate,
    unsigned_ofNat hchannels, Encoding.decode_toJson]

theorem DeviceInfo.decode_toJson (d : DeviceInfo) : DeviceInfo.decode d.toJson = some d := by
  simp [DeviceInfo.decode, DeviceInfo.toJson, fields_members, req, string, Json.Decoder.bool,
    Direction.decode_name]

theorem Encoding.text_round_trip :
    TextRoundTrip Encoding.toJson Encoding.decode fun _ => True :=
  textRoundTrip_of (fun _ _ => rfl) (fun e => by cases e <;> decide) (fun e _ => e.decode_toJson)
    fun _ _ _ => trivial

theorem Direction.text_round_trip :
    TextRoundTrip (fun d : Direction => .str d.name) Direction.decode fun _ => True :=
  textRoundTrip_of (fun _ _ => rfl) (fun _ => show 0 < 128 by decide) (fun d _ => d.decode_name)
    fun _ _ _ => trivial

theorem Format.text_round_trip : TextRoundTrip Format.toJson Format.decode fun _ => True := by
  refine textRoundTrip_of (fun f _ => ?_) (fun f => ?_) (fun f _ => f.decode_toJson)
    fun _ _ _ => trivial
  · -- both numbers are below 2 ^ 32
    have hrate : f.sampleRate.toNat < Nat.pow 2 64 := by
      have := f.sampleRate.toNat_lt; simp only [Nat.pow_eq] at *; omega
    have hchannels : f.channels.toNat < Nat.pow 2 64 := by
      have := f.channels.toNat_lt; simp only [Nat.pow_eq] at *; omega
    cases hf : f.encoding <;>
      simp [Format.toJson, Value.plain, Value.plain.plainMembers, Value.ofNat, Encoding.toJson,
        hrate, hchannels]
  · simp [Format.toJson, Value.depth, Value.depth.depthMembers, Value.ofNat, Encoding.toJson]

theorem DeviceInfo.text_round_trip :
    TextRoundTrip DeviceInfo.toJson DeviceInfo.decode fun _ => True :=
  textRoundTrip_of (fun _ _ => rfl)
    (fun _ => by simp [DeviceInfo.toJson, Value.depth, Value.depth.depthMembers])
    (fun d _ => d.decode_toJson) fun _ _ _ => trivial

end Audio

namespace ServerMessage

/-- The sequence number fits its 64 bits. -/
def InRange (e : ServerMessage) : Prop := e.seq < Nat.pow 2 64

theorem decode_toJson {e : ServerMessage} (h : e.InRange) : decode e.toJson = some e := by
  simp [decode, toJson, fields_members, req, unsigned_ofNat h, string]

theorem inRange_of_decode {v : Value} {e : ServerMessage} (h : decode v = some e) : e.InRange := by
  simp only [decode, Option.bind_eq_bind, Option.bind_eq_some_iff, Option.pure_def,
    Option.some.injEq] at h
  obtain ⟨_, -, n, hn, _, -, rfl⟩ := h
  exact lt_of_req_unsigned hn

theorem text_round_trip : TextRoundTrip toJson decode InRange :=
  textRoundTrip_of
    (fun _ h => by simpa [toJson, Value.plain, Value.plain.plainMembers, Value.ofNat, InRange] using h)
    (fun _ => by simp [toJson, Value.depth, Value.depth.depthMembers, Value.ofNat])
    (fun _ h => decode_toJson h) fun _ _ h => inRange_of_decode h

end ServerMessage

namespace UploadOutcome

/-- The status fits its 16 bits and the chunk count its 64. -/
def InRange : UploadOutcome → Prop
  | .completed st _ chunks => (∀ n ∈ st, n < Nat.pow 2 16) ∧ chunks < Nat.pow 2 64
  | .failed _ => True

theorem plain_toJson {o : UploadOutcome} (h : o.InRange) : o.toJson.plain = true := by
  cases o with
  | completed st body chunks =>
    -- a status below 2 ^ 16 is also below 2 ^ 64
    cases st <;>
      simp_all [InRange, toJson, Value.plain, Value.plain.plainMembers, Value.ofNat,
        Value.ofOption] <;> omega
  | failed d => rfl

theorem depth_toJson (o : UploadOutcome) : o.toJson.depth = 1 := by
  cases o with
  | completed st => cases st <;> rfl
  | failed => rfl

theorem decode_toJson {o : UploadOutcome} (h : o.InRange) : decode o.toJson = some o := by
  have hstrict : o.toJson.strict = true := Value.strict_of_plain _ (plain_toJson h)
  cases o with
  | completed st body chunks =>
    have hst : option (unsigned 16) (Value.ofOption Value.ofNat st) = some st :=
      option_ofOption (fun _ => by simp [Value.ofNat]) fun n hn => unsigned_ofNat (h.1 n hn)
    rw [toJson, decode, tagged_written hstrict (by simp)]
    simp [fields_members, req, opt, hst, unsigned_ofNat h.2, string]
  | failed d =>
    rw [toJson, decode, tagged_written hstrict (by simp)]
    simp [fields_members, req, string]

theorem inRange_of_decode {v : Value} {o : UploadOutcome} (h : decode v = some o) : o.InRange := by
  simp only [decode, Option.bind_eq_bind, Option.bind_eq_some_iff, Option.pure_def] at h
  obtain ⟨_, -, h⟩ := h
  split at h
  · simp only [Option.bind_eq_some_iff, Option.some.injEq] at h
    obtain ⟨_, -, st, hst, _, -, chunks, hchunks, rfl⟩ := h
    refine ⟨fun n hn => ?_, lt_of_req_unsigned hchunks⟩
    rw [Option.mem_def] at hn
    subst hn
    exact lt_of_opt_unsigned hst
  · simp only [Option.bind_eq_some_iff, Option.some.injEq] at h
    obtain ⟨_, -, _, -, rfl⟩ := h
    trivial
  · cases h

theorem text_round_trip : TextRoundTrip toJson decode InRange :=
  textRoundTrip_of (fun _ h => plain_toJson h) (fun o => by rw [depth_toJson]; decide)
    (fun _ h => decode_toJson h) fun _ _ h => inRange_of_decode h

end UploadOutcome

namespace UploadEvent

/-- The sequence number fits its 64 bits and the outcome is in range. -/
def InRange (e : UploadEvent) : Prop := e.seq < Nat.pow 2 64 ∧ e.outcome.InRange

theorem decode_toJson {e : UploadEvent} (h : e.InRange) : decode e.toJson = some e := by
  simp [decode, toJson, fields_members, req, unsigned_ofNat h.1, string,
    UploadOutcome.decode_toJson h.2]

theorem inRange_of_decode {v : Value} {e : UploadEvent} (h : decode v = some e) : e.InRange := by
  simp only [decode, Option.bind_eq_bind, Option.bind_eq_some_iff, Option.pure_def,
    Option.some.injEq] at h
  obtain ⟨_, -, n, hn, _, -, o, ho, rfl⟩ := h
  obtain ⟨w, -, hw⟩ := Option.bind_eq_some_iff.1 ho
  exact ⟨lt_of_req_unsigned hn, UploadOutcome.inRange_of_decode hw⟩

theorem text_round_trip : TextRoundTrip toJson decode InRange := by
  refine textRoundTrip_of (fun e h => ?_) (fun e => ?_) (fun _ h => decode_toJson h)
    fun _ _ h => inRange_of_decode h
  · simpa [toJson, Value.plain, Value.plain.plainMembers, Value.ofNat,
      UploadOutcome.plain_toJson h.2] using h.1
  · simp [toJson, Value.depth, Value.depth.depthMembers, Value.ofNat, UploadOutcome.depth_toJson]

end UploadEvent

namespace ActivityKind

/-- The byte and underflow counts fit their 64 bits. -/
def InRange : ActivityKind → Prop
  | .playbackStopped b u => b < Nat.pow 2 64 ∧ u < Nat.pow 2 64
  | .captureStopped b d => b < Nat.pow 2 64 ∧ d < Nat.pow 2 64
  | _ => True

theorem plain_toJson {k : ActivityKind} (h : k.InRange) : k.toJson.plain = true := by
  cases k <;> simp_all [InRange, toJson, Value.plain, Value.plain.plainMembers, Value.ofNat]

theorem depth_toJson (k : ActivityKind) : k.toJson.depth = 1 := by
  cases k <;> rfl

theorem decode_toJson {k : ActivityKind} (h : k.InRange) : decode k.toJson = some k := by
  have hstrict : k.toJson.strict = true := Value.strict_of_plain _ (plain_toJson h)
  cases k with
  | playbackStarted | captureStarted =>
    rw [toJson, decode, tagged_written hstrict (by simp)]
    rfl
  | playbackStopped b u =>
    rw [toJson, decode, tagged_written hstrict (by simp)]
    simp [fields_members, req, unsigned_ofNat h.1, unsigned_ofNat h.2]
  | captureStopped b d =>
    rw [toJson, decode, tagged_written hstrict (by simp)]
    simp [fields_members, req, unsigned_ofNat h.1, unsigned_ofNat h.2]

theorem inRange_of_decode {v : Value} {k : ActivityKind} (h : decode v = some k) : k.InRange := by
  simp only [decode, Option.bind_eq_bind, Option.bind_eq_some_iff, Option.pure_def] at h
  obtain ⟨_, -, h⟩ := h
  split at h
  · simp only [Option.bind_eq_some_iff, Option.some.injEq] at h
    obtain ⟨_, -, rfl⟩ := h
    trivial
  · simp only [Option.bind_eq_some_iff, Option.some.injEq] at h
    obtain ⟨_, -, rfl⟩ := h
    trivial
  · simp only [Option.bind_eq_some_iff, Option.some.injEq] at h
    obtain ⟨_, -, b, hb, u, hu, rfl⟩ := h
    exact ⟨lt_of_req_unsigned hb, lt_of_req_unsigned hu⟩
  · simp only [Option.bind_eq_some_iff, Option.some.injEq] at h
    obtain ⟨_, -, b, hb, d, hd, rfl⟩ := h
    exact ⟨lt_of_req_unsigned hb, lt_of_req_unsigned hd⟩
  · cases h

theorem text_round_trip : TextRoundTrip toJson decode InRange :=
  textRoundTrip_of (fun _ h => plain_toJson h) (fun k => by rw [depth_toJson]; decide)
    (fun _ h => decode_toJson h) fun _ _ h => inRange_of_decode h

end ActivityKind

namespace ActivityEvent

/-- The sequence number fits its 64 bits and the activity is in range. -/
def InRange (e : ActivityEvent) : Prop := e.seq < Nat.pow 2 64 ∧ e.kind.InRange

theorem decode_toJson {e : ActivityEvent} (h : e.InRange) : decode e.toJson = some e := by
  simp [decode, toJson, fields_members, req, unsigned_ofNat h.1, ActivityKind.decode_toJson h.2]

theorem inRange_of_decode {v : Value} {e : ActivityEvent} (h : decode v = some e) : e.InRange := by
  simp only [decode, Option.bind_eq_bind, Option.bind_eq_some_iff, Option.pure_def,
    Option.some.injEq] at h
  obtain ⟨_, -, n, hn, k, hk, rfl⟩ := h
  obtain ⟨w, -, hw⟩ := Option.bind_eq_some_iff.1 hk
  exact ⟨lt_of_req_unsigned hn, ActivityKind.inRange_of_decode hw⟩

theorem text_round_trip : TextRoundTrip toJson decode InRange := by
  refine textRoundTrip_of (fun e h => ?_) (fun e => ?_) (fun _ h => decode_toJson h)
    fun _ _ h => inRange_of_decode h
  · simpa [toJson, Value.plain, Value.plain.plainMembers, Value.ofNat,
      ActivityKind.plain_toJson h.2] using h.1
  · simp [toJson, Value.depth, Value.depth.depthMembers, Value.ofNat, ActivityKind.depth_toJson]

end ActivityEvent

theorem Status.decode_name (s : Status) : Status.decode (.str s.name) = some s := by
  cases s <;> decide

theorem StatusEvent.decode_toJson (e : StatusEvent) : StatusEvent.decode e.toJson = some e := by
  have hdetail : option string (Value.ofOption Value.str e.detail) = some e.detail :=
    option_ofOption (fun _ => by simp) fun _ _ => rfl
  simp [StatusEvent.decode, StatusEvent.toJson, fields_members, req, opt, hdetail,
    Status.decode_name]

theorem Status.text_round_trip :
    TextRoundTrip (fun s : Status => .str s.name) Status.decode fun _ => True :=
  textRoundTrip_of (fun _ _ => rfl) (fun _ => show 0 < 128 by decide) (fun s _ => s.decode_name)
    fun _ _ _ => trivial

theorem StatusEvent.text_round_trip :
    TextRoundTrip StatusEvent.toJson StatusEvent.decode fun _ => True := by
  refine textRoundTrip_of (fun e _ => ?_) (fun e => ?_) (fun e _ => e.decode_toJson)
    fun _ _ _ => trivial
  · cases hd : e.detail <;>
      simp [StatusEvent.toJson, Value.plain, Value.plain.plainMembers, Value.ofOption, hd]
  · cases hd : e.detail <;>
      simp [StatusEvent.toJson, Value.depth, Value.depth.depthMembers, Value.ofOption, hd]

end Talkback
