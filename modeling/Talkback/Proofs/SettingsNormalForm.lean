import Talkback.Buffer.Capture
import Talkback.Proofs.SettingsFile

/-!
The normal form of settings.

`Settings.Normal` says what normalizing promises of each field: texts present and trimmed,
both paths rooted at `/`, each choice spelled canonically and every number within its range.
Normalizing reaches that form from any settings (`normal_normalize`) and leaves settings in it
unchanged (`normalize_of_normal`), so it is idempotent; and the sizes a client derives from
settings in normal form, the playback ring's bytes and the capture record's bytes, fit in a
machine word (`Normal.playbackBytes_fit`, `Normal.captureBytes_fit`).
-/

namespace Talkback.App

open Text

/-- A text that is not empty and has no blank at either end. -/
def Solid (t : String) : Prop := t ≠ "" ∧ trimBlank t = t

/-- A solid text that begins with `/`. -/
def Rooted (p : String) : Prop := Solid p ∧ p.startsWith "/" = true

theorem solid_of_nonEmpty {raw t : String} (h : nonEmpty raw = some t) : Solid t := by
  obtain ⟨rfl, hne⟩ := nonEmpty_eq_some h
  exact ⟨hne, trimBlank_trimBlank raw⟩

theorem nonEmpty_of_solid {t : String} (h : Solid t) : nonEmpty t = some t := by
  simp [nonEmpty, h.2, h.1]

theorem solid_getD_nonEmpty (raw : String) {d : String} (hd : Solid d) :
    Solid ((nonEmpty raw).getD d) := by
  cases h : nonEmpty raw with
  | none => exact hd
  | some t => exact solid_of_nonEmpty h

theorem solid_bind_nonEmpty (x : Option String) : ∀ v ∈ x.bind nonEmpty, Solid v := by
  intro v hv
  cases x with
  | none => cases hv
  | some raw =>
    rw [Option.mem_def, Option.bind_some] at hv
    exact solid_of_nonEmpty hv

theorem bind_nonEmpty_of_solid {x : Option String} (h : ∀ v ∈ x, Solid v) :
    x.bind nonEmpty = x := by
  cases x with
  | none => rfl
  | some t =>
    rw [Option.bind_some]
    exact nonEmpty_of_solid (h t rfl)

/-- A slash put in front of a solid text that lacks one gives a rooted path. -/
theorem rooted_slash {raw : String} (hne : trimBlank raw ≠ "") :
    Rooted ("/" ++ trimBlank raw) := by
  have hlist : ("/" ++ trimBlank raw).toList = '/' :: (trimBlank raw).toList := by simp
  refine ⟨⟨?_, trimBlank_slash raw hne⟩, ?_⟩
  · intro h
    have := congrArg String.toList h
    rw [hlist] at this
    cases this
  · rw [String.startsWith_string_iff, hlist]
    exact ⟨(trimBlank raw).toList, by simp⟩

theorem rooted_normalizePath (raw : String) {fallback : String} (hfb : Rooted fallback) :
    Rooted (normalizePath raw fallback) := by
  unfold normalizePath
  cases hraw : nonEmpty raw with
  | none => exact hfb
  | some p =>
    dsimp only
    split
    · next hs => exact ⟨solid_of_nonEmpty hraw, hs⟩
    · obtain ⟨rfl, hne⟩ := nonEmpty_eq_some hraw
      exact rooted_slash hne

theorem normalizePath_of_rooted {p : String} (h : Rooted p) (fallback : String) :
    normalizePath p fallback = p := by
  simp [normalizePath, nonEmpty_of_solid h.1, h.2]

theorem clampTo_within {lo hi : Nat} (h : lo ≤ hi) (n : Nat) :
    lo ≤ clampTo lo hi n ∧ clampTo lo hi n ≤ hi := by
  unfold clampTo
  omega

theorem clampTo_of_within {lo hi n : Nat} (h : lo ≤ n ∧ n ≤ hi) : clampTo lo hi n = n := by
  unfold clampTo
  omega

namespace Settings

/-- Settings in the form normalizing gives them: the host and the optional texts present and
without surrounding blanks, a port, both paths rooted, each choice spelled canonically, and
every number within its range. -/
structure Normal (s : Settings) : Prop where
  host : Solid s.serverHost
  port : s.serverPort ≠ 0
  wsPath : Rooted s.wsPath
  uploadPath : Rooted s.uploadPath
  authMode : s.authMode ∈ ["token", "none", "basic"]
  encoding : s.encoding ∈ ["mulaw", "pcm16"]
  playbackMode : s.playbackMode ∈ ["blocking", "pull"]
  apiKey : ∀ v ∈ s.apiKey, Solid v
  apiSecret : ∀ v ∈ s.apiSecret, Solid v
  inputDevice : ∀ v ∈ s.preferredInputDevice, Solid v
  outputDevice : ∀ v ∈ s.preferredOutputDevice, Solid v
  sampleRate : 8000 ≤ s.sampleRate ∧ s.sampleRate ≤ 48000
  channels : 1 ≤ s.channels ∧ s.channels ≤ 2
  framesPerBuffer : 64 ≤ s.framesPerBuffer ∧ s.framesPerBuffer ≤ 8192
  queueCapacity : 1 ≤ s.queueCapacity ∧ s.queueCapacity ≤ 1024
  playbackBufferKib : 16 ≤ s.playbackBufferKib ∧ s.playbackBufferKib ≤ 16384
  maxRecordingSecs : 1 ≤ s.maxRecordingSecs ∧ s.maxRecordingSecs ≤ 600
  uploadChunkQueue : 1 ≤ s.uploadChunkQueue ∧ s.uploadChunkQueue ≤ 1000
  pingIntervalSecs : s.pingIntervalSecs ≤ 3600

theorem solid_defaultHost : Solid "127.0.0.1" := by
  unfold Solid
  decide +kernel

theorem rooted_defaultWsPath : Rooted "/ws" := by
  unfold Rooted Solid
  decide +kernel

theorem rooted_defaultUploadPath : Rooted "/api/v1/audio/stream" := by
  unfold Rooted Solid
  decide +kernel

/-- Normalizing gives settings in normal form. -/
theorem normal_normalize (s : Settings) : s.normalize.Normal := by
  constructor <;> dsimp only [normalize]
  case host => exact solid_getD_nonEmpty s.serverHost solid_defaultHost
  case port => split <;> omega
  case wsPath => exact rooted_normalizePath s.wsPath rooted_defaultWsPath
  case uploadPath => exact rooted_normalizePath s.uploadPath rooted_defaultUploadPath
  case authMode => exact normalizeAuthMode_mem s.authMode
  case encoding => exact normalizeEncoding_mem s.encoding
  case playbackMode => exact normalizePlaybackMode_mem s.playbackMode
  case apiKey => exact solid_bind_nonEmpty s.apiKey
  case apiSecret => exact solid_bind_nonEmpty s.apiSecret
  case inputDevice => exact solid_bind_nonEmpty s.preferredInputDevice
  case outputDevice => exact solid_bind_nonEmpty s.preferredOutputDevice
  case sampleRate => exact clampTo_within (by decide) s.sampleRate
  case channels => exact clampTo_within (by decide) s.channels
  case framesPerBuffer => exact clampTo_within (by decide) s.framesPerBuffer
  case queueCapacity => exact clampTo_within (by decide) s.queueCapacity
  case playbackBufferKib => exact clampTo_within (by decide) s.playbackBufferKib
  case maxRecordingSecs => exact clampTo_within (by decide) s.maxRecordingSecs
  case uploadChunkQueue => exact clampTo_within (by decide) s.uploadChunkQueue
  case pingIntervalSecs => exact Nat.min_le_left _ _

/-- Normalizing leaves settings in normal form as they are. -/
theorem normalize_of_normal {s : Settings} (h : s.Normal) : s.normalize = s := by
  cases s
  simp only [normalize, Settings.mk.injEq]
  exact ⟨by rw [nonEmpty_of_solid h.host]; rfl, if_neg h.port,
    normalizePath_of_rooted h.wsPath _, normalizeAuthMode_of_mem h.authMode, trivial, trivial,
    bind_nonEmpty_of_solid h.apiKey, bind_nonEmpty_of_solid h.apiSecret,
    normalizePath_of_rooted h.uploadPath _, clampTo_of_within h.sampleRate,
    clampTo_of_within h.channels, normalizeEncoding_of_mem h.encoding,
    clampTo_of_within h.framesPerBuffer, clampTo_of_within h.queueCapacity,
    clampTo_of_within h.playbackBufferKib, normalizePlaybackMode_of_mem h.playbackMode,
    clampTo_of_within h.maxRecordingSecs, clampTo_of_within h.uploadChunkQueue,
    Nat.min_eq_right h.pingIntervalSecs, bind_nonEmpty_of_solid h.inputDevice,
    bind_nonEmpty_of_solid h.outputDevice⟩

/-! ### Sizes derived from normal settings -/

/-- Every word is 64 bits wide. -/
theorem pow_wordBits : Nat.pow 2 wordBits = 18446744073709551616 := rfl

/-- The playback ring's size in bytes is a product that stays within a word. -/
theorem Normal.playbackBytes_fit {s : Settings} (h : s.Normal) :
    mulChecked wordBits s.playbackBufferKib 1024 = .ok s.clientConfig.playbackBufferBytes := by
  rw [mulChecked_eq_ok, pow_wordBits]
  refine ⟨?_, rfl⟩
  have hkib := h.playbackBufferKib.2
  omega

theorem bytesPerSample_le_two (f : Audio.Format) : f.bytesPerSample ≤ 2 := by
  unfold Audio.Format.bytesPerSample
  cases f.encoding <;> simp [Audio.Encoding.bytesPerSample]

/-- A second of audio in the client's format takes at most 192000 bytes. -/
theorem Normal.bytesPerSecond_le {s : Settings} (h : s.Normal) :
    s.clientConfig.format.bytesPerSecond ≤ 2 * 2 * 48000 := by
  have hch : s.channels.toUInt16.toNat = s.channels := by
    have := h.channels.2
    simp only [Nat.toUInt16_eq, UInt16.toNat_ofNat']
    omega
  have hrate : s.sampleRate.toUInt32.toNat = s.sampleRate := by
    have := h.sampleRate.2
    simp only [Nat.toUInt32_eq, UInt32.toNat_ofNat']
    omega
  have hframe : s.clientConfig.format.bytesPerFrame ≤ 2 * 2 := by
    unfold Audio.Format.bytesPerFrame
    exact Nat.mul_le_mul (bytesPerSample_le_two _)
      (by simpa [clientConfig, audioFormat, hch] using h.channels.2)
  unfold Audio.Format.bytesPerSecond
  exact Nat.mul_le_mul hframe (by simpa [clientConfig, audioFormat, hrate] using h.sampleRate.2)

/-- The capture record for the longest recording is a product that stays within a word. -/
theorem Normal.captureBytes_fit {s : Settings} (h : s.Normal) :
    Buffer.Capture.forDuration s.clientConfig.format s.clientConfig.maxRecordingSecs =
      .ok (Buffer.Capture.create (s.clientConfig.format.bytesPerSecond * s.maxRecordingSecs)) := by
  have hprod : s.clientConfig.format.bytesPerSecond * s.maxRecordingSecs < Nat.pow 2 wordBits :=
    calc s.clientConfig.format.bytesPerSecond * s.maxRecordingSecs
        ≤ (2 * 2 * 48000) * 600 := Nat.mul_le_mul h.bytesPerSecond_le h.maxRecordingSecs.2
      _ < Nat.pow 2 wordBits := by rw [pow_wordBits]; decide
  have hmul : mulChecked wordBits s.clientConfig.format.bytesPerSecond s.maxRecordingSecs =
      .ok (s.clientConfig.format.bytesPerSecond * s.maxRecordingSecs) :=
    mulChecked_eq_ok.2 ⟨hprod, rfl⟩
  show Buffer.Capture.create <$> mulChecked wordBits s.clientConfig.format.bytesPerSecond
    s.maxRecordingSecs = _
  rw [hmul]
  rfl

/-- Normalizing gives the normal form and keeps it, so normalizing twice is normalizing once;
and the client's buffer sizes, derived from normalized settings, fit in a machine word. -/
theorem normalize_normal_form (s : Settings) :
    s.normalize.Normal ∧ (s.Normal → s.normalize = s) ∧ s.normalize.normalize = s.normalize ∧
      mulChecked wordBits s.normalize.playbackBufferKib 1024 =
        .ok s.normalize.clientConfig.playbackBufferBytes ∧
      Buffer.Capture.forDuration s.normalize.clientConfig.format
          s.normalize.clientConfig.maxRecordingSecs =
        .ok (Buffer.Capture.create
          (s.normalize.clientConfig.format.bytesPerSecond * s.normalize.maxRecordingSecs)) :=
  ⟨normal_normalize s, normalize_of_normal, normalize_of_normal (normal_normalize s),
    (normal_normalize s).playbackBytes_fit, (normal_normalize s).captureBytes_fit⟩

end Settings

end Talkback.App
