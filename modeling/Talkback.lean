import Talkback.App.Cli
import Talkback.App.Command
import Talkback.App.Console
import Talkback.App.Paths
import Talkback.App.Peer
import Talkback.App.Program
import Talkback.App.Settings
import Talkback.App.Store
import Talkback.Audio.Device
import Talkback.Audio.Format
import Talkback.Audio.Recording
import Talkback.Buffer.Capture
import Talkback.Buffer.Ring
import Talkback.Client.Config
import Talkback.Client.Connection
import Talkback.Client.Device
import Talkback.Client.Diagnostics
import Talkback.Client.Loop
import Talkback.Client.Script
import Talkback.Client.Shared
import Talkback.Client.Start
import Talkback.Client.World
import Talkback.Codec.Base64
import Talkback.Codec.Chunked
import Talkback.Codec.MuLaw
import Talkback.Codec.Wav
import Talkback.Decimal.Binary
import Talkback.Decimal.Fixed
import Talkback.Decimal.Shortest
import Talkback.Dispatch.Message
import Talkback.Dispatch.Queue
import Talkback.Error
import Talkback.Event
import Talkback.Fault
import Talkback.Host.Files
import Talkback.Json.Decode
import Talkback.Json.Parse
import Talkback.Json.Value
import Talkback.Monitor
import Talkback.Monitor.Bench
import Talkback.Proofs.AudioBooks
import Talkback.Proofs.Base64RoundTrip
import Talkback.Proofs.Base64Decoding
import Talkback.Proofs.CaptureRecord
import Talkback.Proofs.CaptureStatus
import Talkback.Proofs.EventDocuments
import Talkback.Proofs.ChunkedUpload
import Talkback.Proofs.ConsoleLines
import Talkback.Proofs.Circular
import Talkback.Proofs.DeviceOrder
import Talkback.Proofs.Interleaved
import Talkback.Proofs.JsonRecords
import Talkback.Proofs.JsonText
import Talkback.Proofs.Monitor
import Talkback.Proofs.Outbound
import Talkback.Proofs.Playback
import Talkback.Proofs.PlaybackPieces
import Talkback.Proofs.Queue
import Talkback.Proofs.QueueSlots
import Talkback.Proofs.ResponseReading
import Talkback.Proofs.RequestsOnce
import Talkback.Proofs.Ring
import Talkback.Proofs.RingCells
import Talkback.Proofs.Service
import Talkback.Proofs.SessionOwner
import Talkback.Proofs.SettingsFile
import Talkback.Proofs.SettingsNormalForm
import Talkback.Proofs.SocketEvents
import Talkback.Proofs.StatusLine
import Talkback.Proofs.Streaming
import Talkback.Proofs.Teardown
import Talkback.Proofs.Threads
import Talkback.Proofs.Underflows
import Talkback.Proofs.UploadLedger
import Talkback.Proofs.Upload
import Talkback.Proofs.WavLayout
import Talkback.Proofs.WavScan
import Talkback.Proofs.WholeFrames
import Talkback.Proofs.WritableRequests
import Talkback.Text.Blank
import Talkback.Text.Numeral
import Talkback.Text.Printable
import Talkback.Text.Quoted
import Talkback.Text.Shape
import Talkback.Text.Utf8
import Talkback.Transport.Auth
import Talkback.Transport.Link
import Talkback.Transport.Network
import Talkback.Transport.Socket
import Talkback.Transport.Target
import Talkback.Upload.Response
import Talkback.Upload.Scripted
import Talkback.Upload.Session
import Talkback.Upload.Tcp
import Talkback.Main
