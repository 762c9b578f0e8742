import AudioRouter.AudioTypes
import AudioRouter.AudioConverter
import AudioRouter.Lib.SequenceWindow
import AudioRouter.Lib.LittleEndian
import AudioRouter.Lib.FixedWidth
import AudioRouter.Lib.Text
import AudioRouter.Lib.Framing
import AudioRouter.Lib.FramedChannel
import AudioRouter.Lib.Blocks
import AudioRouter.Lib.FrameCutter
import AudioRouter.Lib.FrameLoop
import AudioRouter.Lib.FileImage
import AudioRouter.Lib.Transition
import AudioRouter.Lib.ConditionVariable
import AudioRouter.JitterBuffer.Model
import AudioRouter.JitterBuffer.Window
import AudioRouter.JitterBuffer.Invariant
import AudioRouter.JitterBuffer.Level
import AudioRouter.JitterBuffer.WrapAround
import AudioRouter.Protocol
import AudioRouter.Protocol.Codec
import AudioRouter.Client.Receive
import AudioRouter.JitterBuffer.Rendering
import AudioRouter.JitterBuffer.Pending
import AudioRouter.JitterBuffer.Ledger
import AudioRouter.JitterBuffer.Conservation
import AudioRouter.Server.Model
import AudioRouter.Server.Sequence
import AudioRouter.Server.Watchdog
import AudioRouter.UsbTunnel.Model
import AudioRouter.UsbTunnel.Delivery
import AudioRouter.UsbTunnel.Stranded
import AudioRouter.UsbTunnel.EngineQueue
import AudioRouter.DeviceOpen.Model
import AudioRouter.DeviceOpen.Steps
import AudioRouter.DeviceOpen.Slot
import AudioRouter.DeviceOpen.Supervisor
import AudioRouter.Client.Model
import AudioRouter.Client.Playback
import AudioRouter.Client.Reconnect
import AudioRouter.Client.Renegotiation
import AudioRouter.Client.Handshake
import AudioRouter.Client.Lifecycle
import AudioRouter.Client.Stop
import AudioRouter.Client.StopReturns
import AudioRouter.Client.Goodbye
import AudioRouter.Lib.BoundedFifo
import AudioRouter.Lib.Circular
import AudioRouter.RingBuffer.Model
import AudioRouter.RingBuffer.Refinement
import AudioRouter.Server.AudioPackets
import AudioRouter.Server.EndpointControl
import AudioRouter.Server.Handlers
import AudioRouter.Server.Outsiders
import AudioRouter.Server.Packetizer
import AudioRouter.Server.Chunks
import AudioRouter.Server.WasapiCapture
import AudioRouter.Server.Session
import AudioRouter.UsbTunnel.Decoder
import AudioRouter.AaudioPlayer.Consumer
import AudioRouter.AaudioPlayer.Frames
import AudioRouter.Tools.StreamDaemon
import AudioRouter.AgmPlayer.Model
import AudioRouter.AgmPlayer.Recovery
import AudioRouter.DeviceOpen.Shutdown
import AudioRouter.JitterBuffer.Drain
import AudioRouter.JitterBuffer.Pacing
import AudioRouter.JitterBuffer.Prefill
import AudioRouter.Lib.LockOrder
import AudioRouter.Server.Locks
import AudioRouter.TermuxPlayer.Model
import AudioRouter.TermuxPlayer.Truncate
import AudioRouter.TermuxPlayer.Wav
import AudioRouter.TermuxPlayer.Rotation
import AudioRouter.TermuxPlayer.Threads
import AudioRouter.TermuxPlayer.Handoff
import AudioRouter.TermuxPlayer.Close
import AudioRouter.JitterBuffer.Aligned
import AudioRouter.JitterBuffer.Bookkeeping
import AudioRouter.JitterBuffer.Reconfigure
import AudioRouter.JitterBuffer.Reordering
import AudioRouter.JitterBuffer.Restart
import AudioRouter.JitterBuffer.Playhead
import AudioRouter.JitterBuffer.Timeline
import AudioRouter.JitterBuffer.Concealment
import AudioRouter.DirectAlsa.Model
import AudioRouter.DirectAlsa.NeverOpens
import AudioRouter.JitterBuffer.Accounting
import AudioRouter.PulsePlayer.BufferAttr
import AudioRouter.PulsePlayer.DeviceSpec
import AudioRouter.PulsePlayer.Stream
import AudioRouter.PulsePlayer.Connections
import AudioRouter.PulsePlayer.Reconnect
import AudioRouter.JitterBuffer.PlayheadBound
import AudioRouter.Pipeline.Playout
import AudioRouter.Pipeline.Model
import AudioRouter.Pipeline.Sender
import AudioRouter.Pipeline.Forward
import AudioRouter.Pipeline.Gapless
import AudioRouter.Server.Lifecycle
import AudioRouter.Server.SilentClient
import AudioRouter.Server.Stop
import AudioRouter.Server.StopReturns
