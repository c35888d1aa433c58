import HandsetAudio.Main
import HandsetAudio.Pcm.ScriptedCard
import HandsetAudio.Handles.Call
import HandsetAudio.Proofs.DeviceSet
import HandsetAudio.Proofs.Logs
import HandsetAudio.Proofs.Mixer.Slots
import HandsetAudio.Proofs.Mixer.Pass
import HandsetAudio.Proofs.Mixer.Calls
import HandsetAudio.Proofs.Mixer.Trace
import HandsetAudio.Proofs.Mixer.Values
import HandsetAudio.Proofs.Mixer.RunLaw
import HandsetAudio.Proofs.Mixer.Tables
import HandsetAudio.Proofs.Mixer.Codec
import HandsetAudio.Proofs.Mixer.Kept
import HandsetAudio.Proofs.Mixer.Moments
import HandsetAudio.Proofs.Device.Lines
import HandsetAudio.Proofs.Device.Effects
import HandsetAudio.Proofs.Device.Routes
import HandsetAudio.Proofs.Device.Steps
import HandsetAudio.Proofs.Device.Outcomes
import HandsetAudio.Proofs.Device.Runs
import HandsetAudio.Proofs.Device.Paths
import HandsetAudio.Proofs.Modem.Requests
import HandsetAudio.Proofs.Device.Turns
import HandsetAudio.Proofs.Device.CallPath
import HandsetAudio.Proofs.Device.Conversation
import HandsetAudio.Proofs.Pcm.Ledger
import HandsetAudio.Proofs.Pcm.Loop
import HandsetAudio.Proofs.Pcm.SoftCard
import HandsetAudio.Proofs.Pcm.ScriptedCard
import HandsetAudio.Proofs.Device.Ownership
import HandsetAudio.Proofs.Device.Substreams
import HandsetAudio.Proofs.Device.CallEntry
import HandsetAudio.Proofs.Device.StreamsInCall
import HandsetAudio.Proofs.Device.Power
import HandsetAudio.Proofs.Device.Downlink
import HandsetAudio.Proofs.Device.CallVolume
import HandsetAudio.Proofs.Arithmetic.Rounding
import HandsetAudio.Proofs.Resampler
import HandsetAudio.Proofs.Pcm.Reads
import HandsetAudio.Proofs.Device.Periphery
import HandsetAudio.Proofs.Device.Containment
import HandsetAudio.Proofs.Device.Captures
import HandsetAudio.Proofs.Device.Mute
import HandsetAudio.Proofs.Mixer.Independence
import HandsetAudio.Proofs.Mixer.Repetition
import HandsetAudio.Proofs.Mixer.Interleaving
import HandsetAudio.Proofs.Mixer.Isolation
import HandsetAudio.Proofs.Mixer.Treatment
import HandsetAudio.Proofs.Mixer.Surroundings
import HandsetAudio.Proofs.Mixer.Lookups
import HandsetAudio.Proofs.Pcm.Directions
import HandsetAudio.Proofs.Device.Halves
import HandsetAudio.Proofs.Device.Transfers
import HandsetAudio.Proofs.Pcm.Ring
import HandsetAudio.Proofs.Pcm.Queues
import HandsetAudio.Proofs.Pcm.TransferLaw
import HandsetAudio.Proofs.Device.SplitReads
import HandsetAudio.Proofs.Device.FailedTransfers
import HandsetAudio.Proofs.Device.RoutingFacts
import HandsetAudio.Proofs.Text.Integer
import HandsetAudio.Proofs.Params
import HandsetAudio.Proofs.Device.RoutingParameters
import HandsetAudio.Proofs.Pcm.Watched
import HandsetAudio.Proofs.Pcm.LoopCalls
import HandsetAudio.Proofs.Device.Occupancy
import HandsetAudio.Proofs.Pcm.Bookkeeping
import HandsetAudio.Proofs.Handles.CurrentDevice
import HandsetAudio.Proofs.Handles.Refusals
import HandsetAudio.Proofs.Mixer.Journal
import HandsetAudio.Proofs.Resampler.Walk
import HandsetAudio.Proofs.Resampler.Channels
import HandsetAudio.Proofs.Resampler.Decimation
