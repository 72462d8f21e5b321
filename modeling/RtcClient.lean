import RtcClient.Lib.Run
import RtcClient.Lib.Past
import RtcClient.Lib.Sessions
import RtcClient.Store.LiveData
import RtcClient.Engine.ConsumerHistory
import RtcClient.Engine.VideoCallbacks
import RtcClient.Engine.Processors
import RtcClient.Engine.DataConsumers
import RtcClient.Engine.TrackState
import RtcClient.Engine.ProducerAgreement
import RtcClient.System.MediaOrder
import RtcClient.System.Rejoin
import RtcClient.System.Teardown
import RtcClient.System.ReceiveReady
import RtcClient.System.Instances
import RtcClient.System.Requests
import RtcClient.Engine.CallLog
import RtcClient.System.RoomOrder
import RtcClient.Engine.LiveObjects
import RtcClient.System.Disposal
import RtcClient.Engine.StoreMirror
import RtcClient.Engine.Capture
import RtcClient.System.CameraFacing
import RtcClient.System.CameraFlag
import RtcClient.Native.Logger
import RtcClient.Store.Me
import RtcClient.Store.ConsumerStates
import RtcClient.Native.Handles
import RtcClient.Native.Jni
import RtcClient.System.FusionRooms
import RtcClient.Engine.CaptureConservation
import RtcClient.Engine.RemoteVideo
import RtcClient.Ortc.Validate
import RtcClient.Sdp.Handshake
