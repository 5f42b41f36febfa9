import Rtcom.Lib.Access
import Rtcom.Lib.Runs
import Rtcom.Lib.Locks
import Rtcom.Common.Types
import Rtcom.Common.SdpRoundTrip
import Rtcom.Rtp.Packet
import Rtcom.Rtp.Aac
import Rtcom.Rtp.RtcpCompound
import Rtcom.Rtp.JitterExtract
import Rtcom.Rtp.Sending
import Rtcom.Rtp.Received
import Rtcom.Rtp.JitterReset
import Rtcom.Rtp.JitterSequence
import Rtcom.Sip.Timers
import Rtcom.Net.ThreadPool
import Rtcom.Session.Manager
import Rtcom.Session.Duplicates
import Rtcom.Session.Reports
import Rtcom.Session.Retransmit
import Rtcom.Session.LockOrder
import Rtcom.Session.Shutdown
import Rtcom.Session.Reception
import Rtcom.Session.Backlog
import Rtcom.Session.OctetCount
import Rtcom.Session.Ports
import Rtcom.Sip.SdpScope
import Rtcom.Server.RemoteInfo
import Rtcom.Server.Answers
import Rtcom.Server.Dispatch
import Rtcom.Server.Dialog
import Rtcom.Rtp.RtcpBuilt
import Rtcom.Net.Wakeup
import Rtcom.Net.WaitAll
import Rtcom.Session.Observer
import Rtcom.Common.Config
import Rtcom.Media.Planes
import Rtcom.Net.IoMultiplexer
import Rtcom.Net.NextTimeout
import Rtcom.Session.RtcpTimer
import Rtcom.Media.Encoder
import Rtcom.Media.Decoder
import Rtcom.Session.AudioClock
import Rtcom.Session.VideoLoss
import Rtcom.Sip.CSeq
import Rtcom.Server.CallIds
import Rtcom.Common.ConfigNumbers
import Rtcom.Sip.LiveIterators
import Rtcom.Lib.Network
import Rtcom.Server.Storm
import Rtcom.Session.MediaNetwork
import Rtcom.Lib.Handles
import Rtcom.Session.Descriptors
import Rtcom.Server.Silence
import Rtcom.Net.UdpSocket
import Rtcom.Media.Codecs
import Rtcom.Media.AudioFrames
import Rtcom.Media.Capture
import Rtcom.Sip.CallMachine
import Rtcom.Net.Progress
import Rtcom.Rtp.JitterTies
import Rtcom.Server.Requested
import Rtcom.Common.ConfigReload
import Rtcom.Session.Sections
