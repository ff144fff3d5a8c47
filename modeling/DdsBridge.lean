import DdsBridge.Lib.Prog
import DdsBridge.Lib.Codec
import DdsBridge.Lib.Md5
import DdsBridge.Lib.Table
import DdsBridge.Lib.Runs
import DdsBridge.Lib.Prefer
import DdsBridge.Lib.Defaults
import DdsBridge.Wire
import DdsBridge.Qos
import DdsBridge.Payload
import DdsBridge.Frame
import DdsBridge.QosWire
import DdsBridge.RoundTrip
import DdsBridge.QosHandle
import DdsBridge.Hash
import DdsBridge.Sertype
import DdsBridge.Md5Digest
import DdsBridge.Fragments
import DdsBridge.SerdataKeys
import DdsBridge.Participant
import DdsBridge.Readers
import DdsBridge.Writers
import DdsBridge.ReaderInvariant
import DdsBridge.ReaderLeave
import DdsBridge.ReaderRuns
import DdsBridge.QosSharing
import DdsBridge.QosNormal
import DdsBridge.QosValues
import DdsBridge.QosEffect
import DdsBridge.Bridge
import DdsBridge.Respond
import DdsBridge.NoPanic
import DdsBridge.Delivery
import DdsBridge.Teardown
import DdsBridge.GoClient
import DdsBridge.Canonical
import DdsBridge.GoCodec
import DdsBridge.GoAgree
import DdsBridge.LongLists
import DdsBridge.Poll
import DdsBridge.ErrorTexts
import DdsBridge.ReaderFrame
import DdsBridge.Emits
import DdsBridge.WriterInvariant
import DdsBridge.Isolation
import DdsBridge.GoSubscriptions
import DdsBridge.Reports
import DdsBridge.Notices
import DdsBridge.Offers
import DdsBridge.Backpressure
import DdsBridge.Subscriptions
import DdsBridge.AfterUnsubscribe
import DdsBridge.DisposeOrder
import DdsBridge.GoConn
import DdsBridge.GoReconnect
import DdsBridge.SampleStates
import DdsBridge.WriterIds
import DdsBridge.WriteRequests
import DdsBridge.DisposeNotices
import DdsBridge.ImplicitWriters
import DdsBridge.FailedRequests
import DdsBridge.FanOut
import DdsBridge.KeyhashRoundTrip
import DdsBridge.KeyRanges
import DdsBridge.GoDelivery
import DdsBridge.GoChannels
import DdsBridge.GoLive
import DdsBridge.GoBuffer
import DdsBridge.AcceptLoop
import DdsBridge.LoopWaits
import DdsBridge.Lib.Interleave
import DdsBridge.Lib.Traced
import DdsBridge.SessionOutput
import DdsBridge.DdsCalls
import DdsBridge.DdsLedger
import DdsBridge.DdsSends
import DdsBridge.Leftovers
import DdsBridge.Lib.Heap
import DdsBridge.SerdataMemory
import DdsBridge.SerdataOwners
import DdsBridge.SerdataRuns
import DdsBridge.TakeMemory
import DdsBridge.Service
import DdsBridge.RemoteCalls
import DdsBridge.PayloadPath
import DdsBridge.GoLifecycle
import DdsBridge.EndToEnd
import DdsBridge.Host
