import Moqtail.Wire.Object
import Moqtail.Relay.Forwarding
import Moqtail.Relay.ForwardingSteps
import Moqtail.Lib.Monitor
import Moqtail.Relay.StreamIntegrity
import Moqtail.Relay.NoLoss
import Moqtail.Relay.SinglePublisher
import Moqtail.Relay.FetchServe
import Moqtail.Relay.FetchHonesty
import Moqtail.Relay.Subscribing
import Moqtail.Relay.Transitions
import Moqtail.Relay.UpstreamRelease
import Moqtail.Ssts.Membership
import Moqtail.Ssts.Representation
import Moqtail.Ssts.TrackNames
import Moqtail.Ssts.Controller
import Moqtail.Ssts.ControllerSteps
import Moqtail.Ssts.GateProgress
import Moqtail.Ssts.Finality
import Moqtail.Ssts.Streaks
import Moqtail.Ssts.StreamDepth
import Moqtail.Relay.SwitchCompletion
import Moqtail.Relay.StreamCount
import Moqtail.Lib.Incremental
import Moqtail.Wire.PartialReads
import Moqtail.Wire.PlainArithmetic
import Moqtail.Transport.RecvDataStream
import Moqtail.Wire.Tuple
import Moqtail.Wire.Filters
import Moqtail.Wire.MessageParameter
import Moqtail.Wire.ParameterRoundTrip
import Moqtail.Wire.TrackProperty
import Moqtail.Wire.ControlMessage
import Moqtail.Wire.ControlRoundTrip
import Moqtail.Transport.ControlStream
import Moqtail.Relay.PrefixSubscriptions
import Moqtail.Relay.PrefixRegistry
import Moqtail.Relay.Announcements
import Moqtail.Relay.NamespaceListing
import Moqtail.Lib.Agree
import Moqtail.Ts.ByteBuffer
import Moqtail.Ts.KeyValuePair
import Moqtail.Ts.FetchObject
import Moqtail.Ts.FetchWriting
import Moqtail.Ts.FetchAgreement
import Moqtail.Ts.SubgroupStream
import Moqtail.Ts.SubgroupReading
import Moqtail.Ts.Filters
import Moqtail.Ts.MessageParameter
import Moqtail.Ts.ParameterAgreement
import Moqtail.Ts.CombinedFilter
import Moqtail.Ts.FilterAgreement
import Moqtail.Ts.ControlMessage
import Moqtail.Ts.ControlStream
import Moqtail.Ts.Publication
import Moqtail.Ts.Delivery
import Moqtail.Lib.WaterFilling
import Moqtail.Ssts.Allocation
import Moqtail.Ssts.AllocationBudget
import Moqtail.Ssts.AllocationOrder
import Moqtail.Ssts.AllocationFilling
import Moqtail.Ssts.AllocationHeadroom
import Moqtail.Relay.SeenHistory
import Moqtail.Relay.SeenWords
import Moqtail.Relay.FetchAbsences
import Moqtail.Relay.FetchWalk
import Moqtail.Relay.FetchEnd
import Moqtail.Wire.FullTrackName
import Moqtail.Relay.TrackNameLimits
import Moqtail.Ts.PublishCleanup
import Moqtail.Ts.PublishLock
import Moqtail.Ts.PublishEnd
import Moqtail.Lib.Ranges
import Moqtail.Relay.AbsentRanges
import Moqtail.Relay.GroupCache
import Moqtail.Wire.LocationSelection
import Moqtail.Transport.StreamKind
import Moqtail.Ssts.TierTrace
import Moqtail.Wire.SubgroupObjectStream
import Moqtail.Wire.FilterMeaning
import Moqtail.Relay.TrackNarrowing
import Moqtail.Wire.Reservations
import Moqtail.Ts.VarintForms
import Moqtail.Relay.StreamPriority
import Moqtail.Lib.BinarySearch
import Moqtail.Ts.ObjectCache
import Moqtail.Transport.SubgroupIdentity
import Moqtail.Wire.RangeFilterCodec
import Moqtail.Wire.PropertyForwarding
import Moqtail.Wire.DatagramForms
import Moqtail.Wire.ParameterLists
import Moqtail.Lib.InPlace
import Moqtail.Transport.FetchPriorities
import Moqtail.Transport.ReadTask
import Moqtail.Lib.MarkedQueue
import Moqtail.Ts.BufferObject
import Moqtail.Ts.ByteQueue
import Moqtail.Relay.FilterChecks
import Moqtail.Relay.SubscriptionSettings
import Moqtail.Relay.FiltersInForce
import Moqtail.Ts.RecvStream
import Moqtail.Ts.StreamAgreement
import Moqtail.Ts.ReceivedObject
import Moqtail.Ts.ClientSubscription
import Moqtail.Ts.ClientDelivery
import Moqtail.Lib.Writing
import Moqtail.Ts.ControlWriting
import Moqtail.Ts.ControlAgreement
import Moqtail.Ts.Text
import Moqtail.Ts.ControlReading
