import ItchFeedHandler.Common.Endian
import ItchFeedHandler.Common.Types
import ItchFeedHandler.Spsc.RingBuffer
import ItchFeedHandler.Spsc.Concurrent
import ItchFeedHandler.Spsc.Batch
import ItchFeedHandler.MoldUdp64.Header
import ItchFeedHandler.MoldUdp64.Session
import ItchFeedHandler.MoldUdp64.Invariants
import ItchFeedHandler.MoldUdp64.Delivery
import ItchFeedHandler.MoldUdp64.Recovery
import ItchFeedHandler.MoldUdp64.GapFill
import ItchFeedHandler.MoldUdp64.Framing
import ItchFeedHandler.MoldUdp64.Format
import ItchFeedHandler.MoldUdp64.Isolation
import ItchFeedHandler.MoldUdp64.Statistics
import ItchFeedHandler.Itch.Messages
import ItchFeedHandler.Itch.Parser
import ItchFeedHandler.Dpdk.Config
import ItchFeedHandler.Dpdk.PacketHandler
import ItchFeedHandler.Dpdk.Normalization
import ItchFeedHandler.Dpdk.FileReplay
import ItchFeedHandler.Dpdk.Bounds
import ItchFeedHandler.Dpdk.Pipeline
import ItchFeedHandler.Dpdk.Stream
import ItchFeedHandler.Dpdk.Isolation
import ItchFeedHandler.App.FeedHandler
