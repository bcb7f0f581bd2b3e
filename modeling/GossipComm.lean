import GossipComm.Message
import GossipComm.Handshake
import GossipComm.Exchange
import GossipComm.Dial
import GossipComm.World
import GossipComm.Shutdown
import GossipComm.Store
import GossipComm.Lifecycle
import GossipComm.Dedup
import GossipComm.Instance
