import Ddht.Enr
import Ddht.Kademlia
import Ddht.Network.Basic
import Ddht.Network.Bond
import Ddht.Network.Serve
import Ddht.Lookup.Machine
import Ddht.Lookup.Safety
import Ddht.Lookup.Delivery
import Ddht.Lookup.Stored
import Ddht.Lookup.Progress
import Ddht.Lookup.Stall
import Ddht.Node.Step
import Ddht.Node.Records
import Ddht.Alexandria.Messages
import Ddht.V5.Tags
import Ddht.Network.Peer
import Ddht.Network.Manage
import Ddht.Lookup.Select
import Ddht.App
import Ddht.Network.Talk
import Ddht.Alexandria.Provider
import Ddht.Node.Evict
import Ddht.Node.Liveness
