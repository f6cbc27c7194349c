import SocketMux.Address.Wrapped
import SocketMux.Error.Written
import SocketMux.Naming.Cache
import SocketMux.Session.Run
import SocketMux.Shutdown.Script
import SocketMux.Proofs.Authority.Conversations
import SocketMux.Proofs.Authority.Remote
import SocketMux.Proofs.Lifecycle.Registries
import SocketMux.Proofs.Lifecycle.SharedDirectory
import SocketMux.Proofs.Lifecycle.FactoryClose
import SocketMux.Proofs.Lifecycle.Contacts
import SocketMux.Proofs.Lifecycle.PeerRegistry
import SocketMux.Proofs.Lifecycle.Peers
import SocketMux.Proofs.Lifecycle.FactoryListeners
import SocketMux.Proofs.Lifecycle.Authorities
import SocketMux.Proofs.Lifecycle.CloseOrder
import SocketMux.Proofs.Cluster.Uri
import SocketMux.Proofs.Shutdown.Visits
import SocketMux.Proofs.Lifecycle.Handles
import SocketMux.Proofs.Lifecycle.OwnAuthority
import SocketMux.Proofs.Address.Wrapped
import SocketMux.Proofs.Local.Authority
import SocketMux.Proofs.Record
import SocketMux.Proofs.Pool.Usage
import SocketMux.Proofs.Factory.Restored
import SocketMux.Proofs.Lifecycle.Accepts
import SocketMux.Proofs.Record.Delimited
import SocketMux.Proofs.Authority.Replies
import SocketMux.Proofs.Lifecycle.FailedCreation
import SocketMux.Proofs.Lifecycle.DroppedListener
import SocketMux.Proofs.Naming.Cache
import SocketMux.Proofs.Cluster.Address
import SocketMux.Proofs.Address.Registry
import SocketMux.Proofs.Text.Percent.Turns
import SocketMux.Proofs.Lifecycle.Turns
import SocketMux.Proofs.Lifecycle.Calls
