import Netbase.Bytes
import Netbase.Address
import Netbase.Service
import Netbase.HostPort
import Netbase.TimeData
import Netbase.Socket
import Netbase.Connect
import Netbase.Special
import Netbase.Proofs.Groups
import Netbase.Proofs.Ordering
import Netbase.Proofs.SockAddrRoundTrip
import Netbase.Proofs.HostPortFormat
import Netbase.Proofs.TimeOffset
import Netbase.Proofs.TimeSamples
import Netbase.Proofs.NetLogic
import Netbase.Proofs.ConnectSpec
import Netbase.Proofs.Socks5Reply
import Netbase.Proofs.ConnectRuns
import Netbase.Proofs.SocketLifecycle
import Netbase.Proofs.Routing
import Netbase.Proofs.Reachability
import Netbase.Proofs.Base32
import Netbase.Proofs.Setters
import Netbase.Proofs.ProxyRegistry
import Netbase.Proofs.Lookup
import Netbase.Proofs.Names
