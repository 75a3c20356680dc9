import XousNet.Wire.Bytes
import XousNet.Wire.Addr
import XousNet.Ipc.Message
import XousNet.Stream.Model
import XousNet.Listener.Model
import XousNet.Codec.Layout
import XousNet.Stream.Lend
import XousNet.Stream.Timeout
import XousNet.Stream.Lifecycle
import XousNet.Protocol.Requests
import XousNet.Listener.Aliases
import XousNet.Listener.Lifetime
import XousNet.Sys.Path
