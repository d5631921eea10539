import TempestaTest.Method
import TempestaTest.Str
import TempestaTest.Deproxy.Client
import TempestaTest.Deproxy.Fragmentation
import TempestaTest.Deproxy.Requests
import TempestaTest.Deproxy.World
import TempestaTest.Tls.Handshake
import TempestaTest.Tls.Connection
import TempestaTest.Tls.Injection
import TempestaTest.Tls.Wire
import TempestaTest.Chunked
import TempestaTest.Sysnet
import TempestaTest.Inet
import TempestaTest.Interfaces
import TempestaTest.Ws.Stress
import TempestaTest.Template
