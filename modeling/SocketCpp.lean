import SocketCpp.Data.Arithmetic
import SocketCpp.Data.Buffer
import SocketCpp.Data.CallLoop
import SocketCpp.Data.History
import SocketCpp.Data.Ledger
import SocketCpp.Data.Pool
import SocketCpp.Data.Runs
import SocketCpp.System.Trace
import SocketCpp.System.Frame
import SocketCpp.ASocket
import SocketCpp.SecureSocket
import SocketCpp.Transfer.Loops
import SocketCpp.SecureSocket.Objects
import SocketCpp.TCPClient
import SocketCpp.TCPServer
import SocketCpp.TCPSSLClient
import SocketCpp.Transfer.Peer
import SocketCpp.Transfer.Accounting
import SocketCpp.Transfer.Stopping
import SocketCpp.Transfer.Exactness
import SocketCpp.Transfer.SecurePeer
import SocketCpp.Transfer.Ending
import SocketCpp.Transfer.Delivery
import SocketCpp.Transfer.Wire
import SocketCpp.Transfer.Stream
import SocketCpp.TCPClient.Connecting
import SocketCpp.TCPClient.FirstAddress
import SocketCpp.TCPClient.Descriptor
import SocketCpp.TCPClient.Balance
import SocketCpp.TCPSSLServer
import SocketCpp.Timeouts
import SocketCpp.TCPServer.Address
import SocketCpp.TCPServer.Listening
import SocketCpp.TCPSSLServer.Accepting
import SocketCpp.TCPSSLServer.Releasing
import SocketCpp.TCPSSLServer.Pool
import SocketCpp.TCPSSLServer.Objects
import SocketCpp.TCPSSLServer.Connections
import SocketCpp.TCPSSLClient.Connecting
import SocketCpp.TCPSSLClient.Verification
import SocketCpp.TCPSSLClient.Session
import SocketCpp.TCPSSLClient.Objects
import SocketCpp.TCPSSLClient.Leaks
import SocketCpp.TCPSSLClient.Closing
import SocketCpp.Windows.Trace
import SocketCpp.Windows.Loops
import SocketCpp.Windows.TCPClient
import SocketCpp.Windows.TCPClient.Balance
import SocketCpp.Windows.TCPServer
import SocketCpp.Windows.TCPServer.AddressInfo
import SocketCpp.Windows.Retry
import SocketCpp.Transfer.SecureAccounting
import SocketCpp.Transfer.Bounds
import SocketCpp.Transfer.SecureWindow
import SocketCpp.ASocket.Selecting
import SocketCpp.TCPServer.DescriptorSets
import SocketCpp.TCPServer.Port
import SocketCpp.Data.Link
import SocketCpp.Data.Sharing
import SocketCpp.System.Descriptors
import SocketCpp.Transfer.Conversation
import SocketCpp.Transfer.Conversation.Faithful
import SocketCpp.Transfer.Conversation.Dialogue
import SocketCpp.Process.Clients
import SocketCpp.Process.Servers
import SocketCpp.Process
import SocketCpp.TCPSSLServer.Losses
import SocketCpp.System.Erasure
import SocketCpp.Logging.Plain
import SocketCpp.Logging.Secure
import SocketCpp.Logging
import SocketCpp.Layering
import SocketCpp.SecureSocket.Configuration
import SocketCpp.SecureSocket.Handshakes
import SocketCpp.Windows.Agreement
import SocketCpp.TCPClient.Restart
import SocketCpp.TCPSSLServer.Routing
import SocketCpp.TCPSSLServer.Closing
import SocketCpp.Windows.TCPServer.Serving
