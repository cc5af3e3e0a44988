import Juicity.Common.Address
import Juicity.Common.AddressAgreement
import Juicity.Common.AddressCodec
import Juicity.Common.AuthWrite
import Juicity.Common.Bytes
import Juicity.Common.CachedAddr
import Juicity.Common.ConfigFile
import Juicity.Common.Consts
import Juicity.Common.Crypto
import Juicity.Common.HostPort
import Juicity.Common.IpText
import Juicity.Common.LinkText
import Juicity.Common.LossyText
import Juicity.Common.Protocol
import Juicity.Common.ShareLink
import Juicity.Common.SocketAddrText
import Juicity.Common.Text
import Juicity.Common.UnderlayAuth
import Juicity.Common.UnderlayCipher
import Juicity.Common.UrlCrate
import Juicity.Machine.Arrival
import Juicity.Machine.Base64
import Juicity.Machine.Bezier
import Juicity.Machine.BufRead
import Juicity.Machine.Collect
import Juicity.Machine.Compaction
import Juicity.Machine.Escape
import Juicity.Machine.FairMutex
import Juicity.Machine.Fields
import Juicity.Machine.Form
import Juicity.Machine.Framing
import Juicity.Machine.Gate
import Juicity.Machine.Hex
import Juicity.Machine.IndexMap
import Juicity.Machine.Labels
import Juicity.Machine.Message
import Juicity.Machine.Notify
import Juicity.Machine.Numeral
import Juicity.Machine.Potential
import Juicity.Machine.Published
import Juicity.Machine.Routing
import Juicity.Machine.Run
import Juicity.Machine.Spacing
import Juicity.Machine.Stamped
import Juicity.Machine.Table
import Juicity.Machine.TableCode
import Juicity.Machine.Tasks
import Juicity.Machine.Url
import Juicity.Machine.Widths
import Juicity.Machine.Window
import Juicity.Client.AcceptLoop
import Juicity.Client.AuthStream.Model
import Juicity.Client.AuthStream.Ready
import Juicity.Client.CertPin
import Juicity.Client.HttpProxy.Head
import Juicity.Client.HttpProxy.Rewrite
import Juicity.Client.HttpProxy.Target
import Juicity.Client.Reconnect.Flight
import Juicity.Client.Reconnect.Freshness
import Juicity.Client.Reconnect.Invariant
import Juicity.Client.Reconnect.Model
import Juicity.Client.Reconnect.Pace
import Juicity.Client.Reconnect.Steps
import Juicity.Client.ServerAddr
import Juicity.Client.Socks5Connect.Answer
import Juicity.Client.Socks5Connect.Handshake
import Juicity.Client.Socks5Connect.Transparent
import Juicity.Client.Socks5Connect.Tunnel
import Juicity.Client.Socks5Reply
import Juicity.Client.Socks5Udp
import Juicity.Client.UdpSessions.Datagrams
import Juicity.Client.UdpSessions.Markers
import Juicity.Client.UdpSessions.Model
import Juicity.Client.UdpSessions.OneStream
import Juicity.Client.UdpSessions.Removal
import Juicity.Client.UdpSessions.Steps
import Juicity.Client.UdpSessions.Windows
import Juicity.Client.UdpStream
import Juicity.Gui.Autostart
import Juicity.Gui.Chart
import Juicity.Gui.Coding
import Juicity.Gui.Config
import Juicity.Gui.ConfigWatch
import Juicity.Gui.Controller.Clean
import Juicity.Gui.Controller.Converge
import Juicity.Gui.Controller.CorePerform
import Juicity.Gui.Controller.CoreSteps
import Juicity.Gui.Controller.Draft
import Juicity.Gui.Controller.EditFrame
import Juicity.Gui.Controller.Editor
import Juicity.Gui.Controller.Frames
import Juicity.Gui.Controller.Identity
import Juicity.Gui.Controller.Indices
import Juicity.Gui.Controller.Known
import Juicity.Gui.Controller.LastState
import Juicity.Gui.Controller.ListEdit
import Juicity.Gui.Controller.Model
import Juicity.Gui.Controller.NodeEvents
import Juicity.Gui.Controller.NodeSteps
import Juicity.Gui.Controller.Nodes
import Juicity.Gui.Controller.PacUrl
import Juicity.Gui.Controller.Persist
import Juicity.Gui.Controller.Proxy
import Juicity.Gui.Controller.Recall
import Juicity.Gui.Controller.Reload
import Juicity.Gui.Controller.Running
import Juicity.Gui.Controller.Save
import Juicity.Gui.Controller.Settings
import Juicity.Gui.Controller.Sheet
import Juicity.Gui.Controller.Sides
import Juicity.Gui.Controller.Steps
import Juicity.Gui.Controller.Unsaved
import Juicity.Gui.Controller.Writes
import Juicity.Gui.CoreManager.Model
import Juicity.Gui.CoreManager.Supervision
import Juicity.Gui.CoreManager.Traffic
import Juicity.Gui.Link
import Juicity.Gui.LinkCompatibility
import Juicity.Gui.LinkImport
import Juicity.Gui.LinkRoundTrip
import Juicity.Gui.LogBuffer
import Juicity.Gui.Logging
import Juicity.Gui.LogsPage
import Juicity.Gui.NodeAddress
import Juicity.Gui.Pac
import Juicity.Gui.PacObject
import Juicity.Gui.PacRouting
import Juicity.Gui.PacServe.Answers
import Juicity.Gui.PacServe.Model
import Juicity.Gui.PacServe.Order
import Juicity.Gui.PacServe.Requests
import Juicity.Gui.PacServe.Stop
import Juicity.Gui.RuleFiles
import Juicity.Gui.Script
import Juicity.Gui.ScriptLiterals
import Juicity.Gui.State
import Juicity.Gui.SystemProxy
import Juicity.Gui.Traffic
import Juicity.Gui.Util
import Juicity.Server.AcceptLoop.Model
import Juicity.Server.AcceptLoop.Returning
import Juicity.Server.AcceptLoop.Serving
import Juicity.Server.CertReload
import Juicity.Server.Connection.Admission
import Juicity.Server.Connection.Honest
import Juicity.Server.Connection.Model
import Juicity.Server.Dialer
import Juicity.Server.DnsFlight.Eviction
import Juicity.Server.DnsFlight.Flight
import Juicity.Server.DnsFlight.Model
import Juicity.Server.DnsFlight.Steps
import Juicity.Server.DnsFlight.Tables
import Juicity.Server.Export
import Juicity.Server.Inflight.Consumption
import Juicity.Server.Inflight.Delivery
import Juicity.Server.Inflight.Model
import Juicity.Server.Inflight.Waiters
import Juicity.Server.Shutdown
import Juicity.Server.TcpRelay
import Juicity.Server.TcpWatchdog
import Juicity.Server.Udp
import Juicity.Server.Udp443
import Juicity.Server.UdpPool.Model
import Juicity.Server.UdpPool.Wakeups
import Juicity.Server.UdpRelay.Accepted
import Juicity.Server.UdpRelay.Delivered
import Juicity.Server.UdpRelay.Downlink
import Juicity.Server.UdpRelay.EndToEnd
import Juicity.Server.UdpRelay.Freshness
import Juicity.Server.UdpRelay.Lookups
import Juicity.Server.UdpRelay.Model
import Juicity.Server.UdpRelay.Names
import Juicity.Server.UdpRelay.Uplink
import Juicity.Server.Underlay.Answering
import Juicity.Server.Underlay.Endpoints
import Juicity.Server.Underlay.Model
import Juicity.Server.Underlay.Ports
import Juicity.Server.Underlay.Replies
import Juicity.Server.Underlay.Steps
import Juicity.Server.Underlay.Targets
import Juicity.Server.Underlay.Uplink
import Juicity.Server.UnderlaySocket.Model
import Juicity.Server.UnderlaySocket.Parking
import Juicity.Server.UnderlaySocket.Routing
import Juicity.Server.Users
import Juicity.Gui.Window.Snapshots
