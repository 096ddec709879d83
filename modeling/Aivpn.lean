import Aivpn.Admin.ClientRows
import Aivpn.Admin.PanelAgreement
import Aivpn.Admin.PanelClients
import Aivpn.Admin.TrafficCollector
import Aivpn.Client.Acceptance
import Aivpn.Client.ActiveSession
import Aivpn.Client.AivpnClient
import Aivpn.Client.AivpnCrypto
import Aivpn.Client.AndroidTls
import Aivpn.Client.AndroidTunnel
import Aivpn.Client.Blake3
import Aivpn.Client.Delivery
import Aivpn.Client.Forgery
import Aivpn.Client.KeyChain
import Aivpn.Client.KeyStorage
import Aivpn.Client.KeychainStorage
import Aivpn.Client.KotlinReceive
import Aivpn.Client.MaskUpdates
import Aivpn.Client.Mimicry
import Aivpn.Client.MimicryFsm
import Aivpn.Client.ReceiveSteps
import Aivpn.Client.SendOrder
import Aivpn.Client.SentPackets
import Aivpn.Client.ServerAddr
import Aivpn.Client.ShadeVpnCrypto
import Aivpn.Client.UploadPipeline
import Aivpn.Client.X25519
import Aivpn.Common.ClientWire
import Aivpn.Common.ControlCodec
import Aivpn.Common.Crypto
import Aivpn.Common.DeliverySpec
import Aivpn.Common.Mask
import Aivpn.Common.PacketCodecs
import Aivpn.Common.Protocol
import Aivpn.Common.RecvWindow
import Aivpn.Common.Rfc7748
import Aivpn.Common.Transport
import Aivpn.Lib.Action
import Aivpn.Lib.BitStrings
import Aivpn.Lib.Bytes
import Aivpn.Lib.Fields
import Aivpn.Lib.FixedWindow
import Aivpn.Lib.Framing
import Aivpn.Lib.Index
import Aivpn.Lib.JsonText
import Aivpn.Lib.KeyLine
import Aivpn.Lib.Numerals
import Aivpn.Lib.OnesComplement
import Aivpn.Lib.PaddedText
import Aivpn.Lib.Pratt
import Aivpn.Lib.Runs
import Aivpn.Lib.SignedWords
import Aivpn.Lib.SlidingWindow
import Aivpn.Lib.Text
import Aivpn.Lib.UnpaddedText
import Aivpn.Lib.Usize
import Aivpn.Lib.WideBits
import Aivpn.Server.Accounting
import Aivpn.Server.AuthFailure
import Aivpn.Server.Bridge
import Aivpn.Server.ClientDb
import Aivpn.Server.ClientDbRuns
import Aivpn.Server.ClientDbUpdates
import Aivpn.Server.ClientDbWriters
import Aivpn.Server.ClientIsolation
import Aivpn.Server.ClientTable
import Aivpn.Server.ConcurrentHandshakes
import Aivpn.Server.ConnectionAddr
import Aivpn.Server.Dispatch
import Aivpn.Server.Downstream
import Aivpn.Server.Evolution
import Aivpn.Server.Gateway
import Aivpn.Server.IcmpReply
import Aivpn.Server.KeyAgreement
import Aivpn.Server.LateInit
import Aivpn.Server.Ledger
import Aivpn.Server.LegacyMode
import Aivpn.Server.Linearization
import Aivpn.Server.Lookup
import Aivpn.Server.LookupComplete
import Aivpn.Server.MaskCatalog
import Aivpn.Server.Monitoring
import Aivpn.Server.NonceReuse
import Aivpn.Server.PassiveDistribution
import Aivpn.Server.RatchetSafety
import Aivpn.Server.RateLimit
import Aivpn.Server.ReceiveState
import Aivpn.Server.Reconnect
import Aivpn.Server.Recovery
import Aivpn.Server.ReplayWindow
import Aivpn.Server.ReturnTraffic
import Aivpn.Server.Revocation
import Aivpn.Server.RoundTrip
import Aivpn.Server.Routing
import Aivpn.Server.Session
import Aivpn.Server.SessionLife
import Aivpn.Server.SessionLimits
import Aivpn.Server.SessionManager
import Aivpn.Server.SessionMap
import Aivpn.Server.Stages
import Aivpn.Server.TagCache
import Aivpn.Server.TagFreshness
import Aivpn.Server.TagIndex
import Aivpn.Server.TagMap
import Aivpn.Server.WorkerSteps
import Aivpn.Server.Workers
import Aivpn.Tunnel.Agreement
import Aivpn.Tunnel.AndroidClients
import Aivpn.Tunnel.ConnectionKeys
import Aivpn.Tunnel.DatagramSize
import Aivpn.Tunnel.Handshake
import Aivpn.Tunnel.Network
import Aivpn.Tunnel.Origin
import Aivpn.Tunnel.ServerOrigin
import Aivpn.Tunnel.SharedNonces
import Aivpn.Tunnel.Subscriptions
