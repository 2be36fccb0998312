import ReverseProxy.H1ProxyServer.Pipeline.ReaderSync
import ReverseProxy.AccessControl.EndpointIpList
import ReverseProxy.HttpProxyPass.SharedIdentity
import ReverseProxy.OAuth.DiscoveryCompleteness
import ReverseProxy.OAuth.BlockIsolation
import ReverseProxy.OAuth.CodeHistory
import ReverseProxy.OAuth.ResponseSplitting
import ReverseProxy.TcpGateway.SizeLimits
import ReverseProxy.TcpGateway.ForwardedStream
import ReverseProxy.TcpGateway.GatewayInner
import ReverseProxy.TcpGateway.IdSpaces
import ReverseProxy.UpstreamPools.H1PoolCaps
import ReverseProxy.UpstreamPools.SelectionScans
import ReverseProxy.UpstreamPools.Decommission
import ReverseProxy.UpstreamPools.EntryClients
import ReverseProxy.UpstreamPools.LocationPools
import ReverseProxy.Flows.ReloadOrder
import ReverseProxy.Flows.UpdateHostConfiguration
import ReverseProxy.App.FailureBursts
import ReverseProxy.App.WhiteListTexts
import ReverseProxy.Scripts.DeleteHttpEndpoint
import ReverseProxy.H1ProxyServer.Pipeline.HeadLocality
import ReverseProxy.H1ProxyServer.ChunkedBodies
import ReverseProxy.H1ProxyServer.Pipeline.WorkerEvents
import ReverseProxy.H1ProxyServer.HeadRewriting
import ReverseProxy.H1ProxyServer.Pipeline.HostReaders
import ReverseProxy.HttpProxyPass.ForwardedFor
import ReverseProxy.HttpProxyPass.CountryHeader
import ReverseProxy.HttpProxyPass.CompressedRequests
import ReverseProxy.H1RemoteConnection.UpstreamReuse
import ReverseProxy.AccessControl.LocationAgreement
import ReverseProxy.OAuth.TextForms
import ReverseProxy.HttpContentSource.FileAgreement
import ReverseProxy.TcpGateway.FrameDecoding
import ReverseProxy.TcpGateway.Handshake
import ReverseProxy.Ssl.CertificateSync
import ReverseProxy.TcpGateway.ConnectionEnds
import ReverseProxy.IpDb
import ReverseProxy.TcpUtils.CopyStreams
