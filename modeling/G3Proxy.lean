import G3Proxy.Io.Stats
import G3Proxy.Io.Stream
import G3Proxy.Io.Tunnel
import G3Proxy.Http.Connect
import G3Proxy.Escape.Common
import G3Proxy.Escape.ProxyHttp
import G3Proxy.Escape.ProxyFloat
import G3Proxy.Stat.Statsd
import G3Proxy.Stat.Server
import G3Proxy.Stat.Fields
import G3Proxy.Stat.Registry
import G3Proxy.Stat.EarlyExit
import G3Proxy.Stat.Listen
import G3Proxy.Config.PlainQuicPort
import G3Proxy.Config.LogConfig
import G3Proxy.Config.UnaidedRuntime
import G3Proxy.Config.GeoIp
