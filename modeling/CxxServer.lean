import CxxServer.Basic
import CxxServer.Tcp.SendBuffs
import CxxServer.Tcp.RecvBuff
import CxxServer.Tcp.Session
import CxxServer.Tcp.SessionRun
import CxxServer.Tcp.SessionOps
import CxxServer.Tcp.Client
import CxxServer.Tcp.ClientLifecycle
import CxxServer.Tcp.ClientInv
import CxxServer.Tcp.Server
import CxxServer.Tcp.Registry
import CxxServer.Tcp.Restart
import CxxServer.Tcp.Multicast
import CxxServer.Tcp.ServerCallbacks
import CxxServer.Tcp.ServerStop
import CxxServer.Tcp.SessionView
import CxxServer.Ssl.Session
import CxxServer.Service
import CxxServer.Utils.FastItoa
import CxxServer.Utils.CacheView
import CxxServer.HandlerMemory
