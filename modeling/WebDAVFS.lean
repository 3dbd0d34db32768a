import WebDAVFS.Basic
import WebDAVFS.SSL
import WebDAVFS.Certificate
import WebDAVFS.StreamError
import WebDAVFS.Body
import WebDAVFS.Transaction
import WebDAVFS.Download
import WebDAVFS.AuthLoop
import WebDAVFS.HttpDate
import WebDAVFS.Open
import WebDAVFS.CacheIntegrity
import WebDAVFS.LoopCopies
import WebDAVFS.Read
import WebDAVFS.SlotPool
import WebDAVFS.Proxy
import WebDAVFS.Operations
import WebDAVFS.Server
import WebDAVFS.Protocol
import WebDAVFS.Lexer
import WebDAVFS.DavLevel
import WebDAVFS.MountOptions
import WebDAVFS.UrlBuilder
import WebDAVFS.Init
import WebDAVFS.ProxyLock
import WebDAVFS.RoundTrip
