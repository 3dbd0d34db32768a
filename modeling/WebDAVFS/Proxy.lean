import WebDAVFS.Basic

/-!
# The proxy snapshot and `network_update_proxy` (webdav_network.c:411–506)

On every change of the system's proxy settings `network_update_proxy` rewrites, under
`gNetworkGlobals_lock`, the six globals that `network_get_proxy_settings` hands out: for HTTP
and for HTTPS whether a proxy is enabled, its host and its port. It first resets all six
("slam everything to default disabled state in case something fails"), then, for each scheme,
reads the `Enable`, `Proxy` and `Port` entries of the dictionary `SCDynamicStoreCopyProxies`
returns and records them only when each conversion succeeds. The two blocks differ in their
keys, globals and default port only: one definition (`updateProxyScheme`) at each scheme's
default port.

What the dictionary and the CoreFoundation conversions answer is an input (`ProxyEntry`):
`CFNumberGetValue` writes its result even when it returns `FALSE`, and `CFStringGetCString`
leaves in the buffer whatever it wrote before failing.

The run-level results (what a thread reads while other threads refresh the snapshot) are in
`WebDAVFS.ProxyLock`, over these definitions.
-/

namespace WebDAVFS

/-- `kHttpDefaultPort`, declared in a header that is not in the repository; the value is the
spec's (§4.C). -/
def kHttpDefaultPort : Int := 80

/-- `kHttpsDefaultPort`, declared in a header that is not in the repository; the value is the
spec's (§4.C). -/
def kHttpsDefaultPort : Int := 443

/-- One scheme's entries of the proxies dictionary as the code reads them. A number is `none`
when `CFDictionaryGetValue` finds no entry, else the value `CFNumberGetValue` writes and whether
it returned `TRUE`. -/
structure ProxyEntry where
  /-- `kSCPropNetProxiesHTTPEnable` (or `…HTTPSEnable`). -/
  enable : Option (Int × Bool)
  /-- `kSCPropNetProxiesHTTPProxy`: `none` when absent, else what `CFStringGetCString` leaves in
  the buffer and whether it returned `TRUE`. -/
  host : Option (String × Bool)
  /-- `kSCPropNetProxiesHTTPPort`. -/
  port : Option (Int × Bool)
  deriving DecidableEq, Repr

/-- The globals of one scheme: `gHttpProxyEnabled`, `gHttpProxyServer`, `gHttpProxyPort` (or
their `Https` counterparts). -/
structure ProxyScheme where
  enabled : Int
  server : String
  port : Int
  deriving DecidableEq, Repr

/-- The state the reset at the start of `network_update_proxy` leaves a scheme in. -/
def ProxyScheme.disabled : ProxyScheme :=
  ⟨0, "", 0⟩

/-- One scheme's block of `network_update_proxy` (webdav_network.c:445–468 for HTTP, 470–493 for
HTTPS), from the reset state. -/
def updateProxyScheme (defaultPort : Int) (e : ProxyEntry) : ProxyScheme :=
  match e.enable with
  | some (enabled, true) =>
    if enabled = 0 then .disabled
    else
      match e.host with
      | some (server, true) =>
        match e.port with
        | some (port, true) => ⟨1, server, if port = 0 then defaultPort else port⟩
        | some (port, false) => ⟨0, server, port⟩
        | none => ⟨0, server, 0⟩
      | some (server, false) => ⟨0, server, 0⟩
      | none => .disabled
  | _ => .disabled

/-- The six globals `network_update_proxy` writes. -/
structure ProxySnapshot where
  http : ProxyScheme
  https : ProxyScheme
  deriving DecidableEq, Repr

/-- `network_update_proxy` (webdav_network.c:411–506): the snapshot from the dictionary
`SCDynamicStoreCopyProxies` returns (`none` for `NULL`), with the HTTP and the HTTPS entries, and
the result of `authcache_proxy_invalidate`, which it returns. -/
def networkUpdateProxy (proxies : Option (ProxyEntry × ProxyEntry)) (invalidate : Nat) :
    ProxySnapshot × Nat :=
  match proxies with
  | none => (⟨.disabled, .disabled⟩, invalidate)
  | some (http, https) =>
    (⟨updateProxyScheme kHttpDefaultPort http, updateProxyScheme kHttpsDefaultPort https⟩,
      invalidate)

end WebDAVFS
