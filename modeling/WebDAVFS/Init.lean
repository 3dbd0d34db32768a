import WebDAVFS.UrlBuilder
import WebDAVFS.Proxy
import WebDAVFS.SlotPool
import WebDAVFS.MountOptions

/-!
# Starting the network layer: `network_init` (webdav_network.c:544–800)

`network_init` runs once, when the file system is mounted. It sets up `gNetworkGlobals_lock` and
the dynamic-store notification for proxy changes, reads the proxy settings
(`network_update_proxy`), makes `gBaseURL` from the mount's URI, sets `first_read_len` to the
page size (`get_first_read_len`), makes the `X-Source-Id` header for an iDisk server
(`InitXSourceIdHeaderValue`) and the `User-Agent` header sent with every request
(`InitUserAgentHeaderValue`), and empties the read-stream table.

`InitUserAgentHeaderValue` formats into its 128-byte `buf` either
`WebDAVFS/<short version> (<version>) [(mirrored) ]<ostype>/<osrelease> (<machine>)`, when it got
the `CFBundleShortVersionString` of the `webdav.fs` bundle as a C string, or the generic
`WebDAVFS/1.4 <ostype>/<osrelease> (<machine>)`. The library calls are not in the repository:
`sysctl`, the bundle and the dynamic store are inputs; `snprintf` and the CoreFoundation string
calls are modelled from their documentation (a `CFString` is its characters, `CFStringGetLength`
counts UTF-16 units, and `CFStringGetCString` needs room for the NUL).

- `webdavfsVersionStr_eq_some`: the C string of the short version is made exactly when the
  bundle, its version string and the `malloc` are there and every character is ASCII. The buffer
  is sized by the string's UTF-16 length, and a non-ASCII character takes more UTF-8 bytes than
  UTF-16 units, so any other version string gives the generic header, without the version and
  without the `(mirrored)` comment.
-/

namespace WebDAVFS

/-! ## Strings -/

/-- The bytes of a text the code writes as a literal. -/
def asciiBytes (s : String) : Bytes := s.toList.map fun c => UInt8.ofNat c.toNat

/-- `CFStringGetLength`: the string's length in UTF-16 units. -/
def cfStringGetLength (s : List Char) : Nat :=
  (s.map fun c => c.utf16Size.toNat).sum

/-- `CFStringGetCString(s, buffer, bufferSize, kCFStringEncodingUTF8)`: the UTF-8 bytes when they
fit in the buffer with their NUL, `FALSE` otherwise. -/
def cfStringGetCString (s : List Char) (bufferSize : Nat) : Option Bytes :=
  let bytes := s.flatMap String.utf8EncodeChar
  if bytes.length < bufferSize then some bytes else none

/-- A character takes at least as many UTF-8 bytes as UTF-16 units, as many only when it is
ASCII. -/
theorem utf16Size_le_utf8 (c : Char) :
    c.utf16Size.toNat ≤ (String.utf8EncodeChar c).length ∧
      (c.utf16Size.toNat = (String.utf8EncodeChar c).length ↔ c.toNat < 0x80) := by
  have h127 : c.val ≤ 127 ↔ c.toNat ≤ 127 := Iff.rfl
  have h2047 : c.val ≤ 2047 ↔ c.toNat ≤ 2047 := Iff.rfl
  have h65535 : c.val ≤ 65535 ↔ c.toNat ≤ 65535 := Iff.rfl
  have h1 : (1 : UInt32).toNat = 1 := rfl
  have h2 : (2 : UInt32).toNat = 2 := rfl
  simp only [Char.utf16Size, String.utf8EncodeChar, h127, h2047, h65535]
  split_ifs <;> simp only [List.length_cons, List.length_nil, h1, h2, true_iff] <;> omega

theorem cfStringGetLength_cons (c : Char) (s : List Char) :
    cfStringGetLength (c :: s) = c.utf16Size.toNat + cfStringGetLength s := by
  simp [cfStringGetLength]

/-- A string's UTF-8 bytes are at least its UTF-16 units, as many only when it is ASCII. -/
theorem cfStringGetLength_le (s : List Char) :
    cfStringGetLength s ≤ (s.flatMap String.utf8EncodeChar).length ∧
      (cfStringGetLength s = (s.flatMap String.utf8EncodeChar).length ↔
        ∀ c ∈ s, c.toNat < 0x80) := by
  induction s with
  | nil => simp [cfStringGetLength]
  | cons c s ih =>
    obtain ⟨hle, heq⟩ := utf16Size_le_utf8 c
    rw [cfStringGetLength_cons, List.flatMap_cons, List.length_append, List.forall_mem_cons,
      ← heq, ← ih.2]
    constructor <;> omega

/-- An ASCII character is the one byte of its code. -/
theorem utf8EncodeChar_of_lt {c : Char} (h : c.toNat < 0x80) :
    String.utf8EncodeChar c = [UInt8.ofNat c.toNat] := by
  have hv : c.val ≤ 127 := Nat.le_of_lt_succ h
  simp [String.utf8EncodeChar, hv, UInt32.toUInt8, Char.toNat]

theorem flatMap_utf8EncodeChar_of_ascii {s : List Char} (h : ∀ c ∈ s, c.toNat < 0x80) :
    s.flatMap String.utf8EncodeChar = s.map fun c => UInt8.ofNat c.toNat := by
  induction s with
  | nil => rfl
  | cons c s ih =>
    rw [List.forall_mem_cons] at h
    rw [List.flatMap_cons, utf8EncodeChar_of_lt h.1, ih h.2, List.map_cons, List.singleton_append]

/-- **`CFStringGetCString` into `CFStringGetLength + 1` bytes succeeds exactly on ASCII**, and
then gives the characters' codes. -/
theorem cfStringGetCString_length_succ (s : List Char) (v : Bytes) :
    cfStringGetCString s (cfStringGetLength s + 1) = some v ↔
      (∀ c ∈ s, c.toNat < 0x80) ∧ v = s.map fun c => UInt8.ofNat c.toNat := by
  obtain ⟨hle, heq⟩ := cfStringGetLength_le s
  simp only [cfStringGetCString, Option.ite_none_right_eq_some, Option.some.injEq]
  constructor
  · rintro ⟨hlt, rfl⟩
    have hall := heq.mp (by omega)
    exact ⟨hall, flatMap_utf8EncodeChar_of_ascii hall⟩
  · rintro ⟨hall, rfl⟩
    exact ⟨by have := heq.mpr hall; omega, flatMap_utf8EncodeChar_of_ascii hall⟩

/-! ## `InitUserAgentHeaderValue` -/

/-- What `InitUserAgentHeaderValue` finds in the `webdav.fs` bundle, once
`CFURLCreateWithFileSystemPath` and `CFBundleCreate` succeeded. -/
structure BundleInfo where
  /-- `CFBundleGetVersionNumber`. -/
  versionNumber : UInt32
  /-- The `CFBundleShortVersionString` of the Info dictionary, as the characters of the
  `CFString`; `none` when `CFBundleGetInfoDictionary` or `CFDictionaryGetValue` returns `NULL`. -/
  shortVersion : Option (List Char)
  /-- The `malloc` of its C string succeeds. -/
  mallocOk : Bool

/-- What the system answers `InitUserAgentHeaderValue`. -/
structure UserAgentEnv where
  /-- `sysctl` of `KERN_OSTYPE`: the string, or `none` when the call fails and the code stores
  the empty string. -/
  ostype : Option Bytes
  /-- `sysctl` of `KERN_OSRELEASE`. -/
  osrelease : Option Bytes
  /-- `sysctl` of `HW_MACHINE`. -/
  machine : Option Bytes
  /-- The bundle, or `none` when its URL or the bundle is not created. -/
  bundle : Option BundleInfo

/-- A `sysctl` string as `%s` prints it: up to its NUL, empty when the call failed. -/
def sysctlString (answer : Option Bytes) : Bytes := (answer.map cString).getD []

/-- `webdavfsVersionStr` (webdav_network.c:582–622): the C string of the bundle's short version,
in a buffer of `CFStringGetLength(shortVersion) + 1` bytes. -/
def webdavfsVersionStr (bundle : Option BundleInfo) : Option Bytes := do
  let b ← bundle
  let shortVersion ← b.shortVersion
  if b.mallocOk then cfStringGetCString shortVersion (cfStringGetLength shortVersion + 1)
  else none

/-- `webdavfsVersion`: the bundle's version number, `0x010080000` ("1.0 final") without one. -/
def webdavfsVersion (bundle : Option BundleInfo) : UInt32 :=
  match bundle with
  | some b => b.versionNumber
  | none => 0x010080000

/-- A lowercase hexadecimal digit. -/
def hexDigitLower (n : Nat) : UInt8 := UInt8.ofNat (if n < 10 then 0x30 + n else 0x57 + n)

/-- `%.8lx`: at least eight lowercase hexadecimal digits, which is all of a 32-bit number. -/
def formatHex8 (v : UInt32) : Bytes :=
  (List.range 8).reverse.map fun i => hexDigitLower (v.toNat / 16 ^ i % 16)

/-- The text `InitUserAgentHeaderValue` formats (webdav_network.c:624–640). -/
def userAgentText (versionStr : Option Bytes) (version : UInt32) (addMirrorComment : Bool)
    (ostype osrelease machine : Bytes) : Bytes :=
  match versionStr with
  | some v =>
    asciiBytes "WebDAVFS/" ++ v ++ asciiBytes " (" ++ formatHex8 version ++ asciiBytes ") " ++
      (if addMirrorComment then asciiBytes "(mirrored) " else []) ++ ostype ++ asciiBytes "/" ++
      osrelease ++ asciiBytes " (" ++ machine ++ asciiBytes ")"
  | none =>
    asciiBytes "WebDAVFS/1.4 " ++ ostype ++ asciiBytes "/" ++ osrelease ++ asciiBytes " (" ++
      machine ++ asciiBytes ")"

/-- `snprintf(buf, sizeof(buf), ...)` into the 128 bytes of `buf`: at most 127 bytes, then the
NUL. -/
def snprintfBuf (text : Bytes) : Bytes := text.take 127

/-- `InitUserAgentHeaderValue` (webdav_network.c:544–650): the result and
`userAgentHeaderValue`. -/
def initUserAgentHeaderValue (env : UserAgentEnv) (addMirrorComment : Bool) :
    Nat × Option Bytes :=
  let buf := snprintfBuf (userAgentText (webdavfsVersionStr env.bundle)
    (webdavfsVersion env.bundle) addMirrorComment (sysctlString env.ostype)
    (sysctlString env.osrelease) (sysctlString env.machine))
  match cfStringCreateWithCString buf with
  | some userAgentHeaderValue => (0, some userAgentHeaderValue)
  | none => ( ENOMEM, none)

/-- **Only an ASCII version string reaches the `User-Agent`.** The C string of
`CFBundleShortVersionString` is made exactly when the bundle, the string and the `malloc` are
there and every character of the string is ASCII, and it is then the characters' codes. The
buffer has room for the string's UTF-16 units and the NUL, and each non-ASCII character takes
more UTF-8 bytes than UTF-16 units: with any other version string the header takes its generic
form, which has neither the version nor the `(mirrored)` comment. -/
theorem webdavfsVersionStr_eq_some (bundle : Option BundleInfo) (v : Bytes) :
    webdavfsVersionStr bundle = some v ↔
      ∃ b s, bundle = some b ∧ b.shortVersion = some s ∧ b.mallocOk = true ∧
        (∀ c ∈ s, c.toNat < 0x80) ∧ v = s.map fun c => UInt8.ofNat c.toNat := by
  rcases bundle with _ | ⟨_, _ | s, _ | _⟩ <;>
    simp [webdavfsVersionStr, cfStringGetCString_length_succ]

/-- A short version with a Greek letter gives no C string; an ASCII one gives its bytes. -/
example : webdavfsVersionStr (some ⟨0x01600000, some "1.6β".toList, true⟩) = none ∧
    webdavfsVersionStr (some ⟨0x01600000, some "1.6".toList, true⟩) = some (asciiBytes "1.6") := by
  decide

/-! ## `get_first_read_len`, `InitXSourceIdHeaderValue` and `network_init` -/

/-- `get_first_read_len` (webdav_network.c:662–683): the page size `sysctl` reports, `4096` when
the call fails. -/
def getFirstReadLen (pagesize : Option Int) : Int := pagesize.getD 4096

/-- `CFStringCompare(hostName, CFSTR("idisk.mac.com"), kCFCompareCaseInsensitive)` finds them
equal, with ASCII letters compared case aside. -/
def isIdiskHost (hostName : Bytes) : Bool := strcasecmpEq hostName (asciiBytes "idisk.mac.com")

/-- `InitXSourceIdHeaderValue` (webdav_network.c:687–713): the `X-Source-Id` value, made only for
the host `idisk.mac.com`. `hostName` is what `CFURLCopyHostName(gBaseURL)` returns and
`encodedSourceId` what `GetEncodedSourceID` writes, `none` when it fails; neither is in the
repository. -/
def initXSourceIdHeaderValue (hostName encodedSourceId : Option Bytes) : Option Bytes := do
  let hostName ← hostName
  if isIdiskHost hostName then
    let encodedIdBuffer ← encodedSourceId
    cfStringCreateWithCString (cString encodedIdBuffer)
  else none

/-- `CFURLCreateAbsoluteURLWithBytes(uri, kCFStringEncodingUTF8, NULL)`: `NULL` when the URI is
not UTF-8 ("name was not legal UTF8"). -/
def cfURLCreateAbsoluteURLWithBytes (uri : Bytes) : Option Bytes :=
  if utf8Valid uri then some uri else none

/-- What the system answers `network_init`. -/
structure InitEnv where
  /-- What `pthread_mutexattr_init` returns. -/
  mutexattrError : Nat
  /-- What `pthread_mutex_init` returns. -/
  mutexError : Nat
  /-- `SCDynamicStoreCreate`, `SCDynamicStoreNotifyFileDescriptor`,
  `SCDynamicStoreKeyCreateProxies`, `CFArrayCreate` and `SCDynamicStoreSetNotificationKeys` all
  succeed; the failure of any of them is `ENOMEM`. -/
  storeOk : Bool
  /-- What `network_update_proxy` reads: the proxies dictionary, and what
  `authcache_proxy_invalidate` returns. -/
  proxies : Option (ProxyEntry × ProxyEntry)
  proxyInvalidate : Nat
  /-- `sysctl` of `HW_PAGESIZE`. -/
  pagesize : Option Int
  /-- `CFURLCopyHostName(gBaseURL)`. -/
  hostName : Option Bytes
  /-- What `GetEncodedSourceID` writes. -/
  encodedSourceId : Option Bytes
  userAgent : UserAgentEnv

/-- The globals a successful `network_init` sets. -/
structure NetworkGlobals where
  proxy : ProxySnapshot
  gBaseURL : Bytes
  firstReadLen : Int
  xSourceIdHeaderValue : Option Bytes
  userAgentHeaderValue : Bytes
  gReadStreams : List ReadStreamRec
  deriving DecidableEq, Repr

/-- How `network_init` ends. -/
inductive InitOutcome where
  | ok (globals : NetworkGlobals)
  | error (e : Nat)
  /-- `exit(error)`, when `InitUserAgentHeaderValue` fails. -/
  | exit (e : Nat)
  deriving DecidableEq, Repr

/-- `network_init` (webdav_network.c:717–800), for a table of `WEBDAV_REQUEST_THREADS + 1`
records. -/
def networkInit (requestThreads : Nat) (env : InitEnv) (uri : Bytes) (addMirrorComment : Bool) :
    InitOutcome :=
  if env.mutexattrError ≠ 0 then .error env.mutexattrError
  else if env.mutexError ≠ 0 then .error env.mutexError
  else if !env.storeOk then .error ENOMEM
  else
    let update := networkUpdateProxy env.proxies env.proxyInvalidate
    if update.2 ≠ 0 then .error update.2
    else
      match cfURLCreateAbsoluteURLWithBytes uri with
      | none => .error ENOMEM
      | some gBaseURL =>
        let xSourceId := initXSourceIdHeaderValue env.hostName env.encodedSourceId
        match initUserAgentHeaderValue env.userAgent (xSourceId.isSome && addMirrorComment) with
        | (_, some userAgent) =>
          .ok ⟨update.1, gBaseURL, getFirstReadLen env.pagesize, xSourceId, userAgent,
            List.replicate (requestThreads + 1) .initial⟩
        | (error, none) => .exit error

end WebDAVFS
