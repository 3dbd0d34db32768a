import WebDAVFS.Basic

/-!
# The WebDAV operations (webdav_network.c:2395–3966)

Each `network_*` operation of the daemon builds one or two requests, hands each to
`send_transaction`, and reads what comes back: the error, and on success a header of the
response (`Date`, `DAV`) or what an XML parser of `webdav_parse.c` makes of its body. Here an
operation is a program over one primitive, `transact`, which stands for a call of
`send_transaction` (`Exchange`, a free monad); what the calls answer is left to whoever runs the
program (`Exchange.run`). The retries and the authentication loop inside `send_transaction` are
modelled in `AuthLoop`; here a call is one step.

The URL of a node is what `create_cfurl_from_node` returns (`UrlMaker`), `NULL` included. The
parsers and `DateStringToTime` are not in the repository; what they return is part of the
answer (`Answer`).

- `networkFsyncNode_result`: whatever the calls answer, `network_fsync` returns what its `PUT`
  returns, whatever the `PROPFIND` after it does, and a failed one leaves the node as it was.
-/

namespace WebDAVFS

/-! ## Requests -/

/-- A URL under the mount's base URL, as the sequence of names of its path. -/
abbrev Url := List String

/-- The methods the operations send. -/
inductive Method where
  | options
  | propfind
  | put
  | delete
  | mkcol
  | move
  | lock
  | unlock
  deriving DecidableEq, Repr

/-- The XML message bodies. -/
inductive RequestBody where
  | none
  /-- `getlastmodified`, `getcontentlength`, `resourcetype` (`network_stat`, and
  `network_readdir` without `cache`). -/
  | propfindStat
  /-- `resourcetype` (`network_dir_is_empty`). -/
  | propfindResourceType
  /-- The `network_stat` properties and `A:appledoubleheader` (`network_readdir` with
  `cache`). -/
  | propfindReaddirCache
  /-- `quota`, `quotaused` (`network_statfs`). -/
  | propfindQuota
  /-- An exclusive write `lockinfo` whose owner is `http://www.apple.com/webdav_fs/`. -/
  | lockinfo
  /-- `getlastmodified`, `getetag` (the `PROPFIND` that follows `network_fsync`'s `PUT`). -/
  | propfindValidators
  /-- The bytes of the cache file (`network_fsync`'s `PUT`). -/
  | file
  deriving DecidableEq, Repr

/-- The header fields the operations add, each with the value the code gives it. -/
inductive Header where
  /-- `Accept: */*`. -/
  | accept
  | contentType (value : String)
  | depth (value : Nat)
  /-- `Timeout: Second-<gtimeout_string>`. -/
  | timeout (seconds : String)
  /-- `If: (<token>)`. -/
  | ifToken (token : String)
  /-- `Lock-Token: <token>`. -/
  | lockToken (token : String)
  /-- `Destination:` the destination's URL. -/
  | destination (url : Url)
  deriving DecidableEq, Repr

/-- One call of `send_transaction`: the credentials it uses, the URL, the method, the body and
the header fields. -/
structure Request where
  uid : Nat
  url : Url
  method : Method
  body : RequestBody
  headers : List Header
  deriving DecidableEq, Repr

/-- The fields of a `struct stat` that the operations read or write. -/
structure StatBuf where
  /-- `S_ISDIR(st_mode)`. -/
  isDir : Bool
  ino : Nat
  deriving DecidableEq, Repr

/-- What the operations read from a successful `send_transaction`: the `Date` and `Last-Modified`
headers as `DateStringToTime` converts them, the `ETag` header when it converts to a C string and
its copy is allocated, the level `ParseDAVLevel` finds in the `DAV` header, and what the parser
the operation calls returns with what it fills in (`parse_stat`, `parse_file_count`,
`parse_lock`, `parse_cachevalidators`), or returns alone (`parse_statfs`, `parse_opendir`). -/
structure Answer where
  date : Option Int
  lastModified : Option Int
  entityTag : Option String
  davLevel : Nat
  stat : Nat × StatBuf
  fileCount : Nat × Nat
  lockToken : Nat × String
  cacheValidators : Nat × Int × Option String
  parseError : Nat
  deriving DecidableEq, Repr

/-- The answer of a call that failed: nothing in it is read. -/
def Answer.none : Answer :=
  ⟨Option.none, Option.none, Option.none, 0, ( EIO, ⟨false, 0⟩), ( EIO, 0), ( EIO, ""),
    ( EIO, -1, Option.none), EIO⟩

/-! ## Programs over `send_transaction` -/

/-- A program that calls `send_transaction`: it is done, or it sends a request and goes on with
the error and the answer. -/
inductive Exchange (α : Type) where
  | done (a : α)
  | send (r : Request) (k : Nat × Answer → Exchange α)

namespace Exchange

/-- Sequencing: run `x`, then `f` on its result. -/
def bind {α β : Type} : Exchange α → (α → Exchange β) → Exchange β
  | done a, f => f a
  | send r k, f => send r fun x => (k x).bind f

instance : Monad Exchange where
  pure := done
  bind := bind

@[simp] theorem pure_eq {α : Type} (a : α) : (pure a : Exchange α) = done a := rfl

@[simp] theorem bind_done {α β : Type} (a : α) (f : α → Exchange β) :
    (done a >>= f) = f a := rfl

/- `bind_send` and `run_send` are proved by rewriting with the equations of `bind` and `run` rather
than by `rfl`: `simp` then uses them as rewrites, and a proof about a long exchange does not make
the kernel unfold the structural recursion once for every request. -/

@[simp] theorem bind_send {α β : Type} (r : Request) (k : Nat × Answer → Exchange α)
    (f : α → Exchange β) : (send r k >>= f) = send r fun x => k x >>= f := by
  show bind _ _ = _
  rw [bind]
  rfl

/-- Run a program against an engine that answers each request and moves a state along: the
result, the final state, and the requests sent, in order. -/
def run {α σ : Type} (engine : Request → σ → (Nat × Answer) × σ) :
    Exchange α → σ → α × σ × List Request
  | done a, s => (a, s, [])
  | send r k, s =>
    let (x, s') := engine r s
    let (a, s'', rs) := (k x).run engine s'
    (a, s'', r :: rs)

@[simp] theorem run_done {α σ : Type} (engine : Request → σ → (Nat × Answer) × σ) (a : α)
    (s : σ) : (done a).run engine s = (a, s, []) := rfl

@[simp] theorem run_send {α σ : Type} (engine : Request → σ → (Nat × Answer) × σ)
    (r : Request) (k : Nat × Answer → Exchange α) (s : σ) :
    (send r k).run engine s =
      let (a, s', rs) := (k (engine r s).1).run engine (engine r s).2
      (a, s', r :: rs) := by
  rw [run]

end Exchange

/-- `send_transaction` as an operation calls it. -/
def transact (r : Request) : Exchange (Nat × Answer) :=
  .send r .done

@[simp] theorem transact_bind {β : Type} (r : Request) (f : Nat × Answer → Exchange β) :
    (transact r >>= f) = .send r f := rfl

/-! ## The node -/

/-- The fields of a `node_entry` the operations read and write. -/
structure NodeEntry where
  /-- `node_type == WEBDAV_DIR_TYPE`. -/
  isDir : Bool
  fileid : Nat
  /-- `file_locktoken`. -/
  lockToken : Option String
  /-- `file_locktoken_uid`. -/
  lockTokenUid : Nat
  fileLastModified : Int
  fileEntityTag : Option String
  deriving DecidableEq, Repr

/-- What `create_cfurl_from_node(node, name, name_length)` returns for the node with a given
`fileid`: a URL, or `NULL`; the name is `none` for the node's own URL. -/
abbrev UrlMaker := Nat → Option String → Option Url

/-- What `CFStringCreateWithFormat` makes of `"%s"` for the node's lock token: a `NULL` token is
written `(null)`. -/
def NodeEntry.tokenText (node : NodeEntry) : String :=
  node.lockToken.getD "(null)"

/-! ## The `PROPFIND` operations

Each operation that sends one request is written as the request it builds and what it makes of
the error and the answer of `send_transaction`.
-/

/-- The `PROPFIND` of `network_stat`. -/
def statRequest (uid : Nat) (url : Url) : Request :=
  ⟨uid, url, .propfind, .propfindStat, [.accept, .contentType "text/xml", .depth 0]⟩

/-- What `network_stat` makes of the call: the stat buffer `parse_stat` fills, or an error. -/
def statResult (x : Nat × Answer) : Except Nat StatBuf :=
  if x.1 ≠ 0 then .error x.1
  else if x.2.stat.1 ≠ 0 then .error x.2.stat.1
  else .ok x.2.stat.2

/-- `network_stat` (webdav_network.c:2485–2532). -/
def networkStat (uid : Nat) (url : Url) : Exchange (Except Nat StatBuf) := do
  let x ← transact (statRequest uid url)
  return statResult x

/-- The `PROPFIND` of `network_dir_is_empty`. -/
def dirIsEmptyRequest (uid : Nat) (url : Url) : Request :=
  ⟨uid, url, .propfind, .propfindResourceType, [.accept, .contentType "text/xml", .depth 1]⟩

/-- What `network_dir_is_empty` makes of the call: `ENOTEMPTY` when `parse_file_count` counts
more than the directory's own entry. -/
def dirIsEmptyResult (x : Nat × Answer) : Nat :=
  if x.1 ≠ 0 then x.1
  else if x.2.fileCount.1 ≠ 0 then x.2.fileCount.1
  else if x.2.fileCount.2 > 1 then ENOTEMPTY
  else 0

/-- `network_dir_is_empty` (webdav_network.c:2538–2600). -/
def networkDirIsEmpty (uid : Nat) (url : Url) : Exchange Nat := do
  let x ← transact (dirIsEmptyRequest uid url)
  return dirIsEmptyResult x

/-- `network_lookup` (webdav_network.c:2605–2628). -/
def networkLookup (mkUrl : UrlMaker) (uid : Nat) (node : NodeEntry) (name : String) :
    Exchange (Except Nat StatBuf) :=
  match mkUrl node.fileid (some name) with
  | Option.none => return .error EIO
  | some url => networkStat uid url

/-- `network_getattr` (webdav_network.c:2633–2660): `st_ino` is the node's `fileid`. -/
def networkGetattr (mkUrl : UrlMaker) (uid : Nat) (node : NodeEntry) :
    Exchange (Except Nat StatBuf) :=
  match mkUrl node.fileid Option.none with
  | Option.none => return .error EIO
  | some url => do
    let r ← networkStat uid url
    return r.map fun st => { st with ino := node.fileid }

/-- What `network_readdir` and `network_statfs` make of the call: its error, or the parser's. -/
def parsedResult (x : Nat × Answer) : Nat :=
  if x.1 = 0 then x.2.parseError else x.1

/-- The `PROPFIND` of `network_readdir`; with `cache` it asks for the AppleDouble header too. -/
def readdirRequest (uid : Nat) (url : Url) (cache : Bool) : Request :=
  ⟨uid, url, .propfind, if cache then .propfindReaddirCache else .propfindStat,
    [.accept, .contentType "text/xml", .depth 1]⟩

/-- `network_readdir` (webdav_network.c:3847–3912). -/
def networkReaddir (mkUrl : UrlMaker) (uid : Nat) (cache : Bool) (node : NodeEntry) :
    Exchange Nat :=
  match mkUrl node.fileid Option.none with
  | Option.none => return EIO
  | some url => do
    let x ← transact (readdirRequest uid url cache)
    return parsedResult x

/-- `network_statfs` (webdav_network.c:3104–3158). -/
def networkStatfs (mkUrl : UrlMaker) (uid : Nat) (node : NodeEntry) : Exchange Nat :=
  match mkUrl node.fileid Option.none with
  | Option.none => return EIO
  | some url => do
    let x ← transact
      ⟨uid, url, .propfind, .propfindQuota, [.accept, .contentType "text/xml", .depth 0]⟩
    return parsedResult x

/-! ## Mounting -/

/-- The `OPTIONS` of `network_getDAVLevel`. -/
def optionsRequest (uid : Nat) (url : Url) : Request :=
  ⟨uid, url, .options, .none, [.accept]⟩

/-- `network_getDAVLevel` (webdav_network.c:2395–2423): the error of the `OPTIONS` and the level
`ParseDAVLevel` finds, `0` when the call failed. -/
def networkGetDAVLevel (uid : Nat) (url : Url) : Exchange (Nat × Nat) := do
  let (error, a) ← transact (optionsRequest uid url)
  return (error, if error = 0 then a.davLevel else 0)

/-- What `network_mount` makes of an error of the `OPTIONS` or of the `PROPFIND`. -/
def mountError (error : Nat) : Nat :=
  if error ≠ EACCES then ENODEV else ECANCELED

/-- The `switch` on the DAV level in `network_mount`, after pinning it to `2`: the error and
whether `MNT_RDONLY` is or'ed in. -/
def levelResult (davLevel : Nat) : Nat × Bool :=
  match if davLevel > 2 then 2 else davLevel with
  | 1 => (0, true)
  | 2 => (0, false)
  | _ => (ENODEV, false)

/-- What `network_mount` makes of the `PROPFIND` of the base URL. -/
def mountStatResult : Except Nat StatBuf → Nat
  | .error e => mountError e
  | .ok st => if !st.isDir then ENODEV else 0

/-- `network_mount` (webdav_network.c:2673–2745) on the base URL: the error, and whether
`MNT_RDONLY` was or'ed into the mount flags. -/
def networkMount (uid : Nat) (baseUrl : Url) : Exchange (Nat × Bool) := do
  let (error, davLevel) ← networkGetDAVLevel uid baseUrl
  if error ≠ 0 then return (mountError error, false)
  let (error, rdonly) := levelResult davLevel
  if error ≠ 0 then return (error, rdonly)
  let r ← networkStat uid baseUrl
  return (mountStatResult r, rdonly)

/-! ## Creating, removing and moving -/

/-- What an operation that records the response's `Date` makes of the call: the error, and the
date, `-1` without one. -/
def datedResult (x : Nat × Answer) : Nat × Int :=
  (x.1, if x.1 = 0 then x.2.date.getD (-1) else -1)

/-- `network_create` (webdav_network.c:3164–3207): an empty `PUT`. -/
def networkCreate (mkUrl : UrlMaker) (uid : Nat) (node : NodeEntry) (name : String) :
    Exchange (Nat × Int) :=
  match mkUrl node.fileid (some name) with
  | Option.none => return ( EIO, -1)
  | some url => do
    let x ← transact ⟨uid, url, .put, .none, [.accept]⟩
    return datedResult x

/-- `network_mkdir` (webdav_network.c:3918–3961): a `MKCOL`. -/
def networkMkdir (mkUrl : UrlMaker) (uid : Nat) (node : NodeEntry) (name : String) :
    Exchange (Nat × Int) :=
  match mkUrl node.fileid (some name) with
  | Option.none => return ( EIO, -1)
  | some url => do
    let x ← transact ⟨uid, url, .mkcol, .none, [.accept]⟩
    return datedResult x

/-- `If: (<token>)` when the node holds a lock token and formatting the header succeeds
(`formatted`); nothing otherwise. -/
def ifHeader (node : NodeEntry) (formatted : Bool) : List Header :=
  match node.lockToken with
  | some token => if formatted then [.ifToken token] else []
  | Option.none => []

/-- The `DELETE` of `network_delete`. -/
def deleteRequest (uid : Nat) (url : Url) (node : NodeEntry) (formatted : Bool) : Request :=
  ⟨uid, url, .delete, .none, .accept :: ifHeader node formatted⟩

/-- `network_delete` (webdav_network.c:3452–3512). -/
def networkDelete (uid : Nat) (url : Url) (node : NodeEntry) (formatted : Bool) :
    Exchange (Nat × Int) := do
  let x ← transact (deleteRequest uid url node formatted)
  return datedResult x

/-- `network_remove` (webdav_network.c:3518–3538). -/
def networkRemove (mkUrl : UrlMaker) (uid : Nat) (node : NodeEntry) (formatted : Bool) :
    Exchange (Nat × Int) :=
  match mkUrl node.fileid Option.none with
  | Option.none => return ( EIO, -1)
  | some url => networkDelete uid url node formatted

/-- `network_rmdir` (webdav_network.c:3544–3571): the `DELETE` only when the directory is
empty. -/
def networkRmdir (mkUrl : UrlMaker) (uid : Nat) (node : NodeEntry) (formatted : Bool) :
    Exchange (Nat × Int) :=
  match mkUrl node.fileid Option.none with
  | Option.none => return ( EIO, -1)
  | some url => do
    let error ← networkDirIsEmpty uid url
    if error = 0 then networkDelete uid url node formatted else return (error, -1)

/-- The `MOVE` of `network_rename`. -/
def moveRequest (uid : Nat) (url destination : Url) : Request :=
  ⟨uid, url, .move, .none, [.accept, .destination destination]⟩

/-- The `MOVE` of `network_rename` (webdav_network.c:3643–3656) and what it makes of it. -/
def networkMove (uid : Nat) (url destination : Url) : Exchange (Nat × Int) := do
  let x ← transact (moveRequest uid url destination)
  return datedResult x

/-- `network_rename` (webdav_network.c:3577–3672): onto `toNode` when there is one, after checking
that a directory there is empty, and otherwise to `toName` in `toDirNode`; nothing is sent when
source and destination are the same URL. -/
def networkRename (mkUrl : UrlMaker) (uid : Nat) (fromNode : NodeEntry)
    (toNode : Option NodeEntry) (toDirNode : NodeEntry) (toName : String) :
    Exchange (Nat × Int) :=
  match mkUrl fromNode.fileid Option.none with
  | Option.none => return ( EIO, -1)
  | some url =>
    match toNode with
    | some target =>
      match mkUrl target.fileid Option.none with
      | Option.none => return ( EIO, -1)
      | some destination =>
        if url = destination then return (0, -1)
        else if target.isDir then do
          let error ← networkDirIsEmpty uid destination
          if error ≠ 0 then return (error, -1) else networkMove uid url destination
        else networkMove uid url destination
    | Option.none =>
      match mkUrl toDirNode.fileid (some toName) with
      | Option.none => return ( EIO, -1)
      | some destination =>
        if url = destination then return (0, -1) else networkMove uid url destination

/-! ## Writing a file back -/

/-- The `PUT` of `network_fsync`, with the cache file as its body. -/
def fsyncRequest (uid : Nat) (url : Url) (node : NodeEntry) (formatted : Bool) : Request :=
  ⟨uid, url, .put, .file, .accept :: ifHeader node formatted⟩

/-- The `PROPFIND` `network_fsync` sends when the `PUT`'s response carries no validator. -/
def validatorsRequest (uid : Nat) (url : Url) : Request :=
  ⟨uid, url, .propfind, .propfindValidators, [.accept, .contentType "text/xml", .depth 0]⟩

/-- The validators of a response: the date of its `Last-Modified`, `-1` without one, and its
`ETag`. -/
def Answer.validators (a : Answer) : Int × Option String :=
  (a.lastModified.getD (-1), a.entityTag)

/-- `network_fsync` (webdav_network.c:3213–3440) as the node sees it: its `PUT` loop is one call
here (the loop itself is `networkFsync`); without a validator in the response it sends a
`PROPFIND` for them, whose failure it ignores; on success it records the validators in the
node. -/
def networkFsyncNode (mkUrl : UrlMaker) (uid : Nat) (node : NodeEntry) (formatted : Bool) :
    Exchange (Nat × NodeEntry) :=
  match mkUrl node.fileid Option.none with
  | Option.none => return ( EIO, node)
  | some url => do
    let (error, a) ← transact (fsyncRequest uid url node formatted)
    if error ≠ 0 then return (error, node)
    let (lastModified, entityTag) ←
      if a.validators = (-1, Option.none) then do
        let (propError, b) ← transact (validatorsRequest uid url)
        pure (if propError = 0 then b.cacheValidators.2 else a.validators)
      else pure a.validators
    return (0, { node with fileLastModified := lastModified, fileEntityTag := entityTag })

/-! ## Locks -/

/-- The `LOCK` of `network_lock` with `Timeout: Second-<timeout>`: a new lock with an XML body
under `uid`, or a refresh, with the node's token and under the credentials that took it. -/
def lockRequest (uid : Nat) (refresh : Bool) (node : NodeEntry) (url : Url) (timeout : String) :
    Request :=
  if refresh then
    ⟨node.lockTokenUid, url, .lock, .none,
      [.accept, .depth 0, .timeout timeout, .contentType "text/xml", .ifToken node.tokenText]⟩
  else
    ⟨uid, url, .lock, .lockinfo,
      [.accept, .depth 0, .timeout timeout, .contentType "text/xml; charset=\"utf-8\""]⟩

/-- What `network_lock` makes of the call: the error, and the node, which records the token
`parse_lock` returns and, for a new lock, its owner. -/
def lockResult (uid : Nat) (refresh : Bool) (node : NodeEntry) (x : Nat × Answer) :
    Nat × NodeEntry :=
  if x.1 ≠ 0 then (x.1, node)
  else if x.2.lockToken.1 ≠ 0 then (x.2.lockToken.1, node)
  else
    (0, { node with
      lockToken := some x.2.lockToken.2
      lockTokenUid := if refresh then node.lockTokenUid else uid })

/-- `network_lock` (webdav_network.c:3678–3796). `timeoutFormatted` and `tokenFormatted` say
whether the two `CFStringCreateWithFormat` calls succeed. -/
def networkLock (mkUrl : UrlMaker) (uid : Nat) (refresh : Bool) (node : NodeEntry)
    (timeout : String) (timeoutFormatted tokenFormatted : Bool) : Exchange (Nat × NodeEntry) :=
  match mkUrl node.fileid Option.none with
  | Option.none => return ( EIO, node)
  | some url =>
    if !timeoutFormatted then return ( EIO, node)
    else if refresh && !tokenFormatted then return ( EIO, node)
    else do
      let x ← transact (lockRequest uid refresh node url timeout)
      return lockResult uid refresh node x

/-- The `UNLOCK` of `network_unlock`, under the credentials that took the lock. -/
def unlockRequest (node : NodeEntry) (url : Url) : Request :=
  ⟨node.lockTokenUid, url, .unlock, .none, [.accept, .lockToken node.tokenText]⟩

/-- The node as `network_unlock` leaves it. -/
def NodeEntry.unlocked (node : NodeEntry) : NodeEntry :=
  { node with lockToken := Option.none, lockTokenUid := 0 }

/-- `network_unlock` (webdav_network.c:3802–3841): the node's token is freed whatever
happens. -/
def networkUnlock (mkUrl : UrlMaker) (node : NodeEntry) (tokenFormatted : Bool) :
    Exchange (Nat × NodeEntry) :=
  match mkUrl node.fileid Option.none with
  | Option.none => return ( EIO, node.unlocked)
  | some url =>
    if !tokenFormatted then return ( EIO, node.unlocked)
    else do
      let (error, _) ← transact (unlockRequest node url)
      return (error, node.unlocked)

/-! ## What `network_fsync` returns -/

section Fsync

variable {σ : Type} (engine : Request → σ → (Nat × Answer) × σ) (s : σ)

/-- **`network_fsync` returns what its `PUT` returns**, whatever the `PROPFIND` after it does,
and a failed one leaves the node as it was. -/
theorem networkFsyncNode_result (mkUrl : UrlMaker) (uid : Nat) (node : NodeEntry)
    (formatted : Bool) {url : Url} (hurl : mkUrl node.fileid Option.none = some url) :
    ((networkFsyncNode mkUrl uid node formatted).run engine s).1.1 =
        (engine (fsyncRequest uid url node formatted) s).1.1 ∧
      ((engine (fsyncRequest uid url node formatted) s).1.1 ≠ 0 →
        ((networkFsyncNode mkUrl uid node formatted).run engine s).1.2 = node) := by
  simp only [networkFsyncNode, hurl, transact_bind, Exchange.run_send]
  split_ifs with h₁ h₂
  · exact ⟨rfl, fun _ => rfl⟩
  all_goals
    simp only [not_not] at h₁
    simp [h₁]

end Fsync

end WebDAVFS
