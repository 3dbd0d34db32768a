import WebDAVFS.AuthLoop
import WebDAVFS.Download
import WebDAVFS.HttpDate

/-!
# `network_open` (webdav_network.c:2847–3100)

`network_open` first decides whether to ask the server at all: a read-only open of a download
finished and still valid needs nothing, and otherwise `get_from_attributes_cache` may fill the
cache file from the node's AppleDouble header. When it asks, it runs its own copy of the
transaction/authentication loop over `stream_get_transaction`, each pass sending a `GET` whose
conditional headers come from the node's download state at that pass (`getConditional`). A
loop left with `0` maps 304 to 200 before translating, and a success records the response's
`Last-Modified` and `ETag` in the node.

The server's answer and what the cache file's system calls do are chosen by the world for each
request a pass may send (`OpenPass.serve`).

- `networkOpenPass_keeps`: a pass never touches `file_last_modified` or `file_entity_tag`; it
  changes the cache file's bytes and flags only when a 200 or 206 header arrived, and the node
  at all only when some header arrived.
- `networkOpen_failure_frame`: a failed `network_open` leaves `file_last_modified` and
  `file_entity_tag` as the start of `network_open` left them, the cache file as well unless a
  200 or 206 header arrived, and the whole node unless some header arrived.
- `networkOpen_failure_changes_node`: it does not leave the node as it was. A 200 whose `lseek`
  fails after the truncation empties the cache file; a 404 (as any status but 200 and 206) marks
  the download finished; a 200 whose body is handed to a request queue that refuses it leaves the
  download in progress with `UF_NODUMP` set. Each returns an error.
-/

namespace WebDAVFS

/-! ## The request -/

/-- The conditional headers of a `GET` that `network_open` sends. -/
inductive Conditional where
  | unconditional
  /-- `If-Modified-Since` with the date of `file_last_modified`. -/
  | ifModifiedSince (date : Int)
  /-- `If-Range` with the date of `file_last_modified`, and `Range: bytes=offset-`. -/
  | ifRange (date : Int) (offset : Nat)
  deriving DecidableEq, Repr

/-- The conditional headers `network_open` adds for node `n` (webdav_network.c:2940–2975):
none for a file never downloaded or when `CFStringCreateRFC2616DateStringWithTimeT` makes no date
string of `file_last_modified`, `If-Modified-Since` for a finished download, and otherwise
`If-Range` with a `Range` from the cache file's length, when `lseek` and the range string
succeed. -/
def getConditional (n : Node) (lengthOk : Bool) : Conditional :=
  if n.fileStatus = .never then .unconditional
  else
    match cfStringCreateRFC2616DateStringWithTimeT n.fileLastModified with
    | none => .unconditional
    | some _ =>
      if n.fileStatus = .finished then .ifModifiedSince n.fileLastModified
      else if lengthOk then .ifRange n.fileLastModified n.cache.length
      else .unconditional

/-- What one pass of `network_open` meets: whether `lseek` and the range string for the
conditional headers succeed, and what the network and the cache file do for each request the
pass may send. -/
structure OpenPass where
  lengthOk : Bool
  serve : Conditional → GetEvent

/-- The `GET` a pass sends, and what the world does with it. -/
def OpenPass.event (ev : OpenPass) (n : Node) : GetEvent :=
  ev.serve (getConditional n ev.lengthOk)

/-- `stream_get_transaction` as `network_open`'s loop runs it: the response comes with the rest
of the stream when the body was handed to the request queue. -/
def networkOpenPass (c : SSLErrorCodes) (firstReadLen : Nat) (gSuppressAllUI : Bool)
    (s : NetState) (n : Node) (ev : OpenPass) :
    Except Nat (Response × Option BodyStream) × NetState × Node :=
  let o := streamGetTransaction c firstReadLen gSuppressAllUI s n (ev.event n)
  (o.result.map (·, o.handoff), o.net, o.node)

/-- The loop of `network_open` (webdav_network.c:2915–3013). -/
def networkOpenLoop (c : SSLErrorCodes) (firstReadLen : Nat) (gSuppressAllUI : Bool)
    (s : NetState) (n : Node) (ps : List (Pass OpenPass)) :
    LoopRun Node (Response × Option BodyStream) :=
  authLoop c (networkOpenPass c firstReadLen gSuppressAllUI) (·.1.statusCode) (.initial s n) ps

/-- `network_open` makes a 304 a 200 before translating: the cache file is still good. -/
def notModifiedAsOK (statusCode : Nat) : Nat :=
  if statusCode = 304 then 200 else statusCode

/-! ## `network_open` -/

/-- What `network_open` reads besides the node and the network. -/
structure OpenEnv where
  writeAccess : Bool
  /-- `NODE_FILE_INVALID(node)`: the cache file's validation has timed out. -/
  fileInvalid : Bool
  /-- `NODE_FILE_RECENTLY_CREATED(node)`. -/
  recentlyCreated : Bool
  attrCache : AttrCacheIO
  /-- `create_cfurl_from_node` returns a URL. -/
  urlOk : Bool
  /-- What `time` stores in `file_validated_time`. -/
  now : Int
  /-- The `ETag` value is converted and its copy allocated. -/
  entityTagCopied : Bool

/-- The `ask_server` decision (webdav_network.c:2857–2893): whether to ask the server, and the
node after `get_from_attributes_cache` when it ran. -/
def askServer (env : OpenEnv) (n : Node) : Bool × Node :=
  if !env.writeAccess then
    if n.fileStatus = .finished && !env.fileInvalid then (false, n)
    else
      let (got, n) := getFromAttributesCache n env.attrCache
      (!got, n)
  else (!(env.recentlyCreated && n.fileStatus = .finished), n)

/-- The node after a successful `GET` (webdav_network.c:3035–3071): the validation time, and the
response's `Last-Modified` and `ETag` when it has them. -/
def Node.validated (n : Node) (env : OpenEnv) (r : Response) : Node :=
  { n with
    fileValidatedTime := env.now
    fileLastModified := r.lastModified.getD n.fileLastModified
    fileEntityTag := if env.entityTagCopied then r.entityTag.orElse fun _ => n.fileEntityTag
      else n.fileEntityTag }

/-- What `network_open` leaves: its result, the node, and the rest of the body it handed to the
request queue. -/
structure OpenResult where
  error : Nat
  node : Node
  handoff : Option BodyStream
  deriving DecidableEq, Repr

/-- `network_open` (webdav_network.c:2847–3100); `none` while its loop goes on. -/
def networkOpen (c : SSLErrorCodes) (firstReadLen : Nat) (gSuppressAllUI : Bool) (env : OpenEnv)
    (s : NetState) (n : Node) (ps : List (Pass OpenPass)) : Option OpenResult :=
  let (ask, n) := askServer env n
  if !ask then some ⟨0, n, none⟩
  else if !env.urlOk then some ⟨ EIO, n, none⟩
  else
    ((networkOpenLoop c firstReadLen gSuppressAllUI s n ps).outcome notModifiedAsOK).map fun o =>
      match o.error, o.vars.responseRef with
      | 0, some (r, handoff) => ⟨0, o.vars.world.validated env r, handoff⟩
      | e, _ => ⟨e, o.vars.world, none⟩

/-- Every `EAGAIN` of a pass of `network_open` uses up budget. -/
theorem networkOpenPass_spending (c : SSLErrorCodes) (frl : Nat) (g : Bool) :
    Spending (networkOpenPass c frl g) := fun _ n ev hs => by
  show NetState.Spends _ _ (resultCode (Except.map _ _))
  rw [resultCode_map]
  exact streamGetTransaction_spends c frl g hs n (ev.event n)

/-! ## What a pass does to the node -/

/-- The attempt stores bytes in the cache file: a 200 or 206 header arrived. -/
def GetEvent.storesBytes (firstReadLen : Nat) (ev : GetEvent) : Bool :=
  ev.reachesSwitch firstReadLen &&
    ev.response.any fun r => r.statusCode = 200 || r.statusCode = 206

/-- The fields of a node that `stream_get_transaction` never writes. -/
def Node.unwritten (n : Node) : Int × Option String × Int × Bytes × Int × Int :=
  (n.fileLastModified, n.fileEntityTag, n.fileValidatedTime, n.attrAppleDoubleHeader,
    n.attrAppleDoubleHeaderTime, n.attrMtime)

theorem storeFirstBytes_unwritten (n : Node) (status : Nat) (buffer : Bytes) (io : LocalIO) :
    (storeFirstBytes n status buffer io).1.unwritten = n.unwritten := by
  unfold storeFirstBytes
  split_ifs <;> (try split) <;> rfl

/-- `stream_get_transaction` writes only the download status and the cache file. -/
theorem streamGetTransaction_unwritten (c : SSLErrorCodes) (frl : Nat) (g : Bool) (s : NetState)
    (n : Node) (ev : GetEvent) :
    (streamGetTransaction c frl g s n ev).node.unwritten = n.unwritten := by
  unfold streamGetTransaction
  split
  · rfl
  split
  · split
    · rfl
    split
    · rfl
    split
    · rfl
    next buffer _ _ _ _ resp _ =>
      have hu := storeFirstBytes_unwritten n resp.statusCode buffer ev.io
      generalize storeFirstBytes n resp.statusCode buffer ev.io = r at hu ⊢
      obtain ⟨n', stored⟩ := r
      dsimp only at hu ⊢
      split_ifs <;> simpa [Node.unwritten, Node.setStatus] using hu
  · rfl

/-- Without a 200 or 206 header the cache file's bytes and flags stay as they were. -/
theorem streamGetTransaction_cache (c : SSLErrorCodes) {frl : Nat} (g : Bool) (s : NetState)
    (n : Node) {ev : GetEvent} (h : ev.storesBytes frl = false) :
    (streamGetTransaction c frl g s n ev).node.cache = n.cache ∧
      (streamGetTransaction c frl g s n ev).node.nodump = n.nodump := by
  cases hr : ev.reachesSwitch frl
  · rw [streamGetTransaction_frame c g s n hr]
    exact ⟨rfl, rfl⟩
  · simp only [GetEvent.storesBytes, hr, Bool.true_and] at h
    unfold streamGetTransaction
    split
    · exact ⟨rfl, rfl⟩
    split
    · split
      · exact ⟨rfl, rfl⟩
      split
      · exact ⟨rfl, rfl⟩
      split
      · exact ⟨rfl, rfl⟩
      next resp hresp =>
        simp only [hresp, Option.any_some, Bool.or_eq_false_iff, decide_eq_false_iff_not] at h
        simp [storeFirstBytes, h.1, h.2, Node.setStatus]
    · exact ⟨rfl, rfl⟩

/-- **What one pass of `network_open` does to the node.** It never touches `file_last_modified`
or `file_entity_tag`; it changes the cache file's bytes and flags only when a 200 or 206 header
arrived, and the node at all only when some header arrived. -/
theorem networkOpenPass_keeps (c : SSLErrorCodes) (frl : Nat) (g : Bool) (s : NetState)
    (n : Node) (ev : OpenPass) :
    (networkOpenPass c frl g s n ev).2.2.fileLastModified = n.fileLastModified ∧
      (networkOpenPass c frl g s n ev).2.2.fileEntityTag = n.fileEntityTag ∧
      ((ev.event n).storesBytes frl = false →
        (networkOpenPass c frl g s n ev).2.2.cache = n.cache ∧
          (networkOpenPass c frl g s n ev).2.2.nodump = n.nodump) ∧
      ((ev.event n).reachesSwitch frl = false → (networkOpenPass c frl g s n ev).2.2 = n) := by
  have hu := streamGetTransaction_unwritten c frl g s n (ev.event n)
  simp only [Node.unwritten, Prod.mk.injEq] at hu
  refine ⟨hu.1, hu.2.1, fun hs => ?_, fun hr => ?_⟩
  · exact streamGetTransaction_cache c g s n hs
  · exact streamGetTransaction_frame c g s n hr

/-! ## A failed `network_open` -/

section Frame

variable {σ ε ρ : Type}

/-- A relation that every pass's transaction keeps between the state before and after it holds
between the loop's start and its end. -/
theorem authLoop_world (c : SSLErrorCodes)
    (txn : NetState → σ → ε → Except Nat ρ × NetState × σ) (statusOf : ρ → Nat)
    (R : σ → σ → Prop) (hrefl : ∀ w, R w w)
    (htrans : ∀ {a b d}, R a b → R b d → R a d) (v : LoopVars σ ρ) (ps : List (Pass ε))
    (hps : ∀ p ∈ ps, ∀ s w, R w (txn s w p.event).2.2) :
    R v.world (authLoop c txn statusOf v ps).vars.world := by
  induction ps generalizing v with
  | nil => exact hrefl _
  | cons p ps ih =>
    have hp : R v.world (v.pass c txn statusOf p).2.world := by
      rw [LoopVars.pass_world]
      exact hps p (List.mem_cons_self _ _) _ _
    rcases authLoop_cons_cases c txn statusOf v p ps with
      ⟨-, h⟩ | ⟨-, -, h⟩ | ⟨-, -, -, h⟩ | ⟨-, -, -, h⟩ <;> rw [h]
    · exact hrefl _
    · exact hrefl _
    · exact htrans hp (ih _ fun p' hp' => hps p' (List.mem_cons_of_mem _ hp'))
    · exact hp

end Frame

/-- The node `network_open`'s loop ends with, when it fails, is the node it returns. -/
theorem networkOpen_error {c : SSLErrorCodes} {frl : Nat} {g : Bool} {env : OpenEnv}
    {s : NetState} {n : Node} {ps : List (Pass OpenPass)} {o : OpenResult}
    (h : networkOpen c frl g env s n ps = some o) (he : o.error ≠ 0) :
    o.node = (askServer env n).2 ∨
      o.node = (networkOpenLoop c frl g s (askServer env n).2 ps).vars.world := by
  unfold networkOpen at h
  dsimp only at h
  split at h
  · cases h
    exact absurd rfl he
  split at h
  · cases h
    exact .inl rfl
  obtain ⟨o', ho', rfl⟩ := Option.map_eq_some'.mp h
  obtain ⟨e, -, -, -, hv⟩ := LoopRun.outcome_error notModifiedAsOK ho'
  revert he
  split
  · exact fun he => absurd rfl he
  · exact fun _ => .inr (by rw [hv])

/-- **A failed `network_open` is framed.** With `n₁` the node after the `ask_server` decision
(after `get_from_attributes_cache` when it ran): when `network_open` returns an error,
`file_last_modified` and `file_entity_tag` are those of `n₁`; if no pass could receive a 200 or
206 header, the cache file's bytes and flags are those of `n₁`; and if no pass could receive a
header at all, the node is `n₁`. -/
theorem networkOpen_failure_frame (c : SSLErrorCodes) (frl : Nat) (g : Bool) (env : OpenEnv)
    (s : NetState) (n : Node) (ps : List (Pass OpenPass)) {o : OpenResult}
    (h : networkOpen c frl g env s n ps = some o) (he : o.error ≠ 0) :
    o.node.fileLastModified = (askServer env n).2.fileLastModified ∧
      o.node.fileEntityTag = (askServer env n).2.fileEntityTag ∧
      ((∀ p ∈ ps, ∀ q, (p.event.serve q).storesBytes frl = false) →
        o.node.cache = (askServer env n).2.cache ∧ o.node.nodump = (askServer env n).2.nodump) ∧
      ((∀ p ∈ ps, ∀ q, (p.event.serve q).reachesSwitch frl = false) →
        o.node = (askServer env n).2) := by
  rcases networkOpen_error h he with hn | hn
  · simp [hn]
  · rw [hn]
    have hmeta := authLoop_world c (networkOpenPass c frl g) (·.1.statusCode)
      (fun w w' => w'.fileLastModified = w.fileLastModified ∧ w'.fileEntityTag = w.fileEntityTag)
      (fun _ => ⟨rfl, rfl⟩) (fun h₁ h₂ => ⟨h₂.1.trans h₁.1, h₂.2.trans h₁.2⟩)
      (.initial s (askServer env n).2) ps
      fun p _ s w => ⟨(networkOpenPass_keeps c frl g s w p.event).1,
        (networkOpenPass_keeps c frl g s w p.event).2.1⟩
    refine ⟨hmeta.1, hmeta.2, fun hps => ?_, fun hps => ?_⟩
    · exact authLoop_world c (networkOpenPass c frl g) (·.1.statusCode)
        (fun w w' => w'.cache = w.cache ∧ w'.nodump = w.nodump)
        (fun _ => ⟨rfl, rfl⟩) (fun h₁ h₂ => ⟨h₂.1.trans h₁.1, h₂.2.trans h₁.2⟩)
        (.initial s (askServer env n).2) ps
        fun p hp s w => (networkOpenPass_keeps c frl g s w p.event).2.2.1 (hps p hp _)
    · exact (authLoop_world c (networkOpenPass c frl g) (·.1.statusCode) (fun w w' => w' = w)
        (fun _ => rfl)
        (fun h₁ h₂ => h₂.trans h₁) (.initial s (askServer env n).2) ps
        fun p hp s w => (networkOpenPass_keeps c frl g s w p.event).2.2.2 (hps p hp _))

/-- A read-only open of a partial download (cache file `[1]`) with no AppleDouble header cached,
whose one pass the server answers with 200 and the whole entity `[1, 2]`, and whose `lseek` fails
after the cache file is truncated: the run fails and keeps `file_last_modified` and
`file_entity_tag`; its pass could store bytes, so the cache file is not framed. -/
theorem networkOpen_failure_frame_truncated :
    let env : OpenEnv :=
      ⟨false, false, false, ⟨false, true, true, true, some 0, true⟩, true, 10, true⟩
    let n : Node := ⟨.aborted, false, [1], false, 5, none, 0, [], 0, 0⟩
    let ps : List (Pass OpenPass) := [⟨true, 0, 1, ⟨[], none⟩, ⟨true, fun _ =>
      ⟨.opened, true, ⟨[1, 2], [], none⟩, ⟨false, false⟩,
        some ⟨200, false, none, none⟩, ⟨true, true, false, some 2, true, true⟩⟩⟩⟩]
    let o : OpenResult := ⟨ EIO, ⟨.aborted, false, [], false, 5, none, 0, [], 0, 0⟩, none⟩
    networkOpen secureTransportCodes 4096 false env ⟨true, .up, none⟩ n ps = some o ∧
      o.error ≠ 0 ∧
      (o.node.fileLastModified = (askServer env n).2.fileLastModified ∧
        o.node.fileEntityTag = (askServer env n).2.fileEntityTag ∧
        ((∀ p ∈ ps, ∀ q, (p.event.serve q).storesBytes 4096 = false) →
          o.node.cache = (askServer env n).2.cache ∧
            o.node.nodump = (askServer env n).2.nodump) ∧
        ((∀ p ∈ ps, ∀ q, (p.event.serve q).reachesSwitch 4096 = false) →
          o.node = (askServer env n).2)) :=
  ⟨rfl, by decide,
    networkOpen_failure_frame secureTransportCodes 4096 false _ ⟨true, .up, none⟩ _ _ rfl
      (by decide)⟩

/-- **Failed runs that change the download state.** A read-only open of an aborted download
(cache file `[1]`, no AppleDouble header cached), asking `If-Range` for `5` and `Range: bytes=1-`:

- answered 200 with `[1, 2]`, the cache file's flags are cleared and it is truncated, then
  `lseek` fails: `EIO` with the cache file emptied;
- answered 404, the default branch of the status switch marks the download finished:
  `ENOENT` with `file_status` `WEBDAV_DOWNLOAD_FINISHED`;
- answered 200 with a first read of one byte, the download is marked in progress and the cache
  file `UF_NODUMP`, then `requestqueue_enqueue_download` fails: `EIO` with `file_status`
  `WEBDAV_DOWNLOAD_IN_PROGRESS` and `UF_NODUMP` set, and no download enqueued. -/
theorem networkOpen_failure_changes_node :
    let env : OpenEnv :=
      ⟨false, false, false, ⟨false, true, true, true, some 0, true⟩, true, 10, true⟩
    let n : Node := ⟨.aborted, false, [1], false, 5, none, 0, [], 0, 0⟩
    let answer : Nat → Bytes → LocalIO → Pass OpenPass := fun status body io =>
      ⟨true, 0, 1, ⟨[], none⟩, ⟨true, fun _ => ⟨.opened, true, ⟨body, [], none⟩, ⟨false, false⟩,
        some ⟨status, false, none, none⟩, io⟩⟩⟩
    getConditional n true = .ifRange 5 1 ∧
      networkOpen secureTransportCodes 4096 false env ⟨true, .up, none⟩ n
          [answer 200 [1, 2] ⟨true, true, false, some 2, true, true⟩] =
        some ⟨ EIO, { n with cache := [] }, none⟩ ∧
      networkOpen secureTransportCodes 4096 false env ⟨true, .up, none⟩ n
          [answer 404 [] ⟨true, true, true, some 0, true, true⟩] =
        some ⟨ENOENT, { n with fileStatus := .finished }, none⟩ ∧
      networkOpen secureTransportCodes 1 false env ⟨true, .up, none⟩ n
          [answer 200 [1, 2] ⟨true, true, true, some 1, true, false⟩] =
        some ⟨ EIO, { n with fileStatus := .inProgress, nodump := true }, none⟩ :=
  ⟨rfl, rfl, rfl, rfl⟩

end WebDAVFS
