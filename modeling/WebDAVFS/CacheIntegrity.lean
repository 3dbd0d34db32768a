import WebDAVFS.Open

/-!
# Download-cache integrity

A node's cache is meant to mirror the server's resource: a finished download holds the entity
its `file_last_modified` names, a partial one (in progress or aborted) a prefix of it
(`CacheConsistent`). The server may answer each `GET` as RFC 2616 allows (`rfcAllows`): 200 with
the entity, 206 with its suffix from the `Range` offset only when `If-Range` names the current
date, 304 only when `If-Modified-Since` is not older than it, or any other status.

`stream_get_transaction` stores bytes for 200 and 206 only, and marks the download finished for
every other status (`streamGetTransaction_marks_finished`). That is right for 304, which is only
sent for a finished download, but a 401/407 challenge to the `If-Range` request of a partial
download marks it finished too, and the retry then asks `If-Modified-Since`.

- `streamGetTransaction_marks_finished`: every header other than 200 and 206 marks the download
  finished and leaves the cache file as it was.
- `challenge_finishes_partial_cache`: a partial download refreshed through one 401 challenge and
  a 304 ends finished, with `network_open` returning `0`, while its cache file holds a strict
  prefix of the entity.
- `streamGetTransaction_206_short_write`: a 206 can break it too. The 200 case checks that
  `write` stored every byte, the 206 case only that it did not fail, and a short write leaves a
  finished download with a hole in it.
- `completeDownload_consistent`: the worker leaves a prefix of the cache file and the rest of the
  body, all of it when it marks the download finished.
- `streamGetTransaction_200_consistent`, `streamGetTransaction_206_consistent`: a success with an
  answer RFC 2616 allows leaves the cache consistent, before and after the worker's run; for a
  206 only when the first bytes are written in full.
-/

namespace WebDAVFS

/-- The answers RFC 2616 lets a server give to a `GET` with conditional headers `q` when it holds
`entity`, last modified at `lastModified`: the status code and the body. -/
def rfcAllows (entity : Bytes) (lastModified : Int) (q : Conditional) (status : Nat)
    (body : Bytes) : Bool :=
  match status, q with
  | 200, _ => body = entity
  | 206, .ifRange date offset => date = lastModified && body = entity.drop offset
  | 206, _ => false
  | 304, .ifModifiedSince date => lastModified ≤ date
  | 304, _ => false
  | _, _ => true

/-- The cache invariant: a finished download holds the entity named by its
`file_last_modified`, a partial one a prefix of it. `version t` is the entity the resource had
when it was last modified at `t`. -/
def CacheConsistent (version : Int → Bytes) (n : Node) : Prop :=
  (n.fileStatus = .finished → n.cache = version n.fileLastModified) ∧
    (n.fileStatus = .inProgress ∨ n.fileStatus = .aborted →
      n.cache <+: version n.fileLastModified)

instance (version : Int → Bytes) (n : Node) : Decidable (CacheConsistent version n) :=
  inferInstanceAs (Decidable (_ ∧ _))

/-- **Every other status marks the download finished.** A header other than 200 and 206 reaching
the status switch of `stream_get_transaction` marks the download finished, leaves the cache file
as it was, and is returned as a success: a 304, but also a 401/407 challenge or an error status. -/
theorem streamGetTransaction_marks_finished (c : SSLErrorCodes) (frl : Nat) {g : Bool}
    {s : NetState} (n : Node) {ev : GetEvent} {resp : Response}
    (hup : ¬(g = true ∧ s.connection = .down)) (hreach : ev.reachesSwitch frl = true)
    (hresp : ev.response = some resp) (h200 : resp.statusCode ≠ 200)
    (h206 : resp.statusCode ≠ 206) :
    (streamGetTransaction c frl g s n ev).result = .ok resp ∧
      (streamGetTransaction c frl g s n ev).node = n.setStatus .finished := by
  simp only [GetEvent.reachesSwitch, Bool.and_eq_true, decide_eq_true_eq] at hreach
  obtain ⟨⟨⟨hop, hm⟩, hfr⟩, -⟩ := hreach
  obtain ⟨⟨buffer, more, rest⟩, hread⟩ :
      ∃ x, firstRead frl (ev.body.pending.length + 1) [] ev.body = .ok x := by
    cases h : firstRead frl (ev.body.pending.length + 1) [] ev.body with
    | error e => simp [h, Except.isOk, Except.toBool] at hfr
    | ok x => exact ⟨x, rfl⟩
  have hg : (g && decide (s.connection = .down)) = false := by
    cases g <;> simp_all
  simp [streamGetTransaction, hg, hop, openStreamForTransaction, hm, hread, hresp,
    storeFirstBytes, h200, h206]

/-- A read-only open of an aborted download whose cache file `[1]` is a prefix of the entity
`[1, 2]` last modified at `5`. The `If-Range` request is challenged with 401, which marks the
download finished with nothing written; the retry then carries `If-Modified-Since` for `5`, to
which the server may answer 304. `network_open` returns `0` and the node claims a finished
download of `[1, 2]` while its cache file holds `[1]`. -/
theorem challenge_finishes_partial_cache :
    let n₀ : Node := ⟨.aborted, false, [1], false, 5, none, 0, [], 0, 0⟩
    let n₁ : Node := ⟨.finished, false, [1], false, 5, none, 0, [], 0, 0⟩
    let env : OpenEnv :=
      ⟨false, false, false, ⟨false, true, true, true, some 0, true⟩, true, 10, true⟩
    let answer : Nat → Bytes → GetEvent := fun status body =>
      ⟨.opened, true, ⟨body, [], none⟩, ⟨false, false⟩,
        some ⟨status, false, none, none⟩,
        ⟨true, true, true, some body.length, true, true⟩⟩
    let challenge : Pass OpenPass :=
      ⟨true, 0, 1, ⟨[], none⟩, ⟨true, fun _ => answer 401 []⟩⟩
    let revalidate : Pass OpenPass := ⟨true, 0, 2, ⟨[], none⟩, ⟨true, fun q =>
      if q = .ifModifiedSince 5 then answer 304 [] else answer 200 [1, 2]⟩⟩
    CacheConsistent (fun _ => [1, 2]) n₀ ∧
      getConditional n₀ true = .ifRange 5 1 ∧
      rfcAllows [1, 2] 5 (.ifRange 5 1) 401 [] = true ∧
      (streamGetTransaction secureTransportCodes 4096 false ⟨true, .up, none⟩ n₀
        (answer 401 [])).node = n₁ ∧
      getConditional n₁ true = .ifModifiedSince 5 ∧
      rfcAllows [1, 2] 5 (.ifModifiedSince 5) 304 [] = true ∧
      networkOpen secureTransportCodes 4096 false env ⟨true, .up, none⟩ n₀
          [challenge, revalidate] = some ⟨0, { n₁ with fileValidatedTime := 10 }, none⟩ ∧
      ¬CacheConsistent (fun _ => [1, 2]) { n₁ with fileValidatedTime := 10 } :=
  ⟨by decide, rfl, rfl, rfl, rfl, by decide, rfl, by decide⟩

/-- A 206 written short. An aborted download whose cache file `[1]` is a prefix of the entity
`[1, 2, 3, 4]` is resumed with `If-Range` and `Range: bytes=1-`, and the server answers 206 with
`[2, 3, 4]`, as RFC 2616 allows. The first read takes `[2, 3]`, of which `write` stores one byte,
as it may when the disk fills, and the `>= 0` check accepts that; the worker appends `[4]`, and
the download ends finished with `[1, 2, 4]`. -/
theorem streamGetTransaction_206_short_write :
    let n₀ : Node := ⟨.aborted, false, [1], false, 5, none, 0, [], 0, 0⟩
    let ev : GetEvent := ⟨.opened, true, ⟨[2, 3, 4], [], none⟩, ⟨false, false⟩,
      some ⟨206, false, none, none⟩, ⟨true, true, true, some 1, true, true⟩⟩
    let o := streamGetTransaction secureTransportCodes 2 false ⟨true, .up, none⟩ n₀ ev
    let env : FinishEnv := ⟨true, none, fun _ => some 1⟩
    CacheConsistent (fun _ => [1, 2, 3, 4]) n₀ ∧
      rfcAllows [1, 2, 3, 4] 5 (.ifRange 5 1) 206 [2, 3, 4] = true ∧
      o.result = .ok ⟨206, false, none, none⟩ ∧
      (o.settled env).fileStatus = .finished ∧ (o.settled env).cache = [1, 2, 4] ∧
      ¬CacheConsistent (fun _ => [1, 2, 3, 4]) (o.settled env) :=
  ⟨by decide, rfl, rfl, rfl, rfl, by decide⟩

/-! ## Where the cache stays consistent -/

/-- **The worker keeps a prefix.** After the request queue's worker ran on a stream read in cuts
that are never empty, the cache file holds a prefix of what it held followed by the rest of the
body, and all of it once the download is marked finished. -/
theorem completeDownload_consistent (env : FinishEnv) (n : Node) {s : BodyStream}
    (hc : ∀ k ∈ s.cuts, 0 < k) :
    CacheConsistent (fun _ => n.cache ++ s.pending) (completeDownload env n s) := by
  unfold completeDownload networkFinishDownload
  cases env.mallocOk
  · simp only [Bool.not_false, ↓reduceIte]
    exact ⟨fun h => absurd ((@finishDownloadStatus_eq_finished EIO).mp h) (by decide),
      fun _ => List.prefix_append _ _⟩
  · obtain ⟨p, hcache, hp, hdone⟩ := @finishLoop_appends env (s.pending.length + 1) 0 n.cache s hc
    simp only [Bool.not_true, Bool.false_eq_true, ↓reduceIte]
    generalize finishLoop env (s.pending.length + 1) 0 n.cache s = x at hcache hdone ⊢
    obtain ⟨r, cache⟩ := x
    dsimp only at hcache hdone ⊢
    subst hcache
    refine ⟨fun hfin => ?_, fun _ => (List.prefix_append_right_inj n.cache).mpr hp⟩
    rw [hdone (finishDownloadStatus_eq_finished.mp hfin)]
    rfl

/-- A success whose status stored the first bytes on top of `base`, on a body that reaches the
stream whole, leaves the cache consistent with `base` followed by the body: before the worker's
run, and after it. -/
theorem streamGetTransaction_consistent {c : SSLErrorCodes} {frl : Nat} {g : Bool}
    {s : NetState} {n : Node} {ev : GetEvent} {resp : Response} (env : FinishEnv) {base : Bytes}
    (h : (streamGetTransaction c frl g s n ev).result = .ok resp)
    (hstatus : resp.statusCode = 200 ∨ resp.statusCode = 206)
    (hend : ev.body.ending = none) (hcuts : ∀ k ∈ ev.body.cuts, 0 < k) (hfrl : 0 < frl)
    (hstore : ∀ buffer, buffer.length = min frl ev.body.pending.length →
      (storeFirstBytes n resp.statusCode buffer ev.io).2 = true →
      (storeFirstBytes n resp.statusCode buffer ev.io).1.cache = base ++ buffer) :
    CacheConsistent (fun _ => base ++ ev.body.pending) (streamGetTransaction c frl g s n ev).node ∧
      CacheConsistent (fun _ => base ++ ev.body.pending)
        ((streamGetTransaction c frl g s n ev).settled env) := by
  obtain ⟨buffer, more, rest, hread, -, hstored, hcase⟩ := streamGetTransaction_ok h
  obtain ⟨buffer', rest', hread', hcons, hlen, -, hrcuts⟩ :=
    @firstRead_ok frl (ev.body.pending.length + 1) [] ev.body hend hcuts hfrl (by omega)
  rw [hread'] at hread
  simp only [Except.ok.injEq, Prod.mk.injEq] at hread
  obtain ⟨rfl, rfl, rfl⟩ := hread
  simp only [List.nil_append, List.length_nil, zero_add] at hcons hlen
  have hcache := hstore buffer' hlen hstored
  have hentity : base ++ ev.body.pending = base ++ buffer' ++ rest'.pending := by
    rw [List.append_assoc, hcons]
  rcases hcase with ⟨-, hnode, hoff⟩ | ⟨hmore, hnode, hoff⟩
  · -- handed off: in progress, then the worker's run
    have hprog : CacheConsistent (fun _ => base ++ ev.body.pending)
        (streamGetTransaction c frl g s n ev).node := by
      rw [hnode, hentity]
      exact ⟨fun h => by simp [Node.setStatus] at h, fun _ => by
        simp [Node.setStatus, hcache]⟩
    refine ⟨hprog, ?_⟩
    have hw := completeDownload_consistent env (streamGetTransaction c frl g s n ev).node hrcuts
    simp only [GetOutcome.settled, hoff]
    rw [hnode] at hw ⊢
    simpa [Node.setStatus, hcache, hentity] using hw
  · -- finished: the first read took the whole body
    have hall : rest'.pending = [] := by
      rcases hstatus with hs | hs <;> simpa [hs] using hmore
    have hfin : CacheConsistent (fun _ => base ++ ev.body.pending)
        (streamGetTransaction c frl g s n ev).node := by
      rw [hnode, hentity, hall]
      exact ⟨fun _ => by simp [Node.setStatus, hcache], fun h => by simp [Node.setStatus] at h⟩
    refine ⟨hfin, ?_⟩
    simpa only [GetOutcome.settled, hoff] using hfin

/-- **An honest 200 leaves a consistent cache.** A `GET` that succeeds with 200, its body the
entity as RFC 2616 requires and reaching the stream whole, leaves the cache file holding a prefix
of the entity, all of it once the download is marked finished, before and after the worker's
run: the first bytes are written from offset `0` and the `write` is checked to be full. -/
theorem streamGetTransaction_200_consistent {c : SSLErrorCodes} {frl : Nat} {g : Bool}
    {s : NetState} {n : Node} {ev : GetEvent} {resp : Response} (env : FinishEnv)
    {entity : Bytes} {lastModified : Int} {q : Conditional}
    (h : (streamGetTransaction c frl g s n ev).result = .ok resp) (h200 : resp.statusCode = 200)
    (hserver : rfcAllows entity lastModified q resp.statusCode ev.body.pending = true)
    (hend : ev.body.ending = none) (hcuts : ∀ k ∈ ev.body.cuts, 0 < k) (hfrl : 0 < frl) :
    CacheConsistent (fun _ => entity) (streamGetTransaction c frl g s n ev).node ∧
      CacheConsistent (fun _ => entity) ((streamGetTransaction c frl g s n ev).settled env) := by
  have hbody : ev.body.pending = entity := by simpa [h200, rfcAllows] using hserver
  have hstore : ∀ buffer : Bytes, buffer.length = min frl ev.body.pending.length →
      (storeFirstBytes n resp.statusCode buffer ev.io).2 = true →
      (storeFirstBytes n resp.statusCode buffer ev.io).1.cache = [] ++ buffer := fun _ _ hs => by
    rw [h200] at hs ⊢
    exact storeFirstBytes_200 hs
  simpa [hbody] using
    @streamGetTransaction_consistent c frl g s n ev resp env [] h (.inl h200) hend hcuts hfrl hstore

/-- **A 206 written in full leaves a consistent cache.** A `GET` with `If-Range` and a `Range`
from the end of a cache file that is a prefix of the entity, answered with 206 and the entity's
suffix from there, as RFC 2616 requires, leaves the cache consistent, before and after the
worker's run, provided the `write` of the first bytes stores all of them. -/
theorem streamGetTransaction_206_consistent {c : SSLErrorCodes} {frl : Nat} {g : Bool}
    {s : NetState} {n : Node} {ev : GetEvent} {resp : Response} (env : FinishEnv)
    {entity : Bytes} {lastModified date : Int}
    (h : (streamGetTransaction c frl g s n ev).result = .ok resp) (h206 : resp.statusCode = 206)
    (hserver : rfcAllows entity lastModified (.ifRange date n.cache.length) resp.statusCode
      ev.body.pending = true)
    (hcached : n.cache <+: entity) (hfull : ev.io.written = some (min frl ev.body.pending.length))
    (hend : ev.body.ending = none) (hcuts : ∀ k ∈ ev.body.cuts, 0 < k) (hfrl : 0 < frl) :
    CacheConsistent (fun _ => entity) (streamGetTransaction c frl g s n ev).node ∧
      CacheConsistent (fun _ => entity) ((streamGetTransaction c frl g s n ev).settled env) := by
  have hentity : n.cache ++ ev.body.pending = entity := by
    obtain ⟨t, rfl⟩ := hcached
    simp_all [rfcAllows]
  have hstore : ∀ buffer : Bytes, buffer.length = min frl ev.body.pending.length →
      (storeFirstBytes n resp.statusCode buffer ev.io).2 = true →
      (storeFirstBytes n resp.statusCode buffer ev.io).1.cache = n.cache ++ buffer :=
    fun buffer hlen hs => by
      rw [h206] at hs ⊢
      obtain ⟨w, hw, hcache⟩ := storeFirstBytes_206 hs
      obtain rfl : w = buffer.length := by rw [hlen]; simpa [hfull] using hw.symm
      rw [hcache, List.take_length]
  rw [← hentity]
  exact @streamGetTransaction_consistent c frl g s n ev resp env n.cache h (.inr h206) hend hcuts
    hfrl hstore

end WebDAVFS
