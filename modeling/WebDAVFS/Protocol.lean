import WebDAVFS.AuthLoop
import WebDAVFS.Server

/-!
# The daemon's operations against the server

The operations of `Operations` run here against the server of `Server`: each call of
`send_transaction` delivers its request to the server and returns the server's status as
`translate_status_to_error` maps it (`serve`; `sendTransaction_answered` is that step for the
modelled `send_transaction`, on one pass that is answered). Between two calls of one operation
other clients may send requests of their own, and a call may fail before its request reaches
the server (`Turn`).

- `handleAll_wf`, `run_wf`: the requests of other clients keep a well-formed server well formed,
  and so does every operation under any interleaving.
- `run_sameAt`: whatever the interleaving, an operation changes the server's resources and locks
  only below the URLs and destinations of the requests sent; `networkRmdir_sameAt` is that for
  `network_rmdir`.
- `handleAll_sameAt_locked`, `networkLock_then_fsync_interleaved`: other clients' requests that
  do not carry a lock's token leave the locked URL and its lock as they were, so after
  `network_lock` the daemon's write-back succeeds whatever they send in between, and so does its
  `network_unlock` (`networkLock_then_unlock_interleaved`).
- `networkRmdir_quiet`: with no other client in between, a `network_rmdir` that returns `0`
  removed the directory's own entry and nothing else.
-/

namespace WebDAVFS

/-! ## Serving the calls -/

/-- What happens around one call of `send_transaction` besides the server's answer: the requests
of other clients the server handles first, and whether the call fails before its request reaches
the server, with the error it returns. -/
structure Turn where
  others : List Request
  fault : Option Nat

/-- The server after handling requests in order. -/
def DavServer.handleAll (srv : DavServer) (rs : List Request) : DavServer :=
  rs.foldl (fun srv r => (srv.handle r).2.2) srv

/-- One call of `send_transaction` answered by the server, with its status translated; the
turns, one per call, bring other clients and failures in, and once they run out nothing
interferes. -/
def serve (r : Request) : DavServer × List Turn → (Nat × Answer) × DavServer × List Turn
  | (srv, []) =>
    ((translateStatusToError (srv.handle r).1, (srv.handle r).2.1), (srv.handle r).2.2, [])
  | (srv, t :: ts) =>
    let srv := srv.handleAll t.others
    match t.fault with
    | some e => ((e, .none), srv, ts)
    | none =>
      ((translateStatusToError (srv.handle r).1, (srv.handle r).2.1), (srv.handle r).2.2, ts)

/-- A call with nothing in between is the server's answer. -/
@[simp] theorem serve_quiet (r : Request) (srv : DavServer) :
    serve r (srv, []) =
      ((translateStatusToError (srv.handle r).1, (srv.handle r).2.1), (srv.handle r).2.2, []) :=
  rfl

/-- **`send_transaction` answers with the translated status.** One pass whose message is made,
whose credentials apply, and whose transaction brings back a response other than a challenge
leaves the loop, and `send_transaction` returns that status translated. -/
theorem sendTransaction_answered (c : SSLErrorCodes) (g : Bool) (s : NetState)
    (p : Pass TransactionEvent) {reply : Reply} (hm : p.messageCreated = true)
    (ha : p.applyResult = 0)
    (hr : (streamTransaction c g (p.others.apply c { s with retryTransaction := true })
      p.event).1 = .ok reply)
    (h401 : reply.response.statusCode ≠ 401) (h407 : reply.response.statusCode ≠ 407) :
    (sendTransaction c g s [p]).map Prod.fst =
      some (translateStatusToError reply.response.statusCode) := by
  have hg : goesRound (·.response.statusCode) (Except.ok reply : Except Nat Reply) = false := by
    simp [goesRound, h401, h407]
  simp only [sendTransaction, sendTransactionLoop, authLoop, hm, ha, LoopVars.pass,
    sendTransactionPass, LoopVars.initial, hr, hg]
  simp [LoopRun.outcome, resultCode]

/-! ## Other clients keep the server well formed -/

theorem handleAll_wf {srv : DavServer} (hw : srv.Wf) :
    ∀ rs : List Request, (srv.handleAll rs).Wf
  | [] => hw
  | r :: rs => handleAll_wf (DavServer.handle_wf hw r) rs

theorem serve_wf (r : Request) {st : DavServer × List Turn} (hw : st.1.Wf) :
    (serve r st).2.1.Wf := by
  obtain ⟨srv, _ | ⟨t, ts⟩⟩ := st
  · exact DavServer.handle_wf hw r
  · unfold serve
    dsimp only
    split
    · exact handleAll_wf hw t.others
    · exact DavServer.handle_wf (handleAll_wf hw t.others) r

/-- **Under any interleaving, every operation leaves a well-formed server well formed.** -/
theorem run_wf {α : Type} : ∀ (x : Exchange α) (st : DavServer × List Turn), st.1.Wf →
    (x.run serve st).2.1.1.Wf
  | .done _, _, hw => hw
  | .send r k, st, hw => run_wf (k (serve r st).1) (serve r st).2 (serve_wf r hw)

/-! ## What a run leaves alone -/

section Frame

variable {v : Url}

/-- No other client's request in the turns reaches `v`. -/
def othersAvoid (ts : List Turn) (v : Url) : Prop :=
  ∀ t ∈ ts, ∀ r ∈ t.others, r.reaches v = false

instance (ts : List Turn) (v : Url) : Decidable (othersAvoid ts v) :=
  inferInstanceAs (Decidable (∀ t ∈ ts, ∀ r ∈ t.others, r.reaches v = false))

theorem handleAll_sameAt : ∀ (srv : DavServer) (rs : List Request),
    (∀ r ∈ rs, r.reaches v = false) → DavServer.SameAt v srv (srv.handleAll rs)
  | srv, [], _ => .refl v srv
  | _, r :: rs, h => (DavServer.handle_sameAt r (h r (List.mem_cons_self _ _))).trans
      (handleAll_sameAt _ rs fun r' hr' => h r' (List.mem_cons_of_mem _ hr'))

theorem serve_sameAt (r : Request) {st : DavServer × List Turn} (hts : othersAvoid st.2 v)
    (hr : r.reaches v = false) :
    DavServer.SameAt v st.1 (serve r st).2.1 ∧ othersAvoid (serve r st).2.2 v := by
  obtain ⟨srv, _ | ⟨t, ts⟩⟩ := st
  · exact ⟨DavServer.handle_sameAt r hr, fun _ h => absurd h (List.not_mem_nil _)⟩
  · have hothers := handleAll_sameAt srv t.others (hts t (List.mem_cons_self _ _))
    have hrest : othersAvoid ts v := fun t' ht' => hts t' (List.mem_cons_of_mem _ ht')
    unfold serve
    dsimp only
    split
    · exact ⟨hothers, hrest⟩
    · exact ⟨hothers.trans (DavServer.handle_sameAt r hr), hrest⟩

/-- **An operation changes the server only at what its requests reach**: whatever the
interleaving and whatever the server answers, when neither the operation's requests nor the
other clients' reach `v`, the server has the same resources and locks at `v` after the run as
before it. -/
theorem run_sameAt {α : Type} : ∀ (x : Exchange α) (st : DavServer × List Turn),
    othersAvoid st.2 v → (∀ r ∈ (x.run serve st).2.2, r.reaches v = false) →
    DavServer.SameAt v st.1 (x.run serve st).2.1.1
  | .done _, st, _, _ => .refl v st.1
  | .send r k, st, hts, hrs =>
    have hstep := serve_sameAt r hts (hrs r (List.mem_cons_self _ _))
    hstep.1.trans (run_sameAt (k (serve r st).1) (serve r st).2 hstep.2
      fun r' hr' => hrs r' (List.mem_cons_of_mem _ hr'))

/-- **Other clients cannot break a lock they do not hold**: requests that carry the token of a
lock on `v` neither in an `If` header nor as a `Lock-Token` leave the server's resources and
locks at `v` as they were, and the lock with them. -/
theorem handleAll_sameAt_locked {t : String} : ∀ (srv : DavServer) (rs : List Request),
    srv.Wf → srv.lockOf v = some t → (∀ r ∈ rs, t ∉ r.ifTokens ∧ r.lockTokenOf ≠ some t) →
    DavServer.SameAt v srv (srv.handleAll rs) ∧ (srv.handleAll rs).lockOf v = some t
  | srv, [], _, hl, _ => ⟨.refl v srv, hl⟩
  | srv, r :: rs, hw, hl, h => by
    obtain ⟨ht, hu⟩ := h r (List.mem_cons_self _ _)
    have hstep := DavServer.handle_sameAt_locked hw hl r ht hu
    have hw' := DavServer.handle_wf hw r
    have hl' := hw'.lockOf_of_mem ((hstep.locks t).mpr (DavServer.mem_of_lockOf hl))
    obtain ⟨hrest, hlock⟩ := handleAll_sameAt_locked _ rs hw' hl' fun r' hr' =>
      h r' (List.mem_cons_of_mem _ hr')
    exact ⟨hstep.trans hrest, hlock⟩

end Frame

/-! ## `network_rmdir` -/

section Rmdir

variable (uid : Nat) (url : Url) (srv : DavServer)

/-- The emptiness check against the server: `0` exactly for a collection without members. -/
theorem serve_dirIsEmpty_result :
    dirIsEmptyResult (serve (dirIsEmptyRequest uid url) (srv, [])).1 =
      if srv.present url then if srv.members url = [] then 0 else ENOTEMPTY else ENOENT := by
  have h404 : translateStatusToError 404 = ENOENT := by decide
  simp only [serve_quiet, DavServer.handle, dirIsEmptyRequest, Request.depthOf]
  by_cases hp : srv.present url
  · cases hm : srv.members url <;> simp [dirIsEmptyResult, hp, hm]
  · simp [dirIsEmptyResult, hp, DavServer.reply, h404]

/-- The emptiness check leaves the server as it was. -/
theorem serve_dirIsEmpty_server :
    (serve (dirIsEmptyRequest uid url) (srv, [])).2 = (srv, []) := by
  simp only [serve_quiet, DavServer.handle, dirIsEmptyRequest]
  split_ifs <;> rfl

/-- A `DELETE` the server accepts removes the URL and everything below it. -/
theorem serve_delete_ok (node : NodeEntry) (formatted : Bool)
    (h : (serve (deleteRequest uid url node formatted) (srv, [])).1.1 = 0) :
    (serve (deleteRequest uid url node formatted) (srv, [])).2 = (srv.removeBelow url, []) := by
  simp only [serve_quiet, DavServer.handle, deleteRequest] at h ⊢
  split_ifs at h ⊢ <;> first | rfl | (simp only [DavServer.reply] at h; exact absurd h (by decide))

end Rmdir

/-- **With no other client in between, `network_rmdir` removes the empty directory and nothing
else**: on a well-formed server, when it returns `0` the server has lost exactly the
directory's own entry. -/
theorem networkRmdir_quiet (mkUrl : UrlMaker) (uid : Nat) (node : NodeEntry) (formatted : Bool)
    {srv : DavServer} (hw : srv.Wf) {url : Url} (hurl : mkUrl node.fileid Option.none = some url)
    (h : ((networkRmdir mkUrl uid node formatted).run serve (srv, [])).1.1 = 0) :
    ((networkRmdir mkUrl uid node formatted).run serve (srv, [])).2.1.1.resources =
      srv.resources.filter (·.1 ≠ url) := by
  have hcheck := serve_dirIsEmpty_result uid url srv
  simp only [networkRmdir, hurl, networkDirIsEmpty, networkDelete, transact_bind,
    Exchange.bind_send, Exchange.pure_eq, Exchange.bind_done, Exchange.run_send,
    serve_dirIsEmpty_server] at h ⊢
  split_ifs at h ⊢ with he
  · simp only [Exchange.run_send, Exchange.run_done, datedResult] at h ⊢
    rw [serve_delete_ok uid url srv node formatted h]
    rw [he] at hcheck
    have hm : srv.members url = [] := by
      by_contra hm
      by_cases hp : srv.present url <;> simp [hp, hm] at hcheck
    refine List.filter_congr fun e he' => ?_
    by_cases hb : url <+: e.1
    · simp [hb, hw.below_eq_of_members hm (b := e.2) he' hb]
    · have hne : e.1 ≠ url := fun h => hb (h ▸ List.prefix_refl _)
      simp [hb, hne]
  · simp at h
    exact absurd h he

/-- The directory `d` removed beside the file `e`. -/
theorem networkRmdir_quiet_d :
    let srv : DavServer := ⟨[([], true), (["d"], true), (["e"], false)], [], 0, 0, 2⟩
    let node : NodeEntry := ⟨true, 1, Option.none, 0, -1, Option.none⟩
    ((networkRmdir (fun _ _ => some ["d"]) 1 node true).run serve (srv, [])).1.1 = 0 ∧
      ((networkRmdir (fun _ _ => some ["d"]) 1 node true).run serve (srv, [])).2.1.1.resources =
        srv.resources.filter (·.1 ≠ ["d"]) :=
  ⟨by decide, networkRmdir_quiet _ 1 _ true ⟨by decide, by decide, by decide⟩ rfl (by decide)⟩

/-- **`network_rmdir` changes nothing outside its directory**: whatever the interleaving and the
answers, the server keeps what is at every URL not below the directory's that no other client's
request reaches. -/
theorem networkRmdir_sameAt (mkUrl : UrlMaker) (uid : Nat) (node : NodeEntry) (formatted : Bool)
    {url v : Url} (hurl : mkUrl node.fileid Option.none = some url) (hv : ¬url <+: v)
    {st : DavServer × List Turn} (hts : othersAvoid st.2 v) :
    DavServer.SameAt v st.1 ((networkRmdir mkUrl uid node formatted).run serve st).2.1.1 := by
  refine run_sameAt _ st hts fun r hr => ?_
  have hsent : r = dirIsEmptyRequest uid url ∨ r = deleteRequest uid url node formatted := by
    simp only [networkRmdir, hurl, networkDirIsEmpty, networkDelete, transact_bind,
      Exchange.bind_send, Exchange.pure_eq, Exchange.bind_done, Exchange.run_send] at hr
    split_ifs at hr <;> simp_all
  rcases hsent with rfl | rfl
  · simp [Request.reaches, dirIsEmptyRequest, Request.destinationOf, hv]
  · unfold deleteRequest ifHeader
    split <;> (try split) <;> simp [Request.reaches, Request.destinationOf, hv]

/-- The removal of the directory `d` leaves its sibling `e` as it was, while another client puts
the file `f` before the emptiness check and makes the collection `g` before the `DELETE`. -/
theorem networkRmdir_sameAt_sibling :
    let srv : DavServer := ⟨[([], true), (["d"], true), (["e"], true)], [], 0, 0, 2⟩
    let node : NodeEntry := ⟨true, 1, Option.none, 0, -1, Option.none⟩
    let ts : List Turn :=
      [⟨[⟨2, ["f"], .put, .none, [.accept]⟩], Option.none⟩,
        ⟨[⟨2, ["g"], .mkcol, .none, [.accept]⟩], Option.none⟩]
    let o := (networkRmdir (fun _ _ => some ["d"]) 1 node true).run serve (srv, ts)
    o.1.1 = 0 ∧ o.2.1.1.resources = [(["g"], true), (["f"], false), ([], true), (["e"], true)] ∧
      ¬["d"] <+: ["e"] ∧ othersAvoid ts ["e"] ∧ DavServer.SameAt ["e"] srv o.2.1.1 :=
  ⟨by decide, by decide, by decide, by decide,
    @networkRmdir_sameAt _ 1 _ true _ _ rfl (by decide) (_, _) (by decide)⟩

/-! ## Locks -/

section Locks

variable (mkUrl : UrlMaker) (uid : Nat) {srv : DavServer} {url : Url}

/-- **A new lock's token is the server's.** With no other client in between, `network_lock` of a
resource no lock names returns `0`, the server grants its next token, and the node records it
with `uid` as its owner. -/
theorem networkLock_quiet (node : NodeEntry) (timeout : String) (tokenFormatted : Bool)
    (hurl : mkUrl node.fileid Option.none = some url) (hp : srv.present url = true)
    (hl : srv.lockOf url = Option.none) :
    let t := "opaquelocktoken:" ++ toString srv.nextToken
    (networkLock mkUrl uid false node timeout true tokenFormatted).run serve (srv, []) =
      ((0, { node with lockToken := some t, lockTokenUid := uid }), (srv.addLock url t, []),
        [lockRequest uid false node url timeout]) := by
  simp [networkLock, hurl, lockRequest, DavServer.handle, hp, hl, lockResult]

theorem fsyncRequest_ifTokens (node : NodeEntry) :
    (fsyncRequest uid url node true).ifTokens = node.lockToken.toList := by
  unfold fsyncRequest ifHeader
  split <;> simp_all [Request.ifTokens]

/-- **A lock keeps other clients from breaking the daemon's write-back.** After `network_lock`
of a file with no lock on it, whatever requests other clients send before the daemon's
`network_fsync` of the node that holds the lock, as long as none carries the lock's token, the
write-back returns `0`. -/
theorem networkLock_then_fsync_interleaved (node : NodeEntry) (timeout : String)
    (tokenFormatted : Bool) (others : List Request) (hw : srv.Wf)
    (hurl : mkUrl node.fileid Option.none = some url) (hfile : srv.isCollection url = false)
    (hp : srv.present url = true) (hl : srv.lockOf url = Option.none)
    (hothers : ∀ r ∈ others, "opaquelocktoken:" ++ toString srv.nextToken ∉ r.ifTokens ∧
      r.lockTokenOf ≠ some ("opaquelocktoken:" ++ toString srv.nextToken)) :
    let o₁ := (networkLock mkUrl uid false node timeout true tokenFormatted).run serve (srv, [])
    let o₂ := (networkFsyncNode mkUrl uid o₁.1.2 true).run serve
      (o₁.2.1.1, [⟨others, Option.none⟩])
    o₁.1.1 = 0 ∧ o₂.1.1 = 0 := by
  rw [networkLock_quiet mkUrl uid node timeout tokenFormatted hurl hp hl]
  dsimp only
  generalize "opaquelocktoken:" ++ toString srv.nextToken = t at hothers ⊢
  refine ⟨rfl, ?_⟩
  have hw₁ : (srv.addLock url t).Wf := hw.addLock hp hl t
  have hl₁ : (srv.addLock url t).lockOf url = some t := by
    simp [DavServer.lockOf, DavServer.addLock]
  obtain ⟨hsame, hl₂⟩ := handleAll_sameAt_locked _ others hw₁ hl₁ hothers
  have hw₂ := handleAll_wf hw₁ others
  -- the file is still a file on the server the `PUT` reaches
  have hc₂ : ((srv.addLock url t).handleAll others).isCollection url = false :=
    Bool.eq_false_iff.mpr fun h => Bool.false_ne_true <|
      hfile.symm.trans (DavServer.isCollection_of_keeps (fun b => (hsame.resources b).mp) h)
  rw [(networkFsyncNode_result serve _ mkUrl uid
    { node with lockToken := some t, lockTokenUid := uid } true hurl).1]
  simp only [serve]
  rw [DavServer.handle_put_ok rfl hc₂ (hw₂.parentOk ?_)
    (by simpa [fsyncRequest_ifTokens] using hw₂.permits_file hc₂ hl₂)]
  · split <;> simp
  · exact hw₂.locked _ (DavServer.mem_of_lockOf hl₂)

/-- Another client's `PUT` of the file between the daemon's `LOCK` and its write-back. -/
theorem networkLock_then_fsync_interleaved_put :
    let srv : DavServer := ⟨[([], true), (["f"], false)], [], 0, 0, 2⟩
    let node : NodeEntry := ⟨false, 1, Option.none, 0, -1, Option.none⟩
    let put : Request := ⟨2, ["f"], .put, .none, [.accept]⟩
    let o₁ := (networkLock (fun _ _ => some ["f"]) 1 false node "Second-600" true true).run serve
      (srv, [])
    let o₂ := (networkFsyncNode (fun _ _ => some ["f"]) 1 o₁.1.2 true).run serve
      (o₁.2.1.1, [⟨[put], Option.none⟩])
    o₁.1.1 = 0 ∧ o₂.1.1 = 0 :=
  networkLock_then_fsync_interleaved _ 1 _ _ true [_] ⟨by decide, by decide, by decide⟩ rfl
    (by decide) (by decide) (by decide) (by decide)

/-- **A lock outlives other clients until the daemon's `UNLOCK`.** After `network_lock` of a
resource no lock names, whatever requests other clients send before the daemon's
`network_unlock` of the node that holds the lock, as long as none carries the lock's token, the
`UNLOCK` returns `0`: the server still holds the lock and releases it, and the node forgets its
token. -/
theorem networkLock_then_unlock_interleaved (node : NodeEntry) (timeout : String)
    (tokenFormatted : Bool) (others : List Request) (hw : srv.Wf)
    (hurl : mkUrl node.fileid Option.none = some url) (hp : srv.present url = true)
    (hl : srv.lockOf url = Option.none)
    (hothers : ∀ r ∈ others, "opaquelocktoken:" ++ toString srv.nextToken ∉ r.ifTokens ∧
      r.lockTokenOf ≠ some ("opaquelocktoken:" ++ toString srv.nextToken)) :
    let o₁ := (networkLock mkUrl uid false node timeout true tokenFormatted).run serve (srv, [])
    let o₂ := (networkUnlock mkUrl o₁.1.2 true).run serve (o₁.2.1.1, [⟨others, Option.none⟩])
    o₁.1.1 = 0 ∧ o₂.1.1 = 0 ∧ o₂.2.1.1.lockOf url = Option.none ∧
      o₂.1.2.lockToken = Option.none := by
  rw [networkLock_quiet mkUrl uid node timeout tokenFormatted hurl hp hl]
  dsimp only
  generalize "opaquelocktoken:" ++ toString srv.nextToken = t at hothers ⊢
  have hl₁ : (srv.addLock url t).lockOf url = some t := by
    simp [DavServer.lockOf, DavServer.addLock]
  -- other clients leave the lock in place, so the `UNLOCK` names it
  obtain ⟨-, hl₂⟩ := handleAll_sameAt_locked _ others (hw.addLock hp hl t) hl₁ hothers
  let n : NodeEntry := { node with lockToken := some t, lockTokenUid := uid }
  have hm : (unlockRequest n url).method = .unlock := rfl
  have hu : (unlockRequest n url).url = url := rfl
  have htok : (unlockRequest n url).lockTokenOf = some t := rfl
  have h204 : translateStatusToError 204 = 0 := by decide
  have hdrop : ∀ s : DavServer, (s.dropLock url).lockOf url = Option.none := fun s => by
    simp [DavServer.lockOf, DavServer.dropLock, List.find?_filter]
  simp [n, networkUnlock, hurl, serve, DavServer.handle, hm, hu, htok, hl₂, h204, hdrop,
    NodeEntry.unlocked]

/-- Between the daemon's `LOCK` and `UNLOCK` of the file `f`, another client's `PUT` of `f`,
without the token, is refused, and its `MKCOL` of `g` goes through. -/
theorem networkLock_then_unlock_interleaved_others :
    let srv : DavServer := ⟨[([], true), (["f"], false)], [], 0, 0, 2⟩
    let node : NodeEntry := ⟨false, 1, Option.none, 0, -1, Option.none⟩
    let others : List Request :=
      [⟨2, ["f"], .put, .none, [.accept]⟩, ⟨2, ["g"], .mkcol, .none, [.accept]⟩]
    let o₁ := (networkLock (fun _ _ => some ["f"]) 1 false node "Second-600" true true).run serve
      (srv, [])
    let o₂ := (networkUnlock (fun _ _ => some ["f"]) o₁.1.2 true).run serve
      (o₁.2.1.1, [⟨others, Option.none⟩])
    o₂.2.1.1.resources = [(["g"], true), ([], true), (["f"], false)] ∧
      o₁.1.1 = 0 ∧ o₂.1.1 = 0 ∧ o₂.2.1.1.lockOf ["f"] = Option.none ∧
      o₂.1.2.lockToken = Option.none :=
  ⟨by decide, networkLock_then_unlock_interleaved _ 1 _ _ true _ ⟨by decide, by decide, by decide⟩
    rfl (by decide) (by decide) (by decide)⟩

end Locks

end WebDAVFS
