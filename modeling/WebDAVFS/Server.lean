import WebDAVFS.Operations

/-!
# A WebDAV server (RFC 2518)

The server the daemon talks to is not in the repository. This module models one, from RFC 2518,
for the requests the operations of `Operations` send, so that what an operation does can be
followed to the server's resources. The server holds resources at the base URL and under it,
each a file or a collection (the base URL is a resource like the others: it may be a
collection, a file, or absent), exclusive write locks of depth 0, each on one URL with one token,
and a clock, which it sends as the `Date` of every response and as the `getlastmodified` of every
resource; it sends no `ETag`.

RFC 2518 is followed where the operations depend on it: a depth-1 `PROPFIND` lists a collection
and its members (§8.1); `DELETE` of a collection deletes it and everything below it (§8.6.2), and
`MOVE` moves it with everything below it, deleting what was at the destination (§8.9); a request
that would change or remove a locked resource must carry the lock's token in its `If` header
(§7.5), and `UNLOCK` must carry it in `Lock-Token` (§8.11). A `LOCK` of an absent URL, which
RFC 2518 answers with a lock-null resource, is refused here with 404.

- `handle_change`: what a request can do to the server, one `DavServer.Change` with the
  conditions the server checks; the results below are derived from it.
- `DavServer.Wf`: the parent of every resource below the base URL is a collection, every lock
  is on a resource, and no URL carries two locks.
- `handle_wf`: every request keeps that.
- `Wf.below_eq_of_members`: on such a server a collection without members has nothing below it.
- `handle_sameAt`: a request changes the resources and locks only at URLs below its URL or its
  destination.
- `handle_sameAt_locked`: a request that does not carry the token of a lock leaves the locked
  URL as it was; `Wf.permits_file`: the token of a file's lock is all a request needs to change
  the file.
-/

namespace WebDAVFS

/-- The server's state. -/
structure DavServer where
  /-- The resources, each with whether it is a collection; the base URL `[]` is among them when
  the server has it. -/
  resources : List (Url × Bool)
  /-- The write locks: the URL and the token. -/
  locks : List (Url × String)
  /-- The number the next lock token is made from. -/
  nextToken : Nat
  /-- What the `Date` header says. -/
  now : Int
  /-- The compliance classes of the `DAV` header, as `ParseDAVLevel` reads them. -/
  davLevel : Nat
  deriving DecidableEq, Repr

/-! ## Reading the request -/

namespace Request

/-- The tokens of the request's `If` header. -/
def ifTokens (r : Request) : List String :=
  r.headers.filterMap fun | .ifToken t => some t | _ => none

/-- The `Depth` header, `1` without one (RFC 2518 reads a missing `Depth` as infinity; the
server only tells depth `0` from the rest). -/
def depthOf (r : Request) : Nat :=
  (r.headers.findSome? fun | .depth d => some d | _ => none).getD 1

/-- The `Destination` header. -/
def destinationOf (r : Request) : Option Url :=
  r.headers.findSome? fun | .destination d => some d | _ => none

/-- The `Lock-Token` header. -/
def lockTokenOf (r : Request) : Option String :=
  r.headers.findSome? fun | .lockToken t => some t | _ => none

/-- The request's URL or its destination is `v` or above it: RFC 2518 lets it change what is
at `v`. -/
def reaches (r : Request) (v : Url) : Bool :=
  r.url <+: v || r.destinationOf.any (· <+: v)

end Request

/-! ## The server's resources -/

namespace DavServer

/-- `u` names a collection. -/
def isCollection (srv : DavServer) (u : Url) : Bool :=
  (u, true) ∈ srv.resources

/-- `u` names a resource. -/
def present (srv : DavServer) (u : Url) : Bool :=
  srv.resources.any (·.1 = u)

/-- The parent of `u` is a collection. The parent of the base URL lies outside the mount; the
server is taken to have it. -/
def parentOk (srv : DavServer) (u : Url) : Bool :=
  u = [] || srv.isCollection u.dropLast

/-- The members of `u`: the resources whose parent it is. -/
def members (srv : DavServer) (u : Url) : List (Url × Bool) :=
  srv.resources.filter fun e => e.1 ≠ [] && e.1.dropLast = u

/-- The lock on `u`. -/
def lockOf (srv : DavServer) (u : Url) : Option String :=
  (srv.locks.find? (·.1 = u)).map (·.2)

/-- Every lock on `u` or below it has its token among `tokens`. -/
def permits (srv : DavServer) (tokens : List String) (u : Url) : Bool :=
  srv.locks.all fun l => !(u <+: l.1) || l.2 ∈ tokens

/-- The server without `u` and what is below it. -/
def removeBelow (srv : DavServer) (u : Url) : DavServer :=
  { srv with
    resources := srv.resources.filter fun e => !(u <+: e.1)
    locks := srv.locks.filter fun l => !(u <+: l.1) }

/-- The URL `v` moved from below `u` to below `d`. -/
def moveUrl (u d v : Url) : Url :=
  if u <+: v then d ++ v.drop u.length else v

/-- The server after `u` and what is below it moved to `d`, what was at `d` deleted; locks do
not move (RFC 2518 §7.7). -/
def moveBelow (srv : DavServer) (u d : Url) : DavServer :=
  let srv := srv.removeBelow d
  { srv with
    resources := srv.resources.map fun e => (moveUrl u d e.1, e.2)
    locks := srv.locks.filter fun l => !(u <+: l.1) }

/-- The server after a `PUT` of `u`. -/
def putFile (srv : DavServer) (u : Url) : DavServer :=
  { srv with resources := (u, false) :: srv.resources.filter (·.1 ≠ u) }

/-- The server after a `MKCOL` of `u`. -/
def makeCollection (srv : DavServer) (u : Url) : DavServer :=
  { srv with resources := (u, true) :: srv.resources }

/-- The server after granting a lock on `u`. -/
def addLock (srv : DavServer) (u : Url) (token : String) : DavServer :=
  { srv with locks := (u, token) :: srv.locks, nextToken := srv.nextToken + 1 }

/-- The server after removing the lock on `u`. -/
def dropLock (srv : DavServer) (u : Url) : DavServer :=
  { srv with locks := srv.locks.filter (·.1 ≠ u) }

/-- A reply with a status and the `Date` header only. -/
def reply (srv : DavServer) (status : Nat) : Nat × Answer × DavServer :=
  (status, { Answer.none with date := some srv.now }, srv)

/-- What the server does with a request: the status, the answer the daemon's parsers read from
the response, and the server after it. -/
def handle (srv : DavServer) (r : Request) : Nat × Answer × DavServer :=
  let u := r.url
  let answer : Answer := { Answer.none with date := some srv.now }
  match r.method with
  | .options => (200, { answer with davLevel := srv.davLevel }, srv)
  | .propfind =>
    if !srv.present u then srv.reply 404
    else
      (207, { answer with
        stat := (0, ⟨srv.isCollection u, 0⟩)
        fileCount := (0, if r.depthOf = 0 then 1 else 1 + (srv.members u).length)
        cacheValidators := (0, srv.now, none)
        parseError := 0 }, srv)
  | .put =>
    if srv.isCollection u then srv.reply 405
    else if !srv.parentOk u then srv.reply 409
    else if !srv.permits r.ifTokens u then srv.reply 423
    else (if srv.present u then 204 else 201, answer, srv.putFile u)
  | .mkcol =>
    if srv.present u then srv.reply 405
    else if !srv.parentOk u then srv.reply 409
    else (201, answer, srv.makeCollection u)
  | .delete =>
    if u = [] then srv.reply 403
    else if !srv.present u then srv.reply 404
    else if !srv.permits r.ifTokens u then srv.reply 423
    else (204, answer, srv.removeBelow u)
  | .move =>
    match r.destinationOf with
    | none => srv.reply 400
    | some d =>
      if u = [] then srv.reply 403
      else if !srv.present u then srv.reply 404
      else if u <+: d || d <+: u then srv.reply 403
      else if !srv.isCollection d.dropLast then srv.reply 409
      else if !srv.permits r.ifTokens u || !srv.permits r.ifTokens d then srv.reply 423
      else (if srv.present d then 204 else 201, answer, srv.moveBelow u d)
  | .lock =>
    if r.body = .lockinfo then
      if !srv.present u then srv.reply 404
      else if (srv.lockOf u).isSome then srv.reply 423
      else
        let token := "opaquelocktoken:" ++ toString srv.nextToken
        (200, { answer with lockToken := (0, token) }, srv.addLock u token)
    else
      match srv.lockOf u with
      | some t => if t ∈ r.ifTokens then (200, { answer with lockToken := (0, t) }, srv)
        else srv.reply 412
      | none => srv.reply 412
  | .unlock =>
    if r.lockTokenOf.isSome && srv.lockOf u = r.lockTokenOf then
      (204, answer, srv.dropLock u)
    else srv.reply 409

/-! ## What a request can change -/

/-- What one request can do to the server: nothing, or one change, under the conditions the
server checks before making it. -/
inductive Change (srv : DavServer) (r : Request) : DavServer → Prop
  | none : Change srv r srv
  | putFile : r.method = .put → srv.isCollection r.url = false →
      srv.parentOk r.url = true → srv.permits r.ifTokens r.url = true →
      Change srv r (srv.putFile r.url)
  | makeCollection : r.method = .mkcol → srv.present r.url = false →
      srv.parentOk r.url = true → Change srv r (srv.makeCollection r.url)
  | removeBelow : r.method = .delete → r.url ≠ [] → srv.present r.url = true →
      srv.permits r.ifTokens r.url = true → Change srv r (srv.removeBelow r.url)
  | moveBelow {d : Url} : r.method = .move → r.destinationOf = some d → r.url ≠ [] →
      srv.present r.url = true → ¬r.url <+: d → ¬d <+: r.url →
      srv.isCollection d.dropLast = true → srv.permits r.ifTokens r.url = true →
      srv.permits r.ifTokens d = true → Change srv r (srv.moveBelow r.url d)
  | addLock : r.method = .lock → r.body = .lockinfo → srv.present r.url = true →
      srv.lockOf r.url = none →
      Change srv r (srv.addLock r.url ("opaquelocktoken:" ++ toString srv.nextToken))
  | dropLock : r.method = .unlock → r.lockTokenOf.isSome = true →
      srv.lockOf r.url = r.lockTokenOf → Change srv r (srv.dropLock r.url)

/-- **What a request does to the server**, read off `handle` once; every fact about the server
after a request follows from it. -/
theorem handle_change (srv : DavServer) (r : Request) : Change srv r (srv.handle r).2.2 := by
  unfold handle
  dsimp only
  split
  · exact .none
  · split_ifs <;> exact .none
  · next hm =>
    split_ifs with h₁ h₂ h₃ <;> first
      | exact .none
      | exact .putFile hm (by simpa using h₁) (by simpa using h₂) (by simpa using h₃)
  · next hm =>
    split_ifs with h₁ h₂ <;> first
      | exact .none
      | exact .makeCollection hm (by simpa using h₁) (by simpa using h₂)
  · next hm =>
    split_ifs with h₁ h₂ h₃ <;> first
      | exact .none
      | exact .removeBelow hm h₁ (by simpa using h₂) (by simpa using h₃)
  · next hm =>
    split
    · exact .none
    · next d hd =>
      split_ifs with h₁ h₂ h₃ h₄ h₅ <;> first
        | exact .none
        | simp only [Bool.or_eq_true, decide_eq_true_eq, not_or, Bool.not_eq_true',
            Bool.not_eq_false] at h₃ h₅
          exact .moveBelow hm hd h₁ (by simpa using h₂) h₃.1 h₃.2 (by simpa using h₄) h₅.1 h₅.2
  · next hm =>
    split_ifs with h₁ h₂ h₃
    · exact .none
    · exact .none
    · exact .addLock hm h₁ (by simpa using h₂) (by simpa using h₃)
    · split <;> (try split_ifs) <;> exact .none
  · next hm =>
    split_ifs with h₁
    · simp only [Bool.and_eq_true, decide_eq_true_eq] at h₁
      exact .dropLock hm h₁.1 h₁.2
    · exact .none

/-! ## Well-formed servers -/

/-- The shape every server keeps. -/
structure Wf (srv : DavServer) : Prop where
  /-- The parent of every resource below the base URL is a collection. -/
  parents : ∀ e ∈ srv.resources, e.1 ≠ [] → srv.isCollection e.1.dropLast = true
  /-- Every lock is on a resource. -/
  locked : ∀ l ∈ srv.locks, srv.present l.1 = true
  /-- No URL carries two locks. -/
  oneLock : (srv.locks.map Prod.fst).Nodup

variable {srv srv' : DavServer} {u v : Url}

@[simp] theorem isCollection_iff : srv.isCollection u = true ↔ (u, true) ∈ srv.resources := by
  simp [isCollection]

@[simp] theorem present_iff : srv.present u = true ↔ ∃ b, (u, b) ∈ srv.resources := by
  simp [present]

@[simp] theorem parentOk_iff :
    srv.parentOk u = true ↔ u = [] ∨ srv.isCollection u.dropLast = true := by
  simp [parentOk]

/-- A collection is a resource. -/
theorem present_of_isCollection (h : srv.isCollection u = true) : srv.present u = true :=
  present_iff.mpr ⟨true, isCollection_iff.mp h⟩

/-- The lock on `u` is absent exactly when no lock names `u`. -/
theorem lockOf_eq_none : srv.lockOf u = none ↔ ∀ l ∈ srv.locks, l.1 ≠ u := by
  simp [lockOf, List.find?_eq_none]

theorem mem_of_lockOf {t : String} (h : srv.lockOf u = some t) : (u, t) ∈ srv.locks := by
  obtain ⟨l, hl, rfl⟩ := Option.map_eq_some'.mp h
  have hu := List.find?_some hl
  simp only [decide_eq_true_eq] at hu
  exact hu ▸ List.mem_of_find?_eq_some hl

theorem permits_iff {tokens : List String} :
    srv.permits tokens u = true ↔ ∀ l ∈ srv.locks, u <+: l.1 → l.2 ∈ tokens := by
  simp only [permits, List.all_eq_true, Bool.or_eq_true, Bool.not_eq_true',
    decide_eq_false_iff_not, decide_eq_true_eq, imp_iff_not_or]

/-- A change that keeps the resources at `v` keeps a collection there. -/
theorem isCollection_of_keeps (h : ∀ b, (v, b) ∈ srv.resources → (v, b) ∈ srv'.resources)
    (hc : srv.isCollection v = true) : srv'.isCollection v = true :=
  isCollection_iff.mpr (h true (isCollection_iff.mp hc))

/-- A change that keeps the resources at `v` keeps it present. -/
theorem present_of_keeps (h : ∀ b, (v, b) ∈ srv.resources → (v, b) ∈ srv'.resources)
    (hc : srv.present v = true) : srv'.present v = true :=
  let ⟨b, hb⟩ := present_iff.mp hc
  present_iff.mpr ⟨b, h b hb⟩

/-! ## Every request keeps a server well formed -/

@[simp] theorem mem_removeBelow_resources {e : Url × Bool} :
    e ∈ (srv.removeBelow u).resources ↔ e ∈ srv.resources ∧ ¬u <+: e.1 := by
  simp [DavServer.removeBelow]

@[simp] theorem mem_removeBelow_locks {l : Url × String} :
    l ∈ (srv.removeBelow u).locks ↔ l ∈ srv.locks ∧ ¬u <+: l.1 := by
  simp [DavServer.removeBelow]

theorem Wf.removeBelow (hw : srv.Wf) : (srv.removeBelow u).Wf where
  parents e he hne := by
    rw [mem_removeBelow_resources] at he
    refine isCollection_of_keeps (fun b hb => ?_) (hw.parents e he.1 hne)
    exact mem_removeBelow_resources.mpr ⟨hb, fun h => he.2 (h.trans (List.dropLast_prefix e.1))⟩
  locked l hl := by
    rw [mem_removeBelow_locks] at hl
    exact present_of_keeps (fun b hb => mem_removeBelow_resources.mpr ⟨hb, hl.2⟩)
      (hw.locked l hl.1)
  oneLock := hw.oneLock.sublist ((List.filter_sublist _).map _)

/-- A URL is not below its own parent. -/
theorem not_prefix_dropLast (hu : u ≠ []) : ¬u <+: u.dropLast := fun h => by
  have := h.length_le
  rw [List.length_dropLast] at this
  have := List.length_pos.mpr hu
  omega

theorem dropLast_ne_self (hu : u ≠ []) : u.dropLast ≠ u := fun h =>
  not_prefix_dropLast hu (by rw [h])

theorem moveUrl_of_not_below {d : Url} (h : ¬u <+: v) : moveUrl u d v = v :=
  if_neg h

/-- A resource not below the destination is kept, at its moved URL. -/
theorem mem_moveBelow {d : Url} {b : Bool} (h : (v, b) ∈ srv.resources) (hd : ¬d <+: v) :
    (moveUrl u d v, b) ∈ (srv.moveBelow u d).resources :=
  List.mem_map.mpr ⟨(v, b), mem_removeBelow_resources.mpr ⟨h, hd⟩, rfl⟩

/-- Moving keeps parents: the parent of a URL strictly below `u` moves with it. -/
theorem moveUrl_dropLast {d : Url} (h : u <+: v) (hne : v ≠ u) :
    (moveUrl u d v).dropLast = moveUrl u d v.dropLast := by
  obtain ⟨t, rfl⟩ := h
  have ht : t ≠ [] := by rintro rfl; exact hne (List.append_nil u)
  have hp : u <+: (u ++ t).dropLast := by
    rw [List.dropLast_append_of_ne_nil _ ht]
    exact List.prefix_append _ _
  simp [moveUrl, hp, List.dropLast_append_of_ne_nil _ ht]

theorem Wf.moveBelow {d : Url} (hw : srv.Wf) (hu : u ≠ []) (hud : ¬u <+: d) (hdu : ¬d <+: u)
    (hd : srv.isCollection d.dropLast = true) : (srv.moveBelow u d).Wf where
  parents e he hne := by
    obtain ⟨⟨w, b⟩, hw', rfl⟩ := List.mem_map.mp he
    rw [mem_removeBelow_resources] at hw'
    have hdne : d ≠ [] := fun h => hdu (h ▸ List.nil_prefix)
    -- a collection not below `d` is still one, at its moved URL
    have keep : ∀ p, srv.isCollection p = true → ¬d <+: p →
        (srv.moveBelow u d).isCollection (moveUrl u d p) = true := fun _ hp hdp =>
      isCollection_iff.mpr (mem_moveBelow (isCollection_iff.mp hp) hdp)
    have hwd : ¬d <+: w.dropLast := fun h => hw'.2 (h.trans (List.dropLast_prefix w))
    dsimp only at hne ⊢
    by_cases huw : u <+: w
    · obtain ⟨t, rfl⟩ := huw
      by_cases ht : t = []
      · -- the moved resource itself: its parent is now `d`'s
        subst ht
        rw [List.append_nil, show moveUrl u d u = d by simp [moveUrl],
          ← moveUrl_of_not_below (d := d) fun h => hud (h.trans (List.dropLast_prefix d))]
        exact keep _ hd (not_prefix_dropLast hdne)
      · rw [moveUrl_dropLast (List.prefix_append u t) (by simpa using ht)]
        exact keep _ (hw.parents _ hw'.1 (by simp [hu])) hwd
    · rw [moveUrl_of_not_below huw] at hne ⊢
      rw [← moveUrl_of_not_below (d := d) fun h => huw (h.trans (List.dropLast_prefix w))]
      exact keep _ (hw.parents _ hw'.1 hne) hwd
  locked l hl := by
    simp only [DavServer.moveBelow, List.mem_filter, mem_removeBelow_locks, Bool.not_eq_true',
      decide_eq_false_iff_not] at hl
    obtain ⟨⟨hl, hld⟩, hlu⟩ := hl
    obtain ⟨b, hb⟩ := present_iff.mp (hw.locked l hl)
    exact present_iff.mpr ⟨b, moveUrl_of_not_below hlu ▸ mem_moveBelow hb hld⟩
  oneLock := hw.oneLock.sublist
    (((List.filter_sublist _).trans (List.filter_sublist _)).map _)

theorem Wf.putFile (hw : srv.Wf) (hc : srv.isCollection u = false)
    (hp : srv.parentOk u = true) : (srv.putFile u).Wf where
  parents e he hne := by
    have keep : ∀ p, p ≠ u → srv.isCollection p = true → (srv.putFile u).isCollection p = true :=
      fun p hpu => isCollection_of_keeps fun b hb =>
        List.mem_cons_of_mem _ (List.mem_filter.mpr ⟨hb, by simpa using hpu⟩)
    rcases List.mem_cons.mp he with rfl | he
    · exact keep _ (dropLast_ne_self hne) ((parentOk_iff.mp hp).resolve_left hne)
    · obtain ⟨he, -⟩ := List.mem_filter.mp he
      have hpe := hw.parents e he hne
      exact keep _ (fun h => absurd (hc ▸ h ▸ hpe) Bool.false_ne_true) hpe
  locked l hl := by
    by_cases hlu : l.1 = u
    · exact present_iff.mpr ⟨false, hlu ▸ List.mem_cons_self _ _⟩
    · exact present_of_keeps (fun b hb => List.mem_cons_of_mem _
        (List.mem_filter.mpr ⟨hb, by simpa using hlu⟩)) (hw.locked l hl)
  oneLock := hw.oneLock

theorem Wf.makeCollection (hw : srv.Wf) (hp : srv.parentOk u = true) :
    (srv.makeCollection u).Wf where
  parents e he hne := by
    have keep : ∀ p, srv.isCollection p = true → (srv.makeCollection u).isCollection p = true :=
      fun _ => isCollection_of_keeps fun _ hb => List.mem_cons_of_mem _ hb
    rcases List.mem_cons.mp he with rfl | he
    · exact keep _ ((parentOk_iff.mp hp).resolve_left hne)
    · exact keep _ (hw.parents e he hne)
  locked l hl := present_of_keeps (fun _ hb => List.mem_cons_of_mem _ hb) (hw.locked l hl)
  oneLock := hw.oneLock

theorem Wf.addLock (hw : srv.Wf) (hu : srv.present u = true) (hl : srv.lockOf u = none)
    (token : String) : (srv.addLock u token).Wf where
  parents := hw.parents
  locked l hl' := by
    rcases List.mem_cons.mp hl' with rfl | hl'
    · exact hu
    · exact hw.locked l hl'
  oneLock := by
    refine List.nodup_cons.mpr ⟨fun h => ?_, hw.oneLock⟩
    obtain ⟨l, hl', hlu⟩ := List.mem_map.mp h
    exact lockOf_eq_none.mp hl l hl' hlu

theorem Wf.dropLock (hw : srv.Wf) : (srv.dropLock u).Wf where
  parents := hw.parents
  locked l hl := hw.locked l (List.mem_filter.mp hl).1
  oneLock := hw.oneLock.sublist ((List.filter_sublist _).map _)

/-- A `PUT` of a file in a collection that carries the token of every lock on it writes the
file. -/
theorem handle_put_ok {r : Request} (hm : r.method = .put) (hc : srv.isCollection r.url = false)
    (hpc : srv.parentOk r.url = true) (hperm : srv.permits r.ifTokens r.url = true) :
    srv.handle r =
      (if srv.present r.url then 204 else 201, { Answer.none with date := some srv.now },
        srv.putFile r.url) := by
  simp [handle, hm, hc, hpc, hperm]

/-- On a well-formed server the parent of a resource is a collection. -/
theorem Wf.parent_isCollection (hw : srv.Wf) (hu : u ≠ []) (hp : srv.present u = true) :
    srv.isCollection u.dropLast = true :=
  let ⟨_, hb⟩ := present_iff.mp hp
  hw.parents _ hb hu

/-- On a well-formed server the parent of every resource is there for a `PUT` of it. -/
theorem Wf.parentOk (hw : srv.Wf) (hp : srv.present u = true) : srv.parentOk u = true :=
  parentOk_iff.mpr ((eq_or_ne u []).imp_right fun hu => hw.parent_isCollection hu hp)

/-- **Every request keeps a server well formed.** -/
theorem handle_wf (hw : srv.Wf) (r : Request) : (srv.handle r).2.2.Wf := by
  have h := handle_change srv r
  generalize (srv.handle r).2.2 = srv' at h ⊢
  cases h with
  | none => exact hw
  | putFile _ hc hp => exact hw.putFile hc hp
  | makeCollection _ _ hp => exact hw.makeCollection hp
  | removeBelow => exact hw.removeBelow
  | moveBelow _ _ hu _ hud hdu hd => exact hw.moveBelow hu hud hdu hd
  | addLock _ _ hp hl => exact hw.addLock hp hl _
  | dropLock => exact hw.dropLock

/-! ## What is below a collection -/

/-- A URL strictly below `u` has a parent that is still below `u`. -/
theorem prefix_dropLast (huv : u <+: v) (hne : v ≠ u) : u <+: v.dropLast :=
  List.prefix_of_prefix_length_le huv (List.dropLast_prefix v) <| by
    have := lt_of_le_of_ne huv.length_le fun h => hne (huv.eq_of_length h).symm
    rw [List.length_dropLast]
    omega

/-- **On a well-formed server a collection without members has nothing below it.** -/
theorem Wf.below_eq_of_members (hw : srv.Wf) (hm : srv.members u = []) :
    ∀ {v : Url} {b : Bool}, (v, b) ∈ srv.resources → u <+: v → v = u := by
  intro v
  induction' hn : v.length using Nat.strong_induction_on with n ih generalizing v
  intro b hv huv
  by_contra hne
  have hv0 : v ≠ [] := by
    rintro rfl
    exact hne (List.prefix_nil.mp huv).symm
  have hup := prefix_dropLast huv hne
  by_cases hpu : v.dropLast = u
  · have : (v, b) ∈ srv.members u :=
      List.mem_filter.mpr ⟨hv, by simp [hv0, hpu]⟩
    simp [hm] at this
  · have hlt : v.dropLast.length < n := by
      rw [List.length_dropLast, ← hn]
      have := List.length_pos.mpr hv0
      omega
    exact hpu (ih _ hlt rfl (isCollection_iff.mp (hw.parents _ hv hv0)) hup)

/-! ## What a request leaves alone -/

/-- Two servers have the same resources and the same locks at `v`. -/
structure SameAt (v : Url) (srv srv' : DavServer) : Prop where
  resources : ∀ b, (v, b) ∈ srv'.resources ↔ (v, b) ∈ srv.resources
  locks : ∀ t, (v, t) ∈ srv'.locks ↔ (v, t) ∈ srv.locks

theorem SameAt.refl (v : Url) (srv : DavServer) : SameAt v srv srv :=
  ⟨fun _ => .rfl, fun _ => .rfl⟩

theorem SameAt.trans {srv'' : DavServer} (h₁ : SameAt v srv srv') (h₂ : SameAt v srv' srv'') :
    SameAt v srv srv'' :=
  ⟨fun b => (h₂.resources b).trans (h₁.resources b), fun t => (h₂.locks t).trans (h₁.locks t)⟩

theorem sameAt_removeBelow (h : ¬u <+: v) : SameAt v srv (srv.removeBelow u) :=
  ⟨fun _ => by simp [removeBelow, h], fun _ => by simp [removeBelow, h]⟩

theorem sameAt_moveBelow {d : Url} (hu : ¬u <+: v) (hd : ¬d <+: v) :
    SameAt v srv (srv.moveBelow u d) where
  resources b := by
    refine ⟨fun h => ?_, fun h => moveUrl_of_not_below hu ▸ mem_moveBelow h hd⟩
    obtain ⟨⟨w, b'⟩, hw, he⟩ := List.mem_map.mp h
    rw [mem_removeBelow_resources] at hw
    by_cases huw : u <+: w
    · -- what moved is now below `d`
      simp only [moveUrl, huw, if_true, Prod.mk.injEq] at he
      exact absurd (he.1 ▸ List.prefix_append d _) hd
    · simp only [moveUrl_of_not_below huw, Prod.mk.injEq] at he
      exact he.1 ▸ he.2 ▸ hw.1
  locks _ := by simp [moveBelow, removeBelow, hu, hd]

theorem sameAt_putFile (h : u ≠ v) : SameAt v srv (srv.putFile u) :=
  ⟨fun _ => by simp [putFile, Ne.symm h], fun _ => .rfl⟩

theorem sameAt_makeCollection (h : u ≠ v) : SameAt v srv (srv.makeCollection u) :=
  ⟨fun _ => by simp [makeCollection, Ne.symm h], fun _ => .rfl⟩

theorem sameAt_addLock (h : u ≠ v) (token : String) : SameAt v srv (srv.addLock u token) :=
  ⟨fun _ => .rfl, fun _ => by simp [addLock, Ne.symm h]⟩

theorem sameAt_dropLock (h : u ≠ v) : SameAt v srv (srv.dropLock u) :=
  ⟨fun _ => .rfl, fun _ => by simp [dropLock, Ne.symm h]⟩

/-- **A request changes the server only at what it reaches**: at a URL that neither its URL nor
its destination is above, the server keeps its resources and its locks. -/
theorem handle_sameAt (r : Request) (hv : r.reaches v = false) :
    SameAt v srv (srv.handle r).2.2 := by
  simp only [Request.reaches, Bool.or_eq_false_iff, decide_eq_false_iff_not] at hv
  obtain ⟨hu, hd⟩ := hv
  have hne : r.url ≠ v := fun h => hu (h ▸ List.prefix_refl _)
  have h := handle_change srv r
  generalize (srv.handle r).2.2 = srv' at h ⊢
  cases h with
  | none => exact .refl v srv
  | putFile => exact sameAt_putFile hne
  | makeCollection => exact sameAt_makeCollection hne
  | removeBelow => exact sameAt_removeBelow hu
  | moveBelow _ hdest => exact sameAt_moveBelow hu (by simpa [hdest] using hd)
  | addLock => exact sameAt_addLock hne _
  | dropLock => exact sameAt_dropLock hne

/-! ## What a lock keeps -/

/-- On a well-formed server a URL's lock is the one its lock entry names. -/
theorem Wf.lockOf_of_mem (hw : srv.Wf) {t : String} (h : (u, t) ∈ srv.locks) :
    srv.lockOf u = some t := by
  obtain ⟨l, hl⟩ := Option.isSome_iff_exists.mp
    (List.find?_isSome.mpr ⟨_, h, by simp⟩ : (srv.locks.find? (·.1 = u)).isSome)
  have hlu : l.1 = u := by simpa using List.find?_some hl
  have : l = (u, t) := List.inj_on_of_nodup_map hw.oneLock (List.mem_of_find?_eq_some hl) h hlu
  simp [lockOf, hl, this]

/-- On a well-formed server a file has no members. -/
theorem Wf.members_eq_nil (hw : srv.Wf) (hc : srv.isCollection u = false) : srv.members u = [] :=
  List.filter_eq_nil_iff.mpr fun e he hm => by
    simp only [Bool.and_eq_true, decide_eq_true_eq] at hm
    have hp := hw.parents e he hm.1
    rw [hm.2, hc] at hp
    cases hp

/-- A request the server lets change `u` carries the token of every lock below `u`. -/
theorem mem_of_permits {tokens : List String} {t : String} (h : srv.permits tokens u = true)
    (hl : srv.lockOf v = some t) (huv : u <+: v) : t ∈ tokens :=
  permits_iff.mp h _ (mem_of_lockOf hl) huv

/-- On a well-formed server the token of a file's lock is all a request needs to change it: there
is nothing below a file to hold another lock. -/
theorem Wf.permits_file (hw : srv.Wf) {t : String} (hc : srv.isCollection u = false)
    (hl : srv.lockOf u = some t) : srv.permits [t] u = true :=
  permits_iff.mpr fun l hl' hul => by
    obtain ⟨b, hb⟩ := present_iff.mp (hw.locked l hl')
    have hlu : l.1 = u := hw.below_eq_of_members (hw.members_eq_nil hc) hb hul
    have := hw.lockOf_of_mem (show (u, l.2) ∈ srv.locks from hlu ▸ hl')
    rw [hl, Option.some.injEq] at this
    exact this ▸ List.mem_singleton_self _

/-- **A request without a lock's token leaves the locked URL alone**: whatever it asks, the server
keeps the resources and the locks at a URL with a lock whose token the request carries neither
in its `If` header nor as its `Lock-Token`. -/
theorem handle_sameAt_locked (hw : srv.Wf) {t : String} (hl : srv.lockOf v = some t)
    (r : Request) (ht : t ∉ r.ifTokens) (hu : r.lockTokenOf ≠ some t) :
    SameAt v srv (srv.handle r).2.2 := by
  -- what the server lets the request change is not above `v`
  have keep : ∀ {u}, srv.permits r.ifTokens u = true → ¬u <+: v := fun hp huv =>
    ht (mem_of_permits hp hl huv)
  have keep' : ∀ {u}, srv.permits r.ifTokens u = true → u ≠ v := fun hp h =>
    keep hp (h ▸ List.prefix_refl _)
  have h := handle_change srv r
  generalize (srv.handle r).2.2 = srv' at h ⊢
  cases h with
  | none => exact .refl v srv
  | putFile _ _ _ hp => exact sameAt_putFile (keep' hp)
  | makeCollection _ hu' =>
    exact sameAt_makeCollection fun h => by
      rw [h, hw.locked _ (mem_of_lockOf hl)] at hu'
      cases hu'
  | removeBelow _ _ _ hp => exact sameAt_removeBelow (keep hp)
  | moveBelow _ _ _ _ _ _ _ hp hpd => exact sameAt_moveBelow (keep hp) (keep hpd)
  | addLock _ _ _ hl' => exact sameAt_addLock (fun h => by simp [h, hl] at hl') _
  | dropLock _ _ hl' => exact sameAt_dropLock fun h => hu (by rw [← hl', h, hl])

end DavServer

end WebDAVFS
