import WebDAVFS.Protocol

/-!
# Operations that undo each other

With no other client in between, two of the daemon's operations, run one after the other against
a well-formed server, give it back exactly as it was:

- `networkMkdir_then_rmdir`: `network_mkdir` of a new name, then `network_rmdir` of the
  directory it made. The `PROPFIND` of `network_dir_is_empty` finds the new collection without
  members, so the `DELETE` goes out, and it removes the collection and nothing else.
- `networkRename_there_and_back`: `network_rename` of a resource to a new name, then of the
  moved resource back to its old name. The first `MOVE` takes the resource's whole tree to the
  new name; the second passes every check the server makes (the new name is there, no lock is on
  either URL, the old parent is still a collection) and brings the tree back, in its old order.

Both rest on one fact of well-formed servers, `Wf.not_below_of_absent`: nothing, no resource and
no lock, is below a URL that is absent.
-/

namespace WebDAVFS

namespace DavServer

variable {srv : DavServer} {u d v : Url}

/-! ## Nothing is below an absent URL -/

theorem isCollection_eq_false_of_absent (hd : srv.present d = false) :
    srv.isCollection d = false :=
  Bool.eq_false_iff.mpr fun hc => Bool.false_ne_true (hd ▸ present_of_isCollection hc)

/-- **On a well-formed server no resource is below an absent URL.** -/
theorem Wf.not_below_of_absent (hw : srv.Wf) (hd : srv.present d = false) :
    ∀ e ∈ srv.resources, ¬d <+: e.1 := by
  rintro ⟨v, b⟩ he hdv
  have hv : v = d :=
    hw.below_eq_of_members (hw.members_eq_nil (isCollection_eq_false_of_absent hd)) he hdv
  subst hv
  simp [present_iff.mpr ⟨b, he⟩] at hd

/-- No lock is below an absent URL either: every lock is on a resource. -/
theorem Wf.no_lock_below_of_absent (hw : srv.Wf) (hd : srv.present d = false) :
    ∀ l ∈ srv.locks, ¬d <+: l.1 := by
  intro l hl hdl
  obtain ⟨b, hb⟩ := present_iff.mp (hw.locked l hl)
  exact hw.not_below_of_absent hd _ hb hdl

/-- Removing what is below a URL with nothing below it changes nothing. -/
theorem removeBelow_of_not_below (hr : ∀ e ∈ srv.resources, ¬d <+: e.1)
    (hl : ∀ l ∈ srv.locks, ¬d <+: l.1) : srv.removeBelow d = srv := by
  have hr' : srv.resources.filter (fun e => !(d <+: e.1)) = srv.resources :=
    List.filter_eq_self.mpr fun e he => by simpa using hr e he
  have hl' : srv.locks.filter (fun l => !(d <+: l.1)) = srv.locks :=
    List.filter_eq_self.mpr fun l hl'' => by simpa using hl l hl''
  simp only [removeBelow, hr', hl']

/-! ## A collection made and deleted -/

/-- A new collection has no members on a well-formed server. -/
theorem Wf.members_makeCollection (hw : srv.Wf) (hd : srv.present d = false) :
    (srv.makeCollection d).members d = [] := by
  -- the new collection is not its own member
  have hhead : ¬(d ≠ [] ∧ d.dropLast = d) := fun ⟨hne, h⟩ => dropLast_ne_self hne h
  rw [members, DavServer.makeCollection, List.filter_cons_of_neg (by simpa using hhead)]
  exact hw.members_eq_nil (isCollection_eq_false_of_absent hd)

/-- **Deleting a new collection restores the server.** -/
theorem Wf.makeCollection_removeBelow (hw : srv.Wf) (hd : srv.present d = false) :
    (srv.makeCollection d).removeBelow d = srv := by
  conv_rhs =>
    rw [← removeBelow_of_not_below (hw.not_below_of_absent hd) (hw.no_lock_below_of_absent hd)]
  simp [DavServer.removeBelow, DavServer.makeCollection]

/-! ## Moving a tree there and back -/

/-- Two URLs neither of which is below the other have nothing below both. -/
theorem not_prefix_append_of_diverge (hud : ¬u <+: d) (hdu : ¬d <+: u) (t : Url) :
    ¬u <+: d ++ t := fun h =>
  (List.prefix_or_prefix_of_prefix h (List.prefix_append d t)).elim hud hdu

/-- Moving a URL from below `u` to below `d` and back gives it back, unless it was below `d`. -/
theorem moveUrl_moveUrl (hv : ¬d <+: v) : moveUrl d u (moveUrl u d v) = v := by
  by_cases huv : u <+: v
  · obtain ⟨t, rfl⟩ := huv
    simp [moveUrl]
  · rw [moveUrl_of_not_below huv, moveUrl_of_not_below hv]

@[simp] theorem mem_moveBelow_locks {l : Url × String} :
    l ∈ (srv.moveBelow u d).locks ↔ (l ∈ srv.locks ∧ ¬d <+: l.1) ∧ ¬u <+: l.1 := by
  simp [DavServer.moveBelow]

/-- A move leaves no lock below its source or its destination. -/
theorem permits_nil_moveBelow (hv : v = u ∨ v = d) : (srv.moveBelow u d).permits [] v = true :=
  permits_iff.mpr fun l hl hvl => by
    rw [mem_moveBelow_locks] at hl
    rcases hv with rfl | rfl
    exacts [absurd hvl hl.2, absurd hvl hl.1.2]

/-- **Moving a tree to an absent URL and back restores the server**, when no lock is on the tree
(a move drops the locks below its source). -/
theorem Wf.moveBelow_moveBelow (hw : srv.Wf) (hd : srv.present d = false) (hud : ¬u <+: d)
    (hdu : ¬d <+: u) (hfree : ∀ l ∈ srv.locks, ¬u <+: l.1) :
    (srv.moveBelow u d).moveBelow d u = srv := by
  have hr := hw.not_below_of_absent hd
  have hl := hw.no_lock_below_of_absent hd
  have hlocks : srv.locks.filter (fun l => !(u <+: l.1)) = srv.locks :=
    List.filter_eq_self.mpr fun l hl' => by simpa using hfree l hl'
  -- the first move: nothing at `d` to delete, and no lock to drop
  have h₁ : srv.moveBelow u d =
      { srv with resources := srv.resources.map fun e => (moveUrl u d e.1, e.2) } := by
    simp only [DavServer.moveBelow, removeBelow_of_not_below hr hl, hlocks]
  -- the second: nothing is below `u` once the tree has moved
  have hr₁ : ∀ e ∈ srv.resources.map (fun e => (moveUrl u d e.1, e.2)), ¬u <+: e.1 := by
    simp only [List.mem_map]
    rintro _ ⟨⟨w, b⟩, -, rfl⟩
    by_cases huw : u <+: w
    · obtain ⟨t, rfl⟩ := huw
      simpa [moveUrl] using not_prefix_append_of_diverge hud hdu t
    · simpa [moveUrl_of_not_below huw] using huw
  have hl₁ : srv.locks.filter (fun l => !(d <+: l.1)) = srv.locks :=
    List.filter_eq_self.mpr fun l hl' => by simpa using hl l hl'
  have h₂ : ({ srv with resources := srv.resources.map fun e => (moveUrl u d e.1, e.2) } :
      DavServer).removeBelow u =
      { srv with resources := srv.resources.map fun e => (moveUrl u d e.1, e.2) } :=
    removeBelow_of_not_below hr₁ hfree
  have hres : srv.resources.map ((fun e => (moveUrl d u e.1, e.2)) ∘
      fun e => (moveUrl u d e.1, e.2)) = srv.resources := by
    rw [List.map_congr_left (g := id) fun e he => by simp [moveUrl_moveUrl (hr e he)], List.map_id]
  rw [h₁]
  simp only [DavServer.moveBelow, h₂, hl₁, List.map_map, hres]

end DavServer

/-! ## The operations -/

section Operations

variable (mkUrl : UrlMaker) (uid : Nat) {srv : DavServer} {url u d : Url}

/-- **`network_mkdir` makes a collection**: with no other client in between, a `MKCOL` of a URL
with nothing there, in a collection, returns `0` with the server's date, and the server has the
collection. -/
theorem networkMkdir_quiet (node : NodeEntry) (name : String)
    (hurl : mkUrl node.fileid (some name) = some url) (hu : srv.present url = false)
    (hp : srv.isCollection url.dropLast = true) :
    (networkMkdir mkUrl uid node name).run serve (srv, []) =
      ((0, srv.now), (srv.makeCollection url, []), [⟨uid, url, .mkcol, .none, [.accept]⟩]) := by
  simp [networkMkdir, hurl, DavServer.handle, DavServer.parentOk, hu, hp, datedResult]

/-- The `MOVE` of `network_rename`, with no other client in between, when the server lets it
through. -/
theorem networkMove_quiet (hp : srv.present u = true) (hud : ¬u <+: d) (hdu : ¬d <+: u)
    (hpc : srv.isCollection d.dropLast = true) (hperm : srv.permits [] u = true)
    (hpermd : srv.permits [] d = true) :
    (networkMove uid u d).run serve (srv, []) =
      ((0, srv.now), (srv.moveBelow u d, []), [moveRequest uid u d]) := by
  have hu : u ≠ [] := by rintro rfl; exact hud List.nil_prefix
  simp [networkMove, moveRequest, DavServer.handle, Request.destinationOf, Request.ifTokens, hu,
    hp, hud, hdu, hpc, hperm, hpermd]
  split_ifs <;> simp [datedResult]

/-- `network_rename` to a name, not onto a node, is its `MOVE` when the two URLs differ. -/
theorem networkRename_eq_networkMove {fromNode toDirNode : NodeEntry} {toName : String}
    (hurl : mkUrl fromNode.fileid Option.none = some u)
    (hdest : mkUrl toDirNode.fileid (some toName) = some d) (hne : u ≠ d) :
    networkRename mkUrl uid fromNode Option.none toDirNode toName = networkMove uid u d := by
  simp only [networkRename, hurl, hdest, hne, if_false]

/-- **`network_rmdir` undoes `network_mkdir`.** On a well-formed server, with no other client in
between, `network_mkdir` of a name whose URL is absent in a collection returns `0`; then
`network_rmdir` of the new directory's node finds it empty, returns `0`, and leaves the server
exactly as it was before the `MKCOL`, whatever lock token the node holds. -/
theorem networkMkdir_then_rmdir (dirNode newNode : NodeEntry) (name : String) (formatted : Bool)
    (hw : srv.Wf) (hurl : mkUrl dirNode.fileid (some name) = some url)
    (hnew : mkUrl newNode.fileid Option.none = some url) (hu : srv.present url = false)
    (hp : srv.isCollection url.dropLast = true) :
    let o₁ := (networkMkdir mkUrl uid dirNode name).run serve (srv, [])
    let o₂ := (networkRmdir mkUrl uid newNode formatted).run serve o₁.2.1
    o₁.1.1 = 0 ∧ o₂.1.1 = 0 ∧ o₂.2.1.1 = srv := by
  intro o₁ o₂
  have h₁ := networkMkdir_quiet mkUrl uid dirNode name hurl hu hp
  have hne : url ≠ [] := by
    rintro rfl
    simpa [hu] using DavServer.present_of_isCollection hp
  -- the new collection is there, without members, and no lock is below it
  have hpresent : (srv.makeCollection url).present url = true := by
    simp [DavServer.present, DavServer.makeCollection]
  have hempty := hw.members_makeCollection hu
  have hfree : ∀ tokens, (srv.makeCollection url).permits tokens url = true := fun _ =>
    DavServer.permits_iff.mpr fun l hl hul => absurd hul (hw.no_lock_below_of_absent hu l hl)
  have hcheck : dirIsEmptyResult (serve (dirIsEmptyRequest uid url) (srv.makeCollection url, [])).1
      = 0 := by
    rw [serve_dirIsEmpty_result, hpresent, hempty]
    rfl
  have hdelete : serve (deleteRequest uid url newNode formatted) (srv.makeCollection url, []) =
      ((0, { Answer.none with date := some (srv.makeCollection url).now }), srv, []) := by
    have h204 : translateStatusToError 204 = 0 := by decide
    simp [DavServer.handle, deleteRequest, hne, hpresent, hfree, h204,
      hw.makeCollection_removeBelow hu]
  simp only [o₁, o₂, h₁, networkRmdir, hnew, networkDirIsEmpty, networkDelete, transact_bind,
    Exchange.bind_send, Exchange.pure_eq, Exchange.bind_done, Exchange.run_send,
    serve_dirIsEmpty_server, hcheck, if_true, Exchange.run_done, datedResult, hdelete, and_self]

/-- A directory `d` made beside the file `f` and removed again. -/
theorem networkMkdir_then_rmdir_d :
    let srv : DavServer := ⟨[([], true), (["f"], false)], [], 0, 0, 2⟩
    let node : NodeEntry := ⟨true, 1, Option.none, 0, -1, Option.none⟩
    let mkUrl : UrlMaker := fun _ _ => some ["d"]
    let o₁ := (networkMkdir mkUrl 1 node "d").run serve (srv, [])
    let o₂ := (networkRmdir mkUrl 1 node true).run serve o₁.2.1
    o₁.2.1.1.resources = [(["d"], true), ([], true), (["f"], false)] ∧
      o₁.1.1 = 0 ∧ o₂.1.1 = 0 ∧ o₂.2.1.1 = srv :=
  ⟨by decide, networkMkdir_then_rmdir _ 1 _ _ _ true ⟨by decide, by decide, by decide⟩ rfl rfl
    (by decide) (by decide)⟩

/-- **A rename there and back restores the server.** On a well-formed server, with no other
client in between, `network_rename` of a resource with no lock on it or below it, to a name whose
URL is absent in a collection and neither below the resource nor above it, returns `0`; then
`network_rename` of the moved resource back to its old name returns `0` too, and the server is
exactly as it was, the resource's whole tree back at its old URLs. -/
theorem networkRename_there_and_back (fromNode toDirNode movedNode fromDirNode : NodeEntry)
    (toName fromName : String) (hw : srv.Wf) (hurl : mkUrl fromNode.fileid Option.none = some u)
    (hdest : mkUrl toDirNode.fileid (some toName) = some d)
    (hmoved : mkUrl movedNode.fileid Option.none = some d)
    (hback : mkUrl fromDirNode.fileid (some fromName) = some u) (hp : srv.present u = true)
    (hd : srv.present d = false) (hud : ¬u <+: d) (hdu : ¬d <+: u)
    (hpc : srv.isCollection d.dropLast = true) (hperm : srv.permits [] u = true) :
    let o₁ := (networkRename mkUrl uid fromNode Option.none toDirNode toName).run serve (srv, [])
    let o₂ := (networkRename mkUrl uid movedNode Option.none fromDirNode fromName).run serve
      o₁.2.1
    o₁.1.1 = 0 ∧ o₂.1.1 = 0 ∧ o₂.2.1.1 = srv := by
  intro o₁ o₂
  have hu : u ≠ [] := by rintro rfl; exact hud List.nil_prefix
  have hne : u ≠ d := fun h => hud (h ▸ List.prefix_refl u)
  have hpermd : srv.permits [] d = true := DavServer.permits_iff.mpr fun l hl hdl =>
    absurd hdl (hw.no_lock_below_of_absent hd l hl)
  have h₁ : o₁ = ((0, srv.now), (srv.moveBelow u d, []), [moveRequest uid u d]) := by
    rw [← networkMove_quiet uid hp hud hdu hpc hperm hpermd,
      ← networkRename_eq_networkMove mkUrl uid hurl hdest hne]
  -- after the first move the resource is at `d` and `u`'s parent is still a collection
  obtain ⟨b, hb⟩ := DavServer.present_iff.mp hp
  have hp₁ : (srv.moveBelow u d).present d = true := by
    have h := DavServer.mem_moveBelow hb hdu (u := u)
    rw [show DavServer.moveUrl u d u = d by simp [DavServer.moveUrl]] at h
    exact DavServer.present_iff.mpr ⟨b, h⟩
  have hpc₁ : (srv.moveBelow u d).isCollection u.dropLast = true := by
    have hdp : ¬d <+: u.dropLast := fun h' => hdu (h'.trans (List.dropLast_prefix u))
    have h := DavServer.mem_moveBelow
      (DavServer.isCollection_iff.mp (hw.parent_isCollection hu hp)) hdp (u := u)
    rw [DavServer.moveUrl_of_not_below (DavServer.not_prefix_dropLast hu)] at h
    exact DavServer.isCollection_iff.mpr h
  have h₂ : o₂ = ((0, (srv.moveBelow u d).now), ((srv.moveBelow u d).moveBelow d u, []),
      [moveRequest uid d u]) := by
    rw [← networkMove_quiet uid hp₁ hdu hud hpc₁ (DavServer.permits_nil_moveBelow (.inr rfl))
      (DavServer.permits_nil_moveBelow (.inl rfl)),
      ← networkRename_eq_networkMove mkUrl uid hmoved hback hne.symm]
    simp only [o₂, h₁]
  have hfree : ∀ l ∈ srv.locks, ¬u <+: l.1 := fun l hl hul => by
    simpa using DavServer.permits_iff.mp hperm l hl hul
  rw [h₂, h₁, hw.moveBelow_moveBelow hd hud hdu hfree]
  exact ⟨rfl, rfl, rfl⟩

/-- The directory `a`, holding the file `f`, renamed to `b` and back. -/
theorem networkRename_there_and_back_a :
    let srv : DavServer := ⟨[([], true), (["a"], true), (["a", "f"], false)], [], 0, 0, 2⟩
    let mkUrl : UrlMaker := fun fileid name => some [name.getD (if fileid = 1 then "a" else "b")]
    let root : NodeEntry := ⟨true, 0, Option.none, 0, -1, Option.none⟩
    let a : NodeEntry := ⟨true, 1, Option.none, 0, -1, Option.none⟩
    let b : NodeEntry := ⟨true, 2, Option.none, 0, -1, Option.none⟩
    let o₁ := (networkRename mkUrl 1 a Option.none root "b").run serve (srv, [])
    let o₂ := (networkRename mkUrl 1 b Option.none root "a").run serve o₁.2.1
    o₁.2.1.1.resources = [([], true), (["b"], true), (["b", "f"], false)] ∧
      o₁.1.1 = 0 ∧ o₂.1.1 = 0 ∧ o₂.2.1.1 = srv :=
  ⟨by decide, networkRename_there_and_back _ 1 _ _ _ _ "b" "a" ⟨by decide, by decide, by decide⟩
    rfl rfl rfl rfl (by decide) (by decide) (by decide) (by decide) (by decide) (by decide)⟩

end Operations

end WebDAVFS
