import WebDAVFS.Proxy

/-!
# The proxy globals under `gNetworkGlobals_lock`

Three functions of webdav_network.c touch the proxy globals, each while it holds
`gNetworkGlobals_lock`:

- `network_update_proxy` (411–506), run by `network_init` and on every change of the system's
  proxy settings: it releases `gProxyDict`, resets the six globals, copies the new dictionary and
  fills the globals from it;
- `network_get_proxy_settings` (368–407): it copies the six globals into its out parameters;
- `set_global_stream_properties` (346–364): it hands `gProxyDict` to a new stream.

Inside `network_update_proxy` the pointer dangles between `CFRelease(gProxyDict)` and the new
copy, and the globals hold neither the old settings nor the new ones between the reset and the
last write. Only the lock keeps the other two functions from seeing either.

Each call is a thread whose operations under the lock are read off the C code
(`ProxyCall.ops`). The threads take the lock, run their operations one at a time and release it,
interleaved in any order (`ProxyState.step`). The lock discipline (`ProxyState.Locked`) holds
along every run from the state `network_init` leaves (`ProxyState.Locked.run`), and gives:

- `runOps_networkUpdateProxy`: the writes of `network_update_proxy`, from any globals, leave the
  snapshot `networkUpdateProxy` computes.
- `networkGetProxySettings_snapshot`: `network_get_proxy_settings` returns the settings of
  `network_init` or those of one call of `network_update_proxy` that ran to its end, never a
  mix of two calls or a half-reset state.
- `networkGetProxySettings_latest`: it returns the snapshot published last before it took the
  lock.
- `setGlobalStreamProperties_live`: `set_global_stream_properties` never hands a released
  dictionary to a stream.
-/

namespace WebDAVFS

/-! ## The operations under the lock -/

/-- One scheme of the snapshot: HTTPS when `https`. -/
def ProxySnapshot.scheme (g : ProxySnapshot) (https : Bool) : ProxyScheme :=
  if https then g.https else g.http

/-- The snapshot with one scheme changed. -/
def ProxySnapshot.modify (g : ProxySnapshot) (https : Bool) (f : ProxyScheme → ProxyScheme) :
    ProxySnapshot :=
  if https then { g with https := f g.https } else { g with http := f g.http }

/-- What a function does to the proxy globals while it holds `gNetworkGlobals_lock`. -/
inductive ProxyOp where
  /-- `if ( gProxyDict ) CFRelease(gProxyDict)`: the pointer is left as it was. -/
  | releaseDict
  /-- `gProxyDict = SCDynamicStoreCopyProxies(gProxyStore)`: a new dictionary, or `NULL`. -/
  | copyDict (copied : Bool)
  /-- An assignment to `gHttpProxyEnabled` (`gHttpsProxyEnabled` when `https`). -/
  | setEnabled (https : Bool) (enabled : Int)
  /-- A write into `gHttpProxyServer`: the reset to the empty string, or what
  `CFStringGetCString` leaves there. -/
  | setServer (https : Bool) (server : String)
  /-- A write to `gHttpProxyPort`: the reset, what `CFNumberGetValue` writes, or the default. -/
  | setPort (https : Bool) (port : Int)
  /-- `network_get_proxy_settings` copies `gHttpProxyEnabled` into its out parameter. -/
  | getEnabled (https : Bool)
  /-- The `memcpy` of `gHttpProxyServer`. -/
  | getServer (https : Bool)
  | getPort (https : Bool)
  /-- `CFReadStreamSetProperty(readStreamRef, kCFStreamPropertyHTTPProxy, gProxyDict)`. -/
  | useDict
  deriving DecidableEq, Repr

/-- `gProxyDict`, a dictionary by the number `SCDynamicStoreCopyProxies` returned it under or
`NULL`; the dictionaries released so far; and the number the next copied dictionary gets. -/
structure DictState where
  gProxyDict : Option Nat
  released : List Nat
  nextDict : Nat
  deriving DecidableEq, Repr

/-- `gProxyDict` is `NULL` or a dictionary not yet released. -/
def DictState.Live (d : DictState) : Prop :=
  ∀ n, d.gProxyDict = some n → n ∉ d.released

/-- Every dictionary copied so far is numbered below `nextDict`. -/
def DictState.Fresh (d : DictState) : Prop :=
  (∀ n ∈ d.released, n < d.nextDict) ∧ ∀ n, d.gProxyDict = some n → n < d.nextDict

/-- `if ( gProxyDict ) CFRelease(gProxyDict)`. -/
def DictState.release (d : DictState) : DictState :=
  match d.gProxyDict with
  | some n => { d with released := n :: d.released }
  | none => d

/-- `gProxyDict = SCDynamicStoreCopyProxies(gProxyStore)`. -/
def DictState.copy (d : DictState) (copied : Bool) : DictState :=
  if copied then { d with gProxyDict := some d.nextDict, nextDict := d.nextDict + 1 }
  else { d with gProxyDict := none }

/-- The state the lock protects: the six proxy globals and `gProxyDict`. -/
structure ProxyShared where
  globals : ProxySnapshot
  dict : DictState
  deriving DecidableEq, Repr

/-- What an operation does to the protected state. -/
def ProxyShared.apply (sh : ProxyShared) : ProxyOp → ProxyShared
  | .releaseDict => { sh with dict := sh.dict.release }
  | .copyDict copied => { sh with dict := sh.dict.copy copied }
  | .setEnabled https enabled =>
    { sh with globals := sh.globals.modify https fun s => { s with enabled := enabled } }
  | .setServer https server =>
    { sh with globals := sh.globals.modify https fun s => { s with server := server } }
  | .setPort https port =>
    { sh with globals := sh.globals.modify https fun s => { s with port := port } }
  | .getEnabled _ | .getServer _ | .getPort _ | .useDict => sh

/-- What an operation does to the out parameters `copy` of `network_get_proxy_settings`, given
the globals `g`. -/
def ProxyOp.read (g copy : ProxySnapshot) : ProxyOp → ProxySnapshot
  | .getEnabled https => copy.modify https fun s => { s with enabled := (g.scheme https).enabled }
  | .getServer https => copy.modify https fun s => { s with server := (g.scheme https).server }
  | .getPort https => copy.modify https fun s => { s with port := (g.scheme https).port }
  | _ => copy

/-- Operations in order, on the protected state and the thread's out parameters. -/
def runOps : List ProxyOp → ProxyShared × ProxySnapshot → ProxyShared × ProxySnapshot
  | [], p => p
  | op :: ops, p => runOps ops (p.1.apply op, op.read p.1.globals p.2)

/-- The reset at the start of `network_update_proxy` ("slam everything to default disabled
state in case something fails"). -/
def resetOps : List ProxyOp :=
  [.setEnabled false 0, .setServer false "", .setPort false 0,
    .setEnabled true 0, .setServer true "", .setPort true 0]

/-- The writes of one scheme's block of `network_update_proxy` (webdav_network.c:445–468 for
HTTP, 470–493 for HTTPS): `CFStringGetCString` writes into the server global and
`CFNumberGetValue` into the port global whether or not they succeed. -/
def schemeOps (https : Bool) (defaultPort : Int) (e : ProxyEntry) : List ProxyOp :=
  match e.enable with
  | some (enabled, true) =>
    if enabled = 0 then []
    else
      match e.host with
      | some (server, hostConverted) =>
        .setServer https server ::
          if hostConverted then
            match e.port with
            | some (port, portConverted) =>
              .setPort https port ::
                if portConverted then
                  (if port = 0 then [.setPort https defaultPort] else []) ++ [.setEnabled https 1]
                else []
            | none => []
          else []
      | none => []
  | _ => []

/-- The calls that take `gNetworkGlobals_lock` to reach the proxy globals. -/
inductive ProxyCall where
  /-- `network_update_proxy`, with the HTTP and HTTPS entries of the dictionary
  `SCDynamicStoreCopyProxies` returns (`none` for `NULL`). -/
  | networkUpdateProxy (proxies : Option (ProxyEntry × ProxyEntry))
  /-- `network_get_proxy_settings`; `mallocOk` when both server buffers are allocated. -/
  | networkGetProxySettings (mallocOk : Bool)
  | setGlobalStreamProperties
  deriving DecidableEq, Repr

/-- The HTTP and HTTPS blocks of `network_update_proxy`, run when `SCDynamicStoreCopyProxies`
returned a dictionary. -/
def proxyWrites : Option (ProxyEntry × ProxyEntry) → List ProxyOp
  | some (http, https) =>
    schemeOps false kHttpDefaultPort http ++ schemeOps true kHttpsDefaultPort https
  | none => []

/-- What each call does while it holds the lock. -/
def ProxyCall.ops : ProxyCall → List ProxyOp
  | .networkUpdateProxy proxies =>
    .releaseDict :: resetOps ++ .copyDict proxies.isSome :: proxyWrites proxies
  | .networkGetProxySettings mallocOk =>
    if mallocOk then
      [.getEnabled false, .getServer false, .getPort false,
        .getEnabled true, .getServer true, .getPort true]
    else []
  | .setGlobalStreamProperties => [.useDict]

/-! ## Threads and steps -/

/-- Where a call is with the lock. -/
inductive LockPhase where
  | waiting
  /-- Holding the lock, after `k` of its operations. -/
  | inside (k : Nat)
  | finished
  deriving DecidableEq, Repr

/-- One call: its out parameters and, as ghost state, the protected state and out parameters
when it took the lock, and the number of the snapshot published last before it (snapshots are
numbered in the order the lock was released, `network_init`'s being `0`). -/
structure ProxyThread where
  call : ProxyCall
  phase : LockPhase
  copy : ProxySnapshot
  atLock : ProxyShared × ProxySnapshot
  lastPublished : Nat
  deriving DecidableEq, Repr

/-- The lock, the state it protects, the calls, and, as ghost state, the six globals each time
the lock was released and as `network_init` left them. -/
structure ProxyState where
  holder : Option Nat
  shared : ProxyShared
  threads : List ProxyThread
  published : List ProxySnapshot
  deriving DecidableEq, Repr

/-- One step of thread `t`: take the lock when it is free, run one operation, or release the
lock after the last one. A thread that cannot move changes nothing. -/
def ProxyState.step (st : ProxyState) (t : Nat) : ProxyState :=
  match st.threads[t]? with
  | none => st
  | some th =>
    match th.phase with
    | .waiting =>
      if st.holder = none then
        { st with
          holder := some t
          threads := st.threads.set t
            { th with
              phase := .inside 0
              atLock := (st.shared, th.copy)
              lastPublished := st.published.length - 1 } }
      else st
    | .inside k =>
      match th.call.ops[k]? with
      | some op =>
        { st with
          shared := st.shared.apply op
          threads := st.threads.set t
            { th with phase := .inside (k + 1), copy := op.read st.shared.globals th.copy } }
      | none =>
        { st with
          holder := none
          threads := st.threads.set t { th with phase := .finished }
          published := st.shared.globals :: st.published }
    | .finished => st

/-- A run: steps of the threads in any order. -/
def ProxyState.run (st : ProxyState) (ts : List Nat) : ProxyState :=
  ts.foldl step st

/-- The protected state before `network_init`: the globals zero, `gProxyDict` set to `NULL`. -/
def ProxyShared.zero : ProxyShared :=
  ⟨⟨.disabled, .disabled⟩, ⟨none, [], 0⟩⟩

/-- The protected state as `network_init`'s call of `network_update_proxy` leaves it. -/
def ProxyShared.afterInit (proxies : Option (ProxyEntry × ProxyEntry)) : ProxyShared :=
  (runOps (ProxyCall.networkUpdateProxy proxies).ops (.zero, ⟨.disabled, .disabled⟩)).1

/-- After `network_init`, with `calls` waiting for the lock. -/
def ProxyState.initial (proxies : Option (ProxyEntry × ProxyEntry)) (calls : List ProxyCall) :
    ProxyState :=
  ⟨none, .afterInit proxies,
    calls.map fun c => ⟨c, .waiting, ⟨.disabled, .disabled⟩, (.zero, ⟨.disabled, .disabled⟩), 0⟩,
    [(ProxyShared.afterInit proxies).globals]⟩

/-! ## What the operations do -/

@[simp] theorem runOps_nil (p : ProxyShared × ProxySnapshot) : runOps [] p = p := rfl

@[simp] theorem runOps_cons (op : ProxyOp) (ops : List ProxyOp) (p : ProxyShared × ProxySnapshot) :
    runOps (op :: ops) p = runOps ops (p.1.apply op, op.read p.1.globals p.2) := by
  rw [runOps]

theorem runOps_append (l₁ l₂ : List ProxyOp) (p : ProxyShared × ProxySnapshot) :
    runOps (l₁ ++ l₂) p = runOps l₂ (runOps l₁ p) := by
  induction l₁ generalizing p with
  | nil => rfl
  | cons op ops ih => simp only [List.cons_append, runOps_cons, ih]

/-- The operation assigns one of the six globals. -/
def ProxyOp.isSet : ProxyOp → Bool
  | .setEnabled _ _ | .setServer _ _ | .setPort _ _ => true
  | _ => false

/-- The operation changes the protected state. -/
def ProxyOp.writes (op : ProxyOp) : Bool :=
  op.isSet || op = .releaseDict || ∃ copied, op = .copyDict copied

theorem ProxyShared.apply_dict_of_isSet {op : ProxyOp} (h : op.isSet = true) (sh : ProxyShared) :
    (sh.apply op).dict = sh.dict := by
  cases op <;> simp_all [ProxyOp.isSet, ProxyShared.apply]

theorem ProxyShared.apply_of_writes {op : ProxyOp} (h : op.writes = false) (sh : ProxyShared) :
    sh.apply op = sh := by
  cases op <;> simp_all [ProxyOp.writes, ProxyOp.isSet, ProxyShared.apply]

/-- Assignments to the six globals leave `gProxyDict` alone. -/
theorem runOps_dict_of_isSet : ∀ {ops : List ProxyOp}, (∀ op ∈ ops, op.isSet = true) →
    ∀ p, (runOps ops p).1.dict = p.1.dict
  | [], _, _ => rfl
  | op :: ops, h, p => by
    rw [runOps_cons, runOps_dict_of_isSet (fun o ho => h o (List.mem_cons_of_mem _ ho)),
      ProxyShared.apply_dict_of_isSet (h op (List.mem_cons_self _ _))]

/-- Operations that write nothing leave the protected state alone. -/
theorem runOps_fst_of_writes : ∀ {ops : List ProxyOp}, (∀ op ∈ ops, op.writes = false) →
    ∀ p, (runOps ops p).1 = p.1
  | [], _, _ => rfl
  | op :: ops, h, p => by
    rw [runOps_cons, runOps_fst_of_writes (fun o ho => h o (List.mem_cons_of_mem _ ho)),
      ProxyShared.apply_of_writes (h op (List.mem_cons_self _ _))]

theorem resetOps_isSet : ∀ op ∈ resetOps, op.isSet = true := by
  decide

theorem schemeOps_isSet (https : Bool) (defaultPort : Int) (e : ProxyEntry) :
    ∀ op ∈ schemeOps https defaultPort e, op.isSet = true := by
  unfold schemeOps
  repeat' split
  all_goals simp only [List.mem_cons, List.mem_append, List.mem_singleton, List.not_mem_nil,
    or_false, false_or]
  all_goals rintro _ (rfl | rfl | rfl | rfl) <;> rfl

theorem proxyWrites_isSet (proxies : Option (ProxyEntry × ProxyEntry)) :
    ∀ op ∈ proxyWrites proxies, op.isSet = true := by
  rcases proxies with _ | ⟨http, https⟩
  · simp [proxyWrites]
  · simpa [proxyWrites, or_imp, forall_and] using
      ⟨schemeOps_isSet false _ http, schemeOps_isSet true _ https⟩

/-! ## Releasing and copying the dictionary -/

theorem DictState.Fresh.release {d : DictState} (h : d.Fresh) : d.release.Fresh := by
  unfold DictState.release
  split
  · next n hn =>
    refine ⟨fun m hm => ?_, h.2⟩
    rcases List.mem_cons.mp hm with rfl | hm
    · exact h.2 _ hn
    · exact h.1 m hm
  · exact h

/-- A copy is a dictionary never released: the pointer is live again. -/
theorem DictState.Fresh.copy {d : DictState} (h : d.Fresh) (copied : Bool) :
    (d.copy copied).Live ∧ (d.copy copied).Fresh := by
  obtain ⟨hrel, -⟩ := h
  cases copied
  · simpa [DictState.copy, DictState.Live, DictState.Fresh] using hrel
  · simp only [DictState.copy, DictState.Live, DictState.Fresh, if_true, Option.some.injEq,
      forall_eq']
    exact ⟨fun hn => Nat.lt_irrefl _ (hrel _ hn), fun n hn => Nat.lt_succ_of_lt (hrel n hn),
      Nat.lt_succ_self _⟩

/-- Every call leaves `gProxyDict` live: `network_update_proxy` releases it and copies a new one,
the other two do not touch it. -/
theorem ProxyCall.ops_live (c : ProxyCall) (p : ProxyShared × ProxySnapshot)
    (hl : p.1.dict.Live) (hf : p.1.dict.Fresh) :
    (runOps c.ops p).1.dict.Live ∧ (runOps c.ops p).1.dict.Fresh := by
  cases c with
  | networkUpdateProxy proxies =>
    simp only [ProxyCall.ops, List.cons_append, runOps_cons, runOps_append]
    rw [runOps_dict_of_isSet (proxyWrites_isSet proxies)]
    dsimp only [ProxyShared.apply]
    rw [runOps_dict_of_isSet resetOps_isSet]
    exact hf.release.copy _
  | networkGetProxySettings mallocOk =>
    rw [runOps_fst_of_writes (by cases mallocOk <;> decide)]
    exact ⟨hl, hf⟩
  | setGlobalStreamProperties =>
    rw [runOps_fst_of_writes (by decide)]
    exact ⟨hl, hf⟩

/-- Only `set_global_stream_properties` hands `gProxyDict` to a stream, as its one operation. -/
theorem ProxyCall.ops_useDict {c : ProxyCall} {k : Nat} (h : c.ops[k]? = some .useDict) :
    c = .setGlobalStreamProperties ∧ k = 0 := by
  have hmem : ProxyOp.useDict ∈ c.ops := List.mem_iff_getElem?.mpr ⟨k, h⟩
  cases c with
  | networkUpdateProxy proxies =>
    simp only [ProxyCall.ops, List.cons_append, List.mem_cons, List.mem_append] at hmem
    rcases hmem with h | h | h | h
    · cases h
    · exact absurd (resetOps_isSet _ h) (by decide)
    · cases h
    · exact absurd (proxyWrites_isSet _ _ h) (by decide)
  | networkGetProxySettings mallocOk => cases mallocOk <;> simp [ProxyCall.ops] at hmem
  | setGlobalStreamProperties =>
    refine ⟨rfl, ?_⟩
    cases k with
    | zero => rfl
    | succ k => simp [ProxyCall.ops] at h

/-! ## Against `networkUpdateProxy` -/

theorem runOps_resetOps (p : ProxyShared × ProxySnapshot) :
    runOps resetOps p = ({ p.1 with globals := ⟨.disabled, .disabled⟩ }, p.2) := by
  obtain ⟨⟨⟨⟨_, _, _⟩, ⟨_, _, _⟩⟩, d⟩, c⟩ := p
  rfl

theorem ProxySnapshot.modify_modify (g : ProxySnapshot) (https : Bool)
    (f f' : ProxyScheme → ProxyScheme) :
    (g.modify https f).modify https f' = g.modify https fun s => f' (f s) := by
  cases https <;> rfl

/-- `modify` reads the scheme it changes only through `f`. -/
theorem ProxySnapshot.modify_congr {g : ProxySnapshot} {https : Bool}
    {f f' : ProxyScheme → ProxyScheme} (h : f (g.scheme https) = f' (g.scheme https)) :
    g.modify https f = g.modify https f' := by
  cases https <;> simp_all [ProxySnapshot.modify, ProxySnapshot.scheme]

theorem ProxySnapshot.modify_scheme {g : ProxySnapshot} {https : Bool} :
    g.modify https (fun _ => g.scheme https) = g := by
  cases https <;> rfl

/-- One scheme's block writes, from the reset state, what `updateProxyScheme` computes. -/
theorem runOps_schemeOps (https : Bool) (defaultPort : Int) (e : ProxyEntry) (sh : ProxyShared)
    (copy : ProxySnapshot) (h : sh.globals.scheme https = .disabled) :
    runOps (schemeOps https defaultPort e) (sh, copy) =
      ({ sh with globals := sh.globals.modify https fun _ => updateProxyScheme defaultPort e },
        copy) := by
  -- the writes, from the reset state, give the scheme `s`
  have hwrites : ∀ (ops : List ProxyOp) (s : ProxyScheme),
      runOps ops (sh, copy) = ({ sh with globals := sh.globals.modify https fun _ => s }, copy) →
      updateProxyScheme defaultPort e = s →
      runOps ops (sh, copy) =
        ({ sh with globals := sh.globals.modify https fun _ => updateProxyScheme defaultPort e },
          copy) := fun _ _ h₁ h₂ => h₂ ▸ h₁
  have hnone : ∀ s, s = ProxyScheme.disabled →
      (sh, copy) = ({ sh with globals := sh.globals.modify https fun _ => s }, copy) := by
    rintro _ rfl
    rw [← h, ProxySnapshot.modify_scheme]
  obtain ⟨enable, host, port⟩ := e
  rcases enable with _ | ⟨v, _ | _⟩
  · exact hnone _ rfl
  · exact hnone _ rfl
  by_cases hv : v = 0
  · simpa [schemeOps, updateProxyScheme, hv] using hnone _ rfl
  rcases host with _ | ⟨server, _ | _⟩
  · simpa [schemeOps, updateProxyScheme, hv] using hnone _ rfl
  · -- `CFStringGetCString` failed after writing `server`
    refine hwrites _ ⟨0, server, 0⟩ ?_ (by simp [updateProxyScheme, hv])
    simp only [schemeOps, hv, if_false, Bool.false_eq_true, runOps_cons, runOps_nil,
      ProxyShared.apply, ProxyOp.read]
    congr 2
    exact ProxySnapshot.modify_congr (by rw [h]; rfl)
  rcases port with _ | ⟨p, _ | _⟩
  · refine hwrites _ ⟨0, server, 0⟩ ?_ (by simp [updateProxyScheme, hv])
    simp only [schemeOps, hv, if_false, if_true, runOps_cons, runOps_nil, ProxyShared.apply,
      ProxyOp.read]
    congr 2
    exact ProxySnapshot.modify_congr (by rw [h]; rfl)
  · -- `CFNumberGetValue` failed after writing `p`
    refine hwrites _ ⟨0, server, p⟩ ?_ (by simp [updateProxyScheme, hv])
    simp only [schemeOps, hv, if_false, if_true, Bool.false_eq_true, runOps_cons, runOps_nil,
      ProxyShared.apply, ProxyOp.read, ProxySnapshot.modify_modify]
    congr 2
    exact ProxySnapshot.modify_congr (by rw [h]; rfl)
  · -- all three fields are written: no field of the reset scheme is left
    refine hwrites _ ⟨1, server, if p = 0 then defaultPort else p⟩ ?_
      (by simp [updateProxyScheme, hv])
    by_cases hp : p = 0 <;>
      simp only [schemeOps, hv, hp, if_false, if_true, List.singleton_append, List.nil_append,
        runOps_cons, runOps_nil, ProxyShared.apply, ProxyOp.read, ProxySnapshot.modify_modify]

/-- **The writes of `network_update_proxy` are `networkUpdateProxy`.** From any globals, the
reset and the two blocks leave the snapshot `networkUpdateProxy` computes. -/
theorem runOps_networkUpdateProxy (proxies : Option (ProxyEntry × ProxyEntry))
    (p : ProxyShared × ProxySnapshot) (invalidate : Nat) :
    (runOps (ProxyCall.networkUpdateProxy proxies).ops p).1.globals =
      (networkUpdateProxy proxies invalidate).1 := by
  simp only [ProxyCall.ops, List.cons_append, runOps_cons, runOps_append, runOps_resetOps]
  rcases proxies with _ | ⟨http, https⟩
  · rfl
  · rw [proxyWrites, runOps_append, runOps_schemeOps false, runOps_schemeOps true] <;> rfl

/-- `network_get_proxy_settings` with both buffers copies the six globals, whatever its out
parameters held. -/
theorem runOps_networkGetProxySettings (p : ProxyShared × ProxySnapshot) :
    runOps (ProxyCall.networkGetProxySettings true).ops p = (p.1, p.1.globals) := by
  obtain ⟨sh, c⟩ := p
  simp [ProxyCall.ops, ProxyShared.apply, ProxyOp.read, ProxySnapshot.modify,
    ProxySnapshot.scheme]

/-! ## The lock discipline -/

/-- `g` is the snapshot `g₀` of `network_init`, or that of a call of `network_update_proxy` among
`threads` that ran to its end. -/
def PublishedBy (g₀ : ProxySnapshot) (threads : List ProxyThread) (g : ProxySnapshot) : Prop :=
  g = g₀ ∨ ∃ (t : Nat) (th : ProxyThread) (proxies : Option (ProxyEntry × ProxyEntry)),
    threads[t]? = some th ∧ th.call = .networkUpdateProxy proxies ∧
    th.phase = .finished ∧ g = (networkUpdateProxy proxies 0).1

/-- The lock discipline: one call at a time is inside, and it runs its operations on the state it
found when it took the lock, which the last call to leave had published. -/
structure ProxyState.Locked (g₀ : ProxySnapshot) (st : ProxyState) : Prop where
  inside_holder : ∀ {t : Nat} {th : ProxyThread} {k : Nat}, st.threads[t]? = some th →
    th.phase = .inside k → st.holder = some t
  holder_inside : ∀ {t : Nat}, st.holder = some t →
    ∃ (th : ProxyThread) (k : Nat), st.threads[t]? = some th ∧ th.phase = .inside k
  /-- With the lock free, the globals are the snapshot published last and `gProxyDict` is
  live. -/
  quiet : st.holder = none →
    st.published.head? = some st.shared.globals ∧ st.shared.dict.Live ∧ st.shared.dict.Fresh
  /-- The call inside has run its first `k` operations on the state it found, a quiet one, and
  nothing was published since it took the lock. -/
  inside : ∀ {t : Nat} {th : ProxyThread} {k : Nat}, st.threads[t]? = some th →
    th.phase = .inside k →
    (st.shared, th.copy) = runOps (th.call.ops.take k) th.atLock ∧
      th.lastPublished + 1 = st.published.length ∧ st.published.head? = some th.atLock.1.globals ∧
      th.atLock.1.dict.Live ∧ th.atLock.1.dict.Fresh
  /-- A finished call ran all its operations on the snapshot published last before it took the
  lock. -/
  finished : ∀ {t : Nat} {th : ProxyThread}, st.threads[t]? = some th → th.phase = .finished →
    th.copy = (runOps th.call.ops th.atLock).2 ∧
      st.published.reverse[th.lastPublished]? = some th.atLock.1.globals
  published : ∀ g ∈ st.published, PublishedBy g₀ st.threads g

theorem getElem?_set_eq_some {α : Type} {l : List α} {t t' : Nat} {a b : α}
    (h : (l.set t a)[t']? = some b) : t' = t ∧ b = a ∨ t' ≠ t ∧ l[t']? = some b := by
  by_cases h₁ : t' = t
  · subst h₁
    rw [List.getElem?_set, if_pos rfl] at h
    split_ifs at h
    exact .inl ⟨rfl, (Option.some.inj h).symm⟩
  · rw [List.getElem?_set_ne (Ne.symm h₁)] at h
    exact .inr ⟨h₁, h⟩

/-- Changing a call that has not finished keeps what the finished ones published. -/
theorem PublishedBy.set {g₀ g : ProxySnapshot} {l : List ProxyThread} {t : Nat}
    {th : ProxyThread} (h : PublishedBy g₀ l g) (hth : l[t]? = some th)
    (hnf : th.phase ≠ .finished) (th' : ProxyThread) : PublishedBy g₀ (l.set t th') g := by
  rcases h with h | ⟨t₁, th₁, proxies, h₁, hc, hf, rfl⟩
  · exact .inl h
  · have hne : t ≠ t₁ := by
      rintro rfl
      rw [hth] at h₁
      cases h₁
      exact hnf hf
    exact .inr ⟨t₁, th₁, proxies, by rw [List.getElem?_set_ne hne]; exact h₁, hc, hf, rfl⟩

/-- The snapshot published last is number `length - 1`. -/
theorem getElem?_reverse_of_head? {α : Type} {l : List α} {a : α} (h : l.head? = some a) :
    l.reverse[l.length - 1]? = some a := by
  have hpos : 0 < l.length := List.length_pos_of_mem (List.mem_of_mem_head? h)
  rw [List.getElem?_reverse (by omega), show l.length - 1 - (l.length - 1) = 0 by omega,
    ← List.head?_eq_getElem?, h]

/-- Publishing a snapshot keeps the numbers of those published before. -/
theorem getElem?_reverse_cons {α : Type} {l : List α} {i : Nat} {b : α} (a : α)
    (h : l.reverse[i]? = some b) : (a :: l).reverse[i]? = some b := by
  rw [List.reverse_cons, List.getElem?_append_left (List.getElem?_eq_some_iff.mp h).1]
  exact h

section Steps

variable {g₀ : ProxySnapshot} {st : ProxyState} {t : Nat} {th : ProxyThread}

/-- While `t` holds the lock, no other call is inside. -/
theorem ProxyState.Locked.not_inside (hl : st.Locked g₀) (hholder : st.holder = some t)
    {t' : Nat} {th' : ProxyThread} (h : st.threads[t']? = some th') (hne : t' ≠ t) (k : Nat) :
    th'.phase ≠ .inside k := fun hk => by
  rw [hl.inside_holder h hk] at hholder
  exact hne (Option.some.inj hholder)

/-- Taking the free lock. -/
theorem ProxyState.Locked.acquire (hl : st.Locked g₀) (hth : st.threads[t]? = some th)
    (hw : th.phase = .waiting) (hfree : st.holder = none) :
    ({ st with
        holder := some t
        threads := st.threads.set t
          { th with
            phase := .inside 0
            atLock := (st.shared, th.copy)
            lastPublished := st.published.length - 1 } } : ProxyState).Locked g₀ := by
  have hlen : t < st.threads.length := (List.getElem?_eq_some_iff.mp hth).1
  have hnone : ∀ {t' : Nat} {th' : ProxyThread} {k : Nat}, st.threads[t']? = some th' →
      th'.phase ≠ .inside k :=
    fun h hk => by rw [hl.inside_holder h hk] at hfree; cases hfree
  obtain ⟨hpub, hlive, hfresh⟩ := hl.quiet hfree
  have hpos : 1 ≤ st.published.length := List.length_pos_of_mem (List.mem_of_mem_head? hpub)
  constructor
  · intro t' th' k h hk
    rcases getElem?_set_eq_some h with ⟨rfl, -⟩ | ⟨-, h⟩
    · rfl
    · exact absurd hk (hnone h)
  · rintro t' ⟨⟩
    exact ⟨_, 0, List.getElem?_set_self hlen, rfl⟩
  · intro h
    cases h
  · intro t' th' k h hk
    rcases getElem?_set_eq_some h with ⟨rfl, rfl⟩ | ⟨-, h⟩
    · cases hk
      exact ⟨rfl, Nat.sub_add_cancel hpos, hpub, hlive, hfresh⟩
    · exact absurd hk (hnone h)
  · intro t' th' h hf
    rcases getElem?_set_eq_some h with ⟨rfl, rfl⟩ | ⟨-, h⟩
    · cases hf
    · exact hl.finished h hf
  · exact fun g hg => (hl.published g hg).set hth (by rw [hw]; exact nofun) _

/-- One operation of the call inside. -/
theorem ProxyState.Locked.advance (hl : st.Locked g₀) (hth : st.threads[t]? = some th)
    {k : Nat} (hk : th.phase = .inside k) {op : ProxyOp} (hop : th.call.ops[k]? = some op) :
    ({ st with
        shared := st.shared.apply op
        threads := st.threads.set t
          { th with phase := .inside (k + 1), copy := op.read st.shared.globals th.copy } } :
      ProxyState).Locked g₀ := by
  have hlen : t < st.threads.length := (List.getElem?_eq_some_iff.mp hth).1
  have hholder := hl.inside_holder hth hk
  obtain ⟨hrun, hlast, hpub, hlive, hfresh⟩ := hl.inside hth hk
  constructor
  · intro t' th' k' h hk'
    rcases getElem?_set_eq_some h with ⟨rfl, -⟩ | ⟨hne, h⟩
    · exact hholder
    · exact absurd hk' (hl.not_inside hholder h hne k')
  · rintro t' h
    rw [hholder] at h
    cases h
    exact ⟨_, k + 1, List.getElem?_set_self hlen, rfl⟩
  · intro h
    rw [hholder] at h
    cases h
  · intro t' th' k' h hk'
    rcases getElem?_set_eq_some h with ⟨rfl, rfl⟩ | ⟨hne, h⟩
    · cases hk'
      refine ⟨?_, hlast, hpub, hlive, hfresh⟩
      rw [List.take_succ, hop, Option.toList_some, runOps_append, ← hrun]
      rfl
    · exact absurd hk' (hl.not_inside hholder h hne k')
  · intro t' th' h hf
    rcases getElem?_set_eq_some h with ⟨rfl, rfl⟩ | ⟨-, h⟩
    · cases hf
    · exact hl.finished h hf
  · exact fun g hg => (hl.published g hg).set hth (by rw [hk]; exact nofun) _

/-- Releasing the lock after the last operation. -/
theorem ProxyState.Locked.release (hl : st.Locked g₀) (hth : st.threads[t]? = some th)
    {k : Nat} (hk : th.phase = .inside k) (hop : th.call.ops[k]? = none) :
    ({ st with
        holder := none
        threads := st.threads.set t { th with phase := .finished }
        published := st.shared.globals :: st.published } : ProxyState).Locked g₀ := by
  have hlen : t < st.threads.length := (List.getElem?_eq_some_iff.mp hth).1
  have hholder := hl.inside_holder hth hk
  obtain ⟨hrun, hlast, hpub, hlive, hfresh⟩ := hl.inside hth hk
  rw [List.take_of_length_le (List.getElem?_eq_none_iff.mp hop)] at hrun
  have hsh : st.shared = (runOps th.call.ops th.atLock).1 := congrArg Prod.fst hrun
  have hnf : th.phase ≠ .finished := by rw [hk]; exact nofun
  constructor
  · intro t' th' k' h hk'
    rcases getElem?_set_eq_some h with ⟨rfl, rfl⟩ | ⟨hne, h⟩
    · cases hk'
    · exact absurd hk' (hl.not_inside hholder h hne k')
  · rintro t' ⟨⟩
  · intro _
    refine ⟨rfl, ?_⟩
    rw [hsh]
    exact th.call.ops_live _ hlive hfresh
  · intro t' th' k' h hk'
    rcases getElem?_set_eq_some h with ⟨rfl, rfl⟩ | ⟨hne, h⟩
    · cases hk'
    · exact absurd hk' (hl.not_inside hholder h hne k')
  · intro t' th' h hf
    rcases getElem?_set_eq_some h with ⟨rfl, rfl⟩ | ⟨-, h⟩
    · have hnum : th.lastPublished = st.published.length - 1 := by omega
      exact ⟨congrArg Prod.snd hrun,
        getElem?_reverse_cons _ (hnum ▸ getElem?_reverse_of_head? hpub)⟩
    · exact ⟨(hl.finished h hf).1, getElem?_reverse_cons _ (hl.finished h hf).2⟩
  · intro g hg
    rcases List.mem_cons.mp hg with rfl | hg
    · -- what the call leaves: a new snapshot for `network_update_proxy`, the old one otherwise
      rw [hsh]
      cases hc : th.call with
      | networkUpdateProxy proxies =>
        exact .inr ⟨t, _, proxies, List.getElem?_set_self hlen, rfl, rfl,
          runOps_networkUpdateProxy proxies th.atLock 0⟩
      | networkGetProxySettings mallocOk =>
        rw [runOps_fst_of_writes (by cases mallocOk <;> decide)]
        exact (hl.published _ (List.mem_of_mem_head? hpub)).set hth hnf _
      | setGlobalStreamProperties =>
        rw [runOps_fst_of_writes (by decide)]
        exact (hl.published _ (List.mem_of_mem_head? hpub)).set hth hnf _
    · exact (hl.published g hg).set hth hnf _

/-- **Every step keeps the lock discipline.** -/
theorem ProxyState.Locked.step (hl : st.Locked g₀) (t : Nat) : (st.step t).Locked g₀ := by
  unfold ProxyState.step
  split
  · exact hl
  · next th hth =>
    split
    · next hw =>
      split_ifs with hfree
      · exact hl.acquire hth hw hfree
      · exact hl
    · next k hk =>
      split
      · next op hop => exact hl.advance hth hk hop
      · next hop => exact hl.release hth hk hop
    · exact hl

end Steps

/-- **The lock discipline holds along every run.** -/
theorem ProxyState.Locked.run {g₀ : ProxySnapshot} {st : ProxyState} (hl : st.Locked g₀)
    (ts : List Nat) : (st.run ts).Locked g₀ := by
  induction ts generalizing st with
  | nil => exact hl
  | cons t ts ih => exact ih (hl.step t)

/-- `network_init` leaves the discipline in place, with its own snapshot published. -/
theorem ProxyState.initial_locked (proxies : Option (ProxyEntry × ProxyEntry))
    (calls : List ProxyCall) :
    (ProxyState.initial proxies calls).Locked (networkUpdateProxy proxies 0).1 := by
  have hwaiting : ∀ {t : Nat} {th : ProxyThread},
      (ProxyState.initial proxies calls).threads[t]? = some th →
      th.phase = .waiting := fun h => by
    obtain ⟨c, -, rfl⟩ := Option.map_eq_some'.mp
      (by simpa [ProxyState.initial, List.getElem?_map] using h)
    rfl
  have hzero : ProxyShared.zero.dict.Live ∧ ProxyShared.zero.dict.Fresh :=
    ⟨nofun, nofun, nofun⟩
  constructor
  · intro t th k h hk
    rw [hwaiting h] at hk
    cases hk
  · rintro t ⟨⟩
  · intro _
    exact ⟨rfl, (ProxyCall.networkUpdateProxy proxies).ops_live _ hzero.1 hzero.2⟩
  · intro t th k h hk
    rw [hwaiting h] at hk
    cases hk
  · intro t th h hf
    rw [hwaiting h] at hf
    cases hf
  · intro g hg
    rw [List.mem_singleton.mp hg]
    exact .inl (runOps_networkUpdateProxy proxies _ 0)

/-! ## What the callers see -/

/-- **`network_get_proxy_settings` returns a whole snapshot.** In every run from the state
`network_init` leaves, however the calls interleave, a call of `network_get_proxy_settings` that
allocated its buffers and returned has copied the settings `network_init` read, or those of one
call of `network_update_proxy` that ran to its end: never a mix of two calls, nor the reset state
of a call still running. -/
theorem networkGetProxySettings_snapshot (proxies₀ : Option (ProxyEntry × ProxyEntry))
    (calls : List ProxyCall) (ts : List Nat) {t : Nat} {th : ProxyThread}
    (hth : ((ProxyState.initial proxies₀ calls).run ts).threads[t]? = some th)
    (hcall : th.call = .networkGetProxySettings true) (hfin : th.phase = .finished) :
    th.copy = (networkUpdateProxy proxies₀ 0).1 ∨
      ∃ (t' : Nat) (th' : ProxyThread) (proxies : Option (ProxyEntry × ProxyEntry)),
        ((ProxyState.initial proxies₀ calls).run ts).threads[t']? = some th' ∧
        th'.call = .networkUpdateProxy proxies ∧ th'.phase = .finished ∧
        th.copy = (networkUpdateProxy proxies 0).1 := by
  have hl := (ProxyState.initial_locked proxies₀ calls).run ts
  obtain ⟨hcopy, hnum⟩ := hl.finished hth hfin
  rw [hcopy, hcall, runOps_networkGetProxySettings]
  exact hl.published _ (List.mem_reverse.mp (List.getElem?_mem hnum))

/-- `network_init` finds no proxy; a change of the settings runs to its end, then a read. -/
theorem networkGetProxySettings_snapshot_after_update :
    let e : ProxyEntry := ⟨some (1, true), some ("p", true), some (0, true)⟩
    let g : ProxySnapshot := ⟨⟨1, "p", 80⟩, ⟨1, "p", 443⟩⟩
    let th : ProxyThread :=
      ⟨.networkGetProxySettings true, .finished, g, (⟨g, ⟨some 0, [], 1⟩⟩, ⟨.disabled, .disabled⟩),
        1⟩
    let st := (ProxyState.initial none [.networkUpdateProxy (some (e, e)),
      .networkGetProxySettings true]).run (List.replicate 18 0 ++ List.replicate 8 1)
    st.threads[1]? = some th ∧
      (th.copy = (networkUpdateProxy none 0).1 ∨
        ∃ (t' : Nat) (th' : ProxyThread) (proxies : Option (ProxyEntry × ProxyEntry)),
          st.threads[t']? = some th' ∧ th'.call = .networkUpdateProxy proxies ∧
          th'.phase = .finished ∧ th.copy = (networkUpdateProxy proxies 0).1) := by
  refine ⟨?hth, networkGetProxySettings_snapshot none _ _ ?hth rfl rfl⟩
  set_option maxRecDepth 4000 in decide

/-- **`network_get_proxy_settings` returns the latest snapshot.** In every run from the state
`network_init` leaves, a call of `network_get_proxy_settings` that allocated its buffers and
returned has copied the snapshot published last before it took the lock, numbering snapshots in
the order the lock was released: no change of the settings that ended before it is lost, and
none that ended after it shows. -/
theorem networkGetProxySettings_latest (proxies₀ : Option (ProxyEntry × ProxyEntry))
    (calls : List ProxyCall) (ts : List Nat) {t : Nat} {th : ProxyThread}
    (hth : ((ProxyState.initial proxies₀ calls).run ts).threads[t]? = some th)
    (hcall : th.call = .networkGetProxySettings true) (hfin : th.phase = .finished) :
    ((ProxyState.initial proxies₀ calls).run ts).published.reverse[th.lastPublished]? =
      some th.copy := by
  obtain ⟨hcopy, hnum⟩ := ((ProxyState.initial_locked proxies₀ calls).run ts).finished hth hfin
  rwa [hcopy, hcall, runOps_networkGetProxySettings]

/-- `network_init` finds no proxy and a change of the settings runs to its end; a read takes the
lock, and a second change, to no proxies at all, waits for it and runs after it. The read
returns the first change's settings, snapshot `1`, though the second change published another
since. -/
theorem networkGetProxySettings_latest_racing_update :
    let e : ProxyEntry := ⟨some (1, true), some ("p", true), some (0, true)⟩
    let g : ProxySnapshot := ⟨⟨1, "p", 80⟩, ⟨1, "p", 443⟩⟩
    let th : ProxyThread := ⟨.networkGetProxySettings true, .finished, g,
      (⟨g, ⟨some 0, [], 1⟩⟩, ⟨.disabled, .disabled⟩), 1⟩
    let st := (ProxyState.initial none [.networkUpdateProxy (some (e, e)),
      .networkGetProxySettings true, .networkUpdateProxy none]).run
        (List.replicate 18 0 ++ [1, 2] ++ List.replicate 7 1 ++ List.replicate 10 2)
    st.threads[1]? = some th ∧ st.published.head? = some ⟨.disabled, .disabled⟩ ∧
      st.published.reverse[th.lastPublished]? = some th.copy := by
  set_option maxRecDepth 4000 in
  refine ⟨?hth, by decide, networkGetProxySettings_latest none _ _ ?hth rfl rfl⟩
  set_option maxRecDepth 4000 in decide

/-- **`set_global_stream_properties` never hands a released dictionary to a stream.** In every
run, whenever a call is about to pass `gProxyDict` to `CFReadStreamSetProperty`, `gProxyDict` is
`NULL` or a dictionary not yet released, although `network_update_proxy` leaves it dangling
between its `CFRelease` and its next copy. -/
theorem setGlobalStreamProperties_live (proxies₀ : Option (ProxyEntry × ProxyEntry))
    (calls : List ProxyCall) (ts : List Nat) {t k : Nat} {th : ProxyThread}
    (hth : ((ProxyState.initial proxies₀ calls).run ts).threads[t]? = some th)
    (hk : th.phase = .inside k) (hop : th.call.ops[k]? = some .useDict) :
    ((ProxyState.initial proxies₀ calls).run ts).shared.dict.Live := by
  have hl := (ProxyState.initial_locked proxies₀ calls).run ts
  obtain ⟨-, rfl⟩ := ProxyCall.ops_useDict hop
  obtain ⟨hrun, -, -, hlive, -⟩ := hl.inside hth hk
  rw [List.take_zero, runOps_nil] at hrun
  rw [← hrun] at hlive
  exact hlive

/-- `network_init` copies dictionary `0`, with no proxy enabled; a change of the settings
releases it and copies dictionary `1`; then a stream is opened, and what it is handed is `1`, not
the released `0`. -/
theorem setGlobalStreamProperties_live_after_update :
    let e : ProxyEntry := ⟨none, none, none⟩
    let th : ProxyThread := ⟨.setGlobalStreamProperties, .inside 0, ⟨.disabled, .disabled⟩,
      (⟨⟨.disabled, .disabled⟩, ⟨some 1, [0], 2⟩⟩, ⟨.disabled, .disabled⟩), 1⟩
    let st := (ProxyState.initial (some (e, e))
      [.networkUpdateProxy (some (e, e)), .setGlobalStreamProperties]).run
        (List.replicate 10 0 ++ [1])
    st.threads[1]? = some th ∧ st.shared.dict = ⟨some 1, [0], 2⟩ ∧ st.shared.dict.Live := by
  refine ⟨?hth, by decide, setGlobalStreamProperties_live _ _ _ ?hth rfl rfl⟩
  decide

end WebDAVFS
