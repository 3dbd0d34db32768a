import WebDAVFS.Transaction

/-!
# The transaction/authentication loop

`send_transaction` (webdav_network.c:2131–2230), `network_open` (webdav_network.c:2915–3023) and
`network_fsync` (webdav_network.c:3243–3335) each carry a hand-written copy of one loop: create
the request message, let `authcache_apply` add credentials for the previous pass's status code
and response, run the transaction, and go round again after `EAGAIN` or a 401/407 response. A
loop left with `0` has its last status code translated by `translate_status_to_error`, and a
translated success is reported to `authcache_valid` with the generation of the last pass.

The copies differ in the transaction they run and in `network_open`'s mapping of 304 to 200, so
the loop is `authLoop` over a transaction and the code after it is `LoopRun.outcome` over a
status map; each copy is these two at its own values (`network_open`'s is in `Open`). The auth
cache (`authcache.c`) is not in the repository: each pass (`Pass`) carries what
`authcache_apply` answers. Between two passes other transactions run; each of their
`HandleSSLErrors` calls is atomic, and they may set the connection state (`Interference`).

- `authLoop_calls`: `authcache_apply` is called with status 0 and no response first and after
  every `EAGAIN`, and with the previous 401/407 status and response otherwise.
- `authLoop_goesRound`, `authLoop_running`, `authLoop_exit`: every pass but the last goes round
  again, and the loop stops at the first pass whose message creation or `authcache_apply`
  fails, or whose transaction gives another error or a status other than 401/407, with that
  error; `LoopRun.outcome_error` then returns it, or the translated status.
- `authLoop_retriesWithin`: when every `EAGAIN` of the transaction spends budget, at most the
  starting budget of passes end in `EAGAIN`, and a loop still going after `k` passes has met at
  least `k` minus that budget challenges.
- `translateStatusToError_eq_spec`: `translate_status_to_error` is the spec's mapping (§4.H) at
  every status code a loop can leave with, except 414.
-/

namespace WebDAVFS

/-! ## `translate_status_to_error` -/

/-- `translate_status_to_error` (webdav_network.c:884–948). -/
def translateStatusToError (statusCode : Nat) : Nat :=
  match statusCode / 100 with
  | 1 => ENOENT
  | 2 => 0
  | 3 => ENOENT
  | 4 =>
    match statusCode with
    | 401 | 407 => EAUTH
    | 402 | 403 => EPERM
    | 404 | 409 | 410 => ENOENT
    -- `case 414` sets `ENAMETOOLONG` and, having no `break`, falls through into 423/424
    | 414 | 423 | 424 => EBUSY
    | _ => EINVAL
  | 5 => if statusCode = 507 then ENOSPC else ENOENT
  | _ => EIO

/-- The spec's mapping of a final status code to an error (§4.H), in its words. -/
def specStatusError (s : Nat) : Nat :=
  if s < 100 ∨ 600 ≤ s then EIO
  else if s < 200 then ENOENT
  else if s < 300 then 0
  else if s < 400 then ENOENT
  else if s < 500 then
    if s = 402 ∨ s = 403 then EPERM
    else if s = 404 ∨ s = 409 ∨ s = 410 then ENOENT
    else if s = 414 then ENAMETOOLONG
    else if s = 423 ∨ s = 424 then EBUSY
    else EINVAL
  else if s = 507 then ENOSPC
  else ENOENT

/-- `translate_status_to_error` agrees with the spec at every status code a loop can leave with
(401 and 407 always go round again), except 414. -/
theorem translateStatusToError_eq_spec {s : Nat} (h401 : s ≠ 401) (h407 : s ≠ 407)
    (h414 : s ≠ 414) : translateStatusToError s = specStatusError s := by
  unfold translateStatusToError specStatusError
  split
  · rw [if_neg (by omega), if_pos (by omega)]
  · rw [if_neg (by omega), if_neg (by omega), if_pos (by omega)]
  · rw [if_neg (by omega), if_neg (by omega), if_neg (by omega), if_pos (by omega)]
  · rw [if_neg (by omega), if_neg (by omega), if_neg (by omega), if_neg (by omega),
      if_pos (by omega)]
    -- the listed 4xx codes are closed terms; 401, 407 and 414 are excluded
    split <;> try first | decide | contradiction
    simp only [imp_false] at *
    simp only [*, or_self, if_false]
  · simp (disch := omega) only [if_neg]
  · simp only [imp_false] at *
    rw [if_pos (by omega)]

/-- Every 2xx status is success. -/
@[simp] theorem translateStatusToError_2xx {s : Nat} (h₁ : 200 ≤ s) (h₂ : s < 300) :
    translateStatusToError s = 0 := by
  unfold translateStatusToError
  rw [show s / 100 = 2 by omega]

/-! ## The loop -/

/-- What other transactions do to the shared state between two passes: their `HandleSSLErrors`
calls, each atomic, and the connection state they last set, if any. -/
structure Interference where
  sslCalls : List (SSLEnv × StreamError)
  connection : Option ConnectionState

/-- The shared state after the other transactions' steps. -/
def Interference.apply (c : SSLErrorCodes) (i : Interference) (s : NetState) : NetState :=
  { s with ssl := sslRun c s.ssl i.sslCalls, connection := i.connection.getD s.connection }

/-- One pass of the loop as the world answers it. -/
structure Pass (ε : Type) where
  /-- `CFHTTPMessageCreateRequest` succeeds. -/
  messageCreated : Bool
  /-- What `authcache_apply` returns. -/
  applyResult : Nat
  /-- The generation `authcache_apply` leaves in `auth_generation`. -/
  generation : Nat
  /-- What the other transactions do before this pass's transaction. -/
  others : Interference
  /-- What the network and the local system do during the transaction. -/
  event : ε

/-- The same pass, with the world's answer to the request it sends. -/
def Pass.map {ε ε' : Type} (f : ε → ε') (p : Pass ε) : Pass ε' :=
  ⟨p.messageCreated, p.applyResult, p.generation, p.others, f p.event⟩

/-- The variables the loop carries from one pass to the next. -/
structure LoopVars (σ ρ : Type) where
  statusCode : Nat
  responseRef : Option ρ
  authGeneration : Nat
  net : NetState
  /-- The rest of the state the transaction writes (the node, for `network_open`). -/
  world : σ

/-- The variables a loop starts with: status `0`, no response, generation `0`, and
`retryTransaction = TRUE`. -/
def LoopVars.initial {σ ρ : Type} (s : NetState) (w : σ) : LoopVars σ ρ :=
  ⟨0, none, 0, { s with retryTransaction := true }, w⟩

/-- The arguments `authcache_apply` gets from the loop variables. -/
def LoopVars.call {σ ρ : Type} (v : LoopVars σ ρ) : Nat × Option ρ :=
  (v.statusCode, v.responseRef)

/-- A run of the loop over the passes the world answered. -/
structure LoopRun (σ ρ : Type) where
  /-- `error` as the loop is left, or `none` when the passes ran out while it goes on. -/
  exit : Option Nat
  vars : LoopVars σ ρ
  /-- The status code and response `authcache_apply` was called with, pass by pass. -/
  applyCalls : List (Nat × Option ρ)
  /-- What each pass's transaction returned. -/
  results : List (Except Nat ρ)

/-- A run behind one more pass that went round. -/
def LoopRun.cons {σ ρ : Type} (call : Nat × Option ρ) (r : Except Nat ρ)
    (run : LoopRun σ ρ) : LoopRun σ ρ :=
  { run with applyCalls := call :: run.applyCalls, results := r :: run.results }

section Loop

variable {σ ε ρ : Type} (c : SSLErrorCodes)
  (txn : NetState → σ → ε → Except Nat ρ × NetState × σ) (statusOf : ρ → Nat)

/-- The loop's condition `error == EAGAIN || statusCode == 401 || statusCode == 407`, read off
a pass's result (another error has already left the loop through `break`). -/
def goesRound : Except Nat ρ → Bool
  | .error e => e = EAGAIN
  | .ok x => statusOf x = 401 || statusOf x = 407

/-- One pass's transaction, after the other transactions' steps: its result and the loop
variables after it. `statusCode` becomes `0` after `EAGAIN` and the response's status after a
response. -/
def LoopVars.pass (v : LoopVars σ ρ) (p : Pass ε) : Except Nat ρ × LoopVars σ ρ :=
  match txn (p.others.apply c v.net) v.world p.event with
  | (.error e, net, w) =>
    (.error e, ⟨if e = EAGAIN then 0 else v.statusCode, none, p.generation, net, w⟩)
  | (.ok x, net, w) => (.ok x, ⟨statusOf x, some x, p.generation, net, w⟩)

/-- The transaction/authentication loop (webdav_network.c:2138–2205). -/
def authLoop : LoopVars σ ρ → List (Pass ε) → LoopRun σ ρ
  | v, [] => ⟨none, v, [], []⟩
  | v, p :: ps =>
    if !p.messageCreated then ⟨some EIO, v, [], []⟩
    else if p.applyResult ≠ 0 then ⟨some p.applyResult, v, [v.call], []⟩
    else
      let (r, v') := v.pass c txn statusOf p
      if goesRound statusOf r then (authLoop v' ps).cons v.call r
      else ⟨some (resultCode r), v', [v.call], [r]⟩

end Loop

/-- What a copy of the loop returns: its error, and the generation it called `authcache_valid`
with, if it did. -/
structure LoopOutcome (σ ρ : Type) where
  error : Nat
  validated : Option Nat
  vars : LoopVars σ ρ

/-- The code after the loop (webdav_network.c:2207–2223): a loop left with `0` has its last
status code, after `statusMap`, translated; a translated success calls `authcache_valid` with
the generation of the last pass. `none` while the loop goes on. -/
def LoopRun.outcome {σ ρ : Type} (statusMap : Nat → Nat) (run : LoopRun σ ρ) :
    Option (LoopOutcome σ ρ) :=
  run.exit.map fun e =>
    if e ≠ 0 then ⟨e, none, run.vars⟩
    else
      let r := translateStatusToError (statusMap run.vars.statusCode)
      ⟨r, if r = 0 then some run.vars.authGeneration else none, run.vars⟩

/-! ## `send_transaction` and `network_fsync` -/

/-- `stream_transaction` as `send_transaction`'s loop runs it. -/
def sendTransactionPass (c : SSLErrorCodes) (gSuppressAllUI : Bool) (s : NetState) (_ : Unit)
    (ev : TransactionEvent) : Except Nat Reply × NetState × Unit :=
  let o := streamTransaction c gSuppressAllUI s ev
  (o.1, o.2, ())

/-- The loop of `send_transaction`. -/
def sendTransactionLoop (c : SSLErrorCodes) (gSuppressAllUI : Bool) (s : NetState)
    (ps : List (Pass TransactionEvent)) : LoopRun Unit Reply :=
  authLoop c (sendTransactionPass c gSuppressAllUI) (·.response.statusCode) (.initial s ()) ps

/-- `send_transaction` (webdav_network.c:2106–2236): the error, and on success the response with
its body. -/
def sendTransaction (c : SSLErrorCodes) (gSuppressAllUI : Bool) (s : NetState)
    (ps : List (Pass TransactionEvent)) : Option (Nat × Option Reply) :=
  ((sendTransactionLoop c gSuppressAllUI s ps).outcome id).map fun o =>
    (o.error, if o.error = 0 then o.vars.responseRef else none)

/-- `stream_transaction_from_file` as `network_fsync`'s loop runs it. -/
def networkFsyncPass (c : SSLErrorCodes) (gSuppressAllUI : Bool) (s : NetState) (_ : Unit)
    (ev : FileTransactionEvent) : Except Nat Response × NetState × Unit :=
  let o := streamTransactionFromFile c gSuppressAllUI s ev
  (o.1, o.2, ())

/-- The loop of `network_fsync`'s `PUT`. -/
def networkFsyncLoop (c : SSLErrorCodes) (gSuppressAllUI : Bool) (s : NetState)
    (ps : List (Pass FileTransactionEvent)) : LoopRun Unit Response :=
  authLoop c (networkFsyncPass c gSuppressAllUI) (·.statusCode) (.initial s ()) ps

/-- The `PUT` of `network_fsync` (webdav_network.c:3212–3372), when `create_cfurl_from_node`
succeeds: the error, and on success the `Last-Modified` and `ETag` of the response. The
`PROPFIND` it sends afterwards when both are missing is another `send_transaction`. -/
def networkFsync (c : SSLErrorCodes) (gSuppressAllUI : Bool) (s : NetState)
    (ps : List (Pass FileTransactionEvent)) : Option (Nat × Option Int × Option String) :=
  ((networkFsyncLoop c gSuppressAllUI s ps).outcome id).map fun o =>
    match o.error, o.vars.responseRef with
    | 0, some r => (0, r.lastModified, r.entityTag)
    | e, _ => (e, none, none)

/-! ## One pass, said once -/

section Pass

variable {σ ε ρ : Type} {c : SSLErrorCodes}
  {txn : NetState → σ → ε → Except Nat ρ × NetState × σ} {statusOf : ρ → Nat}
  {v : LoopVars σ ρ} {p : Pass ε}

/-- The arguments of the `authcache_apply` call that follows a pass with result `r`. -/
def nextCall (statusOf : ρ → Nat) : Except Nat ρ → Nat × Option ρ
  | .error _ => (0, none)
  | .ok x => (statusOf x, some x)

/-- A 401/407 response of the transaction. -/
def isChallenge (statusOf : ρ → Nat) : Except Nat ρ → Bool
  | .error _ => false
  | .ok x => statusOf x = 401 || statusOf x = 407

theorem LoopVars.pass_fst :
    (v.pass c txn statusOf p).1 = (txn (p.others.apply c v.net) v.world p.event).1 := by
  unfold LoopVars.pass
  split <;> simp_all

theorem LoopVars.pass_net :
    (v.pass c txn statusOf p).2.net = (txn (p.others.apply c v.net) v.world p.event).2.1 := by
  unfold LoopVars.pass
  split <;> simp_all

theorem LoopVars.pass_world :
    (v.pass c txn statusOf p).2.world = (txn (p.others.apply c v.net) v.world p.event).2.2 := by
  unfold LoopVars.pass
  split <;> simp_all

theorem LoopVars.pass_authGeneration :
    (v.pass c txn statusOf p).2.authGeneration = p.generation := by
  unfold LoopVars.pass
  split <;> rfl

/-- After a pass that got a response, the loop holds it and its status. -/
theorem LoopVars.pass_ok {x : ρ} (h : (v.pass c txn statusOf p).1 = .ok x) :
    (v.pass c txn statusOf p).2.statusCode = statusOf x ∧
      (v.pass c txn statusOf p).2.responseRef = some x := by
  unfold LoopVars.pass at h ⊢
  split at h <;> simp_all

/-- After a pass that goes round, `authcache_apply` is called with `nextCall` of its result. -/
theorem LoopVars.pass_call (h : goesRound statusOf (v.pass c txn statusOf p).1) :
    (v.pass c txn statusOf p).2.call = nextCall statusOf (v.pass c txn statusOf p).1 := by
  unfold LoopVars.pass at h ⊢
  split at h <;> simp_all [goesRound, LoopVars.call, nextCall]

theorem resultCode_ne_eagain {r : Except Nat ρ} (h : goesRound statusOf r = false) :
    resultCode r ≠ EAGAIN := by
  cases r <;> simp_all [goesRound, resultCode]

/-- Everything one pass of the loop can do. -/
theorem authLoop_cons_cases (c : SSLErrorCodes)
    (txn : NetState → σ → ε → Except Nat ρ × NetState × σ) (statusOf : ρ → Nat)
    (v : LoopVars σ ρ) (p : Pass ε) (ps : List (Pass ε)) :
    (p.messageCreated = false ∧
      authLoop c txn statusOf v (p :: ps) = ⟨some EIO, v, [], []⟩) ∨
    (p.messageCreated = true ∧ p.applyResult ≠ 0 ∧
      authLoop c txn statusOf v (p :: ps) = ⟨some p.applyResult, v, [v.call], []⟩) ∨
    (p.messageCreated = true ∧ p.applyResult = 0 ∧
      goesRound statusOf (v.pass c txn statusOf p).1 = true ∧
      authLoop c txn statusOf v (p :: ps) =
        (authLoop c txn statusOf (v.pass c txn statusOf p).2 ps).cons v.call
          (v.pass c txn statusOf p).1) ∨
    (p.messageCreated = true ∧ p.applyResult = 0 ∧
      goesRound statusOf (v.pass c txn statusOf p).1 = false ∧
      authLoop c txn statusOf v (p :: ps) =
        ⟨some (resultCode (v.pass c txn statusOf p).1), (v.pass c txn statusOf p).2, [v.call],
          [(v.pass c txn statusOf p).1]⟩) := by
  simp only [authLoop]
  cases p.messageCreated
  · simp
  · by_cases ha : p.applyResult = 0
    · cases goesRound statusOf (v.pass c txn statusOf p).1 <;> simp [ha]
    · simp [ha]

end Pass

/-! ## The calls of `authcache_apply` and where the loop stops -/

section Contract

variable {σ ε ρ : Type} {c : SSLErrorCodes}
  {txn : NetState → σ → ε → Except Nat ρ × NetState × σ} {statusOf : ρ → Nat}

/-- `authcache_apply` is called first with the loop's initial arguments, and after each pass
with `nextCall` of its result: status `0` and no response after `EAGAIN`, the 401/407 status and
its response after a challenge. -/
theorem authLoop_calls (v : LoopVars σ ρ) (ps : List (Pass ε)) :
    (authLoop c txn statusOf v ps).applyCalls <+:
        v.call :: (authLoop c txn statusOf v ps).results.map (nextCall statusOf) ∧
      (authLoop c txn statusOf v ps).results.length ≤
        (authLoop c txn statusOf v ps).applyCalls.length := by
  induction ps generalizing v with
  | nil => simp [authLoop]
  | cons p ps ih =>
    rcases authLoop_cons_cases c txn statusOf v p ps with
      ⟨-, h⟩ | ⟨-, -, h⟩ | ⟨-, -, hg, h⟩ | ⟨-, -, -, h⟩ <;> rw [h]
    · simp
    · simp
    · obtain ⟨h₁, h₂⟩ := ih (v.pass c txn statusOf p).2
      rw [LoopVars.pass_call (by simpa using hg)] at h₁
      exact ⟨List.cons_prefix_cons.mpr ⟨rfl, by simpa using h₁⟩,
        by simpa [LoopRun.cons] using h₂⟩
    · simp

/-- A loop still going on ran the transaction of every pass, and each went round. -/
theorem authLoop_running (v : LoopVars σ ρ) (ps : List (Pass ε))
    (h : (authLoop c txn statusOf v ps).exit = none) :
    (authLoop c txn statusOf v ps).results.length = ps.length ∧
      ∀ r ∈ (authLoop c txn statusOf v ps).results, goesRound statusOf r := by
  induction ps generalizing v with
  | nil => simp [authLoop]
  | cons p ps ih =>
    rcases authLoop_cons_cases c txn statusOf v p ps with
      ⟨-, h'⟩ | ⟨-, -, h'⟩ | ⟨-, -, hg, h'⟩ | ⟨-, -, -, h'⟩ <;> rw [h'] at h ⊢
    · cases h
    · cases h
    · obtain ⟨h₁, h₂⟩ := ih _ h
      refine ⟨by simp [LoopRun.cons, h₁], fun r hr => ?_⟩
      rcases List.mem_cons.mp hr with rfl | hr
      exacts [hg, h₂ r hr]
    · cases h

/-- Every pass but the last went round. -/
theorem authLoop_goesRound (v : LoopVars σ ρ) (ps : List (Pass ε)) :
    ∀ r ∈ (authLoop c txn statusOf v ps).results.dropLast, goesRound statusOf r := by
  induction ps generalizing v with
  | nil => simp [authLoop]
  | cons p ps ih =>
    rcases authLoop_cons_cases c txn statusOf v p ps with
      ⟨-, h⟩ | ⟨-, -, h⟩ | ⟨-, -, hg, h⟩ | ⟨-, -, -, h⟩ <;> rw [h]
    · simp
    · simp
    · intro r hr
      simp only [LoopRun.cons] at hr
      rcases hrest : (authLoop c txn statusOf (v.pass c txn statusOf p).2 ps).results with
        _ | ⟨r', rest⟩
      · simp [hrest] at hr
      · rw [hrest, List.dropLast_cons₂, List.mem_cons] at hr
        rcases hr with rfl | hr
        · exact hg
        · exact ih _ r (hrest ▸ hr)
    · simp

/-- **Where the loop stops.** A loop left with `e` stopped at the pass after the ones that went
round, because message creation failed (`EIO`) or `authcache_apply` failed (its error); or at
the last pass that ran a transaction, whose result does not go round and gives `e`. Then the loop
variables hold that pass's generation, and its status code and response when it is one. -/
theorem authLoop_exit (v : LoopVars σ ρ) (ps : List (Pass ε)) {e : Nat}
    (he : (authLoop c txn statusOf v ps).exit = some e) :
    (∃ p, ps[(authLoop c txn statusOf v ps).results.length]? = some p ∧
        (p.messageCreated = false ∧ e = EIO ∨
          p.messageCreated = true ∧ p.applyResult ≠ 0 ∧ e = p.applyResult)) ∨
      ∃ p r, ps[(authLoop c txn statusOf v ps).results.length - 1]? = some p ∧
        (authLoop c txn statusOf v ps).results.getLast? = some r ∧
        goesRound statusOf r = false ∧ e = resultCode r ∧
        (authLoop c txn statusOf v ps).vars.authGeneration = p.generation ∧
        ∀ x, r = .ok x → (authLoop c txn statusOf v ps).vars.statusCode = statusOf x ∧
          (authLoop c txn statusOf v ps).vars.responseRef = some x := by
  induction ps generalizing v with
  | nil => simp [authLoop] at he
  | cons p ps ih =>
    rcases authLoop_cons_cases c txn statusOf v p ps with
      ⟨hm, h⟩ | ⟨hm, ha, h⟩ | ⟨-, -, -, h⟩ | ⟨-, -, hg, h⟩ <;> rw [h] at he ⊢
    · exact .inl ⟨p, by simp, .inl ⟨hm, by simpa using he.symm⟩⟩
    · exact .inl ⟨p, by simp, .inr ⟨hm, ha, by simpa using he.symm⟩⟩
    · rcases ih _ he with ⟨p', hp', hstop⟩ | ⟨p', r, hp', hr, hrest⟩
      · exact .inl ⟨p', by simpa [LoopRun.cons] using hp', hstop⟩
      · obtain ⟨k, hk⟩ : ∃ k,
            (authLoop c txn statusOf (v.pass c txn statusOf p).2 ps).results.length = k + 1 :=
          Nat.exists_eq_succ_of_ne_zero fun h0 => by simp [List.length_eq_zero.mp h0] at hr
        refine .inr ⟨p', r, ?_, ?_, hrest⟩
        · simpa [LoopRun.cons, hk] using hp'
        · simp only [LoopRun.cons, List.getLast?_cons, hr]
          rfl
    · refine .inr ⟨p, _, by simp, rfl, hg, by simpa using he.symm, LoopVars.pass_authGeneration,
        fun x hx => ?_⟩
      exact LoopVars.pass_ok hx

/-- A loop left with `0` over a transaction that never fails with `0` ended on a response
that does not go round, and holds it. -/
theorem authLoop_exit_zero (hnz : ∀ s w ev e, (txn s w ev).1 = .error e → e ≠ 0)
    (v : LoopVars σ ρ) (ps : List (Pass ε)) (h : (authLoop c txn statusOf v ps).exit = some 0) :
    ∃ x, (authLoop c txn statusOf v ps).vars.responseRef = some x ∧
      (authLoop c txn statusOf v ps).vars.statusCode = statusOf x ∧
      goesRound statusOf (.ok x) = false := by
  induction ps generalizing v with
  | nil => simp [authLoop] at h
  | cons p ps ih =>
    rcases authLoop_cons_cases c txn statusOf v p ps with
      ⟨-, h'⟩ | ⟨-, ha, h'⟩ | ⟨-, -, -, h'⟩ | ⟨-, -, hg, h'⟩ <;> rw [h'] at h ⊢
    · simp at h
    · simp only [Option.some.injEq] at h
      exact absurd h ha
    · exact ih _ h
    · simp only [Option.some.injEq] at h
      cases hr : (v.pass c txn statusOf p).1 with
      | error e =>
        rw [LoopVars.pass_fst] at hr
        rw [LoopVars.pass_fst, hr] at h
        exact absurd h (hnz _ _ _ _ hr)
      | ok x =>
        obtain ⟨hs, hx⟩ := LoopVars.pass_ok hr
        exact ⟨x, hx, hs, hr ▸ hg⟩

/-- The code after the loop returns the error the loop was left with, or the translated status
of the last response; it calls `authcache_valid` with the loop's generation exactly when it
returns `0`. -/
theorem LoopRun.outcome_error (statusMap : Nat → Nat) {run : LoopRun σ ρ}
    {o : LoopOutcome σ ρ} (h : run.outcome statusMap = some o) :
    ∃ e, run.exit = some e ∧
      o.error = (if e = 0 then translateStatusToError (statusMap run.vars.statusCode) else e) ∧
      o.validated = (if o.error = 0 then some run.vars.authGeneration else none) ∧
      o.vars = run.vars := by
  unfold LoopRun.outcome at h
  cases he : run.exit with
  | none => simp [he] at h
  | some e =>
    simp only [he, Option.map_some', Option.some.injEq] at h
    subst h
    by_cases h0 : e = 0 <;> simp [h0]

end Contract

/-! ## Retry accounting -/

section Retries

variable {σ ε ρ : Type} {c : SSLErrorCodes}
  {txn : NetState → σ → ε → Except Nat ρ × NetState × σ} {statusOf : ρ → Nat}

/-- A transaction that spends budget on every `EAGAIN` it returns. -/
def Spending (txn : NetState → σ → ε → Except Nat ρ × NetState × σ) : Prop :=
  ∀ (s : NetState) (w : σ) (ev : ε), s.ssl.Conforms →
    s.Spends (txn s w ev).2.1 (resultCode (txn s w ev).1)

/-- The other transactions' steps never give budget back. -/
theorem Interference.apply_spends (i : Interference) {s : NetState} (hs : s.ssl.Conforms) :
    s.Spends (i.apply c s) 0 :=
  have h := sslRun_extends (c := c) hs i.sslCalls
  ⟨h.1, h.2, id, fun h => by simp at h⟩

theorem LoopVars.pass_spends (htxn : Spending txn) {v : LoopVars σ ρ} (hs : v.net.ssl.Conforms)
    (p : Pass ε) :
    v.net.Spends (v.pass c txn statusOf p).2.net (resultCode (v.pass c txn statusOf p).1) := by
  rw [LoopVars.pass_net, LoopVars.pass_fst]
  exact (p.others.apply_spends hs).trans (htxn _ v.world p.event (p.others.apply_spends hs).2)

/-- The retry bound of a run over `k` passes: at most `n` passes end in `EAGAIN`, and a run still
going on has met at least `k - n` challenges. -/
def LoopRun.RetriesWithin (run : LoopRun σ ρ) (statusOf : ρ → Nat) (k n : Nat) : Prop :=
  run.results.countP (resultCode · = EAGAIN) ≤ n ∧
    (run.exit = none → k ≤ run.results.countP (isChallenge statusOf) + n)

/-- Over any run, the passes that end in `EAGAIN` are at most the budget the loop starts with. -/
theorem authLoop_eagain_le (htxn : Spending txn) (v : LoopVars σ ρ) (hs : v.net.ssl.Conforms)
    (ps : List (Pass ε)) :
    (authLoop c txn statusOf v ps).results.countP (resultCode · = EAGAIN) ≤ v.net.budget := by
  induction ps generalizing v with
  | nil => simp [authLoop]
  | cons p ps ih =>
    rcases authLoop_cons_cases c txn statusOf v p ps with
      ⟨-, h⟩ | ⟨-, -, h⟩ | ⟨-, -, -, h⟩ | ⟨-, -, hg, h⟩ <;> rw [h]
    · simp
    · simp
    · have hsp : v.net.Spends (v.pass c txn statusOf p).2.net _ := LoopVars.pass_spends htxn hs p
      have := ih _ hsp.conforms
      have := hsp.budget_le
      simp only [LoopRun.cons, List.countP_cons, decide_eq_true_eq]
      split
      · have := hsp.spends ‹_›
        omega
      · omega
    · simp [resultCode_ne_eagain hg]

/-- **Bounded retries.** A loop whose transaction spends budget on every `EAGAIN` has at most its
starting budget of `EAGAIN` passes; every other pass that goes round is a challenge. -/
theorem authLoop_retriesWithin (htxn : Spending txn) (v : LoopVars σ ρ)
    (hs : v.net.ssl.Conforms) (ps : List (Pass ε)) :
    (authLoop c txn statusOf v ps).RetriesWithin statusOf ps.length v.net.budget := by
  refine ⟨authLoop_eagain_le htxn v hs ps, fun h => ?_⟩
  obtain ⟨hlen, hround⟩ := authLoop_running v ps h
  have hsplit := List.length_eq_countP_add_countP (resultCode · = EAGAIN)
    (authLoop c txn statusOf v ps).results
  have hmono : (authLoop c txn statusOf v ps).results.countP
      (fun r => ¬ decide (resultCode r = EAGAIN) = true) ≤
      (authLoop c txn statusOf v ps).results.countP (isChallenge statusOf) :=
    List.countP_mono_left fun r hr hne => by
      have := hround r hr
      cases r <;> simp_all [goesRound, isChallenge, resultCode]
  have : (authLoop c txn statusOf v ps).results.countP _ ≤ _ := authLoop_eagain_le htxn v hs ps
  omega

theorem LoopVars.initial_budget (s : NetState) (w : σ) :
    (LoopVars.initial s w : LoopVars σ ρ).net.budget = 1 + absentKeys s.ssl := by
  simp [LoopVars.initial, NetState.budget]

theorem sendTransactionPass_ne_zero (c : SSLErrorCodes) (g : Bool) (s : NetState) (w : Unit)
    (ev : TransactionEvent) (e : Nat) (h : (sendTransactionPass c g s w ev).1 = .error e) :
    e ≠ 0 :=
  streamTransaction_error_ne_zero h

theorem sendTransactionPass_spending (c : SSLErrorCodes) (g : Bool) :
    Spending (sendTransactionPass c g) :=
  fun _ _ ev hs => streamTransaction_spends g hs ev

theorem networkFsyncPass_spending (c : SSLErrorCodes) (g : Bool) :
    Spending (networkFsyncPass c g) :=
  fun _ _ ev hs => streamTransactionFromFile_spends g hs ev

end Retries

end WebDAVFS
