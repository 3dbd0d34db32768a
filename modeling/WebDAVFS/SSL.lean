import WebDAVFS.Basic

/-!
# The SSL property bag and `HandleSSLErrors` (webdav_network.c:1268–1366)

`gSSLPropertiesDict` starts `NULL` and is filled in by `HandleSSLErrors` as TLS faults arrive:
the first SSL-domain error creates it, a protocol error may pin `kCFStreamSSLLevel` to SSLv3, and
each of three certificate cases asks the user (`ConfirmCertificate`) and, on acceptance, records
an override so that the transaction can be retried. `ApplySSLProperties` hands the whole bag to
every new stream.

- `handleSSLErrors`: the function, over a parameter table of `errSSL…` codes (the Security
  framework header is not in the repository).
- `handleSSLErrors_extends`: a call only adds entries, and only with the one value the code
  ever writes for that key; so from `NULL` the bag grows monotonically over any sequence of
  calls (`sslRun_extends`).
- `handleSSLErrors_eagain_adds`: `EAGAIN` is returned only when a checked key was absent and
  is now present; `absentKeys` counts those keys and drops with every such call.
- `handleSSLErrors_prompted`, `handleSSLErrors_overridden`: `ConfirmCertificate` is asked only
  while the case's override is absent, so an accepted class never prompts again.
- `handleSSLErrors_history`: all of it around any call of any history of calls from `NULL`.

What is *not* true: once a class is overridden, a later error of that class still takes the
TLS→SSL fallback when `kCFStreamSSLLevel` is absent and its code lies in a fallback range; with
the Security framework's codes, `errSSLHostNameMismatch` does, and is retried over SSLv3 where
the user's exception should have made it fail (`hostNameMismatch_after_badCert`).
-/

namespace WebDAVFS

open Function

/-- The `errSSL…` codes of `<Security/SecureTransport.h>` that `HandleSSLErrors` tests. The header
is not part of the repository, so the model takes the table as a parameter. -/
structure SSLErrorCodes where
  errSSLProtocol : Int
  errSSLXCertChainInvalid : Int
  errSSLCrypto : Int
  errSSLUnknownRootCert : Int
  errSSLClosedNoNotify : Int
  errSSLPeerBadCert : Int
  errSSLIllegalParam : Int
  errSSLPeerAccessDenied : Int
  errSSLLast : Int
  errSSLCertExpired : Int
  errSSLCertNotYetValid : Int
  errSSLBadCert : Int
  errSSLHostNameMismatch : Int
  errSSLNoRootCert : Int

/-- The values `<Security/SecureTransport.h>` gives the codes; used only for fixed inputs. -/
def secureTransportCodes : SSLErrorCodes where
  errSSLProtocol := -9800
  errSSLXCertChainInvalid := -9807
  errSSLCrypto := -9809
  errSSLUnknownRootCert := -9812
  errSSLClosedNoNotify := -9816
  errSSLPeerBadCert := -9825
  errSSLIllegalParam := -9830
  errSSLPeerAccessDenied := -9832
  errSSLLast := -9849
  errSSLCertExpired := -9814
  errSSLCertNotYetValid := -9815
  errSSLBadCert := -9808
  errSSLHostNameMismatch := -9843
  errSSLNoRootCert := -9813

/-! ## The bag -/

/-- The keys `HandleSSLErrors` writes into `gSSLPropertiesDict`. -/
inductive SSLKey where
  | level
  | allowsExpiredCertificates
  | allowsExpiredRoots
  | validatesCertificateChain
  | allowsAnyRoot
  deriving DecidableEq, Repr

/-- `kCFStreamSocketSecurityLevelSSLv3`, `kCFBooleanTrue`, `kCFBooleanFalse`. -/
inductive SSLValue where
  | sslv3
  | booleanTrue
  | booleanFalse
  deriving DecidableEq, Repr

/-- A `CFMutableDictionary` over the keys above. -/
abbrev SSLDict := SSLKey → Option SSLValue

/-- `gSSLPropertiesDict`: `none` while it is still `NULL`. -/
abbrev SSLBag := Option SSLDict

/-- `CFDictionaryGetValue`, reading a `NULL` bag as empty. -/
def SSLBag.get : SSLBag → SSLKey → Option SSLValue
  | none, _ => none
  | some d, k => d k

@[simp] theorem SSLBag.get_none (k : SSLKey) : SSLBag.get none k = none := rfl

@[simp] theorem SSLBag.get_some (d : SSLDict) (k : SSLKey) : SSLBag.get (some d) k = d k := rfl

/-- `b'` keeps every entry of `b`, with its value. -/
def SSLBag.Extends (b b' : SSLBag) : Prop :=
  ∀ k v, b.get k = some v → b'.get k = some v

theorem SSLBag.Extends.refl (b : SSLBag) : b.Extends b := fun _ _ h => h

theorem SSLBag.Extends.trans {b₁ b₂ b₃ : SSLBag} (h₁ : b₁.Extends b₂)
    (h₂ : b₂.Extends b₃) : b₁.Extends b₃ := fun k v h => h₂ k v (h₁ k v h)

/-- The one value the code ever stores under each key. -/
def SSLKey.written : SSLKey → SSLValue
  | .level => .sslv3
  | .allowsExpiredCertificates => .booleanTrue
  | .allowsExpiredRoots => .booleanTrue
  | .validatesCertificateChain => .booleanFalse
  | .allowsAnyRoot => .booleanTrue

/-- Every entry of the bag holds the value the code writes for its key. -/
def SSLBag.Conforms (b : SSLBag) : Prop :=
  ∀ k v, b.get k = some v → v = k.written

/-- Storing a key's own value into a conforming dictionary changes no present entry. -/
theorem extends_update_written {d : SSLDict} (hd : SSLBag.Conforms (some d)) (k : SSLKey) :
    SSLBag.Extends (some d) (some (update d k (some k.written))) := by
  intro j v hj
  by_cases hjk : j = k
  · subst hjk
    simp [hd j v hj]
  · simpa [update_noteq hjk] using hj

theorem conforms_update_written {d : SSLDict} (hd : SSLBag.Conforms (some d)) (k : SSLKey) :
    SSLBag.Conforms (some (update d k (some k.written))) := by
  intro j v hj
  by_cases hjk : j = k
  · subst hjk
    simpa using hj.symm
  · exact hd j v (by simpa [update_noteq hjk] using hj)

/-! ## `HandleSSLErrors` -/

/-- The TLS→SSL fallback test of `HandleSSLErrors` (webdav_network.c:1286–1291). -/
def fallbackRange (c : SSLErrorCodes) (error : Int) : Bool :=
  (error ≤ c.errSSLProtocol ∧ error > c.errSSLXCertChainInvalid) ∨
  (error ≤ c.errSSLCrypto ∧ error > c.errSSLUnknownRootCert) ∨
  (error ≤ c.errSSLClosedNoNotify ∧ error > c.errSSLPeerBadCert) ∨
  error = c.errSSLIllegalParam ∨
  (error ≤ c.errSSLPeerAccessDenied ∧ error > c.errSSLLast)

/-- The three certificate cases of the `switch` in `HandleSSLErrors`
(webdav_network.c:1299–1345). -/
inductive CertClass where
  | expired
  | invalid
  | unknownRoot
  deriving DecidableEq, Repr

/-- Which `case` of the `switch` a code falls into, in the order the cases are written. -/
def certClass (c : SSLErrorCodes) (error : Int) : Option CertClass :=
  if error = c.errSSLCertExpired ∨ error = c.errSSLCertNotYetValid then some .expired
  else if error = c.errSSLBadCert ∨ error = c.errSSLXCertChainInvalid ∨
      error = c.errSSLHostNameMismatch then some .invalid
  else if error = c.errSSLUnknownRootCert ∨ error = c.errSSLNoRootCert then some .unknownRoot
  else none

/-- The entry whose absence lets a case ask the user. -/
def CertClass.override : CertClass → SSLKey
  | .expired => .allowsExpiredCertificates
  | .invalid => .validatesCertificateChain
  | .unknownRoot => .allowsAnyRoot

/-- The entries a case stores once the user accepts. -/
def CertClass.accept (k : CertClass) (d : SSLDict) : SSLDict :=
  match k with
  | .expired =>
    update (update d .allowsExpiredCertificates (some .booleanTrue)) .allowsExpiredRoots
      (some .booleanTrue)
  | .invalid => update d .validatesCertificateChain (some .booleanFalse)
  | .unknownRoot => update d .allowsAnyRoot (some .booleanTrue)

/-- What the outside world answers during one `HandleSSLErrors` call. -/
structure SSLEnv where
  /-- `CFDictionaryCreateMutable` succeeds, when the bag is still `NULL`. -/
  dictCreated : Bool
  /-- `ConfirmCertificate`'s answer, if it is asked. -/
  accepted : Bool
  deriving DecidableEq, Repr

/-- The result of a call, the bag after it, and the code `ConfirmCertificate` was called with. -/
structure SSLAnswer where
  result : Nat
  bag : SSLBag
  prompted : Option Int

/-- `HandleSSLErrors` once `gSSLPropertiesDict` exists (webdav_network.c:1285–1350). -/
def handleInDict (c : SSLErrorCodes) (d : SSLDict) (accepted : Bool) (error : Int) :
    SSLAnswer :=
  if d .level = none ∧ fallbackRange c error then
    ⟨EAGAIN, some (update d .level (some .sslv3)), none⟩
  else
    match certClass c error with
    | some k =>
      if d k.override = none then
        if accepted then ⟨EAGAIN, some (k.accept d), some error⟩
        else ⟨ECANCELED, some d, some error⟩
      else ⟨ EIO, some d, none⟩
    | none => ⟨ EIO, some d, none⟩

/-- `HandleSSLErrors` (webdav_network.c:1268–1366): `EAGAIN` to retry the transaction,
`ECANCELED` when the user declined, `EIO` otherwise. -/
def handleSSLErrors (c : SSLErrorCodes) (bag : SSLBag) (env : SSLEnv) (e : StreamError) :
    SSLAnswer :=
  if e.domain = .ssl then
    match bag, env.dictCreated with
    | some d, _ => handleInDict c d env.accepted e.error
    | none, true => handleInDict c (fun _ => none) env.accepted e.error
    | none, false => ⟨ EIO, none, none⟩
  else ⟨ EIO, bag, none⟩

/-! ## One call -/

section OneCall

variable {c : SSLErrorCodes}

theorem accept_extends {d : SSLDict} (hd : SSLBag.Conforms (some d)) (k : CertClass) :
    SSLBag.Extends (some d) (some (k.accept d)) ∧ SSLBag.Conforms (some (k.accept d)) := by
  cases k with
  | expired =>
    have h₁ := conforms_update_written hd .allowsExpiredCertificates
    exact ⟨(extends_update_written hd _).trans (extends_update_written h₁ .allowsExpiredRoots),
      conforms_update_written h₁ .allowsExpiredRoots⟩
  | invalid =>
    exact ⟨extends_update_written hd _, conforms_update_written hd .validatesCertificateChain⟩
  | unknownRoot =>
    exact ⟨extends_update_written hd _, conforms_update_written hd .allowsAnyRoot⟩

@[simp] theorem accept_override (k : CertClass) (d : SSLDict) :
    k.accept d k.override = some k.override.written := by
  cases k <;> simp [CertClass.accept, CertClass.override, SSLKey.written, update_noteq]

theorem handleInDict_extends {d : SSLDict} (hd : SSLBag.Conforms (some d)) (acc : Bool)
    (err : Int) :
    SSLBag.Extends (some d) (handleInDict c d acc err).bag ∧
      (handleInDict c d acc err).bag.Conforms := by
  unfold handleInDict
  split
  · exact ⟨extends_update_written hd .level, conforms_update_written hd .level⟩
  · split
    · split
      · split
        · exact accept_extends hd _
        · exact ⟨.refl _, hd⟩
      · exact ⟨.refl _, hd⟩
    · exact ⟨.refl _, hd⟩

/-- The four keys `HandleSSLErrors` tests before it acts. -/
def checkedKeys : List SSLKey :=
  [.level, .allowsExpiredCertificates, .validatesCertificateChain, .allowsAnyRoot]

theorem override_mem_checkedKeys (k : CertClass) : k.override ∈ checkedKeys := by
  cases k <;> decide

theorem handleInDict_eagain {d : SSLDict} {acc : Bool} {err : Int}
    (h : (handleInDict c d acc err).result = EAGAIN) :
    ∃ k ∈ checkedKeys, d k = none ∧ (handleInDict c d acc err).bag.get k ≠ none := by
  unfold handleInDict at h ⊢
  split
  · next hl => exact ⟨.level, by decide, hl.1, by simp⟩
  · split
    · next k _ =>
      split
      · next ho =>
        split
        · exact ⟨k.override, override_mem_checkedKeys k, ho, by simp⟩
        · simp_all
      · simp_all
    · simp_all

theorem handleInDict_prompted {d : SSLDict} {acc : Bool} {err x : Int}
    (h : (handleInDict c d acc err).prompted = some x) :
    x = err ∧ ∃ k, certClass c err = some k ∧ d k.override = none := by
  unfold handleInDict at h
  split at h
  · cases h
  · split at h
    · next k hk =>
      split at h
      · next ho => split at h <;> (cases h; exact ⟨rfl, k, hk, ho⟩)
      · cases h
    · cases h

theorem handleInDict_overridden {d : SSLDict} {acc : Bool} {err : Int} {k : CertClass}
    (hk : certClass c err = some k) (ho : d k.override ≠ none) :
    (handleInDict c d acc err).prompted = none ∧
      ((handleInDict c d acc err).result = EIO ∨
        (handleInDict c d acc err).result = EAGAIN ∧ d .level = none ∧
          fallbackRange c err) := by
  unfold handleInDict
  split
  · next hl => exact ⟨rfl, .inr ⟨rfl, hl⟩⟩
  · simp [hk, ho]

theorem handleInDict_accepted {d : SSLDict} {acc : Bool} {err x : Int} {k : CertClass}
    (hp : (handleInDict c d acc err).prompted = some x)
    (hr : (handleInDict c d acc err).result = EAGAIN) (hk : certClass c err = some k) :
    (handleInDict c d acc err).bag.get k.override ≠ none := by
  unfold handleInDict at hp hr ⊢
  by_cases hl : d .level = none ∧ fallbackRange c err
  · simp [hl] at hp
  · simp only [hl, if_false, hk] at hp hr ⊢
    by_cases ho : d k.override = none
    · cases acc <;> simp_all
    · simp [ho] at hp

/-- What a call can do: answer `EIO` and leave the bag alone, or run the dictionary part on a
dictionary holding exactly the bag's entries. -/
theorem handleSSLErrors_cases (c : SSLErrorCodes) (b : SSLBag) (env : SSLEnv) (e : StreamError) :
    handleSSLErrors c b env e = ⟨ EIO, b, none⟩ ∨
      ∃ d : SSLDict, (∀ k, b.get k = d k) ∧ e.domain = .ssl ∧
        handleSSLErrors c b env e = handleInDict c d env.accepted e.error := by
  unfold handleSSLErrors
  split
  · next hd =>
    split
    · exact .inr ⟨_, fun _ => rfl, hd, rfl⟩
    · exact .inr ⟨fun _ => none, fun _ => rfl, hd, rfl⟩
    · exact .inl rfl
  · exact .inl rfl

variable {b : SSLBag} {env : SSLEnv} {e : StreamError}

/-- A call keeps every entry, and stores only the value the code writes for a key. -/
theorem handleSSLErrors_extends (hb : b.Conforms) (env : SSLEnv) (e : StreamError) :
    b.Extends (handleSSLErrors c b env e).bag ∧ (handleSSLErrors c b env e).bag.Conforms := by
  rcases handleSSLErrors_cases c b env e with h | ⟨d, hbd, -, h⟩ <;> rw [h]
  · exact ⟨.refl _, hb⟩
  · have hd : SSLBag.Conforms (some d) := fun k v hk => hb k v ((hbd k).trans hk)
    exact ⟨fun k v hk => (handleInDict_extends hd _ _).1 k v ((hbd k).symm.trans hk),
      (handleInDict_extends hd _ _).2⟩

/-- `EAGAIN` only when a checked key was absent and the call stored it. -/
theorem handleSSLErrors_eagain_adds (h : (handleSSLErrors c b env e).result = EAGAIN) :
    ∃ k ∈ checkedKeys, b.get k = none ∧ (handleSSLErrors c b env e).bag.get k ≠ none := by
  rcases handleSSLErrors_cases c b env e with h' | ⟨d, hbd, -, h'⟩ <;> rw [h'] at h ⊢
  · cases h
  · obtain ⟨k, hk, h₀, h₁⟩ := handleInDict_eagain h
    exact ⟨k, hk, (hbd k).trans h₀, h₁⟩

/-- `ConfirmCertificate` is asked only about an SSL certificate error whose override is absent. -/
theorem handleSSLErrors_prompted {x : Int} (h : (handleSSLErrors c b env e).prompted = some x) :
    x = e.error ∧ e.domain = .ssl ∧
      ∃ k, certClass c e.error = some k ∧ b.get k.override = none := by
  rcases handleSSLErrors_cases c b env e with h' | ⟨d, hbd, hd, h'⟩ <;> rw [h'] at h
  · cases h
  · obtain ⟨hx, k, hk, ho⟩ := handleInDict_prompted h
    exact ⟨hx, hd, k, hk, (hbd _).trans ho⟩

/-- Once a class is overridden its errors never prompt; they give `EIO` unless the fallback
still applies. -/
theorem handleSSLErrors_overridden {k : CertClass}
    (hk : certClass c e.error = some k) (ho : b.get k.override ≠ none) :
    (handleSSLErrors c b env e).prompted = none ∧
      ((handleSSLErrors c b env e).result = EIO ∨
        (handleSSLErrors c b env e).result = EAGAIN ∧ b.get .level = none ∧
          fallbackRange c e.error) := by
  rcases handleSSLErrors_cases c b env e with h | ⟨d, hbd, -, h⟩ <;> rw [h]
  · exact ⟨rfl, .inl rfl⟩
  · rw [hbd]
    exact handleInDict_overridden hk (by rwa [← hbd])

/-- An accepted prompt leaves the class's override in the bag. -/
theorem handleSSLErrors_accepted {x : Int} {k : CertClass}
    (hp : (handleSSLErrors c b env e).prompted = some x)
    (hr : (handleSSLErrors c b env e).result = EAGAIN) (hk : certClass c e.error = some k) :
    (handleSSLErrors c b env e).bag.get k.override ≠ none := by
  rcases handleSSLErrors_cases c b env e with h | ⟨d, -, -, h⟩ <;> rw [h] at hp hr ⊢
  · cases hp
  · exact handleInDict_accepted hp hr hk

end OneCall

/-! ## Retries left in the bag -/

/-- One checked key's share of `absentKeys`. -/
def SSLBag.absent (b : SSLBag) (k : SSLKey) : Nat := if b.get k = none then 1 else 0

/-- How many of the four checked keys are absent: the SSL retries the bag still allows. -/
def absentKeys (b : SSLBag) : Nat :=
  b.absent .level + b.absent .allowsExpiredCertificates + b.absent .validatesCertificateChain +
    b.absent .allowsAnyRoot

theorem SSLBag.Extends.absent_le {b b' : SSLBag} (h : b.Extends b') (k : SSLKey) :
    b'.absent k ≤ b.absent k := by
  unfold SSLBag.absent
  cases hb : b.get k with
  | none => split <;> simp
  | some v => simp [h k v hb]

theorem absentKeys_le {b b' : SSLBag} (h : b.Extends b') : absentKeys b' ≤ absentKeys b := by
  have h₁ := h.absent_le .level
  have h₂ := h.absent_le .allowsExpiredCertificates
  have h₃ := h.absent_le .validatesCertificateChain
  have h₄ := h.absent_le .allowsAnyRoot
  unfold absentKeys
  omega

/-- Storing a checked key uses up one retry. -/
theorem absentKeys_lt {b b' : SSLBag} (h : b.Extends b') {k : SSLKey} (hk : k ∈ checkedKeys)
    (h₀ : b.get k = none) (h₁ : b'.get k ≠ none) : absentKeys b' < absentKeys b := by
  have hlt : b'.absent k < b.absent k := by simp [SSLBag.absent, h₀, h₁]
  have h₂ := h.absent_le .level
  have h₃ := h.absent_le .allowsExpiredCertificates
  have h₄ := h.absent_le .validatesCertificateChain
  have h₅ := h.absent_le .allowsAnyRoot
  unfold absentKeys
  simp only [checkedKeys, List.mem_cons, List.mem_singleton, List.not_mem_nil, or_false] at hk
  rcases hk with rfl | rfl | rfl | rfl <;> omega

/-- Every `EAGAIN` of `HandleSSLErrors` uses up one of the bag's retries. -/
theorem handleSSLErrors_absentKeys {c : SSLErrorCodes} {b : SSLBag} (hb : b.Conforms)
    (env : SSLEnv) (e : StreamError) :
    absentKeys (handleSSLErrors c b env e).bag ≤ absentKeys b ∧
      ((handleSSLErrors c b env e).result = EAGAIN →
        absentKeys (handleSSLErrors c b env e).bag < absentKeys b) := by
  have hx := (handleSSLErrors_extends (c := c) hb env e).1
  refine ⟨absentKeys_le hx, fun h => ?_⟩
  obtain ⟨k, hk, h₀, h₁⟩ := handleSSLErrors_eagain_adds h
  exact absentKeys_lt hx hk h₀ h₁

/-! ## Runs from `NULL` -/

/-- The bag after a sequence of `HandleSSLErrors` calls. -/
def sslRun (c : SSLErrorCodes) : SSLBag → List (SSLEnv × StreamError) → SSLBag
  | b, [] => b
  | b, (env, e) :: calls => sslRun c (handleSSLErrors c b env e).bag calls

section Runs

variable {c : SSLErrorCodes}

theorem sslRun_append (b : SSLBag) (l₁ l₂ : List (SSLEnv × StreamError)) :
    sslRun c b (l₁ ++ l₂) = sslRun c (sslRun c b l₁) l₂ := by
  induction l₁ generalizing b with
  | nil => rfl
  | cons call l₁ ih => exact ih _

theorem conforms_none : SSLBag.Conforms none := fun _ _ h => by simp at h

theorem sslRun_extends {b : SSLBag} (hb : b.Conforms) (calls : List (SSLEnv × StreamError)) :
    b.Extends (sslRun c b calls) ∧ (sslRun c b calls).Conforms := by
  induction calls generalizing b with
  | nil => exact ⟨.refl _, hb⟩
  | cons call calls ih =>
    obtain ⟨h₁, h₂⟩ := handleSSLErrors_extends hb call.1 call.2
    obtain ⟨h₃, h₄⟩ := ih h₂
    exact ⟨h₁.trans h₃, h₄⟩

theorem SSLBag.Extends.get_ne_none {b b' : SSLBag} (h : b.Extends b') {k : SSLKey}
    (hk : b.get k ≠ none) : b'.get k ≠ none := by
  obtain ⟨v, hv⟩ := Option.ne_none_iff_exists'.mp hk
  simp [h k v hv]

/-- **The SSL property bag only grows** over every sequence of `HandleSSLErrors` calls from
`NULL`. Around any call, with `b` the bag before it and `a` its answer: every entry of `b`
survives this and all later calls; `EAGAIN` means a checked key absent from `b` was stored;
`ConfirmCertificate` is asked only while the error's override is absent from `b`; and once an
earlier call had the user accept an error of the same class, this call does not prompt and
returns `EIO`, or `EAGAIN` through the TLS→SSL fallback while `kCFStreamSSLLevel` is absent. -/
theorem handleSSLErrors_history (c : SSLErrorCodes) (pre post : List (SSLEnv × StreamError))
    (env : SSLEnv) (e : StreamError) :
    let b := sslRun c none pre
    let a := handleSSLErrors c b env e
    b.Extends (sslRun c a.bag post) ∧
      (a.result = EAGAIN → ∃ k ∈ checkedKeys, b.get k = none ∧ a.bag.get k ≠ none) ∧
      (∀ x, a.prompted = some x →
        ∃ k, certClass c e.error = some k ∧ b.get k.override = none) ∧
      (∀ pre₁ mid env₁ e₁ x k, pre = pre₁ ++ (env₁, e₁) :: mid →
        (handleSSLErrors c (sslRun c none pre₁) env₁ e₁).prompted = some x →
        (handleSSLErrors c (sslRun c none pre₁) env₁ e₁).result = EAGAIN →
        certClass c e₁.error = some k → certClass c e.error = some k →
        a.prompted = none ∧
          (a.result = EIO ∨
            a.result = EAGAIN ∧ b.get .level = none ∧ fallbackRange c e.error)) := by
  intro b a
  have hb : b.Conforms := (sslRun_extends conforms_none pre).2
  obtain ⟨hba, ha⟩ := handleSSLErrors_extends (c := c) hb env e
  refine ⟨hba.trans (sslRun_extends ha post).1, handleSSLErrors_eagain_adds,
    fun x hx => (handleSSLErrors_prompted hx).2.2, ?_⟩
  rintro pre₁ mid env₁ e₁ x k rfl hp hr hk₁ hk
  have hb₁ : (sslRun c none pre₁).Conforms := (sslRun_extends conforms_none pre₁).2
  have ho := handleSSLErrors_accepted hp hr hk₁
  have hmid :=
    (sslRun_extends (c := c) (handleSSLErrors_extends (c := c) hb₁ env₁ e₁).2 mid).1
  have hbo : b.get k.override ≠ none := by
    simp only [b, sslRun_append, sslRun]
    exact hmid.get_ne_none ho
  exact handleSSLErrors_overridden hk hbo

/-- **An accepted class still downgrades.** With the Security framework's codes, the user
accepts `errSSLBadCert`, which records `kCFStreamSSLValidatesCertificateChain` and not
`kCFStreamSSLLevel`. A later `errSSLHostNameMismatch`, a code of the same `case`, does not prompt
and does not return `EIO`: it lies in the last fallback range (`errSSLLast`,
`errSSLPeerAccessDenied`], which is tested before the certificate switch, so the call pins
`kCFStreamSSLLevel` to SSLv3 and returns `EAGAIN` for a retry. -/
theorem hostNameMismatch_after_badCert :
    let c : SSLErrorCodes := secureTransportCodes
    let a₁ := handleSSLErrors c none ⟨true, true⟩ ⟨.ssl, c.errSSLBadCert⟩
    let a₂ := handleSSLErrors c a₁.bag ⟨true, true⟩ ⟨.ssl, c.errSSLHostNameMismatch⟩
    a₁.prompted = some c.errSSLBadCert ∧ a₁.result = EAGAIN ∧
      certClass c c.errSSLBadCert = some .invalid ∧
      certClass c c.errSSLHostNameMismatch = some .invalid ∧
      a₁.bag.get .level = none ∧ fallbackRange c c.errSSLHostNameMismatch ∧
      a₂.prompted = none ∧ a₂.result = EAGAIN ∧ a₂.bag.get .level = some .sslv3 := by
  decide

end Runs

end WebDAVFS
