import WebDAVFS.Lexer

/-!
# `ParseDAVLevel` (webdav_network.c:2274–2391)

`ParseDAVLevel` reads the `DAV` header of an `OPTIONS` response (RFC 2518 §9.1) and sets
`*dav_level` to 1 or 2 when it finds the one-byte token `1` or `2` among the header's elements.
Its main loop walks the header's C string with the lexers of `Lexer`: LWS, an element (a
Coded-URL `<...>` or a token), LWS again, then a run of commas; it stops at the NUL, or after an
element followed by something other than a comma.

The header as RFC 2518 §9.1 lists it is `Scans tc v es`: `v` splits into the elements `es`, each
a Coded-URL up to the first `>` or a longest run of the token bytes `tc` (possibly empty),
separated by runs of commas with LWS around them, and the scan stops after the first element
followed by something other than a comma or the end. It is a function of `v` (`Scans.unique`).

- `davLevelLoop_scans`: for every NUL-terminated value `v`, the loop ends within a pass per byte,
  reads nothing past the NUL, and returns the level of the elements of `Scans isTokenByte v`,
  where `isTokenByte` is the class of bytes `SkipToken` skips.
- `parseDAVLevel_scans`: the same for `ParseDAVLevel`, when the header reaches the loop.
- `Scans.congr`: two token classes that agree on `v`'s bytes read `v` alike, so on US-ASCII
  values the loop returns the level of RFC 2616's reading (`davLevelLoop_ascii`).
- `davLevel_nonAsciiToken`: `SkipToken` also skips the bytes 128–255, which RFC 2616 leaves out
  of tokens (a token is made of `CHAR`s, the US-ASCII bytes, as `SkipToken`'s own comment
  quotes), so on the UTF-8 of `2é` the loop reads one three-byte token and sets the level to 0,
  where RFC 2616's reading has the token `2`, followed by a byte that ends the scan, and the
  level 2.
-/

namespace WebDAVFS

@[simp] abbrev ONE : UInt8 := 0x31
@[simp] abbrev TWO : UInt8 := 0x32

/-! ## The loop -/

/-- The token branch of the loop: a token of one byte, `1` or `2`, raises `*dav_level`. -/
def raiseLevel (len : Nat) (first : UInt8) (level : Nat) : Nat :=
  if len = 1 then
    if first = ONE ∧ level < 1 then 1
    else if first = TWO ∧ level < 2 then 2
    else level
  else level

/-- The element at the pointer: a Coded-URL, skipped with its closing `>` when there is one, or
a token, which may raise the level. Returns how far it advanced and the level. -/
def scanElement (m : Bytes) (level : Nat) : Option (Nat × Nat) :=
  match m with
  | [] => none
  | c :: m' =>
    if c = LT then do
      let k ← skipCodedURL m'
      let c' ← (m'.drop k).head?
      return (if c' ≠ 0 then k + 2 else k + 1, level)
    else do
      let k ← skipToken m
      return (k, raiseLevel k c level)

/-- `while ( *field_value == ',' ) ++field_value;` -/
def skipCommas : Bytes → Option Nat
  | [] => none
  | c :: m => if c = COMMA then (skipCommas m).map (· + 1) else some 0

/-- How a pass of the loop ends: it breaks out with the level, or the loop goes on from the
memory left. -/
inductive PassEnd
  | exit (level : Nat)
  | next (m : Bytes) (level : Nat)

/-- The end of a pass, after the element and the LWS that follows it: the NUL, where the loop
test ends the loop; a byte other than a comma, where the pass breaks out; or a run of commas,
which the pass skips. -/
def passTail (m : Bytes) (level : Nat) : Option PassEnd := do
  let c ← m.head?
  if c = 0 then return .next m level
  else if c ≠ COMMA then return .exit level
  else return .next (m.drop (← skipCommas m)) level

/-- The body of the main loop of `ParseDAVLevel`, entered at a byte other than the NUL. -/
def davLevelPass (m : Bytes) (level : Nat) : Option PassEnd := do
  let m := m.drop (← skipLWS m)
  if (← m.head?) = 0 then return .exit level
  let (k, level) ← scanElement m level
  let m := m.drop k
  let m := m.drop (← skipLWS m)
  passTail m level

/-- The main loop of `ParseDAVLevel`, from `field_value`, with at most `fuel` passes; `none`
when it would read outside the memory or needs more passes. -/
def davLevelLoop : Nat → Bytes → Nat → Option Nat
  | 0, _, _ => none
  | fuel + 1, m, level => do
    if (← m.head?) = 0 then return level
    match ← davLevelPass m level with
    | .exit level => return level
    | .next m level => davLevelLoop fuel m level

/-- `ParseDAVLevel` on the C string `m` of the header, from `*dav_level = 0`, with a pass for
each byte of `m`: each pass but the last advances over one byte at least. -/
def fieldValueLevel (m : Bytes) : Option Nat := davLevelLoop m.length m 0

/-- `ParseDAVLevel` (webdav_network.c:2289–2391). `davHeader` is the UTF-8 of the `DAV` header
when the response has one; `cStringPtr` says whether `CFStringGetCStringPtr` handed out the
string's own C string. Otherwise `CFStringGetCString` copies it into the 4096-byte `buffer`, and
fails, leaving the level 0, when the string and its NUL do not fit. -/
def parseDAVLevel (davHeader : Option Bytes) (cStringPtr : Bool) : Option Nat :=
  match davHeader with
  | none => some 0
  | some h => if cStringPtr ∨ h.length + 1 ≤ 4096 then fieldValueLevel (h ++ [0]) else some 0

/-! ## RFC 2518's list of elements -/

/-- An element of a `DAV` header: a Coded-URL or a token. -/
inductive DavElement
  | codedURL (url : Bytes)
  | token (t : Bytes)
  deriving DecidableEq, Repr

/-- The element at the start of `u`, and what follows it: a Coded-URL `<...>` up to the first
`>` (to the end when there is none), or else the longest run of token bytes `tc`, which may be
empty. -/
def elementAt (tc : UInt8 → Bool) : Bytes → DavElement × Bytes
  | [] => (.token [], [])
  | c :: rest =>
    if c = LT then (.codedURL (rest.takeWhile (· ≠ GT)), (rest.dropWhile (· ≠ GT)).drop 1)
    else (.token ((c :: rest).takeWhile tc), (c :: rest).dropWhile tc)

/-- `Scans tc v es`: RFC 2518 §9.1 reads the header value `v` as the elements `es`. -/
inductive Scans (tc : UInt8 → Bool) : Bytes → List DavElement → Prop
  /-- Only LWS, or nothing, is left. -/
  | blank {v : Bytes} (h : IsLWS v) : Scans tc v []
  /-- An element, LWS, then the end or a byte other than a comma: the scan stops. -/
  | stop {v u r : Bytes} (hv : LWSSplit v u) (hu : u ≠ []) (hr : LWSSplit (elementAt tc u).2 r)
      (hend : r.head? ≠ some COMMA) : Scans tc v [(elementAt tc u).1]
  /-- An element, LWS, then a run of commas: the scan goes on after the run. -/
  | comma {v u r : Bytes} {es : List DavElement} (hv : LWSSplit v u) (hu : u ≠ [])
      (hr : LWSSplit (elementAt tc u).2 r) (hc : r.head? = some COMMA)
      (h : Scans tc (r.dropWhile (· = COMMA)) es) : Scans tc v ((elementAt tc u).1 :: es)

/-- The level an element names: 2 and 1 for the one-byte tokens `2` and `1`, else 0. -/
def DavElement.level (e : DavElement) : Nat :=
  if e = .token [TWO] then 2 else if e = .token [ONE] then 1 else 0

/-- The largest `n` in `{1, 2}` such that one of the elements is the one-byte token `n`, and 0
when there is none. -/
def davLevelOf (es : List DavElement) : Nat :=
  if .token [TWO] ∈ es then 2 else if .token [ONE] ∈ es then 1 else 0

/-- The token bytes of RFC 2616 §2.2: `CHAR`s (US-ASCII) other than the controls, DEL and the
separators. -/
def isRFCTokenChar (c : UInt8) : Bool := decide (31 < c ∧ c < 127 ∧ c ∉ tokenStops)

/-! ## The pieces of a pass -/

theorem skipCommas_append_zero : ∀ s : Bytes,
    skipCommas (s ++ [0]) = some (s.takeWhile (· = COMMA)).length
  | [] => rfl
  | c :: t => by
    by_cases hc : c = COMMA
    · simp [skipCommas, hc, skipCommas_append_zero t]
    · simp [skipCommas, hc]

/-- The token branch raises the level to the level of the token it read. -/
theorem raiseLevel_token {t : Bytes} {c : UInt8} (ht : t = [] ∨ t.head? = some c) (level : Nat) :
    raiseLevel t.length c level = max level (DavElement.token t).level := by
  match t, ht with
  | [], _ => simp [raiseLevel, DavElement.level]
  | [x], .inr hx =>
    obtain rfl : x = c := Option.some_injective _ hx
    by_cases h1 : x = ONE
    · subst h1; simp [raiseLevel, DavElement.level]; split_ifs <;> omega
    · by_cases h2 : x = TWO
      · subst h2; simp [raiseLevel, DavElement.level]; split_ifs <;> omega
      · simp [raiseLevel, DavElement.level, h1, h2]
  | _ :: _ :: _, _ => simp [raiseLevel, DavElement.level]

theorem takeWhile_congr_of_mem {α : Type} {p q : α → Bool} :
    ∀ {l : List α}, (∀ a ∈ l, p a = q a) → l.takeWhile p = l.takeWhile q
  | [], _ => rfl
  | a :: l, h => by
    simp only [List.takeWhile_cons, h a (List.mem_cons_self a l),
      takeWhile_congr_of_mem fun b hb => h b (List.mem_cons_of_mem a hb)]

theorem dropWhile_congr_of_mem {α : Type} {p q : α → Bool} :
    ∀ {l : List α}, (∀ a ∈ l, p a = q a) → l.dropWhile p = l.dropWhile q
  | [], _ => rfl
  | a :: l, h => by
    simp only [List.dropWhile_cons, h a (List.mem_cons_self a l),
      dropWhile_congr_of_mem fun b hb => h b (List.mem_cons_of_mem a hb)]

/-- The element branch of a pass advances over the element `elementAt` reads, and raises the
level to the element's. -/
theorem scanElement_append_zero {u : Bytes} (hu : u ≠ []) (h0 : 0 ∉ u) (level : Nat) :
    ∃ p, u = p ++ (elementAt isTokenByte u).2 ∧
      scanElement (u ++ [0]) level = some (p.length, max level (elementAt isTokenByte u).1.level) := by
  obtain ⟨c, rest, rfl⟩ := List.exists_cons_of_ne_nil hu
  by_cases hc : c = LT
  · subst hc
    have hrest : 0 ∉ rest := fun h => h0 (List.mem_cons_of_mem _ h)
    have hurl : rest.takeWhile (fun c => c ≠ 0 ∧ c ≠ GT) = rest.takeWhile (· ≠ GT) :=
      takeWhile_congr_of_mem fun a ha => by simp [show a ≠ 0 from fun h => hrest (h ▸ ha)]
    have hgt := List.head?_dropWhile_not (fun c => decide (c ≠ GT)) rest
    obtain ⟨url, after, hsplit, hu', ha'⟩ : ∃ url after, rest = url ++ after ∧
        rest.takeWhile (· ≠ GT) = url ∧ rest.dropWhile (· ≠ GT) = after :=
      ⟨_, _, (List.takeWhile_append_dropWhile _ _).symm, rfl, rfl⟩
    simp only [elementAt, if_true, scanElement, List.cons_append, skipCodedURL_append_zero,
      hurl, hu', ha', DavElement.level] at hgt ⊢
    subst hsplit
    rcases after with _ | ⟨a, r⟩
    · exact ⟨LT :: url, by simp, by simp⟩
    · obtain rfl : a = GT := by simpa using hgt
      exact ⟨LT :: url ++ [GT], by simp, by simp [List.getElem_append_right]⟩
  · have hsplit := (List.takeWhile_append_dropWhile isTokenByte (c :: rest)).symm
    have hfirst : (c :: rest).takeWhile isTokenByte = [] ∨
        ((c :: rest).takeWhile isTokenByte).head? = some c := by
      simp only [List.takeWhile_cons]; split <;> simp
    refine ⟨_, by simpa only [elementAt, if_neg hc] using hsplit, ?_⟩
    simp only [elementAt, if_neg hc, scanElement, List.cons_append]
    rw [← List.cons_append, skipToken_append_zero]
    simp [raiseLevel_token hfirst]

/-! ## A pass, step by step -/

theorem passTail_nul (level : Nat) : passTail [0] level = some (.next [0] level) := rfl

theorem passTail_stop {c : UInt8} (hc : c ≠ 0) (hcomma : c ≠ COMMA) (m : Bytes) (level : Nat) :
    passTail (c :: m) level = some (.exit level) := by
  simp [passTail, hc, hcomma]

/-- The memory after a scan that advanced over `p`. -/
theorem drop_append_zero {u p r : Bytes} (h : u = p ++ r) : (u ++ [0]).drop p.length = r ++ [0] := by
  subst h
  simp

/-- The memory after a run of `p`-bytes at the start of `r`. -/
theorem drop_takeWhile_length {α : Type} (p : α → Bool) (t : List α) :
    ∀ r : List α, (r ++ t).drop (r.takeWhile p).length = r.dropWhile p ++ t
  | [] => rfl
  | a :: r => by
    by_cases h : p a <;> simp [List.takeWhile_cons, List.dropWhile_cons, h,
      drop_takeWhile_length p t r]

theorem passTail_comma (r : Bytes) (level : Nat) :
    passTail (COMMA :: r ++ [0]) level =
      some (.next ((COMMA :: r).dropWhile (· = COMMA) ++ [0]) level) := by
  have hhead : (COMMA :: r ++ [0]).head? = some COMMA := rfl
  simp only [passTail, Option.bind_eq_bind, hhead, Option.some_bind, skipCommas_append_zero,
    drop_takeWhile_length, Option.pure_def]
  simp

/-- A pass that finds only LWS before the NUL breaks out with the level. -/
theorem davLevelPass_blank {m : Bytes} {k : Nat} (h1 : skipLWS m = some k)
    (h2 : (m.drop k).head? = some 0) (level : Nat) :
    davLevelPass m level = some (.exit level) := by
  simp only [davLevelPass, Option.bind_eq_bind, h1, Option.some_bind, h2, if_true, Option.pure_def]

/-- A pass that finds an element: LWS, the element, LWS, then the tail. -/
theorem davLevelPass_element {m m1 m2 : Bytes} {k1 k2 k3 level l : Nat} {c : UInt8}
    (h1 : skipLWS m = some k1) (h2 : m.drop k1 = m1) (h3 : m1.head? = some c) (hc : c ≠ 0)
    (h4 : scanElement m1 level = some (k2, l)) (h5 : m1.drop k2 = m2)
    (h6 : skipLWS m2 = some k3) :
    davLevelPass m level = passTail (m2.drop k3) l := by
  subst h2 h5
  simp only [davLevelPass, Option.bind_eq_bind, h1, Option.some_bind, h3, if_neg hc, h4, h6,
    Option.pure_def]

theorem davLevelLoop_exit {v : Bytes} (hv : v ≠ []) (h0 : 0 ∉ v) {fuel level l : Nat}
    (h : davLevelPass (v ++ [0]) level = some (.exit l)) :
    davLevelLoop (fuel + 1) (v ++ [0]) level = some l := by
  obtain ⟨c, t, rfl⟩ := List.exists_cons_of_ne_nil hv
  have hc : c ≠ 0 := fun hc => h0 (hc ▸ List.mem_cons_self c t)
  simp only [List.cons_append] at h
  simp [davLevelLoop, hc, h]

theorem davLevelLoop_next {v : Bytes} (hv : v ≠ []) (h0 : 0 ∉ v) {fuel level l : Nat}
    {m : Bytes} (h : davLevelPass (v ++ [0]) level = some (.next m l)) :
    davLevelLoop (fuel + 1) (v ++ [0]) level = davLevelLoop fuel m l := by
  obtain ⟨c, t, rfl⟩ := List.exists_cons_of_ne_nil hv
  have hc : c ≠ 0 := fun hc => h0 (hc ▸ List.mem_cons_self c t)
  simp only [List.cons_append] at h
  simp [davLevelLoop, hc, h]

/-! ## The reading of the header -/

/-- What follows an element is a suffix of where it started. -/
theorem elementAt_suffix (tc : UInt8 → Bool) (u : Bytes) : (elementAt tc u).2 <:+ u := by
  match u with
  | [] => exact List.suffix_refl []
  | c :: rest =>
    by_cases hc : c = LT
    · simp only [elementAt, if_pos hc]
      exact ((List.drop_suffix 1 _).trans (List.dropWhile_suffix _)).trans (List.suffix_cons c rest)
    · simp only [elementAt, if_neg hc]
      exact List.dropWhile_suffix _

/-- Two token classes that agree on the bytes of `u` read the same element there. -/
theorem elementAt_congr {tc tc' : UInt8 → Bool} {u : Bytes} (h : ∀ c ∈ u, tc c = tc' c) :
    elementAt tc u = elementAt tc' u := by
  match u with
  | [] => rfl
  | c :: rest =>
    simp only [elementAt, takeWhile_congr_of_mem h, dropWhile_congr_of_mem h]

/-- The reading of a header value is unique. -/
theorem Scans.unique {tc : UInt8 → Bool} {v : Bytes} {es es' : List DavElement}
    (h : Scans tc v es) (h' : Scans tc v es') : es = es' := by
  induction h generalizing es' with
  | blank hv =>
    cases h' with
    | blank => rfl
    | stop hv' hu' => exact absurd ((lwsSplit_of_isLWS hv).unique hv').symm hu'
    | comma hv' hu' => exact absurd ((lwsSplit_of_isLWS hv).unique hv').symm hu'
  | stop hv hu hr hend =>
    cases h' with
    | blank hv' => exact absurd ((lwsSplit_of_isLWS hv').unique hv).symm hu
    | stop hv' _ _ => rw [hv.unique hv']
    | comma hv' _ hr' hc' =>
      obtain rfl := hv.unique hv'
      exact absurd (hr.unique hr' ▸ hc') hend
  | comma hv hu hr hc _ ih =>
    cases h' with
    | blank hv' => exact absurd ((lwsSplit_of_isLWS hv').unique hv).symm hu
    | stop hv' _ hr' hend' =>
      obtain rfl := hv.unique hv'
      exact absurd (hr.unique hr' ▸ hc) hend'
    | comma hv' _ hr' _ h' =>
      obtain rfl := hv.unique hv'
      obtain rfl := hr.unique hr'
      rw [ih h']

/-- Two token classes that agree on the bytes of `v` read `v` alike. -/
theorem Scans.congr {tc tc' : UInt8 → Bool} {v : Bytes} {es : List DavElement}
    (h : Scans tc v es) (htc : ∀ c ∈ v, tc c = tc' c) : Scans tc' v es := by
  induction h with
  | blank hv => exact .blank hv
  | stop hv hu hr hend =>
    have he := elementAt_congr fun c hc => htc c (hv.suffix.subset hc)
    rw [he] at hr ⊢
    exact .stop hv hu hr hend
  | @comma v u r es hv hu hr hc _ ih =>
    have he := elementAt_congr fun c hc => htc c (hv.suffix.subset hc)
    have hnext : r.dropWhile (· = COMMA) <:+ v :=
      (((List.dropWhile_suffix _).trans hr.suffix).trans (elementAt_suffix tc u)).trans hv.suffix
    rw [he] at hr ⊢
    exact .comma hv hu hr hc (ih fun c hc => htc c (hnext.subset hc))

@[simp] theorem davLevelOf_nil : davLevelOf [] = 0 := rfl

/-- An element adds its own level to the list's. -/
theorem davLevelOf_cons (e : DavElement) (es : List DavElement) :
    davLevelOf (e :: es) = max e.level (davLevelOf es) := by
  unfold davLevelOf DavElement.level
  by_cases h2 : e = .token [TWO]
  · subst h2
    simp only [List.mem_cons_self, if_true]
    split_ifs <;> rfl
  by_cases h1 : e = .token [ONE]
  · subst h1
    by_cases hA : DavElement.token [TWO] ∈ es <;> by_cases hB : DavElement.token [ONE] ∈ es <;>
      simp [hA, hB]
  · simp [List.mem_cons, h1, h2, Ne.symm h1, Ne.symm h2]

theorem davLevelOf_singleton (e : DavElement) : davLevelOf [e] = e.level := by
  rw [davLevelOf_cons, davLevelOf_nil, Nat.max_zero]

/-! ## The loop reads the header as RFC 2518 lists it -/

/-- **The loop computes the level of the header's elements.** For every NUL-terminated value
`v` and every number of passes above its length, the main loop of `ParseDAVLevel` ends, reads no
byte past the NUL, and raises the level to the level of the elements `Scans isTokenByte` reads in
`v`. -/
theorem davLevelLoop_scans : ∀ (fuel : Nat) {v : Bytes}, v.length < fuel → 0 ∉ v → ∀ level,
    ∃ es, Scans isTokenByte v es ∧
      davLevelLoop fuel (v ++ [0]) level = some (max level (davLevelOf es))
  | 0, _, h, _, _ => absurd h (Nat.not_lt_zero _)
  | fuel + 1, v, hlen, hv, level => by
    obtain ⟨w, u, rfl, hw, hu, hs⟩ := skipLWS_append_zero v
    by_cases hu0 : u = []
    · -- only LWS is left: the loop test or the pass ends the loop
      subst hu0
      simp only [List.append_nil] at hw hs hv ⊢
      refine ⟨[], .blank hw, ?_⟩
      rcases w with _ | ⟨c, w'⟩
      · simp [davLevelLoop, davLevelOf]
      · rw [davLevelLoop_exit (List.cons_ne_nil c w') hv (davLevelPass_blank hs (by simp) level)]
        simp [davLevelOf]
    -- an element, the LWS after it, and the tail of the pass
    obtain ⟨c, u', rfl⟩ := List.exists_cons_of_ne_nil hu0
    have hc : c ≠ 0 := fun h => hv (h ▸ List.mem_append_right w (List.mem_cons_self c u'))
    obtain ⟨p, hp, he⟩ :=
      scanElement_append_zero hu0 (fun h => hv (List.mem_append_right w h)) level
    obtain ⟨w2, r, hr, hw2, hr0, hs2⟩ := skipLWS_append_zero (elementAt isTokenByte (c :: u')).2
    have hpass := davLevelPass_element hs (drop_append_zero rfl) rfl hc he (drop_append_zero hp) hs2
    rw [drop_append_zero hr] at hpass
    have hsplit : LWSSplit (w ++ c :: u') (c :: u') := ⟨w, rfl, hw, hu⟩
    have hvne : w ++ c :: u' ≠ [] := by simp
    have hsub : ∀ x ∈ (elementAt isTokenByte (c :: u')).2, x ∈ w ++ c :: u' :=
      fun x hx => List.mem_append_right w ((elementAt_suffix _ _).subset hx)
    rcases r with _ | ⟨c', r'⟩
    · -- the NUL follows: the loop test ends the loop
      obtain ⟨f, rfl⟩ : ∃ f, fuel = f + 1 := ⟨fuel - 1, by simp at hlen; omega⟩
      refine ⟨_, .stop hsplit hu0 ⟨w2, hr, hw2, hr0⟩ (by simp), ?_⟩
      rw [davLevelLoop_next hvne hv (hpass.trans (passTail_nul _)), davLevelOf_singleton]
      rfl
    have hc' : c' ≠ 0 := fun h => hv (hsub 0 (hr ▸ List.mem_append_right w2 (h ▸ List.mem_cons_self c' r')))
    by_cases hcomma : c' = COMMA
    · -- a run of commas: the next pass starts after it
      subst hcomma
      have hnext := passTail_comma r' (max level (elementAt isTokenByte (c :: u')).1.level)
      have hdrop : ((COMMA :: r').dropWhile (· = COMMA)) <:+ r' := by
        simpa using List.dropWhile_suffix (fun x => decide (x = COMMA)) (l := r')
      have hlen' : ((COMMA :: r').dropWhile (· = COMMA)).length < fuel := by
        have h1 := congrArg List.length hp
        have h2 := congrArg List.length hr
        have h3 := hdrop.length_le
        simp only [List.length_append, List.length_cons] at h1 h2 hlen
        omega
      have h0' : 0 ∉ (COMMA :: r').dropWhile (· = COMMA) := fun h =>
        hv (hsub 0 (hr ▸ List.mem_append_right w2 (List.mem_cons_of_mem _ (hdrop.subset h))))
      obtain ⟨es, hes, hloop⟩ := davLevelLoop_scans fuel hlen' h0' _
      refine ⟨_, .comma hsplit hu0 ⟨w2, hr, hw2, hr0⟩ rfl hes, ?_⟩
      rw [davLevelLoop_next hvne hv (hpass.trans hnext), hloop, davLevelOf_cons, max_assoc]
    · -- another byte: the pass breaks out of the loop
      refine ⟨_, .stop hsplit hu0 ⟨w2, hr, hw2, hr0⟩ (by simpa using hcomma), ?_⟩
      rw [davLevelLoop_exit hvne hv (hpass.trans (passTail_stop hc' hcomma _ _)),
        davLevelOf_singleton]

/-- `ParseDAVLevel` on a header that reaches the loop: the level of the header's elements. -/
theorem parseDAVLevel_scans {h : Bytes} (h0 : 0 ∉ h) {cStringPtr : Bool}
    (hfit : cStringPtr ∨ h.length + 1 ≤ 4096) :
    ∃ es, Scans isTokenByte h es ∧ parseDAVLevel (some h) cStringPtr = some (davLevelOf es) := by
  obtain ⟨es, hes, hloop⟩ := davLevelLoop_scans (h.length + 1) (Nat.lt_succ_self _) h0 0
  refine ⟨es, hes, ?_⟩
  rw [parseDAVLevel, if_pos hfit, fieldValueLevel, List.length_append, List.length_singleton,
    hloop, Nat.zero_max]

/-! ## Bytes 128–255 -/

/-- On US-ASCII bytes the class of `SkipToken` is RFC 2616's. -/
theorem isTokenByte_eq_isRFCTokenChar {c : UInt8} (h : c < 128) :
    isTokenByte c = isRFCTokenChar c := by
  by_cases h127 : c = 0x7f
  · subst h127; decide
  have hlt : c < 127 := by
    have h3 : c.toBitVec ≠ 0x7f := fun h' => h127 (UInt8.eq_of_toBitVec_eq h')
    rw [UInt8.lt_def] at h ⊢
    simp only [UInt8.toBitVec_ofNat] at h ⊢
    bv_omega
  simp [isTokenByte, isRFCTokenChar, hlt]

/-- On US-ASCII values the loop returns the level of RFC 2616's reading. -/
theorem davLevelLoop_ascii {fuel : Nat} {v : Bytes} (hlen : v.length < fuel) (hv : 0 ∉ v)
    (hascii : ∀ c ∈ v, c < 128) (level : Nat) :
    ∃ es, Scans isRFCTokenChar v es ∧
      davLevelLoop fuel (v ++ [0]) level = some (max level (davLevelOf es)) :=
  let ⟨es, hes, h⟩ := davLevelLoop_scans fuel hlen hv level
  ⟨es, hes.congr fun c hc => isTokenByte_eq_isRFCTokenChar (hascii c hc), h⟩

/-- **`2` followed by a non-ASCII character.** The header value `2é` is the UTF-8 bytes
`0x32 0xC3 0xA9`. RFC 2616's reading of it is the one-byte token `2`, then a byte that is no
comma, which ends the scan: the level is 2. `SkipToken` skips 0xC3 and 0xA9 as token bytes, so the
loop reads one three-byte token and sets the level to 0. -/
theorem davLevel_nonAsciiToken :
    Scans isRFCTokenChar [TWO, 0xc3, 0xa9] [.token [TWO]] ∧ davLevelOf [.token [TWO]] = 2 ∧
      fieldValueLevel ([TWO, 0xc3, 0xa9] ++ [0]) = some 0 := by
  refine ⟨?_, by decide, by decide⟩
  have he : elementAt isRFCTokenChar [TWO, 0xc3, 0xa9] = (.token [TWO], [0xc3, 0xa9]) := by
    decide
  have hv : LWSSplit [TWO, 0xc3, 0xa9] [TWO, 0xc3, 0xa9] :=
    ⟨[], rfl, .nil, noLWSAt_cons (by decide)⟩
  have hr : LWSSplit (elementAt isRFCTokenChar [TWO, 0xc3, 0xa9]).2 [0xc3, 0xa9] :=
    he ▸ ⟨[], rfl, .nil, noLWSAt_cons (by decide)⟩
  have hscan := Scans.stop hv (List.cons_ne_nil _ _) hr (by decide)
  rwa [he] at hscan

end WebDAVFS
