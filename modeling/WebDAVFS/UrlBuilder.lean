import WebDAVFS.Basic

/-!
# The URL builder: `create_cfurl_from_node`

`create_cfurl_from_node` (webdav_network.c) turns the path of a node, and optionally the name of
one of its children, into an absolute URL under the mount's base URL `gBaseURL`:

1. `nodecache_get_path_from_node` gives the node's UTF-8 path relative to the base, not percent
   escaped, a directory's ending in `/` (an input here, `none` for its error);
2. `strncat` appends the name;
3. an empty path gives `gBaseURL` itself; any other becomes a `CFString`
   (`CFStringCreateWithCString`, which refuses bytes that are not UTF-8),
4. is escaped by `CFURLCreateStringByAddingPercentEscapes`, which escapes every character that
   is not legal in a URL, and `:`, `;` and `?` besides,
5. and is resolved against `gBaseURL` (`CFURLCreateWithString`, `CFURLCopyAbsoluteURL`).

The CoreFoundation calls are not part of the repository. They are modelled from what they are
documented to do, which the source's comment cites: the legal characters and generic syntax of
RFC 2396 (§2, Appendix B) and its resolution of a relative reference (§5.2). A `CFString` is kept
as its UTF-8 bytes, so escaping with `kCFStringEncodingUTF8` escapes each byte of a non-ASCII
character.

* `percentDecode_escapePath`: percent-decoding undoes the escaping.
* `removeDotSegments_append`: resolution removes the base path's own `.` and `..` segments and
  keeps a relative path that has none.
* `createCFURLFromNode_relative`: for a node path, the URL keeps the base's scheme and authority,
  has neither query nor fragment, and its path is the resolved base path followed by the escaped
  relative path.
* **`createCFURLFromNode_round_trip`**: for every node path and optional child name, the URL's
  path decodes to the resolved base path followed by the relative path, whatever bytes the
  names hold.
* `createCFURLFromNode_injective`: two different nonempty relative paths never get the same URL.
-/

namespace WebDAVFS

/-! ### Legal URL characters and percent escapes -/

/-- The characters RFC 2396 allows in a URL: unreserved (§2.3, letters, digits and `-_.!~*'()`)
or reserved (§2.2, `;/?:@&=+$,`). Everything else, `%`, `#`, the space, controls and every byte
of a non-ASCII character included, is illegal. -/
def isURLLegalCharacter (c : UInt8) : Bool :=
  (0x61 ≤ c && c ≤ 0x7a) || (0x41 ≤ c && c ≤ 0x5a) || (0x30 ≤ c && c ≤ 0x39) ||
    [0x2d, 0x5f, 0x2e, 0x21, 0x7e, 0x2a, 0x27, 0x28, 0x29,
      0x3b, 0x2f, 0x3f, 0x3a, 0x40, 0x26, 0x3d, 0x2b, 0x24, 0x2c].contains c

/-- The upper-case hexadecimal digit for `n < 16`, as escapes are written. -/
def hexDigit (n : Nat) : UInt8 := UInt8.ofNat (if n < 10 then 0x30 + n else 0x37 + n)

/-- The value of a hexadecimal digit of either case. -/
def hexValue (c : UInt8) : Option Nat :=
  if 0x30 ≤ c ∧ c ≤ 0x39 then some (c.toNat - 0x30)
  else if 0x41 ≤ c ∧ c ≤ 0x46 then some (c.toNat - 0x37)
  else if 0x61 ≤ c ∧ c ≤ 0x66 then some (c.toNat - 0x57)
  else none

/-- `%XY` for the byte `c`. -/
def percentEscape (c : UInt8) : Bytes :=
  [PERCENT, hexDigit (c.toNat / 16), hexDigit (c.toNat % 16)]

/-- Whether `CFURLCreateStringByAddingPercentEscapes` escapes `c`: an illegal character unless
it is one of `charactersToLeaveUnescaped`, a legal one if it is one of
`legalURLCharactersToBeEscaped`. -/
def escapesChar (charactersToLeaveUnescaped legalURLCharactersToBeEscaped : Bytes)
    (c : UInt8) : Bool :=
  if isURLLegalCharacter c then legalURLCharactersToBeEscaped.contains c
  else !charactersToLeaveUnescaped.contains c

/-- `CFURLCreateStringByAddingPercentEscapes` with `kCFStringEncodingUTF8`, on the string's
UTF-8 bytes. -/
def cfURLCreateStringByAddingPercentEscapes
    (s charactersToLeaveUnescaped legalURLCharactersToBeEscaped : Bytes) : Bytes :=
  s.flatMap fun c =>
    if escapesChar charactersToLeaveUnescaped legalURLCharactersToBeEscaped c then
      percentEscape c
    else [c]

/-- The escaping `create_cfurl_from_node` asks for: nothing left unescaped, and `:`, `;`, `?`
escaped besides the illegal characters. -/
def escapePath (s : Bytes) : Bytes :=
  cfURLCreateStringByAddingPercentEscapes s [] [COLON, SEMICOLON, QUESTION]

/-- What percent-decoding has read of a possible escape: nothing, the `%`, or the `%` and a
first hexadecimal digit. -/
inductive EscapeState where
  | idle
  | percent
  | digit (h : UInt8)
  deriving DecidableEq, Repr

/-- The bytes a pending escape stands for when the input ends there: itself. -/
def EscapeState.pending : EscapeState → Bytes
  | .idle => []
  | .percent => [PERCENT]
  | .digit h => [PERCENT, h]

/-- One byte of percent-decoding: the bytes it emits and the state after it. `%XY` with two
hexadecimal digits is the byte `XY`; every other byte, a `%` not followed by two digits included,
stands for itself. -/
def decodeStep : EscapeState → UInt8 → Bytes × EscapeState
  | .idle, c => if c = PERCENT then ([], .percent) else ([c], .idle)
  | .percent, h =>
    if (hexValue h).isSome then ([], .digit h)
    else if h = PERCENT then ([PERCENT], .percent)
    else ([PERCENT, h], .idle)
  | .digit h, l =>
    match hexValue h, hexValue l with
    | some a, some b => ([UInt8.ofNat (a * 16 + b)], .idle)
    | _, _ => if l = PERCENT then ([PERCENT, h], .percent) else ([PERCENT, h, l], .idle)

/-- Percent-decoding from a state. -/
def percentDecodeFrom : EscapeState → Bytes → Bytes
  | st, [] => st.pending
  | st, c :: rest => (decodeStep st c).1 ++ percentDecodeFrom (decodeStep st c).2 rest

/-- Percent-decoding, RFC 2396 §2.4.1. -/
def percentDecode (s : Bytes) : Bytes := percentDecodeFrom .idle s

/-- Each digit escaping writes reads back as its value. -/
theorem hexValue_hexDigit {n : Nat} (h : n < 16) : hexValue (hexDigit n) = some n := by
  interval_cases n <;> decide

theorem uint8_ofNat_toNat (c : UInt8) : UInt8.ofNat c.toNat = c :=
  UInt8.toNat.inj (UInt8.toNat_ofNat_of_lt c.toNat_lt_size)

/-- An escape `%XY` decodes to its byte. -/
theorem percentDecodeFrom_percentEscape (c : UInt8) (s : Bytes) :
    percentDecodeFrom .idle (percentEscape c ++ s) = c :: percentDecodeFrom .idle s := by
  have hc : c.toNat < 256 := c.toNat_lt_size
  simp only [percentEscape, List.cons_append, List.nil_append, percentDecodeFrom, decodeStep,
    if_pos rfl, hexValue_hexDigit (show c.toNat / 16 < 16 by omega),
    hexValue_hexDigit (show c.toNat % 16 < 16 by omega), Option.isSome_some, if_true,
    Nat.div_add_mod', uint8_ofNat_toNat, List.append_eq]

/-- A byte other than `%` decodes to itself. -/
theorem percentDecodeFrom_idle_cons {c : UInt8} (hc : c ≠ PERCENT) (s : Bytes) :
    percentDecodeFrom .idle (c :: s) = c :: percentDecodeFrom .idle s := by
  simp [percentDecodeFrom, decodeStep, hc]

theorem escapesChar_percent {leave toEscape : Bytes} (h : PERCENT ∉ leave) :
    escapesChar leave toEscape PERCENT = true := by
  simp [escapesChar, isURLLegalCharacter, h]

/-- **Percent-decoding undoes `CFURLCreateStringByAddingPercentEscapes`** whenever `%` is not
left unescaped: every `%` of the result starts an escape. -/
theorem percentDecode_cfURLCreateStringByAddingPercentEscapes {leave : Bytes}
    (h : PERCENT ∉ leave) (toEscape : Bytes) : ∀ s : Bytes,
    percentDecode (cfURLCreateStringByAddingPercentEscapes s leave toEscape) = s
  | [] => rfl
  | c :: s => by
    have ih := percentDecode_cfURLCreateStringByAddingPercentEscapes h toEscape s
    rw [percentDecode, cfURLCreateStringByAddingPercentEscapes, List.flatMap_cons] at *
    split
    · rw [percentDecodeFrom_percentEscape, ih]
    · rename_i hc
      rw [List.singleton_append,
        percentDecodeFrom_idle_cons (by rintro rfl; exact hc (escapesChar_percent h)), ih]

/-- Decoding the escaped path gives the path back. -/
theorem percentDecode_escapePath (s : Bytes) : percentDecode (escapePath s) = s :=
  percentDecode_cfURLCreateStringByAddingPercentEscapes (by decide) _ s

/-- `/` is never part of an escape: after it the decoder is idle. -/
theorem decodeStep_slash (st : EscapeState) : (decodeStep st SLASH).2 = .idle := by
  cases st with
  | idle => rfl
  | percent => rfl
  | digit h => simp only [decodeStep]; split <;> simp_all [hexValue]

theorem percentDecodeFrom_append_slash (y : Bytes) : ∀ (x : Bytes) (st : EscapeState),
    percentDecodeFrom st (x ++ SLASH :: y) =
      percentDecodeFrom st (x ++ [SLASH]) ++ percentDecode y
  | [], st => by simp [percentDecodeFrom, decodeStep_slash, percentDecode, EscapeState.pending]
  | c :: x, st => by
    simp only [List.cons_append, percentDecodeFrom, List.append_eq,
      percentDecodeFrom_append_slash y x, List.append_assoc]

/-- Decoding goes on after a `/` as from the start: no escape spans it. -/
theorem percentDecode_append_slash (x y : Bytes) :
    percentDecode (x ++ SLASH :: y) = percentDecode (x ++ [SLASH]) ++ percentDecode y :=
  percentDecodeFrom_append_slash y x .idle

/-- `escapePath` one byte at a time. -/
theorem escapePath_cons (c : UInt8) (s : Bytes) :
    escapePath (c :: s) =
      (if escapesChar [] [COLON, SEMICOLON, QUESTION] c then percentEscape c else [c]) ++
        escapePath s :=
  rfl

@[simp] theorem escapePath_append (s t : Bytes) :
    escapePath (s ++ t) = escapePath s ++ escapePath t :=
  List.flatMap_append ..

theorem escapePath_slash : escapePath [SLASH] = [SLASH] := by decide

/-- Every byte of an escaped path is a byte of the path left as it is, a `%`, or a hexadecimal
digit of an escape. -/
theorem mem_escapePath {b : UInt8} {s : Bytes} (hb : b ∈ escapePath s) :
    (b ∈ s ∧ escapesChar [] [COLON, SEMICOLON, QUESTION] b = false) ∨ b = PERCENT ∨
      (hexValue b).isSome := by
  obtain ⟨c, hc, hbc⟩ := List.mem_flatMap.1 hb
  split at hbc
  · simp only [percentEscape, List.mem_cons, List.mem_singleton, List.not_mem_nil] at hbc
    rcases hbc with rfl | rfl | rfl | h
    · exact .inr (.inl rfl)
    · exact .inr (.inr (by rw [hexValue_hexDigit (by have : c.toNat < 256 := c.toNat_lt_size; omega)]; rfl))
    · exact .inr (.inr (by rw [hexValue_hexDigit (Nat.mod_lt _ (by norm_num))]; rfl))
    · exact h.elim
  · rename_i h
    rw [List.mem_singleton.1 hbc]
    exact .inl ⟨hc, by simpa using h⟩

/-- The bytes that escaping never leaves in a path: `:`, `?`, `#` and `/` unless the path had
one. -/
theorem not_mem_escapePath {b : UInt8} (hb : b = COLON ∨ b = QUESTION ∨ b = HASH)
    (s : Bytes) : b ∉ escapePath s := fun h => by
  rcases mem_escapePath h with ⟨-, h⟩ | h | h <;> rcases hb with rfl | rfl | rfl <;>
    simp_all [escapesChar, isURLLegalCharacter, hexValue]

/-- Escaping makes no `/`. -/
theorem slash_not_mem_escapePath {s : Bytes} (hs : SLASH ∉ s) : SLASH ∉ escapePath s :=
  fun h => by
  rcases mem_escapePath h with ⟨h, -⟩ | h | h
  · exact hs h
  · exact absurd h (by decide)
  · simp [hexValue] at h

/-- An escaped path starts with `/` only if the path did. -/
theorem escapePath_head {s : Bytes} (hs : s.head? ≠ some SLASH) :
    (escapePath s).head? ≠ some SLASH := by
  cases s with
  | nil => simp [escapePath, cfURLCreateStringByAddingPercentEscapes]
  | cons c s =>
    rw [escapePath_cons]
    split <;> simp_all [percentEscape]

/-! ### UTF-8 -/

/-- A continuation byte, `10xxxxxx`. -/
def isContinuation (b : UInt8) : Bool := 0x80 ≤ b && b < 0xC0

/-- The byte after a lead byte `b0`, with the narrower ranges RFC 3629 §4 gives after `E0`, `ED`,
`F0` and `F4` (no overlong form, no surrogate, nothing above U+10FFFF). -/
def secondByteOk (b0 b1 : UInt8) : Bool :=
  if b0 = 0xE0 then 0xA0 ≤ b1 && b1 < 0xC0
  else if b0 = 0xED then 0x80 ≤ b1 && b1 < 0xA0
  else if b0 = 0xF0 then 0x90 ≤ b1 && b1 < 0xC0
  else if b0 = 0xF4 then 0x80 ≤ b1 && b1 < 0x90
  else isContinuation b1

/-- How many continuation bytes follow the lead byte `b0`; `none` for a byte that cannot start a
character. -/
def utf8Continuations (b0 : UInt8) : Option Nat :=
  if b0 < 0x80 then some 0
  else if b0 < 0xC2 then none
  else if b0 < 0xE0 then some 1
  else if b0 < 0xF0 then some 2
  else if b0 < 0xF5 then some 3
  else none

/-- RFC 3629 §4 as an automaton: `utf8Scan k lead s` reads `s` still owing `k` continuation
bytes of the character that `lead` started (`none` once its second byte is read). -/
def utf8Scan : Nat → Option UInt8 → Bytes → Bool
  | 0, _, [] => true
  | _ + 1, _, [] => false
  | 0, _, b :: rest =>
    match utf8Continuations b with
    | some k => utf8Scan k (some b) rest
    | none => false
  | k + 1, lead, b :: rest =>
    (match lead with
      | some b0 => secondByteOk b0 b
      | none => isContinuation b) && utf8Scan k none rest

/-- Well-formed UTF-8: what `CFStringCreateWithCString` with `kCFStringEncodingUTF8` accepts. -/
def utf8Valid (s : Bytes) : Bool := utf8Scan 0 none s

/-- `CFStringCreateWithCString(s, kCFStringEncodingUTF8)`: `NULL` for bytes that are not UTF-8. -/
def cfStringCreateWithCString (s : Bytes) : Option Bytes :=
  if utf8Valid s then some s else none

/-- A scan that ends between characters goes on through any UTF-8 that follows. -/
theorem utf8Scan_append {b : Bytes} (hb : utf8Valid b) :
    ∀ {k lead} (a : Bytes), utf8Scan k lead a → utf8Scan k lead (a ++ b)
  | 0, _, [], _ => by cases b <;> exact hb
  | _ + 1, _, [], ha => by simp [utf8Scan] at ha
  | 0, _, c :: a, ha => by
    simp only [utf8Scan, List.cons_append] at ha ⊢
    split at ha
    · exact utf8Scan_append hb a ha
    · exact absurd ha Bool.false_ne_true
  | _ + 1, _, c :: a, ha => by
    simp only [utf8Scan, List.cons_append, Bool.and_eq_true] at ha ⊢
    exact ⟨ha.1, utf8Scan_append hb a ha.2⟩

/-- UTF-8 strings concatenate to UTF-8. -/
theorem utf8Valid_append {a b : Bytes} (ha : utf8Valid a) (hb : utf8Valid b) :
    utf8Valid (a ++ b) :=
  utf8Scan_append hb a ha

/-! ### URI references (RFC 2396) -/

/-- A URI reference split into the five components of RFC 2396 Appendix B. -/
structure URIRef where
  scheme : Option Bytes
  authority : Option Bytes
  path : Bytes
  query : Option Bytes
  fragment : Option Bytes
  deriving DecidableEq, Repr

/-- The characters that end a scheme (Appendix B, `[^:/?#]`). -/
def isSchemeStop (c : UInt8) : Bool := c = COLON || c = SLASH || c = QUESTION || c = HASH

/-- The characters that end an authority (`[^/?#]`). -/
def isAuthorityStop (c : UInt8) : Bool := c = SLASH || c = QUESTION || c = HASH

/-- The characters that end a path (`[^?#]`). -/
def isPathStop (c : UInt8) : Bool := c = QUESTION || c = HASH

/-- `(([^:/?#]+):)?`: the scheme and what follows its colon. -/
def splitScheme (s : Bytes) : Option Bytes × Bytes :=
  let scheme := s.takeWhile fun c => !isSchemeStop c
  match s.drop scheme.length with
  | c :: rest => if c = COLON ∧ scheme ≠ [] then (some scheme, rest) else (none, s)
  | [] => (none, s)

/-- `(//([^/?#]*))?`: the authority and what follows it. -/
def splitAuthority : Bytes → Option Bytes × Bytes
  | c1 :: c2 :: rest =>
    if c1 = SLASH ∧ c2 = SLASH then
      (some (rest.takeWhile fun c => !isAuthorityStop c),
        rest.dropWhile fun c => !isAuthorityStop c)
    else (none, c1 :: c2 :: rest)
  | s => (none, s)

/-- `(\?([^#]*))?`: the query and what follows it. -/
def splitQuery : Bytes → Option Bytes × Bytes
  | c :: rest =>
    if c = QUESTION then (some (rest.takeWhile (· ≠ HASH)), rest.dropWhile (· ≠ HASH))
    else (none, c :: rest)
  | [] => (none, [])

/-- `(#(.*))?`: the fragment. -/
def splitFragment : Bytes → Option Bytes
  | c :: rest => if c = HASH then some rest else none
  | [] => none

/-- RFC 2396 Appendix B, `^(([^:/?#]+):)?(//([^/?#]*))?([^?#]*)(\?([^#]*))?(#(.*))?`. -/
def parseURIReference (s : Bytes) : URIRef :=
  let afterScheme := splitScheme s
  let afterAuthority := splitAuthority afterScheme.2
  let path := afterAuthority.2.takeWhile fun c => !isPathStop c
  let afterQuery := splitQuery (afterAuthority.2.dropWhile fun c => !isPathStop c)
  ⟨afterScheme.1, afterAuthority.1, path, afterQuery.1, splitFragment afterQuery.2⟩

/-- `uric*` (RFC 2396 §2), owing `k` hexadecimal digits of an escape: legal characters, and `%`
followed by two hexadecimal digits. -/
def isURICsFrom : Nat → Bytes → Bool
  | 0, [] => true
  | _ + 1, [] => false
  | 0, c :: rest =>
    if c = PERCENT then isURICsFrom 2 rest else isURLLegalCharacter c && isURICsFrom 0 rest
  | k + 1, c :: rest => (hexValue c).isSome && isURICsFrom k rest

/-- `uric*`. -/
def isURICs (s : Bytes) : Bool := isURICsFrom 0 s

/-- What `CFURLCreateWithString` accepts: `uric*` with at most one `#`, before the fragment. -/
def isURLString (s : Bytes) : Bool :=
  isURICs (s.takeWhile (· ≠ HASH)) && isURICs ((s.dropWhile (· ≠ HASH)).drop 1)

/-- An escaped path is made of legal characters and escapes. -/
theorem isURICsFrom_escapePath : ∀ s : Bytes, isURICsFrom 0 (escapePath s)
  | [] => rfl
  | c :: s => by
    rw [escapePath_cons]
    split
    · have hc : c.toNat < 256 := c.toNat_lt_size
      simp only [percentEscape, List.cons_append, List.nil_append, isURICsFrom, if_true,
        hexValue_hexDigit (show c.toNat / 16 < 16 by omega), List.append_eq,
        hexValue_hexDigit (show c.toNat % 16 < 16 by omega), Option.isSome_some, Bool.true_and]
      exact isURICsFrom_escapePath s
    · rename_i h
      have hl : isURLLegalCharacter c := by
        by_contra hl; simp [escapesChar, hl] at h
      have hp : c ≠ PERCENT := by rintro rfl; exact absurd hl (by decide)
      simp only [List.singleton_append, isURICsFrom, hp, if_false, hl, Bool.true_and]
      exact isURICsFrom_escapePath s

/-- `CFURLCreateWithString` accepts every escaped path. -/
theorem isURLString_escapePath (s : Bytes) : isURLString (escapePath s) := by
  have hh : ∀ c ∈ escapePath s, c ≠ HASH := fun c hc h =>
    not_mem_escapePath (.inr (.inr rfl)) s (h ▸ hc)
  rw [isURLString, List.takeWhile_eq_self_iff.2 (by simpa using hh),
    List.dropWhile_eq_nil_iff.2 (by simpa using hh)]
  simp [isURICs, isURICsFrom_escapePath, isURICsFrom]

/-- Without a `:` there is no scheme. -/
theorem splitScheme_of_colon_not_mem {s : Bytes} (hs : COLON ∉ s) :
    splitScheme s = (none, s) := by
  simp only [splitScheme]
  split
  · rename_i c rest h
    have hc : c ∈ s := List.mem_of_mem_drop (h ▸ List.mem_cons_self c rest)
    exact if_neg fun h' : c = COLON ∧ _ => hs (h'.1 ▸ hc)
  · rfl

/-- Without a leading `/` there is no authority. -/
theorem splitAuthority_of_head {s : Bytes} (hs : s.head? ≠ some SLASH) :
    splitAuthority s = (none, s) := by
  unfold splitAuthority
  split
  · exact if_neg fun h => hs (by simp [h.1])
  · rfl

/-- A string with no `:`, `?` or `#` that does not start with `/` is a relative path, and only
that (RFC 2396 §5: a `relativeURI` with a `rel_path`). -/
theorem parseURIReference_relativePath {s : Bytes} (hc : COLON ∉ s) (hq : QUESTION ∉ s)
    (hh : HASH ∉ s) (hs : s.head? ≠ some SLASH) :
    parseURIReference s = ⟨none, none, s, none, none⟩ := by
  have hp : ∀ c ∈ s, !isPathStop c := fun c h => by
    simp only [isPathStop, Bool.not_or, Bool.and_eq_true, Bool.not_eq_true',
      decide_eq_false_iff_not]
    exact ⟨fun e => hq (e ▸ h), fun e => hh (e ▸ h)⟩
  simp only [parseURIReference, splitScheme_of_colon_not_mem hc, splitAuthority_of_head hs,
    List.takeWhile_eq_self_iff.2 hp, List.dropWhile_eq_nil_iff.2 hp, splitQuery, splitFragment]

/-! ### Resolution (RFC 2396 §5.2) -/

/-- Segments joined by `/`, the inverse of splitting at `/`. -/
def joinSegments : List Bytes → Bytes
  | [] => []
  | seg :: segs => seg ++ segs.flatMap (SLASH :: ·)

/-- Whether a following `..` removes the segment on top of the stack: not `..` itself, and not
the empty segment before a leading `/`. -/
def canPop : List Bytes → Bool
  | top :: _ => top ≠ [] && top ≠ [DOT, DOT]
  | [] => false

/-- A segment that is not the last: step 6 (c) drops `.`, step 6 (e) drops a segment followed by
`..`. The stack holds the segments kept so far, last on top. -/
def pushSegment (stack : List Bytes) (seg : Bytes) : List Bytes :=
  if seg = [DOT] then stack
  else if seg = [DOT, DOT] ∧ canPop stack then stack.tail
  else seg :: stack

/-- The last segment, steps 6 (d) and (f): a final `.` or `<segment>/..` leaves the path ending
in `/`. -/
def pushLastSegment (stack : List Bytes) (seg : Bytes) : List Bytes :=
  if seg = [DOT] then [] :: stack
  else if seg = [DOT, DOT] ∧ canPop stack then [] :: stack.tail
  else seg :: stack

/-- Step 6 (c) to (f): the `.` and `..` segments of a merged path removed. -/
def removeDotSegments (path : Bytes) : Bytes :=
  let segs := path.splitOn SLASH
  joinSegments (pushLastSegment (segs.dropLast.foldl pushSegment []) (segs.getLastD [])).reverse

/-- Step 6 (a) and (b): the base path up to its last `/`, then the reference's path. -/
def mergePaths (basePath refPath : Bytes) : Bytes :=
  (basePath.reverse.dropWhile (· ≠ SLASH)).reverse ++ refPath

/-- RFC 2396 §5.2: the URI a reference denotes against an absolute base URI. -/
def resolveURIReference (base ref : URIRef) : URIRef :=
  if ref.path = [] ∧ ref.scheme = none ∧ ref.authority = none ∧ ref.query = none then
    { base with fragment := ref.fragment }
  else if ref.scheme.isSome then ref
  else if ref.authority.isSome then { ref with scheme := base.scheme }
  else if ref.path.head? = some SLASH then
    { ref with scheme := base.scheme, authority := base.authority }
  else
    { ref with scheme := base.scheme, authority := base.authority,
               path := removeDotSegments (mergePaths base.path ref.path) }

/-- The segments around a `/`. -/
theorem splitOn_append_slash (x y : Bytes) :
    (x ++ SLASH :: y).splitOn SLASH = x.splitOn SLASH ++ y.splitOn SLASH := by
  induction x with
  | nil => simp [List.splitOn]
  | cons c x ih =>
    simp only [List.splitOn, List.cons_append, List.splitOnP_cons] at ih ⊢
    split
    · rw [ih]; rfl
    · rw [ih]
      obtain ⟨a, as, h⟩ := List.exists_cons_of_ne_nil (List.splitOnP_ne_nil (· == SLASH) x)
      simp [h]

theorem splitOn_ne_nil (s : Bytes) : s.splitOn SLASH ≠ [] :=
  List.splitOnP_ne_nil _ s

/-- The segments of a path, as its first ones and its last. -/
theorem splitOn_eq_concat (s : Bytes) : ∃ segs last, s.splitOn SLASH = segs ++ [last] := by
  obtain ⟨segs, last, h⟩ := (List.eq_nil_or_concat (s.splitOn SLASH)).resolve_left
    (splitOn_ne_nil s)
  exact ⟨segs, last, by simpa using h⟩

/-- A string without `/` is one segment. -/
theorem splitOn_of_slash_not_mem {s : Bytes} (hs : SLASH ∉ s) : s.splitOn SLASH = [s] :=
  List.splitOnP_eq_single _ _ fun _ hc h => hs (eq_of_beq h ▸ hc)

/-- Joining the segments of a path gives the path. -/
theorem joinSegments_splitOn (s : Bytes) : joinSegments (s.splitOn SLASH) = s := by
  induction s with
  | nil => rfl
  | cons c s ih =>
    obtain ⟨a, as, h⟩ := List.exists_cons_of_ne_nil (List.splitOnP_ne_nil (· == SLASH) s)
    simp only [List.splitOn] at ih ⊢
    rw [h] at ih
    rw [List.splitOnP_cons, h]
    split <;> simp_all [joinSegments]

/-- `joinSegments` puts a `/` between the segments of two non-empty lists. -/
theorem joinSegments_append {A : List Bytes} {Y : List Bytes} (hY : Y ≠ []) :
    joinSegments (A ++ Y) = joinSegments (A ++ [[]]) ++ joinSegments Y := by
  obtain ⟨b, B, rfl⟩ := List.exists_cons_of_ne_nil hY
  cases A <;> simp [joinSegments]

/-- A segment that is neither `.` nor `..`. -/
def NotDotSegment (seg : Bytes) : Prop := seg ≠ [DOT] ∧ seg ≠ [DOT, DOT]

/-- No segment of the path is `.` or `..`. -/
def DotFree (path : Bytes) : Prop := ∀ seg ∈ path.splitOn SLASH, NotDotSegment seg

/-- Two segments that are neither `.` nor `..` concatenate to one. -/
theorem NotDotSegment.append {a b : Bytes} (ha : NotDotSegment a) (hb : NotDotSegment b) :
    NotDotSegment (a ++ b) := by
  rcases a with _ | ⟨x, _ | ⟨y, _ | ⟨z, a⟩⟩⟩ <;> simp_all [NotDotSegment]

theorem pushSegment_of {seg : Bytes} (h : NotDotSegment seg) (stack : List Bytes) :
    pushSegment stack seg = seg :: stack := by
  simp [pushSegment, h.1, h.2]

theorem pushLastSegment_of {seg : Bytes} (h : NotDotSegment seg) (stack : List Bytes) :
    pushLastSegment stack seg = seg :: stack := by
  simp [pushLastSegment, h.1, h.2]

/-- Segments that are neither `.` nor `..` all stay, in order. -/
theorem pushSegments_of {segs : List Bytes} {last : Bytes}
    (h : ∀ seg ∈ segs ++ [last], NotDotSegment seg) (stack : List Bytes) :
    (pushLastSegment (segs.foldl pushSegment stack) last).reverse =
      stack.reverse ++ segs ++ [last] := by
  induction segs generalizing stack with
  | nil => simp [pushLastSegment_of (h last (by simp))]
  | cons seg segs ih =>
    rw [List.foldl_cons, pushSegment_of (h seg (by simp)),
      ih (fun s hs => h s (List.mem_cons_of_mem _ hs))]
    simp

/-- `removeDotSegments` keeps a path with no `.` or `..` segment. -/
theorem removeDotSegments_of_dotFree {p : Bytes} (h : DotFree p) : removeDotSegments p = p := by
  obtain ⟨segs, last, hs⟩ := splitOn_eq_concat p
  have h' : ∀ seg ∈ segs ++ [last], NotDotSegment seg := hs ▸ h
  simp only [removeDotSegments, hs, List.dropLast_concat, List.getLastD_concat,
    pushSegments_of h', List.reverse_nil, List.nil_append]
  rw [← hs, joinSegments_splitOn]

/-- Resolution removes the base path's own dot segments, and keeps what follows a `/` when it
has none. -/
theorem removeDotSegments_eq {y : Bytes} (hy : DotFree y) (x : Bytes) :
    removeDotSegments (x ++ SLASH :: y) =
      joinSegments (((x.splitOn SLASH).foldl pushSegment []).reverse ++ y.splitOn SLASH) := by
  obtain ⟨segs, last, hs⟩ := splitOn_eq_concat y
  have h' : ∀ seg ∈ segs ++ [last], NotDotSegment seg := hs ▸ hy
  simp only [removeDotSegments, splitOn_append_slash, hs, ← List.append_assoc,
    List.dropLast_concat, List.getLastD_concat, List.foldl_append, pushSegments_of h']

theorem dotFree_nil : DotFree [] := by
  simp [DotFree, NotDotSegment]

/-- **Resolution keeps a dot-free relative path**: the path after the base's last `/` follows
the resolved base path unchanged. -/
theorem removeDotSegments_append {y : Bytes} (hy : DotFree y) (x : Bytes) :
    removeDotSegments (x ++ SLASH :: y) = removeDotSegments (x ++ [SLASH]) ++ y := by
  rw [removeDotSegments_eq hy, removeDotSegments_eq dotFree_nil,
    joinSegments_append (splitOn_ne_nil y), joinSegments_splitOn]
  rfl

/-- The resolved base path is empty or ends in `/`. -/
theorem removeDotSegments_slash (x : Bytes) :
    removeDotSegments (x ++ [SLASH]) = [] ∨
      ∃ z, removeDotSegments (x ++ [SLASH]) = z ++ [SLASH] := by
  rw [removeDotSegments_eq dotFree_nil]
  cases ((x.splitOn SLASH).foldl pushSegment []).reverse with
  | nil => exact .inl rfl
  | cons a A => exact .inr ⟨a ++ A.flatMap (SLASH :: ·), by simp [joinSegments]⟩

/-- A base path ending in `/` is kept whole. -/
theorem mergePaths_of_slash (x r : Bytes) : mergePaths (x ++ [SLASH]) r = x ++ SLASH :: r := by
  simp [mergePaths]

/-- A relative path takes the base's scheme and authority, and is merged with the base path
(step 6). -/
theorem resolveURIReference_relativePath (base : URIRef) {r : Bytes} (hr : r ≠ [])
    (hs : r.head? ≠ some SLASH) :
    resolveURIReference base ⟨none, none, r, none, none⟩ =
      ⟨base.scheme, base.authority, removeDotSegments (mergePaths base.path r), none,
        none⟩ := by
  simp [resolveURIReference, hr, hs]

/-- A `CFURLRef`: a URI reference and the base URL it is relative to. -/
structure CFURL where
  ref : URIRef
  baseURL : Option URIRef

/-- `CFURLCreateWithString(s, baseURL)`: `NULL` unless `s` is a legal URL string. -/
def cfURLCreateWithString (s : Bytes) (baseURL : URIRef) : Option CFURL :=
  if isURLString s then some ⟨parseURIReference s, some baseURL⟩ else none

/-- `CFURLCopyAbsoluteURL`: the reference resolved against its base. -/
def cfURLCopyAbsoluteURL (url : CFURL) : URIRef :=
  match url.baseURL with
  | some base => resolveURIReference base url.ref
  | none => url.ref

/-! ### `create_cfurl_from_node` -/

/-- The value of the C string at a pointer: the bytes before its NUL. -/
def cString (m : Bytes) : Bytes := m.takeWhile (· ≠ 0)

/-- `strncat(dst, src, n)` on string values: at most `n` bytes of `src`, up to its NUL. -/
def strncat (dst src : Bytes) (n : Nat) : Bytes := dst ++ (cString src).take n

/-- The relative path with the name appended (if any): `strncat(node_path, name, name_length)`
when `name` is not `NULL` and `name_length` is not 0. -/
def appendName (nodePath : Bytes) (name : Option Bytes) (nameLength : Nat) : Bytes :=
  match name with
  | some name => if nameLength ≠ 0 then strncat nodePath name nameLength else nodePath
  | none => nodePath

/-- `create_cfurl_from_node(node, name, name_length)` with `gBaseURL`. `nodePath` is the buffer
`nodecache_get_path_from_node` fills (`none` for its error) and `name` the memory at `name`
(`none` for `NULL`); `none` is the `NULL` the function returns. -/
def createCFURLFromNode (gBaseURL : URIRef) (nodePath name : Option Bytes) (nameLength : Nat) :
    Option URIRef := do
  let nodePath ← nodePath
  let path := appendName (cString nodePath) name nameLength
  if path = [] then
    some gBaseURL
  else
    let stringRef ← cfStringCreateWithCString path
    let escapedPathRef := escapePath stringRef
    let urlRef ← cfURLCreateWithString escapedPathRef gBaseURL
    some (cfURLCopyAbsoluteURL urlRef)

/-- The resolved URL of `a%b` under `http://h/d/`: the `%` is escaped. -/
example : createCFURLFromNode ⟨some [0x68], some [0x68], [SLASH, 0x64, SLASH], none, none⟩
    (some [0x61, PERCENT, 0x62]) none 0 =
      some ⟨some [0x68], some [0x68], [SLASH, 0x64, SLASH, 0x61, PERCENT, 0x32, 0x35, 0x62],
        none, none⟩ := by decide

/-- A name as the node cache keeps it: not empty, not `.` or `..`, free of `/` and NUL, and
UTF-8. -/
structure NodeName where
  bytes : Bytes
  ne_nil : bytes ≠ []
  notDot : NotDotSegment bytes
  slash_not_mem : SLASH ∉ bytes
  nul_not_mem : (0 : UInt8) ∉ bytes
  utf8 : utf8Valid bytes

/-- A node's path relative to the base URL, as `nodecache_get_path_from_node` gives it: the names
from the root, each followed by `/` up to the directory the node is in, then the node's own name
unless the node is that directory. The root's path is empty. -/
structure NodePath where
  dirs : List NodeName
  leaf : Option NodeName

/-- The bytes of an optional name, empty for none. -/
def NodeName.optBytes (n : Option NodeName) : Bytes := (n.map NodeName.bytes).getD []

/-- The path's bytes, names separated by `/`. -/
def NodePath.bytes (P : NodePath) : Bytes :=
  P.dirs.flatMap (fun n => n.bytes ++ [SLASH]) ++ NodeName.optBytes P.leaf

/-- The path, extended by a child's name if there is one. -/
def NodePath.withChild (P : NodePath) (child : Option NodeName) : Bytes :=
  P.bytes ++ NodeName.optBytes child

theorem NodeName.optBytes_ok (n : Option NodeName) :
    NotDotSegment (optBytes n) ∧ SLASH ∉ optBytes n ∧ (0 : UInt8) ∉ optBytes n ∧
      utf8Valid (optBytes n) := by
  cases n with
  | none => exact ⟨by simp [optBytes, NotDotSegment], by simp [optBytes], by simp [optBytes],
      rfl⟩
  | some n => exact ⟨n.notDot, n.slash_not_mem, n.nul_not_mem, n.utf8⟩

/-- Slash-free segments, each followed by `/`, then a slash-free last segment. -/
theorem splitOn_flatMap_slash {ns : List Bytes} {t : Bytes} (hns : ∀ n ∈ ns, SLASH ∉ n)
    (ht : SLASH ∉ t) : (ns.flatMap (· ++ [SLASH]) ++ t).splitOn SLASH = ns ++ [t] := by
  induction ns with
  | nil => exact splitOn_of_slash_not_mem ht
  | cons n ns ih =>
    rw [List.flatMap_cons, List.append_assoc, List.append_assoc, List.singleton_append,
      splitOn_append_slash, splitOn_of_slash_not_mem (hns n (by simp)),
      ih (fun m hm => hns m (List.mem_cons_of_mem _ hm))]
    rfl

theorem escapePath_flatMap_slash (ns : List Bytes) (t : Bytes) :
    escapePath (ns.flatMap (· ++ [SLASH]) ++ t) =
      (ns.map escapePath).flatMap (· ++ [SLASH]) ++ escapePath t := by
  induction ns with
  | nil => rfl
  | cons n ns ih =>
    simp only [List.flatMap_cons, List.map_cons, List.append_assoc, escapePath_append,
      escapePath_slash] at ih ⊢
    rw [ih]

theorem NotDotSegment.escapePath {s : Bytes} (h : NotDotSegment s) :
    NotDotSegment (escapePath s) := by
  constructor <;> intro he <;> have := percentDecode_escapePath s <;> rw [he] at this
  · exact h.1 (this ▸ rfl)
  · exact h.2 (this ▸ rfl)

/-- What `create_cfurl_from_node` needs of a relative path: the names and the last segment, and
what holds of its escaped form. -/
theorem NodePath.withChild_eq (P : NodePath) (child : Option NodeName) :
    P.withChild child = (P.dirs.map NodeName.bytes).flatMap (· ++ [SLASH]) ++
      (NodeName.optBytes P.leaf ++ NodeName.optBytes child) := by
  simp [withChild, bytes, List.flatMap_map]

theorem NodeName.optBytes_append_ok (a b : Option NodeName) :
    NotDotSegment (optBytes a ++ optBytes b) ∧ SLASH ∉ optBytes a ++ optBytes b ∧
      (0 : UInt8) ∉ optBytes a ++ optBytes b ∧ utf8Valid (optBytes a ++ optBytes b) := by
  obtain ⟨ha1, ha2, ha3, ha4⟩ := optBytes_ok a
  obtain ⟨hb1, hb2, hb3, hb4⟩ := optBytes_ok b
  exact ⟨ha1.append hb1, by simp [ha2, hb2], by simp [ha3, hb3], utf8Valid_append ha4 hb4⟩

theorem NodePath.bytes_eq (P : NodePath) :
    P.bytes = (P.dirs.map NodeName.bytes).flatMap (· ++ [SLASH]) ++ NodeName.optBytes P.leaf := by
  simp [bytes, List.flatMap_map]

/-- The relative path a node path and a child name give, in the form `create_cfurl_from_node`'s
proof needs: it does not start with `/`, has no NUL, is UTF-8, and its escaped form has no `.` or
`..` segment. -/
theorem relativePath_ok (ns : List NodeName) {t : Bytes}
    (ht : NotDotSegment t ∧ SLASH ∉ t ∧ (0 : UInt8) ∉ t ∧ utf8Valid t) :
    let rel := (ns.map NodeName.bytes).flatMap (· ++ [SLASH]) ++ t
    rel.head? ≠ some SLASH ∧ (0 : UInt8) ∉ rel ∧ utf8Valid rel ∧
      DotFree (escapePath rel) := by
  obtain ⟨htd, hts, htn, htu⟩ := ht
  refine ⟨?_, ?_, ?_, ?_⟩
  · cases ns with
    | nil => exact fun h => hts (List.mem_of_mem_head? h)
    | cons n ns =>
      rw [List.map_cons, List.flatMap_cons, List.append_assoc, List.append_assoc,
        List.head?_append_of_ne_nil _ n.ne_nil]
      exact fun h => n.slash_not_mem (List.mem_of_mem_head? h)
  · simp [List.mem_flatMap, NodeName.nul_not_mem, htn]
  · induction ns with
    | nil => exact htu
    | cons n ns ih =>
      rw [List.map_cons, List.flatMap_cons, List.append_assoc, List.append_assoc]
      exact utf8Valid_append n.utf8 (utf8Valid_append rfl ih)
  · unfold DotFree
    rw [escapePath_flatMap_slash, splitOn_flatMap_slash _ (slash_not_mem_escapePath hts)]
    · simp only [List.map_map, List.mem_append, List.mem_map, List.mem_singleton]
      rintro seg (⟨n, -, rfl⟩ | rfl)
      · exact n.notDot.escapePath
      · exact htd.escapePath
    · simp only [List.map_map, List.mem_map]
      rintro _ ⟨n, -, rfl⟩
      exact slash_not_mem_escapePath n.slash_not_mem

theorem cString_of_nul_not_mem {s : Bytes} (h : (0 : UInt8) ∉ s) : cString s = s :=
  List.takeWhile_eq_self_iff.2 fun c hc => decide_eq_true fun e : c = 0 => h (e ▸ hc)

/-- `strncat` appends the child's whole name. -/
theorem appendName_withChild (P : NodePath) (child : Option NodeName) :
    appendName (cString P.bytes) (child.map NodeName.bytes) (NodeName.optBytes child).length =
      P.withChild child := by
  have hP : (0 : UInt8) ∉ P.bytes := by
    rw [NodePath.bytes_eq]; exact (relativePath_ok P.dirs (NodeName.optBytes_ok P.leaf)).2.1
  cases child with
  | none => simp [appendName, cString_of_nul_not_mem hP, NodePath.withChild, NodeName.optBytes]
  | some n =>
    simp [appendName, strncat, cString_of_nul_not_mem hP, cString_of_nul_not_mem n.nul_not_mem,
      NodePath.withChild, NodeName.optBytes, n.ne_nil]

/-- For a non-empty relative path, the URL keeps the base's scheme and authority, has no query
and no fragment, and its path is the resolved base path followed by the escaped relative path. -/
theorem createCFURLFromNode_relative (gBaseURL : URIRef) {x : Bytes}
    (hx : gBaseURL.path = x ++ [SLASH]) (P : NodePath) (child : Option NodeName)
    (hne : P.withChild child ≠ []) :
    createCFURLFromNode gBaseURL (some P.bytes) (child.map NodeName.bytes)
        (NodeName.optBytes child).length =
      some ⟨gBaseURL.scheme, gBaseURL.authority,
        removeDotSegments gBaseURL.path ++ escapePath (P.withChild child), none, none⟩ := by
  obtain ⟨hhead, -, hutf, hdot⟩ := NodePath.withChild_eq P child ▸
    relativePath_ok P.dirs (NodeName.optBytes_append_ok P.leaf child)
  have hesc : escapePath (P.withChild child) ≠ [] := fun h => hne (by
    rw [← percentDecode_escapePath (P.withChild child), h]; rfl)
  simp only [createCFURLFromNode, appendName_withChild, hne, if_false, cfStringCreateWithCString,
    hutf, if_true, cfURLCreateWithString, isURLString_escapePath, cfURLCopyAbsoluteURL,
    Option.bind_eq_bind, Option.some_bind,
    parseURIReference_relativePath (not_mem_escapePath (.inl rfl) _)
      (not_mem_escapePath (.inr (.inl rfl)) _) (not_mem_escapePath (.inr (.inr rfl)) _)
      (escapePath_head hhead),
    resolveURIReference_relativePath _ hesc (escapePath_head hhead), hx, mergePaths_of_slash,
    removeDotSegments_append hdot]

/-- **`create_cfurl_from_node` addresses the base path followed by the node's path.** Take a base
URL whose path ends in `/`, a node path and an optional child name. For the empty relative path
the result is the base URL itself. Otherwise the result has the base's scheme and authority, no
query and no fragment, and its path percent-decodes to the base path, with the `.` and `..`
segments of the base path removed as RFC 2396 §5.2 does, followed by the relative path: a name
holding `%`, `#`, a space, `:`, `;`, `?` or non-ASCII bytes cannot change what is addressed. -/
theorem createCFURLFromNode_round_trip (gBaseURL : URIRef)
    (hdir : gBaseURL.path.getLast? = some SLASH) (P : NodePath) (child : Option NodeName) :
    (P.withChild child = [] →
      createCFURLFromNode gBaseURL (some P.bytes) (child.map NodeName.bytes)
        (NodeName.optBytes child).length = some gBaseURL) ∧
    (P.withChild child ≠ [] →
      ∃ u, createCFURLFromNode gBaseURL (some P.bytes) (child.map NodeName.bytes)
          (NodeName.optBytes child).length = some u ∧
        u.scheme = gBaseURL.scheme ∧ u.authority = gBaseURL.authority ∧ u.query = none ∧
        u.fragment = none ∧
        percentDecode u.path =
          percentDecode (removeDotSegments gBaseURL.path) ++ P.withChild child) := by
  have hx : gBaseURL.path = gBaseURL.path.dropLast ++ [SLASH] :=
    (List.dropLast_append_getLast? _ hdir).symm
  refine ⟨fun h => by simp [createCFURLFromNode, appendName_withChild, h], fun hne =>
    ⟨_, createCFURLFromNode_relative gBaseURL hx P child hne, rfl, rfl, rfl, rfl, ?_⟩⟩
  rw [hx]
  rcases removeDotSegments_slash gBaseURL.path.dropLast with h | ⟨z, h⟩ <;> rw [h]
  · exact percentDecode_escapePath _
  · rw [List.append_assoc, List.singleton_append, percentDecode_append_slash,
      percentDecode_escapePath]

/-- The base `http://h/d/` and the file `a%b` in the root directory: the URL is
`http://h/d/a%25b`, which decodes back. -/
theorem createCFURLFromNode_round_trip_percentName :
    ([SLASH, 0x64, SLASH] : Bytes).getLast? = some SLASH ∧
    let P : NodePath := ⟨[], some ⟨[0x61, PERCENT, 0x62], by decide, ⟨by decide, by decide⟩,
      by decide, by decide, rfl⟩⟩
    let base : URIRef := ⟨some [0x68, 0x74, 0x74, 0x70], some [0x68], [SLASH, 0x64, SLASH],
      none, none⟩
    (P.withChild none = [] →
      createCFURLFromNode base (some P.bytes) none 0 = some base) ∧
    (P.withChild none ≠ [] →
      ∃ u, createCFURLFromNode base (some P.bytes) none 0 = some u ∧
        u.scheme = base.scheme ∧ u.authority = base.authority ∧ u.query = none ∧
        u.fragment = none ∧
        percentDecode u.path = percentDecode (removeDotSegments base.path) ++ P.withChild none) :=
  ⟨rfl, createCFURLFromNode_round_trip _ (by rfl) _ none⟩

/-- At the base `http://h/./`, whose path has a `.` segment, the URL of the file `x` in the root
directory has the path `/x`: resolution removes the base's `.` segment, so the path does not
decode to the base path `/./` followed by `x`. -/
theorem createCFURLFromNode_dotSegmentBase :
    createCFURLFromNode ⟨some [0x68, 0x74, 0x74, 0x70], some [0x68], [SLASH, DOT, SLASH], none,
        none⟩ (some [0x78]) none 0 =
      some ⟨some [0x68, 0x74, 0x74, 0x70], some [0x68], [SLASH, 0x78], none, none⟩ ∧
    percentDecode [SLASH, 0x78] ≠ percentDecode [SLASH, DOT, SLASH] ++ [0x78] := by
  decide

/-- For a base path with no `.` or `..` segment, the resolved base path is the base path. -/
example : removeDotSegments [SLASH, 0x64, SLASH] = [SLASH, 0x64, SLASH] := by decide

/-- **Different node paths get different URLs.** Under a base URL whose path ends in `/`, two
nonempty relative paths, each a node path with an optional child name, are sent to different
URLs: escaping loses nothing, and both are resolved against the same base. -/
theorem createCFURLFromNode_injective (gBaseURL : URIRef)
    (hdir : gBaseURL.path.getLast? = some SLASH) (P Q : NodePath) (c d : Option NodeName)
    (hP : P.withChild c ≠ []) (hQ : Q.withChild d ≠ []) (hne : P.withChild c ≠ Q.withChild d) :
    createCFURLFromNode gBaseURL (some P.bytes) (c.map NodeName.bytes)
        (NodeName.optBytes c).length ≠
      createCFURLFromNode gBaseURL (some Q.bytes) (d.map NodeName.bytes)
        (NodeName.optBytes d).length := by
  have hx : gBaseURL.path = gBaseURL.path.dropLast ++ [SLASH] :=
    (List.dropLast_append_getLast? _ hdir).symm
  rw [createCFURLFromNode_relative gBaseURL hx P c hP,
    createCFURLFromNode_relative gBaseURL hx Q d hQ]
  intro h
  have hpath : escapePath (P.withChild c) = escapePath (Q.withChild d) := by
    simpa using congrArg (fun u : Option URIRef => u.map URIRef.path) h
  exact hne (by simpa [percentDecode_escapePath] using congrArg percentDecode hpath)

/-- The files `a` and `b` in the root directory under `http://h/d/` get different URLs. -/
theorem createCFURLFromNode_injective_twoFiles :
    let a : NodePath := ⟨[], some ⟨[0x61], by decide, ⟨by decide, by decide⟩, by decide, by decide,
      rfl⟩⟩
    let b : NodePath := ⟨[], some ⟨[0x62], by decide, ⟨by decide, by decide⟩, by decide, by decide,
      rfl⟩⟩
    let base : URIRef := ⟨some [0x68, 0x74, 0x74, 0x70], some [0x68], [SLASH, 0x64, SLASH],
      none, none⟩
    base.path.getLast? = some SLASH ∧ a.withChild none ≠ [] ∧ b.withChild none ≠ [] ∧
      a.withChild none ≠ b.withChild none ∧
      createCFURLFromNode base (some a.bytes) none 0 ≠
        createCFURLFromNode base (some b.bytes) none 0 :=
  ⟨rfl, by decide, by decide, by decide,
    createCFURLFromNode_injective _ (by rfl) _ _ none none (by decide) (by decide) (by decide)⟩

end WebDAVFS
