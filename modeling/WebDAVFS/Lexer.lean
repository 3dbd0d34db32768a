import WebDAVFS.Basic

/-!
# The header lexers (webdav_network.c:207–342)

`SkipCodedURL`, `SkipToken` and `SkipLWS` scan a NUL-terminated C string and return a pointer
into it. The model reads the memory from the pointer on as a list of bytes: each function returns
how far it advanced, and `none` when it would read past the end of that list. Run on `s ++ [0]`,
a result `some k` therefore says both that the scan returns `s + k` and that it read no byte past
the terminating NUL.

- `IsLWS`: the language `(SP | HT | CR LF (SP | HT))*` of the LWS runs of RFC 2616 §2.2 as
  `SkipLWS` reads them; `LWSSplit s u`: `s` is such a run followed by `u`, at which no run
  starts; `LongestLWS s k`: `k` is the length of the longest prefix of `s` in the language.
- `longestLWS_append`: a run followed by a place where none starts is the longest prefix.
- `skipLWS_append_zero`: `SkipLWS` stops where its run can go on no further, reading nothing
  past the NUL; `skipLWS_maximal_munch` assembles the two.
- `skipToken_append_zero`, `skipCodedURL_append_zero`: the other two scans stop at the first
  byte outside their class, or at the NUL.
-/

namespace WebDAVFS

/-! ## `SkipLWS` -/

/-- `SkipLWS` (webdav_network.c:308–342): skip SP and HT, and a CR LF only when a SP or HT
follows it (then skip that byte too), until the NUL or any other byte. -/
def skipLWS : Bytes → Option Nat
  | [] => none
  | c :: m =>
    if c = 0 then some 0
    else if c = SP ∨ c = HT then (skipLWS m).map (· + 1)
    else if c = CR then
      match m with
      | [] => none
      | c1 :: m1 =>
        if c1 = LF then
          match m1 with
          | [] => none
          | c2 :: m2 => if c2 = SP ∨ c2 = HT then (skipLWS m2).map (· + 3) else some 0
        else some 0
    else some 0

theorem skipLWS_blank {c : UInt8} (hc : c = SP ∨ c = HT) (m : Bytes) :
    skipLWS (c :: m) = (skipLWS m).map (· + 1) := by
  have : c ≠ 0 := by rcases hc with rfl | rfl <;> decide
  rw [skipLWS.eq_def]; simp [hc, this]

theorem skipLWS_fold {c : UInt8} (hc : c = SP ∨ c = HT) (m : Bytes) :
    skipLWS (CR :: LF :: c :: m) = (skipLWS m).map (· + 3) := by
  simp [skipLWS, hc]

/-- `SkipLWS` stops at a byte that starts no run: a CR not followed by LF and a SP or HT, the
NUL, or any byte other than SP, HT and CR. -/
theorem skipLWS_cr_lf {c : UInt8} (hc : ¬(c = SP ∨ c = HT)) (m : Bytes) :
    skipLWS (CR :: LF :: c :: m) = some 0 := by
  simp [skipLWS, hc]

theorem skipLWS_cr {c : UInt8} (hc : c ≠ LF) (m : Bytes) : skipLWS (CR :: c :: m) = some 0 := by
  rw [skipLWS.eq_def]; simp [hc]

theorem skipLWS_stop {c : UInt8} (hc : ¬(c = SP ∨ c = HT ∨ c = CR)) (m : Bytes) :
    skipLWS (c :: m) = some 0 := by
  rw [skipLWS.eq_def]; simp at hc; simp [hc]

/-- The LWS runs `SkipLWS` skips: `(SP | HT | CR LF (SP | HT))*`. -/
inductive IsLWS : Bytes → Prop
  | nil : IsLWS []
  | blank {c : UInt8} {w : Bytes} (hc : c = SP ∨ c = HT) (h : IsLWS w) : IsLWS (c :: w)
  | fold {c : UInt8} {w : Bytes} (hc : c = SP ∨ c = HT) (h : IsLWS w) :
      IsLWS (CR :: LF :: c :: w)

/-- No nonempty LWS run starts at `u`. -/
def NoLWSAt (u : Bytes) : Prop := ∀ p, p <+: u → IsLWS p → p = []

/-- `s` is an LWS run followed by `u`, and no run starts at `u`. -/
def LWSSplit (s u : Bytes) : Prop := ∃ w, s = w ++ u ∧ IsLWS w ∧ NoLWSAt u

/-- `k` is the length of the longest prefix of `s` in the LWS language. -/
structure LongestLWS (s : Bytes) (k : Nat) : Prop where
  le_length : k ≤ s.length
  run : IsLWS (s.take k)
  longest : ∀ p, p <+: s → IsLWS p → p.length ≤ k

theorem isLWS_blank_cons {c : UInt8} {w : Bytes} (hc : c = SP ∨ c = HT) :
    IsLWS (c :: w) ↔ IsLWS w := by
  refine ⟨fun h => ?_, .blank hc⟩
  cases h with
  | blank _ h => exact h
  | fold => exact absurd hc (by decide)

theorem isLWS_cr_cons {w : Bytes} :
    IsLWS (CR :: w) ↔ ∃ c w', w = LF :: c :: w' ∧ (c = SP ∨ c = HT) ∧ IsLWS w' := by
  refine ⟨fun h => ?_, fun ⟨c, w', hw, hc, h⟩ => hw ▸ .fold hc h⟩
  cases h with
  | blank hc => exact absurd hc (by decide)
  | fold hc h => exact ⟨_, _, rfl, hc, h⟩

/-- A nonempty run starts with SP, HT or CR. -/
theorem IsLWS.head {c : UInt8} {w : Bytes} (h : IsLWS (c :: w)) : c = SP ∨ c = HT ∨ c = CR := by
  cases h with
  | blank hc => exact hc.elim .inl (.inr ∘ .inl)
  | fold => exact .inr (.inr rfl)

@[simp] theorem noLWSAt_nil : NoLWSAt [] := fun _ hp _ => List.prefix_nil.mp hp

/-- No run starts at a byte other than SP, HT and CR. -/
theorem noLWSAt_cons {c : UInt8} {t : Bytes} (hc : ¬(c = SP ∨ c = HT ∨ c = CR)) :
    NoLWSAt (c :: t) := by
  rintro (_ | ⟨c', p⟩) hp hl
  · rfl
  · obtain ⟨rfl, -⟩ := List.cons_prefix_cons.mp hp
    exact absurd hl.head hc

/-- No run starts at a CR unless LF and a SP or HT follow it. -/
theorem noLWSAt_cr {t : Bytes} (ht : ∀ c w, LF :: c :: w <+: t → ¬(c = SP ∨ c = HT)) :
    NoLWSAt (CR :: t) := by
  rintro (_ | ⟨c', p⟩) hp hl
  · rfl
  · obtain ⟨rfl, hp'⟩ := List.cons_prefix_cons.mp hp
    obtain ⟨c, w, rfl, hc, -⟩ := isLWS_cr_cons.mp hl
    exact absurd hc (ht c w hp')

/-- A run followed by a place where no run starts is the longest LWS prefix. The LWS units
(SP, HT, CR LF SP, CR LF HT) are told apart by their first byte, so two runs from the same place
agree unit by unit, and the longer one would start a run where the shorter stops. -/
theorem longestLWS_append {w u : Bytes} (hw : IsLWS w) (hu : NoLWSAt u) :
    LongestLWS (w ++ u) w.length where
  le_length := by simp
  run := by simpa using hw
  longest := by
    induction hw with
    | nil => intro p hp hl; simp [hu p hp hl]
    | @blank c w hc _ ih =>
      rintro (_ | ⟨c', p⟩) hp hl
      · simp
      · obtain ⟨rfl, hp'⟩ := List.cons_prefix_cons.mp hp
        simpa using ih p hp' ((isLWS_blank_cons hc).mp hl)
    | @fold c w hc _ ih =>
      rintro (_ | ⟨c', p⟩) hp hl
      · simp
      · obtain rfl : c' = CR := (List.cons_prefix_cons.mp hp).1
        obtain ⟨c', p, rfl, -, hl⟩ := isLWS_cr_cons.mp hl
        simp only [List.cons_append, List.cons_prefix_cons, true_and] at hp
        simpa using ih p hp.2 hl

/-- The longest LWS prefix has one length. -/
theorem LongestLWS.unique {s : Bytes} {k k' : Nat} (h : LongestLWS s k) (h' : LongestLWS s k') :
    k = k' := by
  have hk := h'.longest _ (List.take_prefix k s) h.run
  have hk' := h.longest _ (List.take_prefix k' s) h'.run
  simp only [List.length_take] at hk hk'
  have := h.le_length
  have := h'.le_length
  omega

/-- A string splits one way only into a maximal LWS run and the rest. -/
theorem LWSSplit.unique {s u u' : Bytes} (h : LWSSplit s u) (h' : LWSSplit s u') : u = u' := by
  obtain ⟨w, rfl, hw, hu⟩ := h
  obtain ⟨w', hs, hw', hu'⟩ := h'
  have hlen := (longestLWS_append hw hu).unique (hs ▸ longestLWS_append hw' hu')
  exact (List.append_inj hs hlen).2

theorem LWSSplit.suffix {s u : Bytes} (h : LWSSplit s u) : u <:+ s := by
  obtain ⟨w, rfl, -, -⟩ := h
  exact List.suffix_append w u

theorem lwsSplit_of_isLWS {s : Bytes} (h : IsLWS s) : LWSSplit s [] :=
  ⟨s, (List.append_nil s).symm, h, noLWSAt_nil⟩

/-- `SkipLWS` on a NUL-terminated string stops where its run can go on no further, and reads
no byte past the NUL. -/
theorem skipLWS_append_zero : ∀ s : Bytes,
    ∃ w u, s = w ++ u ∧ IsLWS w ∧ NoLWSAt u ∧ skipLWS (s ++ [0]) = some w.length
  | [] => ⟨[], [], rfl, .nil, noLWSAt_nil, rfl⟩
  | c :: t => by
    have stop : NoLWSAt (c :: t) → skipLWS (c :: t ++ [0]) = some 0 →
        ∃ w u, c :: t = w ++ u ∧ IsLWS w ∧ NoLWSAt u ∧ skipLWS (c :: t ++ [0]) = some w.length :=
      fun hu h => ⟨[], _, rfl, .nil, hu, h⟩
    by_cases hb : c = SP ∨ c = HT
    · obtain ⟨w, u, rfl, hw, hu, h⟩ := skipLWS_append_zero t
      refine ⟨c :: w, u, rfl, .blank hb hw, hu, ?_⟩
      rw [List.cons_append, skipLWS_blank hb, h]
      rfl
    by_cases hcr : c = CR
    · subst hcr
      match t with
      | [] => exact stop (noLWSAt_cr (by simp)) rfl
      | c1 :: t1 =>
        by_cases h1 : c1 = LF
        · subst h1
          match t1 with
          | [] => exact stop (noLWSAt_cr (by simp)) rfl
          | c2 :: t2 =>
            by_cases h2 : c2 = SP ∨ c2 = HT
            · obtain ⟨w, u, rfl, hw, hu, h⟩ := skipLWS_append_zero t2
              refine ⟨CR :: LF :: c2 :: w, u, rfl, .fold h2 hw, hu, ?_⟩
              rw [List.cons_append, List.cons_append, List.cons_append, skipLWS_fold h2, h]
              rfl
            · refine stop (noLWSAt_cr fun c w hp => ?_) (skipLWS_cr_lf h2 _)
              exact (List.cons_prefix_cons.mp (List.cons_prefix_cons.mp hp).2).1 ▸ h2
        · exact stop (noLWSAt_cr fun c w hp => absurd (List.cons_prefix_cons.mp hp).1.symm h1)
            (skipLWS_cr h1 _)
    · have hs : ¬(c = SP ∨ c = HT ∨ c = CR) := by tauto
      exact stop (noLWSAt_cons hs) (skipLWS_stop hs _)

/-- **SkipLWS is the maximal-munch LWS lexer.** On the NUL-terminated string `s`, `SkipLWS`
returns `s + k` for the length `k` of the longest prefix of `s` in
`(SP | HT | CR LF (SP | HT))*`, and reads no byte past the NUL. It holds for every `s`: a NUL
inside `s` is no LWS byte, so the scan stops there as it does at the end. -/
theorem skipLWS_maximal_munch (s : Bytes) :
    ∃ k, skipLWS (s ++ [0]) = some k ∧ LongestLWS s k := by
  obtain ⟨w, u, rfl, hw, hu, h⟩ := skipLWS_append_zero s
  exact ⟨w.length, h, longestLWS_append hw hu⟩

/-- A CR LF is consumed only when a SP or HT follows it. -/
example : skipLWS [CR, LF, SP, CR, LF, CR, LF, HT, 0] = some 3 := by decide

/-! ## `SkipToken` and `SkipCodedURL` -/

/-- The bytes the `switch` of `SkipToken` stops at: DEL and the separators of RFC 2616 §2.2,
`( ) < > @ , ; : \ " / [ ] ? = { } SP HT`, in the order of its case labels. -/
def tokenStops : List UInt8 :=
  [0x7f, 0x28, 0x29, 0x3c, 0x3e, 0x40, 0x2c, 0x3b, 0x3a, 0x5c, 0x22, 0x2f, 0x5b, 0x5d, 0x3f, 0x3d,
    0x7b, 0x7d, 0x20, 0x09]

/-- `SkipToken` (webdav_network.c:245–295): advance until the NUL, a control byte
(`(unsigned char)*bytes <= 31`) or a byte of its `switch`. The `switch` compares the signed
`char`, so a byte of 128 or more matches no case label and is skipped as a token byte. -/
def skipToken : Bytes → Option Nat
  | [] => none
  | c :: m =>
    if c = 0 then some 0
    else if c ≤ 31 then some 0
    else if c ∈ tokenStops then some 0
    else (skipToken m).map (· + 1)

/-- The bytes `SkipToken` skips. -/
def isTokenByte (c : UInt8) : Bool := decide (31 < c ∧ c ∉ tokenStops)

/-- `SkipToken` on a NUL-terminated string returns the end of its longest run of token bytes. -/
theorem skipToken_append_zero : ∀ s : Bytes,
    skipToken (s ++ [0]) = some (s.takeWhile isTokenByte).length
  | [] => rfl
  | c :: t => by
    by_cases hc : isTokenByte c
    · have h0 : c ≠ 0 := by rintro rfl; exact absurd hc (by decide)
      simp only [isTokenByte, decide_eq_true_eq] at hc
      simp [skipToken, h0, hc.2, UInt8.not_le.mpr hc.1, isTokenByte, skipToken_append_zero t, hc.1]
    · simp only [isTokenByte, decide_eq_true_eq, not_and_or, UInt8.not_lt, not_not] at hc
      simp only [List.cons_append, skipToken, List.takeWhile_cons, isTokenByte,
        decide_eq_true_eq]
      rcases hc with hc | hc
      · by_cases h0 : c = 0 <;> simp [h0, hc, UInt8.not_lt.mpr hc]
      · by_cases h0 : c = 0 <;> by_cases h31 : c ≤ 31 <;> simp [h0, h31, hc]

/-- `SkipCodedURL` (webdav_network.c:217–227): advance to the `>` that ends the Coded-URL or to
the NUL. -/
def skipCodedURL : Bytes → Option Nat
  | [] => none
  | c :: m => if c ≠ 0 ∧ c ≠ GT then (skipCodedURL m).map (· + 1) else some 0

/-- `SkipCodedURL` on a NUL-terminated string returns the first `>` or NUL. -/
theorem skipCodedURL_append_zero : ∀ s : Bytes,
    skipCodedURL (s ++ [0]) = some (s.takeWhile fun c => c ≠ 0 ∧ c ≠ GT).length
  | [] => rfl
  | c :: t => by
    by_cases hc : c ≠ 0 ∧ c ≠ GT
    · simp [skipCodedURL, hc, skipCodedURL_append_zero t]
    · simp only [List.cons_append, skipCodedURL, if_neg hc, List.takeWhile_cons,
        decide_eq_true_eq, hc, if_false, List.length_nil]

end WebDAVFS
