import CheckTlsSupport.ClientInfo.Basic
import Mathlib.Data.Fintype.Fin
import Mathlib.Tactic.LiftLets

/-!
# The cipher-suite loop

Each iteration of the loop is summed up once, field by field, in terms of what
the offered code contributes on its own (`displayName`, `weakReasonsAt`,
`brokenReasonsAt`, ...); the Sweet32 flush is the one contribution that depends
on the pending names. The three `foldl_*` lemmas turn those step equations into
statements about the whole loop, and the report's suite fields follow.

The counting results read positions of the offered list: `List.countP` counts
positions whose code has a property, and `sweet32Count` counts the 3DES positions
with a follower later in the list.
-/

namespace CheckTlsSupport

open Tls110 Go

section Folds

variable {α β γ : Type} (step : α → β → α)

theorem foldl_field_append (f : α → List γ) (g : β → List γ)
    (h : ∀ a b, f (step a b) = f a ++ g b) (L : List β) (a : α) :
    f (L.foldl step a) = f a ++ L.flatMap g := by
  induction L generalizing a with
  | nil => simp
  | cons b L ih => simp [ih, h]

theorem foldl_field_or (f : α → Bool) (g : β → Bool)
    (h : ∀ a b, f (step a b) = (f a || g b)) (L : List β) (a : α) :
    f (L.foldl step a) = (f a || L.any g) := by
  induction L generalizing a with
  | nil => simp
  | cons b L ih => simp [ih, h, Bool.or_assoc]

/-- A field that some iterations overwrite with the same value. -/
theorem foldl_field_set (f : α → γ) (g : β → Bool) (v : γ)
    (h : ∀ a b, f (step a b) = if g b then v else f a) (L : List β) (a : α) :
    f (L.foldl step a) = if L.any g then v else f a := by
  induction L generalizing a with
  | nil => simp
  | cons b L ih =>
    rw [List.foldl_cons, ih, h]
    by_cases hb : g b <;> simp [hb]

end Folds

section Contributions

variable (cat : Catalogue) (st : ConnectionState)

/-- "An unknown cipher suite: 0x" and the four lowercase hex digits of the code. -/
def unknownCipherSuiteName (ci : UInt16) : String :=
  "An unknown cipher suite: 0x" ++ String.mk (hexDigits4 ci.toNat)

/-- The name the report lists for an offered code: its catalogue name, else its
NSS name, else the unknown-suite text. -/
def displayName (ci : UInt16) : String :=
  match cat.allCipherSuites ci with
  | some s => s
  | none =>
    match weirdNSSSuites ci with
    | some w => w
    | none => unknownCipherSuiteName ci

/-- The weak-suite reasons of a catalogue name, in the order they are attached. -/
def weakReasonsOf (s : String) : List String :=
  (if stringsContains s "_CBC" then [cbcReason] else []) ++
    (if stringsContains s "TLS_RSA_WITH" then [noEphemeralReason] else [])

/-- The broken-suite reasons of a catalogue name other than Sweet32, in order. -/
def brokenReasonsOf (s : String) : List String :=
  (if s ∈ fewBitCipherSuites then [fewBitReason] else []) ++
    (if s ∈ nullCipherSuites then [nullReason] else []) ++
    (if s ∈ nullAuthCipherSuites then [nullAuthReason] else []) ++
    (if s ∈ rc4CipherSuites then [rc4Reason] else [])

/-- What an offered code attaches under the key `k` of `WeakCipherSuites`. -/
def weakReasonsAt (k : String) (ci : UInt16) : List String :=
  if cat.allCipherSuites ci = some k then weakReasonsOf k else []

/-- What an offered code attaches under `k` of `BrokenCipherSuites`, Sweet32 aside. -/
def brokenReasonsAt (k : String) (ci : UInt16) : List String :=
  if cat.allCipherSuites ci = some k then brokenReasonsOf k
  else if cat.allCipherSuites ci = none ∧ weirdNSSSuites ci = some k then [fewBitReason] else []

/-- A catalogue code in none of the 3DES, meta and TLS 1.3-only tables: it makes the
pending 3DES suites count. -/
def isSweet32Follower (ci : UInt16) : Bool :=
  match cat.allCipherSuites ci with
  | some s => !decide (s ∈ sweet32CipherSuites) && !cat.metaCipherSuites ci && !cat.tls13Suites ci
  | none => false

/-- The 3DES name an offered code pushes onto the pending list. -/
def sweet32NameAt (ci : UInt16) : List String :=
  match cat.allCipherSuites ci with
  | some s => if s ∈ sweet32CipherSuites then [s] else []
  | none => []

def offersEphemeral (ci : UInt16) : Bool :=
  match cat.allCipherSuites ci with
  | some s => stringsContains s "DHE_"
  | none => false

def isUnknownCode (ci : UInt16) : Bool :=
  (cat.allCipherSuites ci).isNone && (weirdNSSSuites ci).isNone

/-- A catalogue CBC suite offered on a connection at TLS 1.0 or below. -/
def armsBeast (ci : UInt16) : Bool :=
  (cat.allCipherSuites ci).isSome && cat.cbcSuites ci && decide (st.version ≤ versionTLS10)

/-- The 3DES positions named `k` that have a follower later in the list. -/
def sweet32Count (k : String) : List UInt16 → Nat
  | [] => 0
  | ci :: L =>
    (if cat.allCipherSuites ci = some k ∧ k ∈ sweet32CipherSuites ∧ L.any (isSweet32Follower cat)
      then 1 else 0) + sweet32Count k L

/-- Position `i` of `L` holds a 3DES code named `k` with a follower later in the list. -/
def IsSweet32Position (k : String) (L : List UInt16) (i : Fin L.length) : Prop :=
  cat.allCipherSuites L[i] = some k ∧ k ∈ sweet32CipherSuites ∧
    ∃ j : Fin L.length, i < j ∧ isSweet32Follower cat L[j] = true

instance (k : String) (L : List UInt16) : DecidablePred (IsSweet32Position cat k L) :=
  fun _ => inferInstanceAs (Decidable (_ ∧ _))

theorem sprintf_unknownCipherSuite (ci : UInt16) :
    "An unknown cipher suite: " ++ sprintfSharpZeroHex 4 ci.toNat = unknownCipherSuiteName ci := by
  rw [sprintfSharpZeroHex_four _ ci.toNat_lt_size]
  rfl

theorem mem_brokenReasonsOf {s r : String} (h : r ∈ brokenReasonsOf s) :
    r = fewBitReason ∨ r = nullReason ∨ r = nullAuthReason ∨ r = rc4Reason := by
  simp only [brokenReasonsOf, List.mem_append, List.mem_ite_nil_right, List.mem_singleton] at h
  rcases h with ((⟨_, rfl⟩ | ⟨_, rfl⟩) | ⟨_, rfl⟩) | ⟨_, rfl⟩ <;> simp

theorem brokenReasonsAt_ne_sweet32 {k : String} {ci : UInt16} {r : String}
    (h : r ∈ brokenReasonsAt cat k ci) : r ≠ sweet32Reason := by
  simp only [brokenReasonsAt] at h
  split_ifs at h
  · rcases mem_brokenReasonsOf h with rfl | rfl | rfl | rfl <;> simp
  · simp only [List.mem_singleton] at h
    simp [h]
  · simp at h

end Contributions

section Step

variable (cat : Catalogue) (st : ConnectionState) (d : SuiteScan) (ci : UInt16)

private theorem index_ite_appendAt (c : Prop) [Decidable c] (m : StringListMap) (s r k : String) :
    (if c then m.appendAt s r else m).index k = m.index k ++ if c ∧ k = s then [r] else [] := by
  by_cases hc : c <;> by_cases hk : k = s <;> simp [hc, hk, StringListMap.index_appendAt]

theorem scanCipherSuite_supportedCipherSuites :
    (scanCipherSuite cat st d ci).supportedCipherSuites =
      d.supportedCipherSuites ++ [displayName cat ci] := by
  unfold scanCipherSuite displayName
  split
  · rename_i s h
    simp only [apply_ite SuiteScan.supportedCipherSuites, ite_self, h]
  · rename_i h
    split
    · rename_i hw
      simp only [h, hw, sprintf_unknownCipherSuite]
    · rename_i w hw
      simp only [h, hw]

theorem scanCipherSuite_weakCipherSuites (k : String) :
    (scanCipherSuite cat st d ci).weakCipherSuites.index k =
      d.weakCipherSuites.index k ++ weakReasonsAt cat k ci := by
  unfold scanCipherSuite weakReasonsAt
  split
  · rename_i s hs
    simp only [apply_ite SuiteScan.weakCipherSuites, ite_self, index_ite_appendAt, weakReasonsOf,
      hs, Option.some.injEq]
    by_cases hk : k = s
    · subst hk
      simp
    · simp [hk, Ne.symm hk]
  · rename_i hs
    split <;> simp [hs]

theorem scanCipherSuite_brokenCipherSuites (k : String) :
    (scanCipherSuite cat st d ci).brokenCipherSuites.index k =
      d.brokenCipherSuites.index k ++ brokenReasonsAt cat k ci ++
        if isSweet32Follower cat ci then List.replicate (d.sweet32Seen.count k) sweet32Reason
        else [] := by
  unfold scanCipherSuite brokenReasonsAt isSweet32Follower
  split
  · rename_i s h
    simp only [apply_ite SuiteScan.brokenCipherSuites, ite_self, apply_ite SuiteScan.sweet32Seen,
      h, Option.some.injEq, reduceCtorEq, false_and, if_false]
    by_cases hs : s ∈ sweet32CipherSuites
    · rw [if_pos hs]
      simp only [index_ite_appendAt, brokenReasonsOf]
      by_cases hk : k = s
      · subst hk
        simp [hs]
      · simp [hk, hs, Ne.symm hk]
    by_cases hc : d.sweet32Seen.length ≠ 0 ∧ cat.metaCipherSuites ci = false ∧
        cat.tls13Suites ci = false
    · rw [if_neg hs, if_pos hc]
      simp only [index_ite_appendAt, StringListMap.index_foldl_appendAt, brokenReasonsOf]
      by_cases hk : k = s
      · subst hk
        simp [hs, hc.2]
      · simp [hk, hs, hc.2, Ne.symm hk]
    · have hnil : cat.metaCipherSuites ci = false → cat.tls13Suites ci = false →
          d.sweet32Seen.count k = 0 := by
        intro hm ht
        have hl : d.sweet32Seen = [] :=
          List.length_eq_zero.mp (by by_contra hl; exact hc ⟨hl, hm, ht⟩)
        simp [hl]
      rw [if_neg hs, if_neg hc]
      simp only [index_ite_appendAt, brokenReasonsOf]
      by_cases hm : cat.metaCipherSuites ci = false <;> by_cases ht : cat.tls13Suites ci = false
      · rw [hnil hm ht]
        by_cases hk : k = s
        · subst hk
          simp [hs]
        · simp [hk, hs, Ne.symm hk]
      all_goals
        by_cases hk : k = s
        · subst hk
          simp [hs, hm, ht]
        · simp [hk, hs, hm, ht, Ne.symm hk]
  · rename_i h
    split
    · rename_i hw
      simp [h, hw]
    · rename_i w hw
      by_cases hk : k = w
      · subst hk
        simp [h, hw]
      · simp [h, hw, hk, Ne.symm hk, StringListMap.index_appendAt_of_ne _ _ hk]

theorem scanCipherSuite_sweet32Seen :
    (scanCipherSuite cat st d ci).sweet32Seen =
      if isSweet32Follower cat ci then [] else d.sweet32Seen ++ sweet32NameAt cat ci := by
  unfold scanCipherSuite isSweet32Follower sweet32NameAt
  split
  · rename_i s h
    simp only [apply_ite SuiteScan.sweet32Seen, ite_self, h]
    by_cases hs : s ∈ sweet32CipherSuites
    · simp [hs]
    · by_cases hm : cat.metaCipherSuites ci = false <;> by_cases ht : cat.tls13Suites ci = false
      · by_cases hl : d.sweet32Seen = []
        · simp [hs, hm, ht, hl]
        · simp [hs, hm, ht, hl]
      all_goals simp [hs, hm, ht]
  · rename_i h
    split <;> simp [h]

theorem scanCipherSuite_ephemeralKeysSupported :
    (scanCipherSuite cat st d ci).ephemeralKeysSupported =
      (d.ephemeralKeysSupported || offersEphemeral cat ci) := by
  unfold scanCipherSuite offersEphemeral
  split
  · rename_i s h
    simp only [apply_ite SuiteScan.ephemeralKeysSupported, ite_self, h]
    by_cases hs : stringsContains s "DHE_" <;> simp [hs]
  · rename_i h
    split <;> simp [h]

theorem scanCipherSuite_unknownCipherSuiteSupported :
    (scanCipherSuite cat st d ci).unknownCipherSuiteSupported =
      (d.unknownCipherSuiteSupported || isUnknownCode cat ci) := by
  unfold scanCipherSuite isUnknownCode
  split
  · rename_i s h
    simp only [apply_ite SuiteScan.unknownCipherSuiteSupported, ite_self, h]
    simp
  · rename_i h
    split <;> simp_all

theorem scanCipherSuite_beastVuln :
    (scanCipherSuite cat st d ci).beastVuln =
      if armsBeast cat st ci then !st.nMinusOneRecordSplittingDetected else d.beastVuln := by
  unfold scanCipherSuite armsBeast
  split
  · rename_i s h
    simp only [apply_ite SuiteScan.beastVuln, ite_self, h]
    by_cases hc : cat.cbcSuites ci = true ∧ st.version ≤ versionTLS10 <;> simp_all
  · rename_i h
    split <;> simp [h]

theorem scanCipherSuite_ableToDetectNMinusOneSplitting :
    (scanCipherSuite cat st d ci).ableToDetectNMinusOneSplitting =
      if armsBeast cat st ci then st.ableToDetectNMinusOneSplitting
      else d.ableToDetectNMinusOneSplitting := by
  unfold scanCipherSuite armsBeast
  split
  · rename_i s h
    simp only [apply_ite SuiteScan.ableToDetectNMinusOneSplitting, ite_self, h]
    by_cases hc : cat.cbcSuites ci = true ∧ st.version ≤ versionTLS10 <;> simp_all
  · rename_i h
    split <;> simp [h]

/-- A property of both branches holds of the `if`. -/
private theorem ite_scan_pres {P : SuiteScan → Prop} {c : Prop} [Decidable c] {a b : SuiteScan}
    (ha : P a) (hb : P b) : P (if c then a else b) := by
  split
  · exact ha
  · exact hb

/-- Every iteration keeps both maps free of empty slices: each step of the body
appends to one map, or leaves both alone. -/
theorem scanCipherSuite_noEmptyValues (hw : d.weakCipherSuites.NoEmptyValues)
    (hb : d.brokenCipherSuites.NoEmptyValues) :
    (scanCipherSuite cat st d ci).weakCipherSuites.NoEmptyValues ∧
      (scanCipherSuite cat st d ci).brokenCipherSuites.NoEmptyValues := by
  unfold scanCipherSuite
  split
  · lift_lets
    intro d1 d2 d3 d4 d5 d6 d7 d8 d9
    let P (e : SuiteScan) := e.weakCipherSuites.NoEmptyValues ∧ e.brokenCipherSuites.NoEmptyValues
    have h1 : P d1 := ite_scan_pres ⟨hw, hb⟩ ⟨hw, hb⟩
    have h2 : P d2 := ite_scan_pres ⟨h1.1.appendAt _ _, h1.2⟩ h1
    have h3 : P d3 := ite_scan_pres ⟨h2.1.appendAt _ _, h2.2⟩ h2
    have h4 : P d4 := ite_scan_pres h3 h3
    have h5 : P d5 := ite_scan_pres ⟨h4.1, h4.2.appendAt _ _⟩ h4
    have h6 : P d6 := ite_scan_pres ⟨h5.1, h5.2.appendAt _ _⟩ h5
    have h7 : P d7 := ite_scan_pres ⟨h6.1, h6.2.appendAt _ _⟩ h6
    have h8 : P d8 := ite_scan_pres ⟨h7.1, h7.2.appendAt _ _⟩ h7
    have h9 : P d9 := ite_scan_pres h8 (ite_scan_pres ⟨h8.1, h8.2.foldl_appendAt _ _⟩ h8)
    exact h9
  · split
    · exact ⟨hw, hb⟩
    · exact ⟨hw, hb.appendAt _ _⟩

end Step

section Run

variable (cat : Catalogue) (st : ConnectionState)

theorem scanCipherSuites_supportedCipherSuites :
    (scanCipherSuites cat st).supportedCipherSuites = st.clientCipherSuites.map (displayName cat) := by
  rw [scanCipherSuites, foldl_field_append _ _ (fun ci => [displayName cat ci])
    (scanCipherSuite_supportedCipherSuites cat st), List.map_eq_flatMap]
  rfl

theorem scanCipherSuites_weakCipherSuites (k : String) :
    (scanCipherSuites cat st).weakCipherSuites.index k =
      st.clientCipherSuites.flatMap (weakReasonsAt cat k) := by
  rw [scanCipherSuites, foldl_field_append _ (fun d => d.weakCipherSuites.index k) _
    (fun d ci => scanCipherSuite_weakCipherSuites cat st d ci k)]
  rfl

/-- The broken-suite reasons other than Sweet32 are the per-position ones, in order. -/
theorem scanCipherSuites_brokenCipherSuites_filter (k : String) :
    ((scanCipherSuites cat st).brokenCipherSuites.index k).filter (· != sweet32Reason) =
      st.clientCipherSuites.flatMap (brokenReasonsAt cat k) := by
  have step (d : SuiteScan) (ci : UInt16) :
      ((scanCipherSuite cat st d ci).brokenCipherSuites.index k).filter (· != sweet32Reason) =
        (d.brokenCipherSuites.index k).filter (· != sweet32Reason) ++ brokenReasonsAt cat k ci := by
    have hf : (brokenReasonsAt cat k ci).filter (· != sweet32Reason) = brokenReasonsAt cat k ci :=
      List.filter_eq_self.mpr fun r hr => bne_iff_ne.mpr (brokenReasonsAt_ne_sweet32 cat hr)
    rw [scanCipherSuite_brokenCipherSuites, List.filter_append, List.filter_append, hf]
    split <;> simp
  exact foldl_field_append (scanCipherSuite cat st)
    (fun d : SuiteScan => (d.brokenCipherSuites.index k).filter (· != sweet32Reason)) _ step _ _

theorem isSweet32Follower_not_sweet32 {ci : UInt16} {k : String}
    (h : isSweet32Follower cat ci = true) (hk : cat.allCipherSuites ci = some k) :
    k ∉ sweet32CipherSuites := by
  simp only [isSweet32Follower, hk, Bool.and_eq_true, Bool.not_eq_true', decide_eq_false_iff_not] at h
  exact h.1.1

theorem count_sweet32NameAt (ci : UInt16) (k : String) :
    (sweet32NameAt cat ci).count k =
      if cat.allCipherSuites ci = some k ∧ k ∈ sweet32CipherSuites then 1 else 0 := by
  unfold sweet32NameAt
  split
  · rename_i s hs
    simp only [hs, Option.some.injEq]
    by_cases hks : s = k
    · subst hks
      by_cases hk : s ∈ sweet32CipherSuites <;> simp [hk]
    · by_cases h : s ∈ sweet32CipherSuites <;> simp [h, hks, Ne.symm hks]
  · rename_i hs
    simp [hs]

/-- The Sweet32 count of a name, from any point of the loop: what is already there,
the pending copies of the name if a follower is still to come, and the 3DES
positions of the rest that have a follower. -/
theorem foldl_scanCipherSuite_count_sweet32 (k : String) (L : List UInt16) (d : SuiteScan) :
    ((L.foldl (scanCipherSuite cat st) d).brokenCipherSuites.index k).count sweet32Reason =
      (d.brokenCipherSuites.index k).count sweet32Reason +
        (if L.any (isSweet32Follower cat) then d.sweet32Seen.count k else 0) +
        sweet32Count cat k L := by
  induction L generalizing d with
  | nil => simp [sweet32Count]
  | cons ci L ih =>
    have hbr : (brokenReasonsAt cat k ci).count sweet32Reason = 0 :=
      List.count_eq_zero.mpr fun hr => brokenReasonsAt_ne_sweet32 cat hr rfl
    rw [List.foldl_cons, ih, scanCipherSuite_brokenCipherSuites, scanCipherSuite_sweet32Seen,
      List.count_append, List.count_append, hbr, sweet32Count, List.any_cons]
    by_cases hf : isSweet32Follower cat ci
    · have hnot : ¬(cat.allCipherSuites ci = some k ∧ k ∈ sweet32CipherSuites ∧
          L.any (isSweet32Follower cat) = true) := fun ⟨hk, hs, _⟩ =>
        isSweet32Follower_not_sweet32 cat hf hk hs
      simp only [hf, if_true, List.count_replicate_self, List.count_nil, Bool.true_or, if_neg hnot,
        ite_self]
      omega
    · simp only [Bool.not_eq_true] at hf
      simp only [hf, Bool.false_eq_true, ↓reduceIte, Bool.false_or, List.count_append,
        count_sweet32NameAt, List.count_nil]
      by_cases hL : L.any (isSweet32Follower cat) = true
      · by_cases hc : cat.allCipherSuites ci = some k ∧ k ∈ sweet32CipherSuites
        · simp only [hL, hc, if_true, and_self]
          omega
        · simp only [hL, hc, if_true, if_false, and_true]
          omega
      · simp [hL]

theorem scanCipherSuites_count_sweet32 (k : String) :
    ((scanCipherSuites cat st).brokenCipherSuites.index k).count sweet32Reason =
      sweet32Count cat k st.clientCipherSuites := by
  rw [scanCipherSuites, foldl_scanCipherSuite_count_sweet32]
  simp [SuiteScan.init]

theorem scanCipherSuites_noEmptyValues :
    (scanCipherSuites cat st).weakCipherSuites.NoEmptyValues ∧
      (scanCipherSuites cat st).brokenCipherSuites.NoEmptyValues := by
  suffices ∀ (L : List UInt16) (d : SuiteScan), d.weakCipherSuites.NoEmptyValues →
      d.brokenCipherSuites.NoEmptyValues →
      (L.foldl (scanCipherSuite cat st) d).weakCipherSuites.NoEmptyValues ∧
        (L.foldl (scanCipherSuite cat st) d).brokenCipherSuites.NoEmptyValues from
    this _ _ StringListMap.noEmptyValues_empty StringListMap.noEmptyValues_empty
  intro L
  induction L with
  | nil => exact fun d hw hb => ⟨hw, hb⟩
  | cons ci L ih =>
    intro d hw hb
    have := scanCipherSuite_noEmptyValues cat st d ci hw hb
    exact ih _ this.1 this.2

theorem scanCipherSuites_ephemeralKeysSupported :
    (scanCipherSuites cat st).ephemeralKeysSupported =
      st.clientCipherSuites.any (offersEphemeral cat) := by
  rw [scanCipherSuites, foldl_field_or _ _ _ (scanCipherSuite_ephemeralKeysSupported cat st)]
  rfl

theorem scanCipherSuites_unknownCipherSuiteSupported :
    (scanCipherSuites cat st).unknownCipherSuiteSupported =
      st.clientCipherSuites.any (isUnknownCode cat) := by
  rw [scanCipherSuites, foldl_field_or _ _ _ (scanCipherSuite_unknownCipherSuiteSupported cat st)]
  rfl

theorem scanCipherSuites_beastVuln :
    (scanCipherSuites cat st).beastVuln =
      if st.clientCipherSuites.any (armsBeast cat st) then !st.nMinusOneRecordSplittingDetected
      else false := by
  rw [scanCipherSuites, foldl_field_set _ _ _ _ (scanCipherSuite_beastVuln cat st)]
  rfl

theorem scanCipherSuites_ableToDetectNMinusOneSplitting :
    (scanCipherSuites cat st).ableToDetectNMinusOneSplitting =
      if st.clientCipherSuites.any (armsBeast cat st) then st.ableToDetectNMinusOneSplitting
      else false := by
  rw [scanCipherSuites, foldl_field_set _ _ _ _
    (scanCipherSuite_ableToDetectNMinusOneSplitting cat st)]
  rfl

end Run

section Counting

variable (cat : Catalogue)

theorem count_flatMap_eq_countP {r : String} {g : UInt16 → List String} {p : UInt16 → Bool}
    (h : ∀ ci, (g ci).count r = if p ci then 1 else 0) (L : List UInt16) :
    (L.flatMap g).count r = L.countP p := by
  induction L with
  | nil => rfl
  | cons ci L ih =>
    rw [List.flatMap_cons, List.count_append, ih, h, List.countP_cons]
    omega

private theorem count_ite_singleton (c : Prop) [Decidable c] (x r : String) :
    (if c then [x] else []).count r = if c ∧ x = r then 1 else 0 := by
  by_cases hc : c <;> by_cases hx : x = r <;> simp [hc, hx, List.count_singleton]

theorem count_brokenReasonsOf (s r : String) :
    (brokenReasonsOf s).count r =
      (if s ∈ fewBitCipherSuites ∧ fewBitReason = r then 1 else 0) +
        (if s ∈ nullCipherSuites ∧ nullReason = r then 1 else 0) +
        (if s ∈ nullAuthCipherSuites ∧ nullAuthReason = r then 1 else 0) +
        (if s ∈ rc4CipherSuites ∧ rc4Reason = r then 1 else 0) := by
  simp only [brokenReasonsOf, List.count_append, count_ite_singleton]

theorem count_weakReasonsAt_cbc (k : String) (ci : UInt16) :
    (weakReasonsAt cat k ci).count cbcReason =
      if cat.allCipherSuites ci = some k ∧ stringsContains k "_CBC" then 1 else 0 := by
  unfold weakReasonsAt weakReasonsOf
  by_cases h : cat.allCipherSuites ci = some k <;>
    simp [h, List.count_append, count_ite_singleton, Ne.symm cbcReason_ne_noEphemeralReason]

theorem count_weakReasonsAt_noEphemeral (k : String) (ci : UInt16) :
    (weakReasonsAt cat k ci).count noEphemeralReason =
      if cat.allCipherSuites ci = some k ∧ stringsContains k "TLS_RSA_WITH" then 1 else 0 := by
  unfold weakReasonsAt weakReasonsOf
  by_cases h : cat.allCipherSuites ci = some k <;>
    simp [h, List.count_append, count_ite_singleton, cbcReason_ne_noEphemeralReason]

/-- The broken-suite reasons drawn from one of the four name tables, counted at
one position: the table `t` with reason `r`. -/
theorem count_brokenReasonsAt (k : String) (ci : UInt16) :
    (brokenReasonsAt cat k ci).count fewBitReason =
        (if (cat.allCipherSuites ci = none ∧ weirdNSSSuites ci = some k) ∨
          (cat.allCipherSuites ci = some k ∧ k ∈ fewBitCipherSuites) then 1 else 0) ∧
      (brokenReasonsAt cat k ci).count nullReason =
        (if cat.allCipherSuites ci = some k ∧ k ∈ nullCipherSuites then 1 else 0) ∧
      (brokenReasonsAt cat k ci).count nullAuthReason =
        (if cat.allCipherSuites ci = some k ∧ k ∈ nullAuthCipherSuites then 1 else 0) ∧
      (brokenReasonsAt cat k ci).count rc4Reason =
        (if cat.allCipherSuites ci = some k ∧ k ∈ rc4CipherSuites then 1 else 0) := by
  unfold brokenReasonsAt
  by_cases h : cat.allCipherSuites ci = some k
  · simp [h, count_brokenReasonsOf, Ne.symm fewBitReason_ne_nullReason,
      Ne.symm fewBitReason_ne_nullAuthReason, Ne.symm fewBitReason_ne_rc4Reason,
      Ne.symm nullReason_ne_nullAuthReason, Ne.symm nullReason_ne_rc4Reason,
      Ne.symm nullAuthReason_ne_rc4Reason]
  · by_cases hw : cat.allCipherSuites ci = none ∧ weirdNSSSuites ci = some k <;>
      simp [h, hw, List.count_singleton, fewBitReason_ne_nullReason,
        fewBitReason_ne_nullAuthReason, fewBitReason_ne_rc4Reason]

theorem mem_weakReasonsAt {k r : String} {ci : UInt16} (h : r ∈ weakReasonsAt cat k ci) :
    r = cbcReason ∨ r = noEphemeralReason := by
  simp only [weakReasonsAt, weakReasonsOf] at h
  split_ifs at h <;> simp_all

theorem mem_brokenReasonsAt {k r : String} {ci : UInt16} (h : r ∈ brokenReasonsAt cat k ci) :
    r = fewBitReason ∨ r = nullReason ∨ r = nullAuthReason ∨ r = rc4Reason := by
  simp only [brokenReasonsAt] at h
  split_ifs at h
  · exact mem_brokenReasonsOf h
  · exact Or.inl (List.mem_singleton.mp h)
  · simp at h

/-- A position whose code attaches anything under `k` lists `k` as its name. -/
theorem displayName_of_weakReasonsAt {k : String} {ci : UInt16} (h : weakReasonsAt cat k ci ≠ []) :
    displayName cat ci = k := by
  unfold weakReasonsAt at h
  split_ifs at h with hk
  · simp [displayName, hk]
  · exact absurd rfl h

theorem displayName_of_brokenReasonsAt {k : String} {ci : UInt16}
    (h : brokenReasonsAt cat k ci ≠ []) : displayName cat ci = k := by
  unfold brokenReasonsAt at h
  split_ifs at h with hk hw
  · simp [displayName, hk]
  · simp [displayName, hw.1, hw.2]
  · exact absurd rfl h

theorem displayName_of_sweet32Count {k : String} {L : List UInt16} (h : sweet32Count cat k L ≠ 0) :
    ∃ ci ∈ L, displayName cat ci = k := by
  induction L with
  | nil => exact absurd rfl h
  | cons ci L ih =>
    unfold sweet32Count at h
    by_cases hc : cat.allCipherSuites ci = some k ∧ k ∈ sweet32CipherSuites ∧
        L.any (isSweet32Follower cat) = true
    · exact ⟨ci, List.mem_cons_self _ _, by simp [displayName, hc.1]⟩
    · simp only [hc, if_false, Nat.zero_add] at h
      obtain ⟨c, hc, hn⟩ := ih h
      exact ⟨c, List.mem_cons_of_mem _ hc, hn⟩

theorem isSweet32Position_zero (k : String) (ci : UInt16) (L : List UInt16) :
    IsSweet32Position cat k (ci :: L) (0 : Fin (L.length + 1)) ↔
      cat.allCipherSuites ci = some k ∧ k ∈ sweet32CipherSuites ∧ L.any (isSweet32Follower cat) := by
  simp [IsSweet32Position, @Fin.exists_fin_succ L.length, List.any_eq_true,
    List.exists_mem_iff_getElem, Fin.exists_iff]

theorem isSweet32Position_succ (k : String) (ci : UInt16) (L : List UInt16) (i : Fin L.length) :
    IsSweet32Position cat k (ci :: L) i.succ ↔ IsSweet32Position cat k L i := by
  simp [IsSweet32Position, @Fin.exists_fin_succ L.length, Fin.succ_lt_succ_iff]

/-- `sweet32Count` counts the positions that `IsSweet32Position` describes. -/
theorem sweet32Count_eq_card (k : String) (L : List UInt16) :
    sweet32Count cat k L = (Finset.univ.filter (IsSweet32Position cat k L)).card := by
  induction L with
  | nil => simp [sweet32Count]
  | cons ci L ih =>
    refine Eq.trans ?_
      (@Fin.card_filter_univ_succ' L.length (IsSweet32Position cat k (ci :: L)) _).symm
    rw [sweet32Count, ih]
    simp only [isSweet32Position_zero, isSweet32Position_succ]

theorem sweet32Count_of_not_mem {k : String} (hk : k ∉ sweet32CipherSuites) (L : List UInt16) :
    sweet32Count cat k L = 0 := by
  induction L with
  | nil => rfl
  | cons ci L ih => simp [sweet32Count, hk, ih]

/-- Offering more codes, anywhere in the list, never removes a Sweet32 position. -/
theorem sweet32Count_le_of_sublist (k : String) {L L' : List UInt16} (h : L.Sublist L') :
    sweet32Count cat k L ≤ sweet32Count cat k L' := by
  induction h with
  | slnil => exact le_rfl
  | cons ci _ ih =>
    rw [sweet32Count]
    omega
  | @cons₂ l₁ l₂ ci hs ih =>
    have hany : l₁.any (isSweet32Follower cat) = true → l₂.any (isSweet32Follower cat) = true :=
      fun hx => let ⟨x, hx, hf⟩ := List.any_eq_true.mp hx; List.any_eq_true.mpr ⟨x, hs.subset hx, hf⟩
    rw [sweet32Count, sweet32Count]
    split_ifs with h1 h2 <;> first | omega | exact absurd ⟨h1.1, h1.2.1, hany h1.2.2⟩ h2

end Counting

section Report

variable (cat : Catalogue)

theorem unknownCipherSuiteName_injective {a b : UInt16}
    (h : unknownCipherSuiteName a = unknownCipherSuiteName b) : a = b := by
  have hd := congrArg String.data h
  simp only [unknownCipherSuiteName, String.data_append, List.append_cancel_left_eq] at hd
  exact UInt16.toNat.inj (hexDigits4_injective a.toNat_lt_size b.toNat_lt_size hd)

/-- The report lists one name per offered code, in the client's order: the
catalogue name, else the NSS name, else "An unknown cipher suite: 0x" and four
lowercase hex digits, distinct for distinct codes; the unknown-suite flag is
set exactly when that last case occurs. -/
theorem pullClientInfo_supportedCipherSuites (st : ConnectionState)
    (h : st.handshakeComplete = true) :
    ∃ d, pullClientInfo cat st = .ok d ∧
      d.supportedCipherSuites = st.clientCipherSuites.map (displayName cat) ∧
      (d.unknownCipherSuiteSupported = true ↔
        ∃ ci ∈ st.clientCipherSuites, cat.allCipherSuites ci = none ∧ weirdNSSSuites ci = none) ∧
      ∀ a b : UInt16, unknownCipherSuiteName a = unknownCipherSuiteName b → a = b :=
  ⟨_, pullClientInfo_of_handshakeComplete cat st h, scanCipherSuites_supportedCipherSuites cat st,
    by simp [collectClientInfo, scanCipherSuites_unknownCipherSuiteSupported, isUnknownCode],
    fun _ _ => unknownCipherSuiteName_injective⟩

theorem pullClientInfo_supportedCipherSuites_sample :
    sampleState.handshakeComplete = true ∧
      ∃ d, pullClientInfo sampleCatalogue sampleState = .ok d ∧
        d.supportedCipherSuites = ["An unknown cipher suite: 0xfafa", "TLS_RSA_WITH_3DES_EDE_CBC_SHA",
          "TLS_RSA_WITH_AES_128_CBC_SHA", "TLS_ECDHE_RSA_WITH_AES_128_GCM_SHA256"] ∧
        d.unknownCipherSuiteSupported = true :=
  let ⟨d, hd, hs, hu, _⟩ := pullClientInfo_supportedCipherSuites sampleCatalogue sampleState rfl
  ⟨rfl, d, hd, hs.trans (by decide), hu.mpr ⟨0xfafa, by decide, rfl, rfl⟩⟩

/-- A reason other than Sweet32 occurs in the broken map as often as the positions attach it. -/
theorem scanCipherSuites_count_brokenCipherSuites (st : ConnectionState) {r : String}
    (hr : r ≠ sweet32Reason) (k : String) :
    ((scanCipherSuites cat st).brokenCipherSuites.index k).count r =
      (st.clientCipherSuites.flatMap (brokenReasonsAt cat k)).count r := by
  rw [← scanCipherSuites_brokenCipherSuites_filter]
  exact (@List.count_filter _ _ _ (· != sweet32Reason) r _ (bne_iff_ne.mpr hr)).symm

theorem scanCipherSuites_mem_weak (st : ConnectionState) {k : String}
    (hk : k ∈ (scanCipherSuites cat st).weakCipherSuites) :
    k ∈ (scanCipherSuites cat st).supportedCipherSuites := by
  have hne := (scanCipherSuites_noEmptyValues cat st).1.index_ne_nil hk
  rw [scanCipherSuites_weakCipherSuites] at hne
  obtain ⟨r, hr⟩ := List.exists_mem_of_ne_nil _ hne
  obtain ⟨ci, hci, hr⟩ := List.mem_flatMap.mp hr
  rw [scanCipherSuites_supportedCipherSuites]
  exact List.mem_map.mpr ⟨ci, hci, displayName_of_weakReasonsAt cat (List.ne_nil_of_mem hr)⟩

/-- A reason in the broken map other than Sweet32 comes from the tables of one position. -/
theorem scanCipherSuites_mem_brokenReasonsAt (st : ConnectionState) {k r : String}
    (hr : r ∈ (scanCipherSuites cat st).brokenCipherSuites.index k) (hs : r ≠ sweet32Reason) :
    ∃ ci ∈ st.clientCipherSuites, r ∈ brokenReasonsAt cat k ci := by
  have hf : r ∈ ((scanCipherSuites cat st).brokenCipherSuites.index k).filter (· != sweet32Reason) :=
    List.mem_filter.mpr ⟨hr, bne_iff_ne.mpr hs⟩
  rw [scanCipherSuites_brokenCipherSuites_filter] at hf
  exact List.mem_flatMap.mp hf

theorem scanCipherSuites_mem_broken (st : ConnectionState) {k : String}
    (hk : k ∈ (scanCipherSuites cat st).brokenCipherSuites) :
    k ∈ (scanCipherSuites cat st).supportedCipherSuites := by
  have hne := (scanCipherSuites_noEmptyValues cat st).2.index_ne_nil hk
  obtain ⟨r, hr⟩ := List.exists_mem_of_ne_nil _ hne
  rw [scanCipherSuites_supportedCipherSuites, List.mem_map]
  by_cases hs : r = sweet32Reason
  · subst hs
    have hc := List.count_pos_iff.mpr hr
    rw [scanCipherSuites_count_sweet32] at hc
    exact displayName_of_sweet32Count cat (Nat.pos_iff_ne_zero.mp hc)
  · obtain ⟨ci, hci, hr⟩ := scanCipherSuites_mem_brokenReasonsAt cat st hr hs
    exact ⟨ci, hci, displayName_of_brokenReasonsAt cat (List.ne_nil_of_mem hr)⟩

/-- Under every suite name the weak map holds one `cbcReason` per position of that
name containing "_CBC" and one `noEphemeralReason` per position containing
"TLS_RSA_WITH", and nothing else. Sweet32 aside, the broken map holds one reason
per position and table: `fewBitReason` for the NSS codes outside the catalogue and
the few-bit names, and the null, anonymous and RC4 reasons for their tables, and
nothing else. No key holds an empty slice, and every key is a listed suite. -/
theorem pullClientInfo_reason_maps (st : ConnectionState) (h : st.handshakeComplete = true)
    (s : String) :
    ∃ d, pullClientInfo cat st = .ok d ∧
      (d.weakCipherSuites.index s).count cbcReason =
        st.clientCipherSuites.countP
          (fun ci => cat.allCipherSuites ci = some s ∧ stringsContains s "_CBC") ∧
      (d.weakCipherSuites.index s).count noEphemeralReason =
        st.clientCipherSuites.countP
          (fun ci => cat.allCipherSuites ci = some s ∧ stringsContains s "TLS_RSA_WITH") ∧
      (∀ r ∈ d.weakCipherSuites.index s, r = cbcReason ∨ r = noEphemeralReason) ∧
      (d.brokenCipherSuites.index s).count fewBitReason =
        st.clientCipherSuites.countP (fun ci =>
          (cat.allCipherSuites ci = none ∧ weirdNSSSuites ci = some s) ∨
            (cat.allCipherSuites ci = some s ∧ s ∈ fewBitCipherSuites)) ∧
      (d.brokenCipherSuites.index s).count nullReason =
        st.clientCipherSuites.countP
          (fun ci => cat.allCipherSuites ci = some s ∧ s ∈ nullCipherSuites) ∧
      (d.brokenCipherSuites.index s).count nullAuthReason =
        st.clientCipherSuites.countP
          (fun ci => cat.allCipherSuites ci = some s ∧ s ∈ nullAuthCipherSuites) ∧
      (d.brokenCipherSuites.index s).count rc4Reason =
        st.clientCipherSuites.countP
          (fun ci => cat.allCipherSuites ci = some s ∧ s ∈ rc4CipherSuites) ∧
      (∀ r ∈ d.brokenCipherSuites.index s, r = sweet32Reason ∨ r = fewBitReason ∨
        r = nullReason ∨ r = nullAuthReason ∨ r = rc4Reason) ∧
      d.weakCipherSuites.NoEmptyValues ∧ d.brokenCipherSuites.NoEmptyValues ∧
      (∀ k ∈ d.weakCipherSuites, k ∈ d.supportedCipherSuites) ∧
      (∀ k ∈ d.brokenCipherSuites, k ∈ d.supportedCipherSuites) := by
  refine ⟨_, pullClientInfo_of_handshakeComplete cat st h, ?_, ?_, ?_, ?_, ?_, ?_, ?_, ?_,
    (scanCipherSuites_noEmptyValues cat st).1, (scanCipherSuites_noEmptyValues cat st).2,
    fun k hk => scanCipherSuites_mem_weak cat st hk, fun k hk => scanCipherSuites_mem_broken cat st hk⟩
  · show ((scanCipherSuites cat st).weakCipherSuites.index s).count cbcReason = _
    rw [scanCipherSuites_weakCipherSuites]
    exact count_flatMap_eq_countP (fun ci => by simp [count_weakReasonsAt_cbc]) _
  · show ((scanCipherSuites cat st).weakCipherSuites.index s).count noEphemeralReason = _
    rw [scanCipherSuites_weakCipherSuites]
    exact count_flatMap_eq_countP (fun ci => by simp [count_weakReasonsAt_noEphemeral]) _
  · show ∀ r ∈ (scanCipherSuites cat st).weakCipherSuites.index s, _
    rw [scanCipherSuites_weakCipherSuites]
    intro r hr
    obtain ⟨ci, _, hr⟩ := List.mem_flatMap.mp hr
    exact mem_weakReasonsAt cat hr
  · show ((scanCipherSuites cat st).brokenCipherSuites.index s).count fewBitReason = _
    rw [scanCipherSuites_count_brokenCipherSuites cat st fewBitReason_ne_sweet32Reason]
    exact count_flatMap_eq_countP (fun ci => by simp [(count_brokenReasonsAt cat s ci).1]) _
  · show ((scanCipherSuites cat st).brokenCipherSuites.index s).count nullReason = _
    rw [scanCipherSuites_count_brokenCipherSuites cat st nullReason_ne_sweet32Reason]
    exact count_flatMap_eq_countP (fun ci => by simp [(count_brokenReasonsAt cat s ci).2.1]) _
  · show ((scanCipherSuites cat st).brokenCipherSuites.index s).count nullAuthReason = _
    rw [scanCipherSuites_count_brokenCipherSuites cat st nullAuthReason_ne_sweet32Reason]
    exact count_flatMap_eq_countP (fun ci => by simp [(count_brokenReasonsAt cat s ci).2.2.1]) _
  · show ((scanCipherSuites cat st).brokenCipherSuites.index s).count rc4Reason = _
    rw [scanCipherSuites_count_brokenCipherSuites cat st rc4Reason_ne_sweet32Reason]
    exact count_flatMap_eq_countP (fun ci => by simp [(count_brokenReasonsAt cat s ci).2.2.2]) _
  · show ∀ r ∈ (scanCipherSuites cat st).brokenCipherSuites.index s, _
    intro r hr
    by_cases hs : r = sweet32Reason
    · exact .inl hs
    · obtain ⟨ci, -, hr⟩ := scanCipherSuites_mem_brokenReasonsAt cat st hr hs
      exact .inr (mem_brokenReasonsAt cat hr)

theorem pullClientInfo_reason_maps_sample :
    sampleState.handshakeComplete = true ∧
      ∃ d, pullClientInfo sampleCatalogue sampleState = .ok d ∧
        (d.weakCipherSuites.index "TLS_RSA_WITH_AES_128_CBC_SHA").count cbcReason = 1 ∧
        (d.weakCipherSuites.index "TLS_RSA_WITH_AES_128_CBC_SHA").count noEphemeralReason = 1 :=
  let ⟨d, hd, hc, hr, _⟩ :=
    pullClientInfo_reason_maps sampleCatalogue sampleState rfl "TLS_RSA_WITH_AES_128_CBC_SHA"
  ⟨rfl, d, hd, hc.trans (by decide), hr.trans (by decide)⟩

/-- An NSS code that the catalogue lists is classified by its catalogue name: the
position holds a `weirdNSSSuites` code, yet no `fewBitReason` is attached. -/
theorem pullClientInfo_fips_fewBitReason :
    ∃ d, pullClientInfo sampleCatalogue fipsState = .ok d ∧
      (d.brokenCipherSuites.index "SSL_RSA_FIPS_WITH_DES_CBC_SHA").count fewBitReason = 0 ∧
      fipsState.clientCipherSuites.countP (fun ci =>
        weirdNSSSuites ci = some "SSL_RSA_FIPS_WITH_DES_CBC_SHA" ∨
          (sampleCatalogue.allCipherSuites ci = some "SSL_RSA_FIPS_WITH_DES_CBC_SHA" ∧
            "SSL_RSA_FIPS_WITH_DES_CBC_SHA" ∈ fewBitCipherSuites)) = 1 :=
  ⟨_, rfl, by decide, by decide⟩

/-- Under every suite name, `sweet32Reason` occurs once per 3DES position of that
name that has a follower later in the list, and never under a name outside the
3DES table. -/
theorem pullClientInfo_sweet32Reason_count (st : ConnectionState)
    (h : st.handshakeComplete = true) (s : String) :
    ∃ d, pullClientInfo cat st = .ok d ∧
      (d.brokenCipherSuites.index s).count sweet32Reason =
        (Finset.univ.filter (IsSweet32Position cat s st.clientCipherSuites)).card ∧
      (s ∉ sweet32CipherSuites → sweet32Reason ∉ d.brokenCipherSuites.index s) := by
  refine ⟨_, pullClientInfo_of_handshakeComplete cat st h, ?_, fun hs => ?_⟩
  · exact (scanCipherSuites_count_sweet32 cat st s).trans (sweet32Count_eq_card cat s _)
  · refine List.count_eq_zero.mp ?_
    exact (scanCipherSuites_count_sweet32 cat st s).trans (sweet32Count_of_not_mem cat hs _)

theorem pullClientInfo_sweet32Reason_count_sample :
    sampleState.handshakeComplete = true ∧
      ∃ d, pullClientInfo sampleCatalogue sampleState = .ok d ∧
        (d.brokenCipherSuites.index "TLS_RSA_WITH_3DES_EDE_CBC_SHA").count sweet32Reason = 1 :=
  let ⟨d, hd, hc, _⟩ :=
    pullClientInfo_sweet32Reason_count sampleCatalogue sampleState rfl "TLS_RSA_WITH_3DES_EDE_CBC_SHA"
  ⟨rfl, d, hd, hc.trans (by decide)⟩

end Report

end CheckTlsSupport
