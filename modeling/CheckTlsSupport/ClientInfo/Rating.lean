import CheckTlsSupport.ClientInfo.Suites
import CheckTlsSupport.ClientInfo.Version

/-!
# The rating

`rateClientInfo` starts at `good`, drops to `improvable` on three findings and to
`bad` on five, the second test overriding the first. The first section reads the
two tests off; the second turns each finding the `bad` test reads into a property
of what the client offered: a non-null compression method, an unknown code, a
broken suite (a Sweet32 position, an NSS code outside the catalogue, or a
catalogue suite in one of the four broken tables), a BEAST-armed CBC suite
without splitting, or a reported version at or below TLS 1.1.

An NSS code counts as broken only when the catalogue does not list it: the
catalogue is consulted first.
-/

namespace CheckTlsSupport

open Tls110 Go

/-- The order of the ratings, `bad` lowest. -/
def Rating.rank : Rating → Nat
  | .bad => 0
  | .improvable => 1
  | .good => 2

section Rate

variable (e t c u b : Bool) (n : Nat) (v : UInt16)

theorem rateClientInfo_eq_bad_iff :
    rateClientInfo e t c u b n v = (.bad, 0) ↔
      c = true ∨ u = true ∨ b = true ∨ n ≠ 0 ∨ v ≤ versionTLS11 := by
  unfold rateClientInfo
  split_ifs <;> simp_all [badScore, improvableScore, goodScore]

theorem rateClientInfo_eq_good_iff :
    rateClientInfo e t c u b n v = (.good, 10) ↔
      ¬(c = true ∨ u = true ∨ b = true ∨ n ≠ 0 ∨ v ≤ versionTLS11) ∧
        e = true ∧ v ≠ versionTLS12 ∧ t = true := by
  unfold rateClientInfo
  split_ifs with himp <;> simp_all [badScore, improvableScore, goodScore]
  rcases himp with h | h | h <;> simp [h]

end Rate

section Findings

variable (cat : Catalogue) (st : ConnectionState)

theorem scanCompressionMethods_eq_true_iff (cms : List UInt8) :
    scanCompressionMethods cms = true ↔ ∃ cm ∈ cms, cm ≠ 0 := by
  induction cms with
  | nil => simp [scanCompressionMethods]
  | cons cm cms ih => by_cases h : cm = 0 <;> simp [scanCompressionMethods, h, ih]

theorem scanCipherSuites_unknown_iff :
    (scanCipherSuites cat st).unknownCipherSuiteSupported = true ↔
      ∃ ci ∈ st.clientCipherSuites, cat.allCipherSuites ci = none ∧ weirdNSSSuites ci = none := by
  simp [scanCipherSuites_unknownCipherSuiteSupported, isUnknownCode]

theorem scanCipherSuites_beastVuln_iff :
    (scanCipherSuites cat st).beastVuln = true ↔
      st.version ≤ versionTLS10 ∧
        (∃ ci ∈ st.clientCipherSuites, (cat.allCipherSuites ci).isSome ∧ cat.cbcSuites ci = true) ∧
        st.nMinusOneRecordSplittingDetected = false := by
  rw [scanCipherSuites_beastVuln]
  by_cases hv : st.version ≤ versionTLS10 <;>
    simp [List.any_eq_true, armsBeast, hv, apply_ite (· = true)]

/-- A list is non-empty exactly when it holds `a` or something other than `a`. -/
private theorem ne_nil_iff_count_or_filter (l : List String) (a : String) :
    l ≠ [] ↔ l.count a ≠ 0 ∨ l.filter (· != a) ≠ [] := by
  refine ⟨fun hl => ?_, ?_⟩
  · by_contra hc
    push_neg at hc
    obtain ⟨x, hx⟩ := List.exists_mem_of_ne_nil l hl
    have hxa : x = a := by simpa using List.filter_eq_nil_iff.mp hc.2 x hx
    exact List.count_eq_zero.mp hc.1 (hxa ▸ hx)
  · rintro (h | h) rfl <;> simp at h

theorem scanCipherSuites_brokenCipherSuites_ne_nil (k : String) :
    (scanCipherSuites cat st).brokenCipherSuites.index k ≠ [] ↔
      sweet32Count cat k st.clientCipherSuites ≠ 0 ∨
        ∃ ci ∈ st.clientCipherSuites, brokenReasonsAt cat k ci ≠ [] := by
  rw [ne_nil_iff_count_or_filter _ sweet32Reason, scanCipherSuites_count_sweet32,
    scanCipherSuites_brokenCipherSuites_filter]
  simp only [Ne, List.flatMap_eq_nil_iff, not_forall, exists_prop]

theorem sweet32Count_ne_zero_iff (k : String) (L : List UInt16) :
    sweet32Count cat k L ≠ 0 ↔ ∃ i, IsSweet32Position cat k L i := by
  rw [sweet32Count_eq_card, Finset.card_ne_zero, Finset.filter_nonempty_iff]
  simp

theorem exists_brokenReasonsAt_ne_nil (ci : UInt16) :
    (∃ k, brokenReasonsAt cat k ci ≠ []) ↔
      (cat.allCipherSuites ci = none ∧ (weirdNSSSuites ci).isSome) ∨
        ∃ s, cat.allCipherSuites ci = some s ∧ (s ∈ fewBitCipherSuites ∨ s ∈ nullCipherSuites ∨
          s ∈ nullAuthCipherSuites ∨ s ∈ rc4CipherSuites) := by
  cases h : cat.allCipherSuites ci with
  | none => simp [brokenReasonsAt, h, Option.isSome_iff_exists]
  | some s =>
    simp only [brokenReasonsAt, brokenReasonsOf, h]
    simp
    tauto

theorem scanCipherSuites_brokenCipherSuites_len_ne_zero :
    (scanCipherSuites cat st).brokenCipherSuites.len ≠ 0 ↔
      (∃ ci ∈ st.clientCipherSuites,
        (cat.allCipherSuites ci = none ∧ (weirdNSSSuites ci).isSome) ∨
          ∃ s, cat.allCipherSuites ci = some s ∧ (s ∈ fewBitCipherSuites ∨
            s ∈ nullCipherSuites ∨ s ∈ nullAuthCipherSuites ∨ s ∈ rc4CipherSuites)) ∨
        ∃ s i, IsSweet32Position cat s st.clientCipherSuites i := by
  rw [StringListMap.len_ne_zero_iff (scanCipherSuites_noEmptyValues cat st).2]
  simp only [scanCipherSuites_brokenCipherSuites_ne_nil, sweet32Count_ne_zero_iff, exists_or,
    ← exists_brokenReasonsAt_ne_nil]
  rw [or_comm]
  exact or_congr_left
    ⟨fun ⟨k, ci, hci, h⟩ => ⟨ci, hci, k, h⟩, fun ⟨ci, hci, k, h⟩ => ⟨k, ci, hci, h⟩⟩

theorem reportedVersion_le_iff (w : UInt16) :
    (reportedVersion st).1 ≤ w ↔ ∃ m, IsMaxVersion st.version st.supportedVersions m ∧ m ≤ w :=
  ⟨fun h => ⟨_, (reportedVersion_spec st).1, h⟩,
    fun ⟨_, hm, h⟩ => ((reportedVersion_spec st).1.unique (fun _ => Iff.rfl) hm) ▸ h⟩

theorem reportedVersion_gt_iff (w : UInt16) :
    w < (reportedVersion st).1 ↔ ∃ m, IsMaxVersion st.version st.supportedVersions m ∧ w < m :=
  ⟨fun h => ⟨_, (reportedVersion_spec st).1, h⟩,
    fun ⟨_, hm, h⟩ => ((reportedVersion_spec st).1.unique (fun _ => Iff.rfl) hm) ▸ h⟩

theorem offersEphemeral_eq_true_iff (ci : UInt16) :
    offersEphemeral cat ci = true ↔
      ∃ s, cat.allCipherSuites ci = some s ∧ stringsContains s "DHE_" = true := by
  unfold offersEphemeral
  cases cat.allCipherSuites ci <;> simp

/-- Above TLS 1.2 is neither at most TLS 1.1 nor TLS 1.2 itself. -/
private theorem versionTLS12_lt_iff (v : UInt16) :
    versionTLS12 < v ↔ ¬v ≤ versionTLS11 ∧ v ≠ versionTLS12 := by
  have hne : v ≠ versionTLS12 ↔ v.toNat ≠ 771 :=
    not_congr ⟨congrArg UInt16.toNat, fun h => UInt16.toNat.inj h⟩
  rw [hne]
  show 771 < v.toNat ↔ ¬v.toNat ≤ 770 ∧ _
  omega

end Findings

section Report

variable (cat : Catalogue)

/-- The code tests BEAST before the broken suites; the statement lists it after. -/
private theorem or_reorder {a u b r s v : Prop} :
    a ∨ u ∨ b ∨ (r ∨ s) ∨ v ↔ a ∨ u ∨ r ∨ s ∨ b ∨ v := by
  tauto

/-- The report is rated `bad` with score 0 exactly when the client offered a
non-null compression method, an unknown code, a broken suite (an NSS code the
catalogue does not list, a catalogue suite in one of the four broken tables, or
a 3DES suite with a follower), a catalogue CBC suite on a connection at TLS 1.0
or below without record splitting, or when the reported version is at most
TLS 1.1. -/
theorem pullClientInfo_rating_bad_iff (st : ConnectionState) (h : st.handshakeComplete = true) :
    ∃ d, pullClientInfo cat st = .ok d ∧
      ((d.rating, d.ratingScore) = (Rating.bad, 0) ↔
        (∃ cm ∈ st.compressionMethods, cm ≠ 0) ∨
        (∃ ci ∈ st.clientCipherSuites,
          cat.allCipherSuites ci = none ∧ weirdNSSSuites ci = none) ∨
        (∃ ci ∈ st.clientCipherSuites,
          (cat.allCipherSuites ci = none ∧ (weirdNSSSuites ci).isSome) ∨
            ∃ s, cat.allCipherSuites ci = some s ∧ (s ∈ fewBitCipherSuites ∨
              s ∈ nullCipherSuites ∨ s ∈ nullAuthCipherSuites ∨ s ∈ rc4CipherSuites)) ∨
        (∃ s i, IsSweet32Position cat s st.clientCipherSuites i) ∨
        (st.version ≤ versionTLS10 ∧
          (∃ ci ∈ st.clientCipherSuites,
            (cat.allCipherSuites ci).isSome ∧ cat.cbcSuites ci = true) ∧
          st.nMinusOneRecordSplittingDetected = false) ∨
        ∃ m, IsMaxVersion st.version st.supportedVersions m ∧ m ≤ versionTLS11) := by
  refine ⟨_, pullClientInfo_of_handshakeComplete cat st h, ?_⟩
  show rateClientInfo _ _ _ _ _ _ _ = _ ↔ _
  rw [rateClientInfo_eq_bad_iff, scanCompressionMethods_eq_true_iff, scanCipherSuites_unknown_iff,
    scanCipherSuites_beastVuln_iff, scanCipherSuites_brokenCipherSuites_len_ne_zero,
    reportedVersion_le_iff]
  exact or_reorder

theorem pullClientInfo_rating_bad_iff_sample :
    sampleState.handshakeComplete = true ∧
      ∃ d, pullClientInfo sampleCatalogue sampleState = .ok d ∧ d.rating = .bad :=
  let ⟨d, hd, hbad⟩ := pullClientInfo_rating_bad_iff sampleCatalogue sampleState rfl
  ⟨rfl, d, hd, congrArg Prod.fst (hbad.mpr (.inr (.inl ⟨0xfafa, by decide, rfl, rfl⟩)))⟩

/-- An NSS code that the catalogue lists does not make the report `bad`: at the
sample catalogue, which lists `0xFEFE` as the spec's catalogue does, offering it
alone at TLS 1.2 gives `improvable`. -/
theorem pullClientInfo_fips_rating :
    ∃ d, pullClientInfo sampleCatalogue fipsState = .ok d ∧
      fipsState.version = versionTLS12 ∧ 0xfefe ∈ fipsState.clientCipherSuites ∧
      (weirdNSSSuites 0xfefe).isSome ∧ (d.rating, d.ratingScore) ≠ (Rating.bad, 0) :=
  ⟨_, rfl, rfl, by decide, rfl, by decide⟩

/-- Offering more suites, anywhere in the list, or more compression methods never
lifts a `bad` rating. -/
theorem pullClientInfo_bad_of_sublist (st : ConnectionState) (h : st.handshakeComplete = true)
    {L : List UInt16} (hL : st.clientCipherSuites.Sublist L) {cms : List UInt8}
    (hc : ∀ cm ∈ st.compressionMethods, cm ∈ cms) :
    ∃ d d', pullClientInfo cat st = .ok d ∧
      pullClientInfo cat { st with clientCipherSuites := L, compressionMethods := cms } = .ok d' ∧
      ((d.rating, d.ratingScore) = (Rating.bad, 0) → (d'.rating, d'.ratingScore) = (Rating.bad, 0)) := by
  refine ⟨_, _, pullClientInfo_of_handshakeComplete cat st h,
    pullClientInfo_of_handshakeComplete cat _ h, ?_⟩
  show rateClientInfo _ _ _ _ _ _ _ = _ → rateClientInfo _ _ _ _ _ _ _ = _
  rw [rateClientInfo_eq_bad_iff, rateClientInfo_eq_bad_iff]
  rintro (hcm | hu | hb | hn | hv)
  · obtain ⟨cm, hm, h0⟩ := (scanCompressionMethods_eq_true_iff _).mp hcm
    exact .inl ((scanCompressionMethods_eq_true_iff _).mpr ⟨cm, hc cm hm, h0⟩)
  · obtain ⟨ci, hci, hu⟩ := (scanCipherSuites_unknown_iff cat st).mp hu
    exact .inr (.inl ((scanCipherSuites_unknown_iff cat _).mpr ⟨ci, hL.subset hci, hu⟩))
  · obtain ⟨hv, ⟨ci, hci, hb⟩, hn⟩ := (scanCipherSuites_beastVuln_iff cat st).mp hb
    exact .inr (.inr (.inl ((scanCipherSuites_beastVuln_iff cat _).mpr
      ⟨hv, ⟨ci, hL.subset hci, hb⟩, hn⟩)))
  · refine .inr (.inr (.inr (.inl ((scanCipherSuites_brokenCipherSuites_len_ne_zero cat _).mpr ?_))))
    rcases (scanCipherSuites_brokenCipherSuites_len_ne_zero cat st).mp hn with
      ⟨ci, hci, hb⟩ | ⟨s, hs⟩
    · exact .inl ⟨ci, hL.subset hci, hb⟩
    · have h0 := (sweet32Count_ne_zero_iff cat s _).mpr hs
      have hle := sweet32Count_le_of_sublist cat s hL
      exact .inr ⟨s, (sweet32Count_ne_zero_iff cat s L).mp (by omega)⟩
  · exact .inr (.inr (.inr (.inr hv)))

/-- The report is rated `excellent` exactly when it is not `bad`, some offered
catalogue suite has ephemeral keys, the client supports session tickets and the
reported version is above TLS 1.2: at TLS 1.2 the best rating is `not bad`. -/
theorem pullClientInfo_rating_good_iff (st : ConnectionState) (h : st.handshakeComplete = true) :
    ∃ d, pullClientInfo cat st = .ok d ∧
      ((d.rating, d.ratingScore) = (Rating.good, 10) ↔
        (d.rating, d.ratingScore) ≠ (Rating.bad, 0) ∧
        (∃ ci ∈ st.clientCipherSuites, ∃ s, cat.allCipherSuites ci = some s ∧
          stringsContains s "DHE_" = true) ∧
        st.sessionTicketsSupported = true ∧
        ∃ m, IsMaxVersion st.version st.supportedVersions m ∧ versionTLS12 < m) := by
  refine ⟨_, pullClientInfo_of_handshakeComplete cat st h, ?_⟩
  show rateClientInfo _ _ _ _ _ _ _ = _ ↔ rateClientInfo _ _ _ _ _ _ _ ≠ _ ∧ _
  rw [Ne, rateClientInfo_eq_bad_iff, rateClientInfo_eq_good_iff,
    scanCipherSuites_ephemeralKeysSupported, List.any_eq_true, ← reportedVersion_gt_iff,
    versionTLS12_lt_iff]
  simp only [offersEphemeral_eq_true_iff]
  constructor
  · rintro ⟨hb, he, hv, ht⟩
    exact ⟨hb, he, ht, fun h => hb (.inr (.inr (.inr (.inr h)))), hv⟩
  · rintro ⟨hb, he, ht, -, hv⟩
    exact ⟨hb, he, hv, ht⟩

/-- The sample connection offering only its ECDHE GCM suite. -/
def modernState : ConnectionState := { sampleState with clientCipherSuites := [0xc02f] }

theorem pullClientInfo_rating_good_iff_modern :
    modernState.handshakeComplete = true ∧
      ∃ d, pullClientInfo sampleCatalogue modernState = .ok d ∧ d.rating = .good :=
  let ⟨d, hd, hgood⟩ := pullClientInfo_rating_good_iff sampleCatalogue modernState rfl
  ⟨rfl, d, hd, congrArg Prod.fst (hgood.mpr
    ⟨by rw [Except.ok.inj (hd.symm.trans (pullClientInfo_of_handshakeComplete _ _ rfl))]; decide,
      ⟨0xc02f, by decide, _, rfl, rfl⟩, rfl, versionTLS13, by decide, by decide⟩)⟩

theorem pullClientInfo_bad_of_sublist_sample :
    sampleState.handshakeComplete = true ∧
      sampleState.clientCipherSuites.Sublist (0xc02f :: sampleState.clientCipherSuites) ∧
      (∀ cm ∈ sampleState.compressionMethods, cm ∈ sampleState.compressionMethods) ∧
      ∃ d', pullClientInfo sampleCatalogue
          { sampleState with
            clientCipherSuites := 0xc02f :: sampleState.clientCipherSuites
            compressionMethods := sampleState.compressionMethods } = .ok d' ∧
        (d'.rating, d'.ratingScore) = (Rating.bad, 0) :=
  let ⟨_, d', hd, hd', himp⟩ := pullClientInfo_bad_of_sublist sampleCatalogue sampleState rfl
    (.cons _ (List.Sublist.refl _)) (fun _ h => h)
  ⟨rfl, .cons _ (List.Sublist.refl _), fun _ h => h, d', hd',
    himp (by rw [Except.ok.inj (hd.symm.trans (pullClientInfo_of_handshakeComplete _ _ rfl))]; rfl)⟩

end Report

end CheckTlsSupport
