import CheckTlsSupport.ClientInfo.Basic

/-!
# The reported version

`pullClientInfo` starts from the negotiated version and walks the client's
supported_versions list, moving to an entry when `actualSupportedVersions` has a
name for it and it is higher than the version held. `upgradeVersion_eq` says once
what an iteration does; `foldl_upgradeVersion` lifts it to the walk, which ends at
the maximum of the start and of the recognised entries, carrying that version's
table name.

So the report sees the list only through the set of its recognised entries
(`reportedVersion_eq_of_recognised`), and the version the rating tests is the one
whose name is reported.
-/

namespace CheckTlsSupport

open Tls110

/-- The entries of a supported_versions list that `actualSupportedVersions` names. -/
def recognisedVersions (V : List UInt16) : List UInt16 :=
  V.filter fun v => (actualSupportedVersions.lookup v).isSome

/-- `m` is the largest of the negotiated version `n` and the recognised entries of `V`. -/
def IsMaxVersion (n : UInt16) (V : List UInt16) (m : UInt16) : Prop :=
  m ∈ n :: recognisedVersions V ∧ ∀ v ∈ n :: recognisedVersions V, v ≤ m

instance (n : UInt16) (V : List UInt16) (m : UInt16) : Decidable (IsMaxVersion n V m) :=
  inferInstanceAs (Decidable (_ ∧ _))

private theorem mem_of_lookup_eq_some {l : List (UInt16 × String)} {v : UInt16} {s : String}
    (h : l.lookup v = some s) : (v, s) ∈ l := by
  induction l with
  | nil => cases h
  | cons p l ih =>
    rw [List.lookup_cons] at h
    split at h
    · rename_i hk
      cases h
      simp [beq_iff_eq.mp hk]
    · exact List.mem_cons_of_mem _ (ih h)

/-- Every name in `actualSupportedVersions` is non-empty, so `""` marks a missing key. -/
theorem lookup_actualSupportedVersions_ne_empty {v : UInt16} {s : String}
    (h : actualSupportedVersions.lookup v = some s) : s ≠ "" := by
  have hall : ∀ p ∈ actualSupportedVersions, p.2 ≠ "" := by decide
  exact hall _ (mem_of_lookup_eq_some h)

theorem upgradeVersion_eq (acc : UInt16 × String) (v : UInt16) :
    upgradeVersion acc v =
      if (actualSupportedVersions.lookup v).isSome ∧ acc.1 < v
      then (v, (actualSupportedVersions.lookup v).getD "") else acc := by
  unfold upgradeVersion
  split <;> rename_i h <;> simp [h]

theorem upgradeVersion_name {acc : UInt16 × String}
    (h : acc.2 = (actualSupportedVersions.lookup acc.1).getD "") (v : UInt16) :
    (upgradeVersion acc v).2 = (actualSupportedVersions.lookup (upgradeVersion acc v).1).getD "" := by
  rw [upgradeVersion_eq]
  split_ifs
  · rfl
  · exact h

/-- One iteration, read backwards: the maximum over the rest from the updated
version is the maximum over the whole list from the version held. -/
theorem isMaxVersion_cons {acc : UInt16 × String} {v : UInt16} {V : List UInt16} {m : UInt16}
    (h : IsMaxVersion (upgradeVersion acc v).1 V m) : IsMaxVersion acc.1 (v :: V) m := by
  unfold IsMaxVersion recognisedVersions at *
  rw [upgradeVersion_eq] at h
  rw [List.filter_cons]
  by_cases hk : (actualSupportedVersions.lookup v).isSome = true
  · by_cases hv : acc.1 < v
    · simp only [hk, hv, and_self, if_true, List.mem_cons, forall_eq_or_imp] at h ⊢
      exact ⟨.inr h.1, UInt16.le_trans (UInt16.not_lt.mp (UInt16.lt_asymm hv)) h.2.1, h.2⟩
    · simp only [hk, hv, and_false, if_true, if_false, List.mem_cons, forall_eq_or_imp] at h ⊢
      exact ⟨h.1.imp_right .inr, h.2.1, UInt16.le_trans (UInt16.not_lt.mp hv) h.2.1, h.2.2⟩
  · simp only [hk, false_and, if_false, Bool.false_eq_true] at h ⊢
    exact h

/-- The walk from a version and its name ends at the maximum of that version and the
recognised entries, carrying its name. -/
theorem foldl_upgradeVersion (V : List UInt16) {acc : UInt16 × String}
    (h : acc.2 = (actualSupportedVersions.lookup acc.1).getD "") :
    IsMaxVersion acc.1 V (V.foldl upgradeVersion acc).1 ∧
      (V.foldl upgradeVersion acc).2 =
        (actualSupportedVersions.lookup (V.foldl upgradeVersion acc).1).getD "" := by
  induction V generalizing acc with
  | nil => exact ⟨⟨List.mem_singleton_self _, by simp [recognisedVersions, UInt16.le_refl]⟩, h⟩
  | cons v V ih =>
    obtain ⟨hmax, hname⟩ := ih (upgradeVersion_name h v)
    exact ⟨isMaxVersion_cons hmax, hname⟩

theorem reportedVersion_spec (st : ConnectionState) :
    IsMaxVersion st.version st.supportedVersions (reportedVersion st).1 ∧
      (reportedVersion st).2 = (actualSupportedVersions.lookup (reportedVersion st).1).getD "" :=
  foldl_upgradeVersion _ rfl

/-- The maximum depends on the list only through its set of recognised entries. -/
theorem IsMaxVersion.unique {n m m' : UInt16} {V V' : List UInt16}
    (hV : ∀ v, v ∈ recognisedVersions V ↔ v ∈ recognisedVersions V')
    (h : IsMaxVersion n V m) (h' : IsMaxVersion n V' m') : m = m' := by
  have hmem : ∀ w, w ∈ n :: recognisedVersions V ↔ w ∈ n :: recognisedVersions V' := by
    simp [hV]
  exact UInt16.toNat.inj (Nat.le_antisymm (h'.2 m ((hmem m).mp h.1)) (h.2 m' ((hmem m').mpr h'.1)))

/-- A maximum without a name is the negotiated version: every recognised entry has one. -/
theorem IsMaxVersion.eq_of_lookup_none {n m : UInt16} {V : List UInt16}
    (h : IsMaxVersion n V m) (hm : actualSupportedVersions.lookup m = none) : m = n := by
  rcases List.mem_cons.mp h.1 with h1 | h1
  · exact h1
  · simp [recognisedVersions, hm] at h1

theorem reportedVersion_eq_of_recognised {st : ConnectionState} {V : List UInt16}
    (hV : ∀ v, v ∈ recognisedVersions V ↔ v ∈ recognisedVersions st.supportedVersions) :
    reportedVersion { st with supportedVersions := V } = reportedVersion st := by
  obtain ⟨h1, n1⟩ := reportedVersion_spec { st with supportedVersions := V }
  obtain ⟨h2, n2⟩ := reportedVersion_spec st
  have hm := h1.unique hV h2
  exact Prod.ext hm (by rw [n1, n2, hm])

/-- The empty name is replaced by the unknown-version text, which is then what a
missing key reads as. -/
theorem tlsVersion_text (m : UInt16) :
    (if (actualSupportedVersions.lookup m).getD "" = "" then "an unknown version of SSL/TLS"
      else (actualSupportedVersions.lookup m).getD "") =
      (actualSupportedVersions.lookup m).getD "an unknown version of SSL/TLS" := by
  cases hm : actualSupportedVersions.lookup m with
  | none => rfl
  | some s => simp [lookup_actualSupportedVersions_ne_empty hm]

section Report

variable (cat : Catalogue)

theorem collectClientInfo_of_reportedVersion {st : ConnectionState} {V : List UInt16}
    (h : reportedVersion { st with supportedVersions := V } = reportedVersion st) :
    collectClientInfo cat { st with supportedVersions := V } = collectClientInfo cat st := by
  unfold collectClientInfo
  rw [h]
  rfl

/-- The report names the largest of the negotiated version and the recognised
supported_versions entries, or the unknown-version text when that is the
negotiated version and the table has no name for it; the rating tests the same
version; and the report sees the list only through its recognised entries. -/
theorem pullClientInfo_tlsVersion (st : ConnectionState) (h : st.handshakeComplete = true) :
    ∃ d m, pullClientInfo cat st = .ok d ∧
      m ∈ st.version :: recognisedVersions st.supportedVersions ∧
      (∀ v ∈ st.version :: recognisedVersions st.supportedVersions, v ≤ m) ∧
      d.tlsVersion = (actualSupportedVersions.lookup m).getD "an unknown version of SSL/TLS" ∧
      (actualSupportedVersions.lookup m = none → m = st.version) ∧
      (d.rating, d.ratingScore) =
        rateClientInfo d.ephemeralKeysSupported d.sessionTicketsSupported
          d.tlsCompressionSupported d.unknownCipherSuiteSupported d.beastVuln
          d.brokenCipherSuites.len m ∧
      ∀ V : List UInt16,
        (∀ v, v ∈ recognisedVersions V ↔ v ∈ recognisedVersions st.supportedVersions) →
          pullClientInfo cat { st with supportedVersions := V } = .ok d := by
  obtain ⟨hmax, hname⟩ := reportedVersion_spec st
  refine ⟨_, _, pullClientInfo_of_handshakeComplete cat st h, hmax.1, hmax.2, ?_,
    hmax.eq_of_lookup_none, rfl, fun V hV => ?_⟩
  · show (if (reportedVersion st).2 = "" then _ else _) = _
    rw [hname, tlsVersion_text]
  · exact (pullClientInfo_of_handshakeComplete cat { st with supportedVersions := V } h).trans
      (congrArg Except.ok
        (@collectClientInfo_of_reportedVersion cat st V (reportedVersion_eq_of_recognised hV)))

theorem pullClientInfo_tlsVersion_sample :
    sampleState.handshakeComplete = true ∧
      ∃ d, pullClientInfo sampleCatalogue sampleState = .ok d ∧ d.tlsVersion = "TLS 1.3" := by
  obtain ⟨d, m, hd, hm, hle, ht, _⟩ := pullClientInfo_tlsVersion sampleCatalogue sampleState rfl
  have hrec : recognisedVersions sampleState.supportedVersions = [versionTLS13, versionTLS12] := by
    decide
  rw [hrec] at hm hle
  have h13 : m = versionTLS13 := by
    rcases List.mem_cons.mp hm with rfl | hm
    · exact absurd (hle versionTLS13 (by simp)) (by decide)
    · rcases List.mem_cons.mp hm with rfl | hm
      · rfl
      · rcases List.mem_singleton.mp hm with rfl
        exact absurd (hle versionTLS13 (by simp)) (by decide)
  exact ⟨rfl, d, hd, by rw [ht, h13]; rfl⟩

end Report

end CheckTlsSupport
