import CheckTlsSupport.Tls110.Common

/-!
# Cipher-suite selection in `processClientHello`

The patch rewrites the end of `serverHandshakeState.processClientHello`. A
client at TLS 1.0 or below is never resumed; when it offers one of the three
RSA CBC suites, the first of them the server can use is selected and the BEAST
probe is armed; the stock preference loop runs only when no suite is set by then.
`processClientHelloStock` is the code the patch replaced, from its removed lines.

Both versions call `setCipherSuite` and the stock `checkForResumption`. The
package's table of implemented suites and the ticket decryption are not part of
the patch; they are the section variables `cipherSuites` and `decryptTicket`,
and every result holds for all of them. `setCipherSuite_eq` says once what a
call of `setCipherSuite` can set; the loops are read off it. Of the three
suites, `TLS_RSA_WITH_AES_128_CBC_SHA256` is a TLS 1.2 suite in Go's table and
`setCipherSuite` refuses it below TLS 1.2, so it never arms the probe
(`processClientHello_armed_suite`).
-/

namespace CheckTlsSupport.Tls110

def TLS_FALLBACK_SCSV : UInt16 := 0x5600

def alertInappropriateFallback : UInt8 := 86

/-- The state of a server handshake that suite selection reads and writes; the
four flags are computed before selection, from the client's curves and the
server's certificate. -/
structure ServerHandshakeState where
  clientHello : ClientHelloMsg
  suite : Option CipherSuite
  ellipticOk : Bool
  ecdsaOk : Bool
  rsaDecryptOk : Bool
  rsaSignOk : Bool
  deriving DecidableEq, Repr

/-- `sessionState`, what a session ticket decrypts to. -/
structure SessionState where
  vers : UInt16
  cipherSuite : UInt16
  certificates : List (List UInt8)
  deriving DecidableEq, Repr

/-- The configuration selection reads. `cipherSuites` is `c.config.cipherSuites()`. -/
structure Config where
  cipherSuites : List UInt16
  preferServerCipherSuites : Bool
  clientAuth : ClientAuthType
  sessionTicketsDisabled : Bool
  maxVersion : UInt16
  deriving DecidableEq, Repr

/-- What `processClientHello` leaves behind: the handshake state, the connection's
probe flag, and `(isResume, err)` with the alert sent before an error. -/
structure ClientHelloResult where
  hs : ServerHandshakeState
  ableToDetectNMinusOneSplitting : Bool
  result : Except (UInt8 × String) Bool

/-- The three suites the patch arms the probe on. -/
def isBeastSuite (cs : UInt16) : Prop :=
  cs = TLS_RSA_WITH_AES_128_CBC_SHA ∨ cs = TLS_RSA_WITH_AES_256_CBC_SHA ∨
    cs = TLS_RSA_WITH_AES_128_CBC_SHA256

instance : DecidablePred isBeastSuite := fun _ => inferInstanceAs (Decidable (_ ∨ _))

section Selection

variable (cipherSuites : List CipherSuite) (decryptTicket : List UInt8 → Option SessionState)

/-- The tests `setCipherSuite` makes of the implemented suite `candidate`. -/
def suiteUsable (hs : ServerHandshakeState) (version : UInt16) (candidate : CipherSuite) : Bool :=
  (if candidate.flags &&& suiteECDHE ≠ 0 then
      hs.ellipticOk && if candidate.flags &&& suiteECDSA ≠ 0 then hs.ecdsaOk else hs.rsaSignOk
    else hs.rsaDecryptOk) &&
    !(decide (version < versionTLS12) && decide (candidate.flags &&& suiteTLS12 ≠ 0))

/-- `hs.setCipherSuite(id, supportedCipherSuites, version)`: the suite it sets, if
any; `none` is its `false`. -/
def setCipherSuite (hs : ServerHandshakeState) (id : UInt16) :
    List UInt16 → UInt16 → Option CipherSuite
  | [], _ => none
  | supported :: rest, version =>
    if id = supported then
      match cipherSuites.find? (·.id = id) with
      | none => setCipherSuite hs id rest version
      | some candidate =>
        if suiteUsable hs version candidate then some candidate
        else setCipherSuite hs id rest version
    else setCipherSuite hs id rest version

/-- Modelled from the spec: `checkForResumption` is stock code the patch calls and
does not change, absent from src/; the spec says resumption "follows normal
rules", which are its checks in order: tickets enabled, a ticket that decrypts,
the same version, a suite the client still offers and `setCipherSuite` accepts,
and client certificates as `ClientAuth` asks. It returns its verdict and the
state, whose `suite` the call of `setCipherSuite` has set even when a later
check declines. -/
def checkForResumption (config : Config) (vers : UInt16) (hs : ServerHandshakeState) :
    Bool × ServerHandshakeState :=
  if config.sessionTicketsDisabled then (false, hs) else
  match decryptTicket hs.clientHello.sessionTicket with
  | none => (false, hs)
  | some sessionState =>
    if vers ≠ sessionState.vers then (false, hs)
    else if sessionState.cipherSuite ∉ hs.clientHello.cipherSuites then (false, hs)
    else
      match setCipherSuite cipherSuites hs sessionState.cipherSuite config.cipherSuites
          sessionState.vers with
      | none => (false, hs)
      | some suite =>
        let hs := { hs with suite := some suite }
        let sessionHasClientCerts := sessionState.certificates ≠ []
        let needClientCerts := config.clientAuth = .requireAnyClientCert ∨
          config.clientAuth = .requireAndVerifyClientCert
        if needClientCerts ∧ ¬sessionHasClientCerts then (false, hs)
        else if sessionHasClientCerts ∧ config.clientAuth = .noClientCert then (false, hs)
        else (true, hs)

/-- `preferenceList` and `supportedList`. -/
def preferenceLists (config : Config) (hs : ServerHandshakeState) : List UInt16 × List UInt16 :=
  if config.preferServerCipherSuites then (config.cipherSuites, hs.clientHello.cipherSuites)
  else (hs.clientHello.cipherSuites, config.cipherSuites)

/-- The preference loop: the suite set by the first `id` that `setCipherSuite`
accepts. -/
def selectCipherSuite (hs : ServerHandshakeState) (supportedList : List UInt16)
    (vers : UInt16) : List UInt16 → Option CipherSuite
  | [] => none
  | id :: rest =>
    match setCipherSuite cipherSuites hs id supportedList vers with
    | some s => some s
    | none => selectCipherSuite hs supportedList vers rest

/-- The patch's loop over the client's suites: the suite set by the first of the
three RSA CBC suites that `setCipherSuite` accepts. -/
def beastCipherSuite (config : Config) (hs : ServerHandshakeState) (vers : UInt16) :
    List UInt16 → Option CipherSuite
  | [] => none
  | cs :: rest =>
    if isBeastSuite cs then
      match setCipherSuite cipherSuites hs cs config.cipherSuites vers with
      | some s => some s
      | none => beastCipherSuite config hs vers rest
    else beastCipherSuite config hs vers rest

/-- The end of `processClientHello` after selection, the same in both versions:
no suite is fatal, and so is a fallback signal from a client below the maximum
version. -/
def finishClientHello (config : Config) (hs : ServerHandshakeState) :
    Except (UInt8 × String) Bool :=
  if hs.suite = none then
    .error (alertHandshakeFailure, "tls: no cipher suite supported by both client and server")
  else if TLS_FALLBACK_SCSV ∈ hs.clientHello.cipherSuites ∧ hs.clientHello.vers < config.maxVersion then
    .error (alertInappropriateFallback, "tls: client using inappropriate protocol fallback")
  else .ok false

/-- The preference loop applied to `hs`: `hs.suite` is left as it is when no
`id` is accepted. -/
def runPreferenceLoop (config : Config) (vers : UInt16) (hs : ServerHandshakeState) :
    ServerHandshakeState :=
  match selectCipherSuite cipherSuites hs (preferenceLists config hs).2 vers
      (preferenceLists config hs).1 with
  | some s => { hs with suite := some s }
  | none => hs

/-- The patched code after the resumption check: the probe's loop at TLS 1.0 and
below, then the preference loop if no suite is set. -/
def selectPatched (config : Config) (vers : UInt16) (hs : ServerHandshakeState) :
    ClientHelloResult :=
  let beast := if hs.clientHello.vers ≤ versionTLS10 then
    beastCipherSuite cipherSuites config hs vers hs.clientHello.cipherSuites else none
  let hs := match beast with
    | some s => { hs with suite := some s }
    | none => hs
  let hs := if hs.suite = none then runPreferenceLoop cipherSuites config vers hs else hs
  ⟨hs, beast.isSome, finishClientHello config hs⟩

/-- The stock code after the resumption check: the preference loop. -/
def selectStock (config : Config) (vers : UInt16) (hs : ServerHandshakeState) :
    ClientHelloResult :=
  let hs := runPreferenceLoop cipherSuites config vers hs
  ⟨hs, false, finishClientHello config hs⟩

/-- The patched `processClientHello`, from the resumption check on, on a fresh
connection (`ableToDetectNMinusOneSplitting` false before). -/
def processClientHello (config : Config) (vers : UInt16) (hs : ServerHandshakeState) :
    ClientHelloResult :=
  let checked := if hs.clientHello.vers > versionTLS10 then
    checkForResumption cipherSuites decryptTicket config vers hs else (false, hs)
  if checked.1 then ⟨checked.2, false, .ok true⟩ else selectPatched cipherSuites config vers checked.2

/-- The stock `processClientHello` the patch replaced, from the resumption check on. -/
def processClientHelloStock (config : Config) (vers : UInt16) (hs : ServerHandshakeState) :
    ClientHelloResult :=
  let checked := checkForResumption cipherSuites decryptTicket config vers hs
  if checked.1 then ⟨checked.2, false, .ok true⟩ else selectStock cipherSuites config vers checked.2

end Selection

section Lemmas

variable (cipherSuites : List CipherSuite) (decryptTicket : List UInt8 → Option SessionState)
variable (config : Config) (vers : UInt16) (hs : ServerHandshakeState)

/-- The suite `setCipherSuite` sets for `id` once it finds `id` in its list. -/
def usableSuite (id version : UInt16) : Option CipherSuite :=
  (cipherSuites.find? (·.id = id)).filter (suiteUsable hs version)

/-- `s` is a suite the client offered, in the configured list, that `setCipherSuite`
accepts at `vers`. -/
def SuiteSelected (s : CipherSuite) : Prop :=
  s.id ∈ hs.clientHello.cipherSuites ∧ s.id ∈ config.cipherSuites ∧
    setCipherSuite cipherSuites hs s.id config.cipherSuites vers = some s

/-- `setCipherSuite` reads its list only for whether `id` is in it. -/
theorem setCipherSuite_eq (id : UInt16) (L : List UInt16) (version : UInt16) :
    setCipherSuite cipherSuites hs id L version =
      if id ∈ L then usableSuite cipherSuites hs id version else none := by
  induction L with
  | nil => rfl
  | cons supported rest ih =>
    unfold setCipherSuite
    by_cases h : id = supported
    · subst h
      cases hf : cipherSuites.find? (·.id = id) with
      | none => simp [ih, usableSuite, hf]
      | some c =>
        by_cases hc : suiteUsable hs version c <;> simp [ih, usableSuite, hf, hc, Option.filter]
    · simp [h, ih]

theorem setCipherSuite_some {id : UInt16} {L : List UInt16} {version : UInt16} {s : CipherSuite}
    (h : setCipherSuite cipherSuites hs id L version = some s) :
    s.id = id ∧ id ∈ L ∧ usableSuite cipherSuites hs id version = some s := by
  rw [setCipherSuite_eq] at h
  split_ifs at h with hL
  obtain ⟨hf, -⟩ := Option.filter_eq_some.mp h
  exact ⟨by simpa using List.find?_some hf, hL, h⟩

/-- Below TLS 1.2, `setCipherSuite` never sets a suite the package marks TLS 1.2. -/
theorem setCipherSuite_of_tls12 {id version : UInt16} (L : List UInt16)
    (htab : ∀ s ∈ cipherSuites, s.id = id → s.flags &&& suiteTLS12 ≠ 0)
    (hv : version < versionTLS12) : setCipherSuite cipherSuites hs id L version = none := by
  rw [setCipherSuite_eq]
  split_ifs
  · cases hf : cipherSuites.find? (·.id = id) with
    | none => simp [usableSuite, hf]
    | some s =>
      have hflags := htab s (List.mem_of_find?_eq_some hf) (by simpa using List.find?_some hf)
      simp [usableSuite, hf, Option.filter, suiteUsable, hv, hflags]
  · rfl

/-- Suite selection never reads the suite already set. -/
@[simp] theorem setCipherSuite_with_suite (o : Option CipherSuite) :
    setCipherSuite cipherSuites { hs with suite := o } = setCipherSuite cipherSuites hs := by
  funext id L version
  rw [setCipherSuite_eq, setCipherSuite_eq]
  rfl

theorem selectCipherSuite_eq_findSome (S P : List UInt16) :
    selectCipherSuite cipherSuites hs S vers P =
      P.findSome? (fun id => setCipherSuite cipherSuites hs id S vers) := by
  induction P with
  | nil => rfl
  | cons id rest ih =>
    simp only [selectCipherSuite, List.findSome?_cons, ih]
    cases setCipherSuite cipherSuites hs id S vers <;> rfl

theorem beastCipherSuite_eq_findSome (L : List UInt16) :
    beastCipherSuite cipherSuites config hs vers L =
      L.findSome? (fun cs => if isBeastSuite cs then
        setCipherSuite cipherSuites hs cs config.cipherSuites vers else none) := by
  induction L with
  | nil => rfl
  | cons cs rest ih =>
    by_cases h : isBeastSuite cs
    · simp only [beastCipherSuite, List.findSome?_cons, h, if_true, ih]
      cases setCipherSuite cipherSuites hs cs config.cipherSuites vers <;> rfl
    · simp only [beastCipherSuite, List.findSome?_cons, h, if_false, ih]

@[simp] theorem selectCipherSuite_with_suite (o : Option CipherSuite) (S P : List UInt16) :
    selectCipherSuite cipherSuites { hs with suite := o } S vers P =
      selectCipherSuite cipherSuites hs S vers P := by
  simp only [selectCipherSuite_eq_findSome, setCipherSuite_with_suite]

@[simp] theorem beastCipherSuite_with_suite (o : Option CipherSuite) (L : List UInt16) :
    beastCipherSuite cipherSuites config { hs with suite := o } vers L =
      beastCipherSuite cipherSuites config hs vers L := by
  simp only [beastCipherSuite_eq_findSome, setCipherSuite_with_suite]

@[simp] theorem preferenceLists_with_suite (o : Option CipherSuite) :
    preferenceLists config { hs with suite := o } = preferenceLists config hs := rfl

/-- The preference loop keeps the suite already set only when no `id` is accepted. -/
theorem runPreferenceLoop_with_suite (o : Option CipherSuite) :
    runPreferenceLoop cipherSuites config vers { hs with suite := o } =
      { hs with suite := (selectCipherSuite cipherSuites hs (preferenceLists config hs).2 vers
        (preferenceLists config hs).1).or o } := by
  unfold runPreferenceLoop
  rw [preferenceLists_with_suite, selectCipherSuite_with_suite]
  cases selectCipherSuite cipherSuites hs (preferenceLists config hs).2 vers
    (preferenceLists config hs).1 <;> rfl

theorem selectCipherSuite_selected {s : CipherSuite}
    (h : selectCipherSuite cipherSuites hs (preferenceLists config hs).2 vers
      (preferenceLists config hs).1 = some s) :
    SuiteSelected cipherSuites config vers hs s := by
  rw [selectCipherSuite_eq_findSome] at h
  obtain ⟨id, hid, hset⟩ := List.exists_of_findSome?_eq_some h
  obtain ⟨rfl, hS, hu⟩ := setCipherSuite_some cipherSuites hs hset
  have hmem : s.id ∈ hs.clientHello.cipherSuites ∧ s.id ∈ config.cipherSuites := by
    unfold preferenceLists at hid hS
    split_ifs at hid hS
    · exact ⟨hS, hid⟩
    · exact ⟨hid, hS⟩
  exact ⟨hmem.1, hmem.2, by rw [setCipherSuite_eq, if_pos hmem.2, hu]⟩

theorem beastCipherSuite_selected {s : CipherSuite}
    (h : beastCipherSuite cipherSuites config hs vers hs.clientHello.cipherSuites = some s) :
    SuiteSelected cipherSuites config vers hs s := by
  rw [beastCipherSuite_eq_findSome] at h
  obtain ⟨cs, hcs, hset⟩ := List.exists_of_findSome?_eq_some h
  split_ifs at hset
  obtain ⟨rfl, hS, -⟩ := setCipherSuite_some cipherSuites hs hset
  exact ⟨hcs, hS, hset⟩

/-- `checkForResumption` changes only the suite, to one it has selected. -/
theorem checkForResumption_snd :
    ∃ o, (checkForResumption cipherSuites decryptTicket config vers hs).2 = { hs with suite := o } ∧
      (o = hs.suite ∨ ∃ s, o = some s ∧ SuiteSelected cipherSuites config vers hs s) := by
  have keep : ∃ o, hs = { hs with suite := o } ∧
      (o = hs.suite ∨ ∃ s, o = some s ∧ SuiteSelected cipherSuites config vers hs s) :=
    ⟨hs.suite, rfl, .inl rfl⟩
  unfold checkForResumption
  split
  · exact keep
  split
  · exact keep
  rename_i sessionState _
  split_ifs with hv hc
  · exact keep
  · split
    · exact keep
    rename_i suite hset
    refine ⟨some suite, by dsimp only; split_ifs <;> rfl, .inr ⟨suite, rfl, ?_⟩⟩
    obtain ⟨hid, hS, -⟩ := setCipherSuite_some cipherSuites hs hset
    rw [not_not] at hv
    exact ⟨hid ▸ hc, hid ▸ hS, by rw [hid, hv]; exact hset⟩
  · exact keep

/-- The patched selection from a state whose suite is `o`: the probe's choice,
else `o`, else the preference loop's. -/
theorem selectPatched_hs (o : Option CipherSuite) :
    (selectPatched cipherSuites config vers { hs with suite := o }).hs =
      { hs with suite := ((if hs.clientHello.vers ≤ versionTLS10 then
          beastCipherSuite cipherSuites config hs vers hs.clientHello.cipherSuites else none).or
        (o.or (selectCipherSuite cipherSuites hs (preferenceLists config hs).2 vers
          (preferenceLists config hs).1))) } := by
  unfold selectPatched
  dsimp only
  rw [beastCipherSuite_with_suite]
  generalize (if hs.clientHello.vers ≤ versionTLS10 then
    beastCipherSuite cipherSuites config hs vers hs.clientHello.cipherSuites else none) = b
  cases b with
  | some s => rfl
  | none =>
    cases o with
    | none => simp [runPreferenceLoop_with_suite]
    | some s => rfl

theorem selectPatched_ableToDetect (o : Option CipherSuite) :
    (selectPatched cipherSuites config vers { hs with suite := o }).ableToDetectNMinusOneSplitting =
      (if hs.clientHello.vers ≤ versionTLS10 then
        beastCipherSuite cipherSuites config hs vers hs.clientHello.cipherSuites else none).isSome := by
  simp [selectPatched]

theorem selectPatched_result (h : ServerHandshakeState) :
    (selectPatched cipherSuites config vers h).result =
      finishClientHello config (selectPatched cipherSuites config vers h).hs := rfl

theorem finishClientHello_suite {h : ServerHandshakeState}
    (hok : finishClientHello config h = .ok false) : h.suite ≠ none := by
  unfold finishClientHello at hok
  split_ifs at hok with hn
  exact hn

theorem finishClientHello_ne_resume (h : ServerHandshakeState) :
    finishClientHello config h ≠ .ok true := by
  unfold finishClientHello
  split_ifs <;> simp

theorem processClientHello_of_le (h : hs.clientHello.vers ≤ versionTLS10) :
    processClientHello cipherSuites decryptTicket config vers hs =
      selectPatched cipherSuites config vers hs := by
  simp [processClientHello, UInt16.not_lt.mpr h]

theorem processClientHello_of_gt (h : versionTLS10 < hs.clientHello.vers) :
    processClientHello cipherSuites decryptTicket config vers hs =
      if (checkForResumption cipherSuites decryptTicket config vers hs).1 then
        ⟨(checkForResumption cipherSuites decryptTicket config vers hs).2, false, .ok true⟩
      else selectPatched cipherSuites config vers
        (checkForResumption cipherSuites decryptTicket config vers hs).2 := by
  simp [processClientHello, h]

/-- From a fresh state, the patched code either resumes (above TLS 1.0 only) or
selects from a state whose suite is unset or one `checkForResumption` selected
(again above TLS 1.0 only). -/
theorem processClientHello_cases (hnil : hs.suite = none) :
    (versionTLS10 < hs.clientHello.vers ∧
      (processClientHello cipherSuites decryptTicket config vers hs).result = .ok true ∧
      (processClientHello cipherSuites decryptTicket config vers hs).ableToDetectNMinusOneSplitting =
        false) ∨
    ∃ o, (o = none ∨ versionTLS10 < hs.clientHello.vers ∧
        ∃ s, o = some s ∧ SuiteSelected cipherSuites config vers hs s) ∧
      processClientHello cipherSuites decryptTicket config vers hs =
        selectPatched cipherSuites config vers { hs with suite := o } := by
  by_cases hv : versionTLS10 < hs.clientHello.vers
  · obtain ⟨o, hchk, ho⟩ := checkForResumption_snd cipherSuites decryptTicket config vers hs
    rw [processClientHello_of_gt cipherSuites decryptTicket config vers hs hv]
    split_ifs
    · exact .inl ⟨hv, rfl, rfl⟩
    · refine .inr ⟨o, ?_, by rw [hchk]⟩
      rcases ho with ho | ho
      · exact .inl (ho.trans hnil)
      · exact .inr ⟨hv, ho⟩
  · refine .inr ⟨none, .inl rfl, ?_⟩
    rw [processClientHello_of_le cipherSuites decryptTicket config vers hs (UInt16.not_lt.mp hv),
      ← hnil]

end Lemmas

section Patched

variable (cipherSuites : List CipherSuite) (decryptTicket : List UInt8 → Option SessionState)
variable (config : Config) (vers : UInt16) (hs : ServerHandshakeState)

theorem processClientHello_suite_selected (hnil : hs.suite = none)
    (hok : (processClientHello cipherSuites decryptTicket config vers hs).result = .ok false) :
    ∃ s, (processClientHello cipherSuites decryptTicket config vers hs).hs.suite = some s ∧
      SuiteSelected cipherSuites config vers hs s := by
  rcases processClientHello_cases cipherSuites decryptTicket config vers hs hnil with
    ⟨-, hres, -⟩ | ⟨o, ho, heq⟩
  · rw [hres] at hok
    cases hok
  rw [heq] at hok ⊢
  have hne : (selectPatched cipherSuites config vers { hs with suite := o }).hs.suite ≠ none :=
    finishClientHello_suite config hok
  rw [selectPatched_hs] at hne ⊢
  dsimp only at hne ⊢
  cases hB : (if hs.clientHello.vers ≤ versionTLS10 then
      beastCipherSuite cipherSuites config hs vers hs.clientHello.cipherSuites else none) with
  | some s =>
    refine ⟨s, rfl, ?_⟩
    by_cases hle : hs.clientHello.vers ≤ versionTLS10 <;> simp only [hle, if_true, if_false] at hB
    · exact beastCipherSuite_selected cipherSuites config vers hs hB
    · cases hB
  | none =>
    rw [hB] at hne
    rcases ho with rfl | ⟨-, s, rfl, hsel⟩
    · cases hS : selectCipherSuite cipherSuites hs (preferenceLists config hs).2 vers
          (preferenceLists config hs).1 with
      | none => simp [hS] at hne
      | some s => exact ⟨s, by simp [hS], selectCipherSuite_selected cipherSuites config vers hs hS⟩
    · exact ⟨s, rfl, hsel⟩

theorem processClientHello_ableToDetect (hnil : hs.suite = none) :
    (processClientHello cipherSuites decryptTicket config vers hs).ableToDetectNMinusOneSplitting =
        true ↔
      hs.clientHello.vers ≤ versionTLS10 ∧ ∃ cs ∈ hs.clientHello.cipherSuites, isBeastSuite cs ∧
        (setCipherSuite cipherSuites hs cs config.cipherSuites vers).isSome := by
  rcases processClientHello_cases cipherSuites decryptTicket config vers hs hnil with
    ⟨hv, -, hf⟩ | ⟨o, -, heq⟩
  · simp [hf, UInt16.not_le.mpr hv]
  · rw [heq, selectPatched_ableToDetect, beastCipherSuite_eq_findSome]
    split_ifs with hle
    · simp only [hle, true_and, List.findSome?_isSome_iff]
      refine exists_congr fun cs => and_congr_right fun _ => ?_
      by_cases hb : isBeastSuite cs <;> simp [hb]
    · simp [hle]

theorem processClientHello_beast_first (hnil : hs.suite = none)
    (h : (processClientHello cipherSuites decryptTicket config vers hs).ableToDetectNMinusOneSplitting =
      true) :
    ∃ pre cs post s, hs.clientHello.cipherSuites = pre ++ cs :: post ∧ isBeastSuite cs ∧
      setCipherSuite cipherSuites hs cs config.cipherSuites vers = some s ∧
      (∀ x ∈ pre, isBeastSuite x → setCipherSuite cipherSuites hs x config.cipherSuites vers = none) ∧
      (processClientHello cipherSuites decryptTicket config vers hs).hs.suite = some s := by
  rcases processClientHello_cases cipherSuites decryptTicket config vers hs hnil with
    ⟨-, -, hf⟩ | ⟨o, -, heq⟩
  · rw [hf] at h
    cases h
  rw [heq, selectPatched_ableToDetect] at h
  rw [heq, selectPatched_hs]
  by_cases hle : hs.clientHello.vers ≤ versionTLS10
  · simp only [hle, if_true] at h ⊢
    obtain ⟨s, hB⟩ := Option.isSome_iff_exists.mp h
    have hB' := hB
    rw [beastCipherSuite_eq_findSome, List.findSome?_eq_some_iff] at hB'
    obtain ⟨pre, cs, post, hL, hcs, hpre⟩ := hB'
    split_ifs at hcs with hbeast
    refine ⟨pre, cs, post, s, hL, hbeast, hcs, fun x hx hxb => ?_, by simp [hB]⟩
    simpa [hxb] using hpre x hx
  · simp [hle] at h

/-- On a fresh handshake state: a full handshake selects a suite the client
offered, in the configured list, that `setCipherSuite` accepts at the
connection's version; at TLS 1.0 and below the resumption check is skipped and
selection starts from the state as it came; the probe is armed exactly when one
of the three RSA CBC suites offered is accepted, and then the suite is the first
such one in the client's order. -/
theorem processClientHello_beast_selection (hnil : hs.suite = none) :
    ((processClientHello cipherSuites decryptTicket config vers hs).result = .ok false →
      ∃ s, (processClientHello cipherSuites decryptTicket config vers hs).hs.suite = some s ∧
        s.id ∈ hs.clientHello.cipherSuites ∧ s.id ∈ config.cipherSuites ∧
        setCipherSuite cipherSuites hs s.id config.cipherSuites vers = some s) ∧
    (hs.clientHello.vers ≤ versionTLS10 →
      processClientHello cipherSuites decryptTicket config vers hs =
        selectPatched cipherSuites config vers hs ∧
      (processClientHello cipherSuites decryptTicket config vers hs).result ≠ .ok true) ∧
    ((processClientHello cipherSuites decryptTicket config vers hs).ableToDetectNMinusOneSplitting =
        true ↔
      hs.clientHello.vers ≤ versionTLS10 ∧ ∃ cs ∈ hs.clientHello.cipherSuites, isBeastSuite cs ∧
        (setCipherSuite cipherSuites hs cs config.cipherSuites vers).isSome) ∧
    ((processClientHello cipherSuites decryptTicket config vers hs).ableToDetectNMinusOneSplitting =
        true →
      ∃ pre cs post s, hs.clientHello.cipherSuites = pre ++ cs :: post ∧ isBeastSuite cs ∧
        setCipherSuite cipherSuites hs cs config.cipherSuites vers = some s ∧
        (∀ x ∈ pre, isBeastSuite x → setCipherSuite cipherSuites hs x config.cipherSuites vers = none) ∧
        (processClientHello cipherSuites decryptTicket config vers hs).hs.suite = some s) := by
  refine ⟨processClientHello_suite_selected cipherSuites decryptTicket config vers hs hnil,
    fun h => ⟨processClientHello_of_le cipherSuites decryptTicket config vers hs h, ?_⟩,
    processClientHello_ableToDetect cipherSuites decryptTicket config vers hs hnil,
    processClientHello_beast_first cipherSuites decryptTicket config vers hs hnil⟩
  rw [processClientHello_of_le cipherSuites decryptTicket config vers hs h, selectPatched_result]
  exact finishClientHello_ne_resume config _

/-- Two implemented RSA CBC suites, both decryption-only. -/
def rsaCbcSuites : List CipherSuite :=
  [⟨TLS_RSA_WITH_AES_128_CBC_SHA, 0⟩, ⟨TLS_RSA_WITH_AES_256_CBC_SHA, 0⟩]

/-- A TLS 1.0 ClientHello offering the two suites, and a server preferring its own
order, which lists the 256-bit suite first. -/
def beastHello : ServerHandshakeState :=
  ⟨⟨versionTLS10, [TLS_RSA_WITH_AES_128_CBC_SHA, TLS_RSA_WITH_AES_256_CBC_SHA], [0], [], false, []⟩,
    none, true, true, true, true⟩

def beastConfig : Config :=
  ⟨[TLS_RSA_WITH_AES_256_CBC_SHA, TLS_RSA_WITH_AES_128_CBC_SHA], true, .noClientCert, false,
    versionTLS12⟩

theorem processClientHello_beast_selection_armed :
    beastHello.suite = none ∧
      (processClientHello rsaCbcSuites (fun _ => none) beastConfig versionTLS10
        beastHello).ableToDetectNMinusOneSplitting = true :=
  ⟨rfl, (processClientHello_beast_selection rsaCbcSuites (fun _ => none) beastConfig versionTLS10
    beastHello rfl).2.2.1.mpr ⟨by decide, TLS_RSA_WITH_AES_128_CBC_SHA, by decide, by decide, rfl⟩⟩

/-- Below TLS 1.2 the probe's third suite is refused when the package marks
`TLS_RSA_WITH_AES_128_CBC_SHA256` a TLS 1.2 suite, so an armed probe has selected
an offered `TLS_RSA_WITH_AES_128_CBC_SHA` or `TLS_RSA_WITH_AES_256_CBC_SHA`. -/
theorem processClientHello_armed_suite_of_lt (hnil : hs.suite = none) (h12 : vers < versionTLS12)
    (htab : ∀ s ∈ cipherSuites, s.id = TLS_RSA_WITH_AES_128_CBC_SHA256 → s.flags &&& suiteTLS12 ≠ 0)
    (h : (processClientHello cipherSuites decryptTicket config vers hs).ableToDetectNMinusOneSplitting =
      true) :
    ∃ s, (processClientHello cipherSuites decryptTicket config vers hs).hs.suite = some s ∧
      s.id ∈ hs.clientHello.cipherSuites ∧
      (s.id = TLS_RSA_WITH_AES_128_CBC_SHA ∨ s.id = TLS_RSA_WITH_AES_256_CBC_SHA) := by
  obtain ⟨pre, cs, post, s, hL, hb, hset, -, hsuite⟩ :=
    processClientHello_beast_first cipherSuites decryptTicket config vers hs hnil h
  obtain ⟨rfl, -, -⟩ := setCipherSuite_some cipherSuites hs hset
  refine ⟨s, hsuite, hL ▸ List.mem_append_right _ (.head _), ?_⟩
  rcases hb with hb | hb | hb
  · exact .inl hb
  · exact .inr hb
  · rw [setCipherSuite_of_tls12 cipherSuites hs _ (fun t ht he => htab t ht (he.trans hb)) h12] at hset
    cases hset

/-- The third suite of the probe's test never arms it. At a version no higher
than the client's, as version negotiation leaves it, and with the package
marking `TLS_RSA_WITH_AES_128_CBC_SHA256` a TLS 1.2 suite as Go's table does,
an armed probe has selected an offered `TLS_RSA_WITH_AES_128_CBC_SHA` or
`TLS_RSA_WITH_AES_256_CBC_SHA`. -/
theorem processClientHello_armed_suite (hnil : hs.suite = none) (hv : vers ≤ hs.clientHello.vers)
    (htab : ∀ s ∈ cipherSuites, s.id = TLS_RSA_WITH_AES_128_CBC_SHA256 → s.flags &&& suiteTLS12 ≠ 0)
    (h : (processClientHello cipherSuites decryptTicket config vers hs).ableToDetectNMinusOneSplitting =
      true) :
    ∃ s, (processClientHello cipherSuites decryptTicket config vers hs).hs.suite = some s ∧
      s.id ∈ hs.clientHello.cipherSuites ∧
      (s.id = TLS_RSA_WITH_AES_128_CBC_SHA ∨ s.id = TLS_RSA_WITH_AES_256_CBC_SHA) := by
  have hle := ((processClientHello_ableToDetect cipherSuites decryptTicket config vers hs hnil).mp h).1
  exact processClientHello_armed_suite_of_lt cipherSuites decryptTicket config vers hs hnil
    (UInt16.not_le.mp fun h' => absurd (UInt16.le_trans h' (UInt16.le_trans hv hle)) (by decide))
    htab h

theorem processClientHello_armed_suite_tls10 :
    beastHello.suite = none ∧ versionTLS10 ≤ beastHello.clientHello.vers ∧
      (∀ s ∈ rsaCbcSuites, s.id = TLS_RSA_WITH_AES_128_CBC_SHA256 → s.flags &&& suiteTLS12 ≠ 0) ∧
      (processClientHello rsaCbcSuites (fun _ => none) beastConfig versionTLS10
        beastHello).ableToDetectNMinusOneSplitting = true ∧
      ∃ s, (processClientHello rsaCbcSuites (fun _ => none) beastConfig versionTLS10
          beastHello).hs.suite = some s ∧ s.id ∈ beastHello.clientHello.cipherSuites ∧
        (s.id = TLS_RSA_WITH_AES_128_CBC_SHA ∨ s.id = TLS_RSA_WITH_AES_256_CBC_SHA) :=
  ⟨rfl, by decide, by decide, rfl,
    processClientHello_armed_suite rsaCbcSuites (fun _ => none) beastConfig versionTLS10 beastHello
      rfl (by decide) (by decide) rfl⟩

end Patched

section Stock

variable (cipherSuites : List CipherSuite) (decryptTicket : List UInt8 → Option SessionState)
variable (config : Config) (vers : UInt16) (hs : ServerHandshakeState)

theorem selectPatched_eq_selectStock (hv : versionTLS10 < hs.clientHello.vers)
    (hn : hs.suite = none) :
    selectPatched cipherSuites config vers hs = selectStock cipherSuites config vers hs := by
  simp [selectPatched, selectStock, UInt16.not_le.mpr hv, hn]

/-- Every ticket decrypts to a TLS 1.2 session on `TLS_RSA_WITH_AES_256_CBC_SHA`
made without a client certificate. -/
def certlessTicket (_ : List UInt8) : Option SessionState :=
  some ⟨versionTLS12, TLS_RSA_WITH_AES_256_CBC_SHA, []⟩

/-- A server that requires client certificates and follows the client's order. -/
def clientCertConfig : Config :=
  ⟨[TLS_RSA_WITH_AES_128_CBC_SHA, TLS_RSA_WITH_AES_256_CBC_SHA], false,
    .requireAnyClientCert, false, versionTLS12⟩

/-- A TLS 1.2 ClientHello offering both suites and a session ticket. -/
def ticketHello : ServerHandshakeState :=
  ⟨⟨versionTLS12, [TLS_RSA_WITH_AES_128_CBC_SHA, TLS_RSA_WITH_AES_256_CBC_SHA], [0], [1], true, []⟩,
    none, true, true, true, true⟩

/-- Above TLS 1.0 the patched code resumes exactly when the stock code does, and
whenever `checkForResumption` leaves no suite behind it does all the stock code
does. -/
theorem processClientHello_refines_stock (hv : versionTLS10 < hs.clientHello.vers) :
    ((processClientHello cipherSuites decryptTicket config vers hs).result = .ok true ↔
      (processClientHelloStock cipherSuites decryptTicket config vers hs).result = .ok true) ∧
    ((checkForResumption cipherSuites decryptTicket config vers hs).2.suite = none →
      processClientHello cipherSuites decryptTicket config vers hs =
        processClientHelloStock cipherSuites decryptTicket config vers hs) := by
  rw [processClientHello_of_gt cipherSuites decryptTicket config vers hs hv]
  unfold processClientHelloStock
  dsimp only
  split_ifs
  · exact ⟨Iff.rfl, fun _ => rfl⟩
  obtain ⟨o, hchk, -⟩ := checkForResumption_snd cipherSuites decryptTicket config vers hs
  rw [hchk]
  refine ⟨⟨fun h => absurd h (finishClientHello_ne_resume config _),
    fun h => absurd h (finishClientHello_ne_resume config _)⟩, fun hn => ?_⟩
  exact selectPatched_eq_selectStock cipherSuites config vers _ hv hn

/-- With the certificate-less ticket the two resume alike; with a ticket that
does not decrypt `checkForResumption` leaves no suite, and the two agree whole. -/
theorem processClientHello_refines_stock_tls12 :
    versionTLS10 < ticketHello.clientHello.vers ∧
      ((processClientHello rsaCbcSuites certlessTicket clientCertConfig versionTLS12
          ticketHello).result = .ok true ↔
        (processClientHelloStock rsaCbcSuites certlessTicket clientCertConfig versionTLS12
          ticketHello).result = .ok true) ∧
      (checkForResumption rsaCbcSuites (fun _ => none) clientCertConfig versionTLS12
        ticketHello).2.suite = none ∧
      processClientHello rsaCbcSuites (fun _ => none) clientCertConfig versionTLS12 ticketHello =
        processClientHelloStock rsaCbcSuites (fun _ => none) clientCertConfig versionTLS12
          ticketHello :=
  ⟨by decide, (processClientHello_refines_stock rsaCbcSuites certlessTicket clientCertConfig
    versionTLS12 ticketHello (by decide)).1, rfl,
    (processClientHello_refines_stock rsaCbcSuites (fun _ => none) clientCertConfig versionTLS12
      ticketHello (by decide)).2 rfl⟩

/-- The ticket is declined for want of a client certificate after its suite was
set: the patched code keeps that suite, the stock code picks the client's first. -/
theorem processClientHello_declined_ticket :
    (processClientHello rsaCbcSuites certlessTicket clientCertConfig versionTLS12 ticketHello).result =
        .ok false ∧
      (processClientHelloStock rsaCbcSuites certlessTicket clientCertConfig versionTLS12
        ticketHello).result = .ok false ∧
      (processClientHello rsaCbcSuites certlessTicket clientCertConfig versionTLS12
        ticketHello).hs.suite = some ⟨TLS_RSA_WITH_AES_256_CBC_SHA, 0⟩ ∧
      (processClientHelloStock rsaCbcSuites certlessTicket clientCertConfig versionTLS12
        ticketHello).hs.suite = some ⟨TLS_RSA_WITH_AES_128_CBC_SHA, 0⟩ :=
  ⟨rfl, rfl, by decide, by decide⟩

end Stock

end CheckTlsSupport.Tls110
