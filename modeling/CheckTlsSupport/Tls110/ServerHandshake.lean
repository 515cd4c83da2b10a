import CheckTlsSupport.Tls110.Conn
import CheckTlsSupport.Tls110.HandshakeServer

/-!
# The server handshake drives the connection

`serverHandshake` reads the ClientHello, settles the version with
`mutualVersion`, runs the patched `processClientHello` at that version and, when
the rest of the handshake succeeds, stores the ClientHello and completes (the
patch's `c.clientHello = hs.clientHello`). `serverHandshakeOutcome` computes from
these steps the outcome `Conn.handshake` takes. The stock checks between the
version and the selection (compression, certificate, curves) and the messages
after the ServerHello are inputs, as an error or none.

`ServedBy P` is every state a fresh server connection reaches by calls whose
handshake outcomes satisfy `P`. When they are the server's own outcomes, an armed
probe was armed at TLS 1.0 or below by a ClientHello offering
`TLS_RSA_WITH_AES_128_CBC_SHA` or `TLS_RSA_WITH_AES_256_CBC_SHA`
(`ServedBy.armedSound`): the negotiated version is never above the client's, so
the probe's third suite, a TLS 1.2 one, is refused whenever the probe's loop runs.
-/

namespace CheckTlsSupport.Tls110

/-- Modelled from the spec: `Config.mutualVersion` is stock code absent from
src/, here with the configuration's minimum and maximum resolved. A client below
the minimum is refused; one above the maximum is served at the maximum. -/
def mutualVersion (minVersion maxVersion vers : UInt16) : Option UInt16 :=
  if vers < minVersion then none
  else if vers > maxVersion then some maxVersion
  else some vers

/-- Negotiation never raises the client's version. -/
theorem mutualVersion_le {minVersion maxVersion vers v : UInt16}
    (h : mutualVersion minVersion maxVersion vers = some v) : v ≤ vers := by
  unfold mutualVersion at h
  split_ifs at h with h1 h2 <;> cases h
  · exact UInt16.not_lt.mp (UInt16.lt_asymm h2)
  · exact UInt16.le_refl _

section Server

variable (cipherSuites : List CipherSuite) (decryptTicket : List UInt8 → Option SessionState)
variable (config : Config) (minVersion : UInt16)

/-- Modelled from the spec: `serverHandshake` and `readClientHello` are stock
code absent from src/ but for the patch's lines. From the ClientHello of `hs`
and a fresh handshake state: the version, which a client below the minimum
fails with the text of `fmt.Errorf`; then `checks`; then the patched
`processClientHello` at the negotiated version, whose error ends the handshake;
then `later`. -/
def serverHandshakeOutcome (hs : ServerHandshakeState) (checks later : Option ConnError) :
    HandshakeOutcome :=
  match mutualVersion minVersion config.maxVersion hs.clientHello.vers with
  | none => .failed (.message ("tls: client offered an unsupported, maximum protocol version of " ++
      sprintfHex hs.clientHello.vers.toNat))
  | some vers =>
    match checks with
    | some err => .failed err
    | none =>
      let r := processClientHello cipherSuites decryptTicket config vers { hs with suite := none }
      match r.result, later with
      | .error (_, msg), _ => .failed (.message msg)
      | .ok _, some err => .failed err
      | .ok _, none => .serverDone hs.clientHello vers r.ableToDetectNMinusOneSplitting

/-- The outcomes the server's handshake computes. -/
def IsServerOutcome (o : HandshakeOutcome) : Prop :=
  ∃ hs checks later, o = serverHandshakeOutcome cipherSuites decryptTicket config minVersion hs
    checks later

/-- A completed server handshake stores the ClientHello it read, at a version
no higher than the client's, with the probe as `processClientHello` left it. -/
theorem serverHandshakeOutcome_serverDone {hs : ServerHandshakeState}
    {checks later : Option ConnError} {ch : ClientHelloMsg} {vers : UInt16} {armed : Bool}
    (h : serverHandshakeOutcome cipherSuites decryptTicket config minVersion hs checks later =
      .serverDone ch vers armed) :
    ch = hs.clientHello ∧ vers ≤ hs.clientHello.vers ∧
      armed = (processClientHello cipherSuites decryptTicket config vers
        { hs with suite := none }).ableToDetectNMinusOneSplitting := by
  unfold serverHandshakeOutcome at h
  split at h
  · cases h
  rename_i v hv
  split at h
  · cases h
  dsimp only at h
  split at h <;> cases h
  exact ⟨rfl, mutualVersion_le hv, rfl⟩

/-- What an armed probe says of the handshake: TLS 1.0 or below, and a
ClientHello offering one of the two RSA CBC suites without SHA-256. -/
def ArmsProbe (vers : UInt16) (ch : ClientHelloMsg) : Prop :=
  vers ≤ versionTLS10 ∧
    ∃ cs ∈ ch.cipherSuites, cs = TLS_RSA_WITH_AES_128_CBC_SHA ∨ cs = TLS_RSA_WITH_AES_256_CBC_SHA

theorem serverHandshakeOutcome_armed {hs : ServerHandshakeState}
    {checks later : Option ConnError} {ch : ClientHelloMsg} {vers : UInt16}
    (htab : ∀ s ∈ cipherSuites, s.id = TLS_RSA_WITH_AES_128_CBC_SHA256 → s.flags &&& suiteTLS12 ≠ 0)
    (h : serverHandshakeOutcome cipherSuites decryptTicket config minVersion hs checks later =
      .serverDone ch vers true) :
    ArmsProbe vers ch := by
  obtain ⟨rfl, hv, ha⟩ := serverHandshakeOutcome_serverDone cipherSuites decryptTicket config
    minVersion h
  have h10 := UInt16.le_trans hv ((processClientHello_ableToDetect cipherSuites decryptTicket config
    vers _ rfl).mp ha.symm).1
  obtain ⟨s, -, hmem, hs⟩ := processClientHello_armed_suite_of_lt cipherSuites decryptTicket config
    vers { hs with suite := none } rfl
    (UInt16.not_le.mp fun h' => absurd (UInt16.le_trans h' h10) (by decide)) htab ha.symm
  exact ⟨h10, s.id, hmem, hs⟩

end Server

/-- The handshake outcome a call carries. -/
def ConnCall.outcome : ConnCall → Option HandshakeOutcome
  | .handshake o | .read o _ | .write o => some o
  | .close => none

/-- The states a fresh server connection reaches by calls whose handshake
outcomes satisfy `P`. -/
inductive ServedBy (P : HandshakeOutcome → Prop) : Conn → Prop
  | init (renegotiation : RenegotiationSupport) : ServedBy P (Conn.init false renegotiation)
  | step {c : Conn} (call : ConnCall) (hP : ∀ o, call.outcome = some o → P o) :
    ServedBy P c → ServedBy P (c.step call)

section Served

variable {P : HandshakeOutcome → Prop} {c : Conn}

theorem Conn.handshake_isClient (o : HandshakeOutcome) : (c.handshake o).isClient = c.isClient := by
  unfold Conn.handshake
  split_ifs
  · rfl
  · split <;> rfl

theorem Conn.step_isClient (call : ConnCall) : (c.step call).isClient = c.isClient := by
  cases call with
  | handshake o | write o => exact Conn.handshake_isClient o
  | close => rfl
  | read o records =>
    simp only [Conn.step, Conn.read]
    split_ifs
    · exact (readApplicationData_keeps _ o records).isClient.trans (Conn.handshake_isClient o)
    · exact Conn.handshake_isClient o

/-- A served connection is a reachable server connection, so every result on
`Reachable` applies to it. -/
theorem ServedBy.reachable (h : ServedBy P c) : Reachable c ∧ c.isClient = false := by
  induction h with
  | init renegotiation => exact ⟨.init _ _, rfl⟩
  | step call _ _ ih => exact ⟨.step call ih.1, (Conn.step_isClient call).trans ih.2⟩

/-- An armed probe was armed by the stored ClientHello at the connection's
version. -/
def ArmedSound (c : Conn) : Prop :=
  c.ableToDetectNMinusOneSplitting = true → ∃ ch, c.clientHello = some ch ∧ ArmsProbe c.vers ch

theorem ArmedSound.of_frame {c' : Conn} (h : ArmedSound c) (hf : ReadFrame c c') :
    ArmedSound c' := by
  intro ha
  rw [hf.vers, hf.clientHello]
  exact h (hf.ableToDetect ▸ ha)

theorem ArmedSound.handshake (h : ArmedSound c) (hs : c.isClient = false) {o : HandshakeOutcome}
    (ho : ∀ ch vers, o = .serverDone ch vers true → ArmsProbe vers ch) :
    ArmedSound (c.handshake o) := by
  unfold Conn.handshake
  split_ifs
  · exact h
  split
  · rename_i ch vers armed _
    intro ha
    exact ⟨ch, rfl, ho ch vers (by subst ha; rfl)⟩
  · rename_i hcl
    exact absurd (hcl.symm.trans hs) Bool.noConfusion
  · exact h
  · exact h

theorem ArmedSound.step (h : ArmedSound c) (hs : c.isClient = false) {call : ConnCall}
    (ho : ∀ o, call.outcome = some o → ∀ ch vers, o = .serverDone ch vers true → ArmsProbe vers ch) :
    ArmedSound (c.step call) := by
  cases call with
  | handshake o | write o => exact h.handshake hs (ho o rfl)
  | close => exact h
  | read o records =>
    have hh := h.handshake hs (ho o rfl)
    simp only [Conn.step, Conn.read]
    split_ifs
    · exact hh.of_frame
        (readApplicationData_frame _ (.inl ((Conn.handshake_isClient o).trans hs)) o records)
    · exact hh

/-- On every state the server reaches with its own handshakes, an armed probe
was armed at TLS 1.0 or below by a ClientHello offering
`TLS_RSA_WITH_AES_128_CBC_SHA` or `TLS_RSA_WITH_AES_256_CBC_SHA`, provided the
package marks `TLS_RSA_WITH_AES_128_CBC_SHA256` a TLS 1.2 suite. -/
theorem ServedBy.armedSound {cipherSuites : List CipherSuite}
    {decryptTicket : List UInt8 → Option SessionState} {config : Config} {minVersion : UInt16}
    (htab : ∀ s ∈ cipherSuites, s.id = TLS_RSA_WITH_AES_128_CBC_SHA256 → s.flags &&& suiteTLS12 ≠ 0)
    (h : ServedBy (IsServerOutcome cipherSuites decryptTicket config minVersion) c) :
    ArmedSound c := by
  induction h with
  | init renegotiation => exact nofun
  | step call hP hc ih =>
    refine ih.step hc.reachable.2 fun o ho ch vers he => ?_
    obtain ⟨hs, checks, later, rfl⟩ := hP o ho
    exact serverHandshakeOutcome_armed cipherSuites decryptTicket config minVersion htab he

end Served

end CheckTlsSupport.Tls110
