import CheckTlsSupport.Tls110.Conn
import CheckTlsSupport.Tls110.ServerHandshake
import CheckTlsSupport.ClientInfo.Rating

/-!
# From the connection to the report

The service reads `ConnectionState` of its server connection and hands it to
`pullClientInfo`. On every state the calls reach, a server connection whose
handshake is complete gives a snapshot, the snapshot a report, and the report's
two BEAST fields read the connection's probe: the report can detect splitting
when the probe was armed and an offered catalogue CBC suite arms it at TLS 1.0
or below, and it is then vulnerable exactly when the probe saw no split. When
the probe was not armed no split can have been recorded (`ProbeSound`), so the
verdict rests on the version and the suites alone.

What the probe saw is decided by the first record read for application data,
whatever its type (`readApplicationData_first_record`). A warning alert sent
before a split first record is that record.

When the handshakes are the server's own (`ServedBy`), the report's version and
suite tests add nothing to the probe's arming: the report can detect splitting
exactly when the handshake armed the probe.
-/

namespace CheckTlsSupport

open Tls110

section Server

variable (cat : Catalogue) {c : Conn}

/-- The snapshot of a completed server connection carries its ClientHello, its
version and its probe. -/
theorem connectionState_of_reachable (h : Reachable c) (hs : c.isClient = false)
    (hc : c.handshakeComplete = true) :
    ∃ ch, c.clientHello = some ch ∧ c.connectionState = .ok ⟨true, c.vers, ch.cipherSuites,
      ch.compressionMethods, c.nMinusOneRecordSplittingDetected,
      c.ableToDetectNMinusOneSplitting, ch.ticketSupported, ch.supportedVersions⟩ := by
  obtain ⟨ch, hch⟩ := Option.isSome_iff_exists.mp (h.serverHelloKept hs hc)
  exact ⟨ch, hch, by simp [Conn.connectionState, hc, hch]⟩

/-- The report on the snapshot of a completed server connection, and its BEAST
fields: it can detect splitting when the probe was armed and an offered catalogue
CBC suite arms it at TLS 1.0 or below, and it is then vulnerable exactly when the
probe saw no split. -/
theorem pullClientInfo_beast_fields (vers : UInt16) (ch : ClientHelloMsg) (split able : Bool) :
    ∃ d, pullClientInfo cat ⟨true, vers, ch.cipherSuites, ch.compressionMethods, split, able,
        ch.ticketSupported, ch.supportedVersions⟩ = .ok d ∧
      (d.ableToDetectNMinusOneSplitting = true ↔ able = true ∧ vers ≤ versionTLS10 ∧
        ∃ ci ∈ ch.cipherSuites, (cat.allCipherSuites ci).isSome ∧ cat.cbcSuites ci = true) ∧
      (d.ableToDetectNMinusOneSplitting = true → (d.beastVuln = true ↔ split = false)) := by
  refine ⟨_, pullClientInfo_of_handshakeComplete cat _ rfl, ?_, fun hd => ?_⟩
  · show (scanCipherSuites cat _).ableToDetectNMinusOneSplitting = true ↔ _
    rw [scanCipherSuites_ableToDetectNMinusOneSplitting]
    by_cases hv : vers ≤ versionTLS10 <;>
      simp [List.any_eq_true, armsBeast, hv, apply_ite (· = true), and_comm]
  · change (scanCipherSuites cat _).ableToDetectNMinusOneSplitting = true at hd
    show (scanCipherSuites cat _).beastVuln = true ↔ _
    rw [scanCipherSuites_ableToDetectNMinusOneSplitting] at hd
    rw [scanCipherSuites_beastVuln]
    split_ifs at hd ⊢
    simp

/-- On every reachable server connection with a completed handshake the report
is produced, and its BEAST fields read the probe of the connection. -/
theorem pullClientInfo_of_reachable (h : Reachable c) (hs : c.isClient = false)
    (hc : c.handshakeComplete = true) :
    ∃ st d, c.connectionState = .ok st ∧ pullClientInfo cat st = .ok d ∧
      (d.ableToDetectNMinusOneSplitting = true ↔
        c.ableToDetectNMinusOneSplitting = true ∧ c.vers ≤ versionTLS10 ∧
          ∃ ci ∈ st.clientCipherSuites, (cat.allCipherSuites ci).isSome ∧ cat.cbcSuites ci = true) ∧
      (d.ableToDetectNMinusOneSplitting = true →
        (d.beastVuln = true ↔ c.nMinusOneRecordSplittingDetected = false)) := by
  obtain ⟨ch, -, hst⟩ := connectionState_of_reachable h hs hc
  obtain ⟨d, hd, hable, hbeast⟩ := pullClientInfo_beast_fields cat c.vers ch _ _
  exact ⟨_, d, hst, hd, hable, hbeast⟩

/-- A `Read` on a completed server connection whose armed probe has not fired:
the report's BEAST verdict is decided by the first record read, whatever its
type. When that record passes the checks before the probe, a report that can
detect splitting says vulnerable exactly when its plaintext is longer than one
byte. -/
theorem pullClientInfo_beastVuln_of_first_record (h : Reachable c) (hs : c.isClient = false)
    (hc : c.handshakeComplete = true) (hwait : c.input = none ∧ c.inErr = none ∧ c.hand = [])
    (harmed : c.ableToDetectNMinusOneSplitting = true) (hfresh : c.readOneAppDataRecord = false)
    (o : HandshakeOutcome) (r : Record) (rs : List Record)
    (hr : reachesProbe c recordTypeApplicationData r = true) :
    ∃ st d, (c.step (.read o (r :: rs))).connectionState = .ok st ∧ pullClientInfo cat st = .ok d ∧
      (d.ableToDetectNMinusOneSplitting = true ↔ c.vers ≤ versionTLS10 ∧
        ∃ ci ∈ st.clientCipherSuites, (cat.allCipherSuites ci).isSome ∧ cat.cbcSuites ci = true) ∧
      (d.ableToDetectNMinusOneSplitting = true → (d.beastVuln = true ↔ 1 < r.body.length)) := by
  have hread : c.step (.read o (r :: rs)) = readApplicationData c o (r :: rs) :=
    Conn.read_of_handshakeComplete hc o (r :: rs)
  have hf : ReadFrame c (c.step (.read o (r :: rs))) :=
    hread ▸ readApplicationData_frame c (.inl hs) o (r :: rs)
  obtain ⟨ch, -, hst⟩ := connectionState_of_reachable (h.step (.read o (r :: rs)))
    (hf.isClient.trans hs) (hf.handshakeComplete.trans hc)
  obtain ⟨d, hd, hable, hbeast⟩ := pullClientInfo_beast_fields cat _ ch _ _
  have hn : (c.step (.read o (r :: rs))).nMinusOneRecordSplittingDetected = _ :=
    hread ▸ (readApplicationData_probe_measures o hwait harmed hfresh rs hr).2
  refine ⟨_, d, hst, hd, ?_, fun ha => ?_⟩
  · rw [hable, hf.ableToDetect, hf.vers, harmed]
    simp
  · rw [hbeast ha, hn, Bool.or_eq_false_iff, beq_eq_false_iff_ne, beq_eq_false_iff_ne]
    omega

/-- A report that cannot detect splitting rests on no measurement: on every
reachable completed server connection whose probe was not armed, the report says
vulnerable to BEAST exactly when the version is TLS 1.0 or below and a catalogue
CBC suite is offered, whatever records were read. -/
theorem pullClientInfo_beastVuln_of_unarmed (h : Reachable c) (hs : c.isClient = false)
    (hc : c.handshakeComplete = true) (hna : c.ableToDetectNMinusOneSplitting = false) :
    ∃ st d, c.connectionState = .ok st ∧ pullClientInfo cat st = .ok d ∧
      d.ableToDetectNMinusOneSplitting = false ∧
      (d.beastVuln = true ↔ c.vers ≤ versionTLS10 ∧
        ∃ ci ∈ st.clientCipherSuites, (cat.allCipherSuites ci).isSome ∧ cat.cbcSuites ci = true) := by
  obtain ⟨ch, -, hst⟩ := connectionState_of_reachable h hs hc
  have hn : c.nMinusOneRecordSplittingDetected = false := Bool.eq_false_iff.mpr fun hn => by
    simpa [hna] using (h.probeSound.readOne (h.probeSound.nMinusOne hn)).1
  refine ⟨_, _, hst, pullClientInfo_of_handshakeComplete cat _ rfl, ?_, ?_⟩
  · show (scanCipherSuites cat _).ableToDetectNMinusOneSplitting = false
    rw [scanCipherSuites_ableToDetectNMinusOneSplitting]
    split_ifs <;> simp [hna]
  · show (scanCipherSuites cat _).beastVuln = true ↔ _
    simp [scanCipherSuites_beastVuln_iff, hn]

/-- The server connection after its handshake with a TLS 1.0 client offering
only `TLS_RSA_WITH_3DES_EDE_CBC_SHA`, a suite that does not arm the probe. -/
def unarmedServer : Conn :=
  (Conn.init false .renegotiateNever).step
    (.handshake (.serverDone ⟨versionTLS10, [0x000a], [0], [], false, []⟩ versionTLS10 false))

theorem pullClientInfo_beastVuln_of_unarmed_3des :
    Reachable unarmedServer ∧ unarmedServer.isClient = false ∧
      unarmedServer.handshakeComplete = true ∧ unarmedServer.ableToDetectNMinusOneSplitting = false ∧
      ∃ st d, unarmedServer.connectionState = .ok st ∧ pullClientInfo sampleCatalogue st = .ok d ∧
        d.ableToDetectNMinusOneSplitting = false ∧ d.beastVuln = true := by
  have hr : Reachable unarmedServer := .step _ (.init _ _)
  obtain ⟨st, d, h1, h2, h3, h4⟩ := pullClientInfo_beastVuln_of_unarmed sampleCatalogue hr rfl rfl rfl
  cases h1
  exact ⟨hr, rfl, rfl, rfl, _, d, rfl, h2, h3, h4.mpr ⟨by decide, 0x000a, .head _, rfl, rfl⟩⟩

end Server

/-- The handshake with the TLS 1.0 client of `beastHello`, armed as
`processClientHello` arms it. -/
def beastOutcome : HandshakeOutcome :=
  .serverDone beastHello.clientHello versionTLS10
    (processClientHello rsaCbcSuites (fun _ => none) beastConfig versionTLS10
      beastHello).ableToDetectNMinusOneSplitting

/-- A warning alert (user_canceled), then a first application-data record of
one byte. -/
def alertThenSplit : List Record :=
  [⟨recordTypeAlert, versionTLS10, 32, .plaintext [alertLevelWarning, 90]⟩,
    ⟨recordTypeApplicationData, versionTLS10, 32, .plaintext [0x47]⟩]

/-- The server connection after its handshake with the client of `beastHello`. -/
def beastServer : Conn := (Conn.init false .renegotiateNever).step (.handshake beastOutcome)

theorem pullClientInfo_beastVuln_of_first_record_alert :
    Reachable beastServer ∧ beastServer.isClient = false ∧ beastServer.handshakeComplete = true ∧
      (beastServer.input = none ∧ beastServer.inErr = none ∧ beastServer.hand = []) ∧
      beastServer.ableToDetectNMinusOneSplitting = true ∧
      beastServer.readOneAppDataRecord = false ∧
      reachesProbe beastServer recordTypeApplicationData
        ⟨recordTypeAlert, versionTLS10, 32, .plaintext [alertLevelWarning, 90]⟩ = true ∧
      ∃ st d, (beastServer.step (.read beastOutcome alertThenSplit)).connectionState = .ok st ∧
        pullClientInfo sampleCatalogue st = .ok d ∧
        (d.ableToDetectNMinusOneSplitting = true → d.beastVuln = true) :=
  have hr : Reachable beastServer := .step _ (.init _ _)
  let ⟨st, d, h1, h2, _, h4⟩ := pullClientInfo_beastVuln_of_first_record sampleCatalogue hr rfl rfl
    ⟨rfl, rfl, rfl⟩ rfl rfl beastOutcome
    ⟨recordTypeAlert, versionTLS10, 32, .plaintext [alertLevelWarning, 90]⟩
    [⟨recordTypeApplicationData, versionTLS10, 32, .plaintext [0x47]⟩] rfl
  ⟨hr, rfl, rfl, ⟨rfl, rfl, rfl⟩, rfl, rfl, rfl, st, d, h1, h2, fun ha => (h4 ha).mpr (by decide)⟩

/-- The server connection after one `Read` of the two records, and after one of
the split record alone. -/
def alertFirstConn : Conn :=
  (Conn.init false .renegotiateNever).step (.read beastOutcome alertThenSplit)

def splitFirstConn : Conn :=
  (Conn.init false .renegotiateNever).step (.read beastOutcome alertThenSplit.tail)

theorem pullClientInfo_of_reachable_alertFirst :
    Reachable alertFirstConn ∧ alertFirstConn.isClient = false ∧
      alertFirstConn.handshakeComplete = true ∧
      ∃ st d, alertFirstConn.connectionState = .ok st ∧ pullClientInfo sampleCatalogue st = .ok d ∧
        (d.ableToDetectNMinusOneSplitting = true →
          (d.beastVuln = true ↔ alertFirstConn.nMinusOneRecordSplittingDetected = false)) :=
  have hr : Reachable alertFirstConn := .step _ (.init _ _)
  let ⟨st, d, h1, h2, _, h4⟩ := pullClientInfo_of_reachable sampleCatalogue hr rfl rfl
  ⟨hr, rfl, rfl, st, d, h1, h2, h4⟩

/-- The client splits its first application-data record, but the probe measures
the warning alert read before it: the report says the client is vulnerable,
while the same split record read first says it is not. -/
theorem alertFirstConn_beastVuln :
    (alertThenSplit.find? (·.typ == recordTypeApplicationData)).map (·.body.length) = some 1 ∧
      Reachable alertFirstConn ∧
      (∃ st d, alertFirstConn.connectionState = .ok st ∧ pullClientInfo sampleCatalogue st = .ok d ∧
        d.ableToDetectNMinusOneSplitting = true ∧ d.beastVuln = true) ∧
      ∃ st d, splitFirstConn.connectionState = .ok st ∧ pullClientInfo sampleCatalogue st = .ok d ∧
        d.ableToDetectNMinusOneSplitting = true ∧ d.beastVuln = false :=
  ⟨rfl, .step _ (.init _ _), ⟨_, _, rfl, rfl, rfl, rfl⟩, _, _, rfl, rfl, rfl, rfl⟩

/-- The `tls.Config` of `makeTLSConfig` as selection reads it: its suites in
order and the server's preference; client certificates and tickets are left at
their defaults, and so is `MaxVersion`, which Go resolves to TLS 1.2. -/
def makeTLSConfig : Config where
  cipherSuites := [
    0xcca9, -- TLS_ECDHE_ECDSA_WITH_CHACHA20_POLY1305
    0xcca8, -- TLS_ECDHE_RSA_WITH_CHACHA20_POLY1305
    0xc02f, -- TLS_ECDHE_RSA_WITH_AES_128_GCM_SHA256
    0xc02b, -- TLS_ECDHE_ECDSA_WITH_AES_128_GCM_SHA256
    0xc030, -- TLS_ECDHE_RSA_WITH_AES_256_GCM_SHA384
    0xc02c, -- TLS_ECDHE_ECDSA_WITH_AES_256_GCM_SHA384
    0xc011, -- TLS_ECDHE_RSA_WITH_RC4_128_SHA
    0xc007, -- TLS_ECDHE_ECDSA_WITH_RC4_128_SHA
    0xc013, -- TLS_ECDHE_RSA_WITH_AES_128_CBC_SHA
    0xc009, -- TLS_ECDHE_ECDSA_WITH_AES_128_CBC_SHA
    0xc023, -- TLS_ECDHE_ECDSA_WITH_AES_128_CBC_SHA256
    0xc014, -- TLS_ECDHE_RSA_WITH_AES_256_CBC_SHA
    0xc027, -- TLS_ECDHE_RSA_WITH_AES_128_CBC_SHA256
    0xc00a, -- TLS_ECDHE_ECDSA_WITH_AES_256_CBC_SHA
    0x009c, -- TLS_RSA_WITH_AES_128_GCM_SHA256
    0x009d, -- TLS_RSA_WITH_AES_256_GCM_SHA384
    0x0005, -- TLS_RSA_WITH_RC4_128_SHA
    0x002f, -- TLS_RSA_WITH_AES_128_CBC_SHA
    0x003c, -- TLS_RSA_WITH_AES_128_CBC_SHA256
    0x0035, -- TLS_RSA_WITH_AES_256_CBC_SHA
    0xc012, -- TLS_ECDHE_RSA_WITH_3DES_EDE_CBC_SHA
    0x000a] -- TLS_RSA_WITH_3DES_EDE_CBC_SHA
  preferServerCipherSuites := true
  clientAuth := .noClientCert
  sessionTicketsDisabled := false
  maxVersion := versionTLS12

/-- `MinVersion: tls.VersionSSL30` of `makeTLSConfig`. -/
def makeTLSConfigMinVersion : UInt16 := versionSSL30

section Served

variable (cat : Catalogue) {c : Conn} {cipherSuites : List CipherSuite}
  {decryptTicket : List UInt8 → Option SessionState} {config : Config} {minVersion : UInt16}

/-- On every state the server reaches with its own handshakes, the report can
detect splitting exactly when the handshake armed the probe, for a package that
marks `TLS_RSA_WITH_AES_128_CBC_SHA256` a TLS 1.2 suite and a catalogue that
lists the other two RSA CBC suites as CBC; the client then negotiated TLS 1.0 or
below and offered one of those two. -/
theorem pullClientInfo_ableToDetect_of_served
    (htab : ∀ s ∈ cipherSuites, s.id = TLS_RSA_WITH_AES_128_CBC_SHA256 → s.flags &&& suiteTLS12 ≠ 0)
    (hcat : ∀ cs ∈ [TLS_RSA_WITH_AES_128_CBC_SHA, TLS_RSA_WITH_AES_256_CBC_SHA],
      (cat.allCipherSuites cs).isSome ∧ cat.cbcSuites cs = true)
    (h : ServedBy (IsServerOutcome cipherSuites decryptTicket config minVersion) c)
    (hc : c.handshakeComplete = true) :
    ∃ st d, c.connectionState = .ok st ∧ pullClientInfo cat st = .ok d ∧
      d.ableToDetectNMinusOneSplitting = c.ableToDetectNMinusOneSplitting ∧
      (d.ableToDetectNMinusOneSplitting = true → st.version ≤ versionTLS10 ∧
        ∃ cs ∈ st.clientCipherSuites,
          cs = TLS_RSA_WITH_AES_128_CBC_SHA ∨ cs = TLS_RSA_WITH_AES_256_CBC_SHA) := by
  obtain ⟨hr, hs⟩ := h.reachable
  obtain ⟨ch, hch, hst⟩ := connectionState_of_reachable hr hs hc
  refine ⟨_, _, hst, pullClientInfo_of_handshakeComplete cat _ rfl, ?_⟩
  show (scanCipherSuites cat _).ableToDetectNMinusOneSplitting = _ ∧
    ((scanCipherSuites cat _).ableToDetectNMinusOneSplitting = true → _)
  rw [scanCipherSuites_ableToDetectNMinusOneSplitting]
  cases ha : c.ableToDetectNMinusOneSplitting
  · simp
  obtain ⟨ch', hch', hv, cs, hmem, hcs⟩ := ServedBy.armedSound htab h ha
  rw [hch, Option.some_inj] at hch'
  subst hch'
  have hknown := hcat cs (by rcases hcs with rfl | rfl <;> simp)
  split_ifs with hany
  · exact ⟨rfl, fun _ => ⟨hv, cs, hmem, hcs⟩⟩
  · exact (hany (List.any_eq_true.mpr ⟨cs, hmem, by simp [armsBeast, hknown.1, hknown.2, hv]⟩)).elim

end Served

/-- `sampleCatalogue` with `TLS_RSA_WITH_AES_256_CBC_SHA`, a CBC suite, added. -/
def rsaCbcCatalogue : Catalogue :=
  { sampleCatalogue with
    allCipherSuites := fun ci =>
      if ci = 0x0035 then some "TLS_RSA_WITH_AES_256_CBC_SHA" else sampleCatalogue.allCipherSuites ci
    cbcSuites := fun ci => ci = 0x0035 || sampleCatalogue.cbcSuites ci }

/-- The three RSA CBC suites, the SHA-256 one marked TLS 1.2 as in Go's table. -/
def rsaCbcTable : List CipherSuite :=
  [⟨TLS_RSA_WITH_AES_128_CBC_SHA, 0⟩, ⟨TLS_RSA_WITH_AES_256_CBC_SHA, 0⟩,
    ⟨TLS_RSA_WITH_AES_128_CBC_SHA256, suiteTLS12⟩]

/-- The server of `makeTLSConfig` after its own handshake with the TLS 1.0
client of `beastHello`. -/
def servedBeastServer : Conn :=
  (Conn.init false .renegotiateNever).step (.handshake (serverHandshakeOutcome rsaCbcTable
    (fun _ => none) makeTLSConfig makeTLSConfigMinVersion beastHello none none))

theorem pullClientInfo_ableToDetect_of_served_beast :
    (∀ s ∈ rsaCbcTable, s.id = TLS_RSA_WITH_AES_128_CBC_SHA256 → s.flags &&& suiteTLS12 ≠ 0) ∧
      (∀ cs ∈ [TLS_RSA_WITH_AES_128_CBC_SHA, TLS_RSA_WITH_AES_256_CBC_SHA],
        (rsaCbcCatalogue.allCipherSuites cs).isSome ∧ rsaCbcCatalogue.cbcSuites cs = true) ∧
      ServedBy (IsServerOutcome rsaCbcTable (fun _ => none) makeTLSConfig makeTLSConfigMinVersion)
        servedBeastServer ∧
      servedBeastServer.handshakeComplete = true ∧
      servedBeastServer.ableToDetectNMinusOneSplitting = true ∧
      ∃ st d, servedBeastServer.connectionState = .ok st ∧ pullClientInfo rsaCbcCatalogue st = .ok d ∧
        d.ableToDetectNMinusOneSplitting = servedBeastServer.ableToDetectNMinusOneSplitting ∧
        (d.ableToDetectNMinusOneSplitting = true → st.version ≤ versionTLS10 ∧
          ∃ cs ∈ st.clientCipherSuites,
            cs = TLS_RSA_WITH_AES_128_CBC_SHA ∨ cs = TLS_RSA_WITH_AES_256_CBC_SHA) :=
  have hs : ServedBy (IsServerOutcome rsaCbcTable (fun _ => none) makeTLSConfig
      makeTLSConfigMinVersion) servedBeastServer :=
    .step _ (fun _ ho => ⟨beastHello, none, none, (Option.some.inj ho).symm⟩) (.init _)
  ⟨by decide, by decide, hs, rfl, rfl,
    pullClientInfo_ableToDetect_of_served rsaCbcCatalogue (by decide) (by decide) hs rfl⟩

end CheckTlsSupport
