import CheckTlsSupport.Tls110.Common

/-!
# The connection: records, renegotiation, the BEAST probe, and `ConnectionState`

A `Conn` is modelled by the fields the patched functions read and write. The
patch adds three of them: `clientHello`, set by the server handshake as it
completes, and the probe's `readOneAppDataRecord` and
`nMinusOneRecordSplittingDetected`, set by `readRecord` when it is asked for
application data.

`readRecordBody` is one pass of `readRecord` from its `Again` label: header
checks, decryption, the probe, then the switch on the record's type, which
goes back to `Again` after a warning alert. `readLoop` is `Read` after its
handshake, one record a turn: `readRecord`'s own loop is flattened into it,
handshake bytes on a client start `handleRenegotiation`, and input is delivered,
an empty record sending `Read` round again. Every part of it keeps a
`ReadInvariant`, so every part keeps the invariant's property. The lifecycle is
`Conn.step` over the calls a user makes; `Reachable` is every state those calls
lead to from a fresh connection.

Records are taken as `readRecord` sees them after reading: the header's type,
version and length, and what decryption made of the body. The key schedule,
the cipher change itself and the handshake messages other than the HelloRequest
are not modelled; a handshake's outcome is an input of the call that runs it.
The caller's buffer is taken to hold a whole record, and the read of a
close_notify that has already arrived behind the data, which depends on how the
bytes reached the socket, is left out.
-/

namespace CheckTlsSupport.Tls110

/-- The fields of `Conn` the modelled functions use. -/
structure Conn where
  isClient : Bool
  renegotiation : RenegotiationSupport
  vers : UInt16
  haveVers : Bool
  handshakeComplete : Bool
  handshakeErr : Option ConnError
  handshakes : Nat
  inErr : Option ConnError
  warnCount : Nat
  input : Option (List UInt8)
  hand : List UInt8
  clientHello : Option ClientHelloMsg
  ableToDetectNMinusOneSplitting : Bool
  readOneAppDataRecord : Bool
  nMinusOneRecordSplittingDetected : Bool
  deriving DecidableEq, Repr

/-- A fresh connection of either role. -/
def Conn.init (isClient : Bool) (renegotiation : RenegotiationSupport) : Conn :=
  ⟨isClient, renegotiation, 0, false, false, none, 0, none, 0, none, [], none, false, false, false⟩

/-- What `c.in.decrypt` makes of a record's body: the plaintext, or the alert it
asks to send. -/
inductive Decrypted
  | plaintext (data : List UInt8)
  | failed (alertValue : UInt8)
  deriving DecidableEq, Repr

/-- `len(data)` of the plaintext; a failed decryption has none. -/
def Decrypted.length : Decrypted → Nat
  | .plaintext data => data.length
  | .failed _ => 0

/-- A record as `readRecord` has it after reading: the header's type, version and
length, and its decrypted body. -/
structure Record where
  typ : UInt8
  vers : UInt16
  length : Nat
  body : Decrypted
  deriving DecidableEq, Repr

/-- `c.in.setErrorLocked(err)`: the error is kept and returned by every later read. -/
def Conn.setError (c : Conn) (err : ConnError) : Conn := { c with inErr := some err }

/-- `fmt.Sprintf("%x", v)`. -/
def sprintfHex (v : Nat) : String := String.mk (Nat.toDigits 16 v)

/-- `RecordHeaderError.Error()` for a message. -/
def recordHeaderError (msg : String) : ConnError := .message ("tls: " ++ msg)

/-- The checks a record passes before the probe: the SSLv2 test, the version and
length of the header, the first-record test, decryption and the plaintext size. -/
def reachesProbe (c : Conn) (want : UInt8) (r : Record) : Bool :=
  !(want = recordTypeHandshake ∧ r.typ = 0x80) && !(c.haveVers ∧ r.vers ≠ c.vers) &&
    !(decide (r.length > maxCiphertext)) &&
    !(¬c.haveVers ∧ ((r.typ ≠ recordTypeAlert ∧ r.typ ≠ want) ∨ r.vers ≥ 0x1000)) &&
    match r.body with
    | .plaintext data => !(decide (data.length > maxPlaintext))
    | .failed _ => false

/-- The switch on the record's type. The `Bool` is `goto Again`. -/
def processRecord (c : Conn) (want typ : UInt8) (data : List UInt8) : Conn × Bool :=
  if typ = recordTypeAlert then
    match data with
    | [level, desc] =>
      if desc = alertCloseNotify then (c.setError .eof, false)
      else if level = alertLevelWarning then
        if c.warnCount + 1 > maxWarnAlertCount then
          ({ c with warnCount := c.warnCount + 1 }.setError (.message "tls: too many warn alerts"),
            false)
        else ({ c with warnCount := c.warnCount + 1 }, true)
      else if level = alertLevelError then (c.setError (.remoteError desc), false)
      else (c.setError (.localError alertUnexpectedMessage), false)
    | _ => (c.setError (.localError alertUnexpectedMessage), false)
  else if typ = recordTypeChangeCipherSpec then
    if typ ≠ want ∨ data ≠ [1] then (c.setError (.localError alertUnexpectedMessage), false)
    else if c.hand ≠ [] then (c.setError (.localError alertUnexpectedMessage), false)
    else (c, false)
  else if typ = recordTypeApplicationData then
    if typ ≠ want then (c.setError (.localError alertUnexpectedMessage), false)
    else ({ c with input := some data }, false)
  else if typ = recordTypeHandshake then
    if typ ≠ want ∧ ¬(c.isClient ∧ c.renegotiation ≠ .renegotiateNever) then
      (c.setError (.localError alertNoRenegotiation), false)
    else ({ c with hand := c.hand ++ data }, false)
  else (c.setError (.localError alertUnexpectedMessage), false)

/-- The probe the patch puts before the switch: keyed on `want`, the type asked
for, it measures the first record read for application data. -/
def probeRecord (c : Conn) (want : UInt8) (data : List UInt8) : Conn :=
  if !c.readOneAppDataRecord && c.ableToDetectNMinusOneSplitting &&
      want == recordTypeApplicationData then
    { c with readOneAppDataRecord := true,
             nMinusOneRecordSplittingDetected := data.length == 1 || data.length == 0 }
  else c

/-- One pass of `readRecord` from `Again` with the record `r`. The `Bool` is
`goto Again`. -/
def readRecordBody (c : Conn) (want : UInt8) (r : Record) : Conn × Bool :=
  if want = recordTypeHandshake ∧ r.typ = 0x80 then
    (c.setError (.message "tls: unsupported SSLv2 handshake received"), false)
  else if c.haveVers ∧ r.vers ≠ c.vers then
    (c.setError (recordHeaderError ("received record with version " ++ sprintfHex r.vers.toNat ++
      " when expecting version " ++ sprintfHex c.vers.toNat)), false)
  else if r.length > maxCiphertext then
    (c.setError (recordHeaderError ("oversized record received with length " ++
      toString r.length)), false)
  else if ¬c.haveVers ∧ ((r.typ ≠ recordTypeAlert ∧ r.typ ≠ want) ∨ r.vers ≥ 0x1000) then
    (c.setError (recordHeaderError "first record does not look like a TLS handshake"), false)
  else
    match r.body with
    | .failed alertValue => (c.setError (.localError alertValue), false)
    | .plaintext data =>
      if data.length > maxPlaintext then (c.setError (.localError alertRecordOverflow), false)
      else
        let c := if r.typ ≠ recordTypeAlert ∧ r.typ ≠ recordTypeChangeCipherSpec ∧ data.length > 0
          then { c with warnCount := 0 } else c
        processRecord (probeRecord c want data) want r.typ data

/-- How a handshake attempt ends, as the peer's messages decide: a server reads a
ClientHello and completes at `vers`, with the probe armed or not by
`processClientHello`; a client completes; or the attempt fails. -/
inductive HandshakeOutcome
  | serverDone (clientHello : ClientHelloMsg) (vers : UInt16) (armed : Bool)
  | clientDone (vers : UInt16)
  | failed (err : ConnError)
  deriving DecidableEq, Repr

/-- What `readRecord` keeps when it is asked for handshake records after the
handshake has completed. -/
def notInHandshake : ConnError :=
  .message "tls: handshake or ChangeCipherSpec requested while not in handshake"

/-- Modelled from the spec: `readHandshake` is stock code absent from src/, here
as `handleRenegotiation` calls it, once the handshake is complete. The
`readRecord(recordTypeHandshake)` it makes while the message at the front of
`c.hand` is not whole then refuses. A whole message is taken off the buffer and
read by the `unmarshal` of its type: a HelloRequest's wants an empty body, and a
type the switch does not know is refused. The parsers of the other types it
knows are not modelled; their messages are taken as well formed. Returns whether
the message read is a HelloRequest; `none` is an error, which is kept. -/
def readHandshake (c : Conn) : Conn × Option Bool :=
  match c.hand with
  | typ :: b1 :: b2 :: b3 :: rest =>
    let n := b1.toNat <<< 16 ||| b2.toNat <<< 8 ||| b3.toNat
    if n > maxHandshake then
      (c.setError (.message ("tls: handshake message of length " ++ toString n ++
        " bytes exceeds maximum of " ++ toString maxHandshake ++ " bytes")), none)
    else if rest.length < n then (c.setError notInHandshake, none)
    else
      let c := { c with hand := rest.drop n }
      if typ = typeHelloRequest then
        if n = 0 then (c, some true) else (c.setError (.localError alertUnexpectedMessage), none)
      else if [typeClientHello, typeServerHello, typeNewSessionTicket, typeCertificate,
          typeCertificateRequest, typeCertificateStatus, typeServerKeyExchange,
          typeServerHelloDone, typeClientKeyExchange, typeCertificateVerify, typeNextProtocol,
          typeFinished].contains typ then (c, some false)
      else (c.setError (.localError alertUnexpectedMessage), none)
  | _ => (c.setError notInHandshake, none)

/-- The end of `handleRenegotiation` once renegotiation is allowed:
`handshakeComplete` is cleared and `clientHandshake` runs, its outcome `o` an
input as in `Conn.handshake`. A completed handshake sets the version, has read
every buffered message and counts in `handshakes`; a failed one is kept in
`handshakeErr` and returned; one of the other role is no handshake of this
connection and leaves it as it was. The `Bool` is whether `Read` goes on. -/
def Conn.renegotiate (c : Conn) (o : HandshakeOutcome) : Conn × Bool :=
  match o with
  | .clientDone vers =>
    ({ c with vers := vers, haveVers := true, handshakeComplete := true,
              handshakes := c.handshakes + 1, hand := [] }, true)
  | .failed err => ({ c with handshakeComplete := false, handshakeErr := some err }, false)
  | .serverDone _ _ _ => (c, true)

/-- Modelled from the spec: `handleRenegotiation` is stock code absent from src/.
The message read must be a HelloRequest. A server refuses it, and so does a
client whose `Renegotiation` is `renegotiateNever`, or `renegotiateOnceAsClient`
after more than one handshake. The refusals return an alert without keeping it;
the `Bool` is whether `Read` goes on. -/
def handleRenegotiation (c : Conn) (o : HandshakeOutcome) : Conn × Bool :=
  match readHandshake c with
  | (c, some true) =>
    if !c.isClient then (c, false)
    else match c.renegotiation with
      | .renegotiateNever => (c, false)
      | .renegotiateOnceAsClient => if c.handshakes > 1 then (c, false) else c.renegotiate o
      | .renegotiateFreelyAsClient => c.renegotiate o
  | (c, _) => (c, false)

/-- `maxConsecutiveEmptyRecords` of `Read`. -/
def maxConsecutiveEmptyRecords : Nat := 16

/-- `Read`'s loops after its handshake, one record a turn, from a connection with
neither input nor a kept error, as the inner loop's test asks. A pass of
`readRecord` that goes back to `Again` reads the next record; one that returns
with an error ends the call. Handshake bytes left in the buffer start
`handleRenegotiation`, whose error ends the call. Then input is delivered whole,
and an empty record sends the outer loop round again while it has gone round
fewer than `maxConsecutiveEmptyRecords` times; `empty` counts those turns.
Running out of records is the EOF of reading a header. -/
def readLoop (o : HandshakeOutcome) (empty : Nat) (c : Conn) : List Record → Conn
  | [] => c.setError .eof
  | r :: rs =>
    match readRecordBody c recordTypeApplicationData r with
    | (c, true) => readLoop o empty c rs
    | (c, false) =>
      if c.inErr ≠ none then c else
      match if c.hand = [] then (c, true) else handleRenegotiation c o with
      | (c, false) => c
      | (c, true) =>
        match c.input with
        | none => readLoop o empty c rs
        | some data =>
          if data = [] ∧ empty < maxConsecutiveEmptyRecords then
            readLoop o (empty + 1) { c with input := none } rs
          else { c with input := none }

/-- `Read` after its handshake: a kept error is returned; input left by an
earlier call is delivered first, an empty one sending the outer loop round;
otherwise `readLoop` reads. -/
def readApplicationData (c : Conn) (o : HandshakeOutcome) (records : List Record) : Conn :=
  if c.inErr ≠ none then c else
  match c.input with
  | none => readLoop o 0 c records
  | some data =>
    if data = [] then readLoop o 1 { c with input := none } records else { c with input := none }

/-- Modelled from the spec: `Conn.Handshake`, `serverHandshake` and
`clientHandshake` are stock code absent from src/ but for the patch's line
`c.clientHello = hs.clientHello` before `c.handshakeComplete = true` in
`serverHandshake`. A completed or failed handshake is not run again; a server
that completes stores the ClientHello it read, a client that completes (as the
stock `clientHandshake` ends) only sets `handshakeComplete`, and both count the
handshake in `handshakes`. An outcome of the other role is not a handshake of
this connection. -/
def Conn.handshake (c : Conn) (o : HandshakeOutcome) : Conn :=
  if c.handshakeErr.isSome ∨ c.handshakeComplete then c else
  match c.isClient, o with
  | false, .serverDone ch vers armed =>
    { c with vers := vers, haveVers := true, ableToDetectNMinusOneSplitting := armed,
             clientHello := some ch, handshakeComplete := true, handshakes := c.handshakes + 1 }
  | true, .clientDone vers =>
    { c with vers := vers, haveVers := true, handshakeComplete := true,
             handshakes := c.handshakes + 1 }
  | _, .failed err => { c with handshakeErr := some err }
  | _, _ => c

/-- `c.Read(b)`: the handshake, then the loops. `o` is the outcome of the
handshake the call runs, the first one or a renegotiation. -/
def Conn.read (c : Conn) (o : HandshakeOutcome) (records : List Record) : Conn :=
  let c := c.handshake o
  if c.handshakeComplete then readApplicationData c o records else c

/-- The calls a user makes on a connection, with what the peer sends. `Write`
and `Close` change no modelled field beyond the handshake `Write` runs first. -/
inductive ConnCall
  | handshake (o : HandshakeOutcome)
  | read (o : HandshakeOutcome) (records : List Record)
  | write (o : HandshakeOutcome)
  | close
  deriving DecidableEq, Repr

def Conn.step (c : Conn) : ConnCall → Conn
  | .handshake o => c.handshake o
  | .read o records => c.read o records
  | .write o => c.handshake o
  | .close => c

/-- The states a fresh connection of either role reaches by any sequence of calls. -/
inductive Reachable : Conn → Prop
  | init (isClient : Bool) (renegotiation : RenegotiationSupport) :
    Reachable (Conn.init isClient renegotiation)
  | step {c : Conn} (call : ConnCall) : Reachable c → Reachable (c.step call)

/-- The text of Go's panic on a nil pointer dereference. -/
def nilDereference : String := "runtime error: invalid memory address or nil pointer dereference"

/-- `c.ConnectionState()` with the fields the classifier reads. The patch copies
them from `c.clientHello` once the handshake is complete; a nil `clientHello`
there is the error. -/
def Conn.connectionState (c : Conn) : Except String ConnectionState :=
  if c.handshakeComplete then
    match c.clientHello with
    | none => .error nilDereference
    | some ch =>
      .ok ⟨true, c.vers, ch.cipherSuites, ch.compressionMethods,
        c.nMinusOneRecordSplittingDetected, c.ableToDetectNMinusOneSplitting, ch.ticketSupported,
        ch.supportedVersions⟩
  else .ok ⟨false, 0, [], [], false, false, false, []⟩

/-- `c'` agrees with `c` on what no part of `Read` changes, a renegotiation
included: the role and its renegotiation policy, the ClientHello and whether the
probe is armed. -/
structure ReadKeeps (c c' : Conn) : Prop where
  isClient : c'.isClient = c.isClient
  renegotiation : c'.renegotiation = c.renegotiation
  clientHello : c'.clientHello = c.clientHello
  ableToDetect : c'.ableToDetectNMinusOneSplitting = c.ableToDetectNMinusOneSplitting

/-- `c'` agrees with `c` on everything a record read leaves alone when no
renegotiation can happen: what `ReadKeeps` holds, and the handshake and its
results. -/
structure ReadFrame (c c' : Conn) : Prop where
  isClient : c'.isClient = c.isClient
  renegotiation : c'.renegotiation = c.renegotiation
  vers : c'.vers = c.vers
  haveVers : c'.haveVers = c.haveVers
  handshakeComplete : c'.handshakeComplete = c.handshakeComplete
  handshakeErr : c'.handshakeErr = c.handshakeErr
  clientHello : c'.clientHello = c.clientHello
  ableToDetect : c'.ableToDetectNMinusOneSplitting = c.ableToDetectNMinusOneSplitting

theorem ReadFrame.refl (c : Conn) : ReadFrame c c := ⟨rfl, rfl, rfl, rfl, rfl, rfl, rfl, rfl⟩

theorem ReadFrame.trans {c c' c'' : Conn} (h : ReadFrame c c') (h' : ReadFrame c' c'') :
    ReadFrame c c'' :=
  ⟨h'.1.trans h.1, h'.2.trans h.2, h'.3.trans h.3, h'.4.trans h.4, h'.5.trans h.5, h'.6.trans h.6,
    h'.7.trans h.7, h'.8.trans h.8⟩

theorem ReadFrame.keeps {c c' : Conn} (h : ReadFrame c c') : ReadKeeps c c' :=
  ⟨h.isClient, h.renegotiation, h.clientHello, h.ableToDetect⟩

theorem ReadKeeps.trans {c c' c'' : Conn} (h : ReadKeeps c c') (h' : ReadKeeps c' c'') :
    ReadKeeps c c'' :=
  ⟨h'.1.trans h.1, h'.2.trans h.2, h'.3.trans h.3, h'.4.trans h.4⟩

section Record

variable (c : Conn) (want : UInt8)

/-- The switch writes the kept error, the warning count, the input and the
handshake bytes, and goes back to `Again` only after a warning alert, which
writes none of the error, the input and the handshake bytes. -/
theorem processRecord_eq (typ : UInt8) (data : List UInt8) :
    ∃ e w i h, (processRecord c want typ data).1 =
        { c with inErr := e, warnCount := w, input := i, hand := h } ∧
      ((processRecord c want typ data).2 = true → e = c.inErr ∧ i = c.input ∧ h = c.hand) := by
  unfold processRecord
  by_cases ha : typ = recordTypeAlert
  · rw [if_pos ha]
    rcases data with _ | ⟨level, _ | ⟨desc, _ | ⟨x, rest⟩⟩⟩
    · exact ⟨_, _, _, _, rfl, by simp⟩
    · exact ⟨_, _, _, _, rfl, by simp⟩
    · dsimp only
      split_ifs <;> exact ⟨_, _, _, _, rfl, by simp⟩
    · exact ⟨_, _, _, _, rfl, by simp⟩
  · rw [if_neg ha]
    split_ifs <;> exact ⟨_, _, _, _, rfl, by simp⟩

/-- A record that fails a check before the probe ends the read with an error. -/
theorem readRecordBody_of_not_reachesProbe {r : Record} (h : reachesProbe c want r = false) :
    ∃ err, readRecordBody c want r = (c.setError err, false) := by
  unfold readRecordBody
  by_cases h1 : want = recordTypeHandshake ∧ r.typ = 0x80
  · exact ⟨_, if_pos h1⟩
  rw [if_neg h1]
  by_cases h2 : c.haveVers ∧ r.vers ≠ c.vers
  · exact ⟨_, if_pos h2⟩
  rw [if_neg h2]
  by_cases h3 : r.length > maxCiphertext
  · exact ⟨_, if_pos h3⟩
  rw [if_neg h3]
  by_cases h4 : ¬c.haveVers ∧ ((r.typ ≠ recordTypeAlert ∧ r.typ ≠ want) ∨ r.vers ≥ 0x1000)
  · exact ⟨_, if_pos h4⟩
  rw [if_neg h4]
  cases hb : r.body with
  | failed a => exact ⟨_, rfl⟩
  | plaintext data =>
    have h5 : data.length > maxPlaintext := by
      simp only [reachesProbe, hb, decide_eq_false h1, decide_eq_false h2, decide_eq_false h3,
        decide_eq_false h4, Bool.not_false, Bool.true_and] at h
      simpa using h
    exact ⟨_, if_pos h5⟩

theorem readRecordBody_of_reachesProbe {r : Record} (h : reachesProbe c want r = true)
    {data : List UInt8} (hb : r.body = .plaintext data) :
    readRecordBody c want r =
      processRecord (probeRecord (if r.typ ≠ recordTypeAlert ∧ r.typ ≠ recordTypeChangeCipherSpec ∧
        data.length > 0 then { c with warnCount := 0 } else c) want data) want r.typ data := by
  simp only [reachesProbe, hb, Bool.and_eq_true, Bool.not_eq_true', decide_eq_false_iff_not] at h
  simp only [readRecordBody, hb]
  rw [if_neg h.1.1.1.1, if_neg h.1.1.1.2, if_neg h.1.1.2, if_neg h.1.2, if_neg h.2]

theorem probeRecord_eq (data : List UInt8) :
    probeRecord c want data =
      { c with
        readOneAppDataRecord := c.readOneAppDataRecord ||
          (c.ableToDetectNMinusOneSplitting && want == recordTypeApplicationData),
        nMinusOneRecordSplittingDetected :=
          if !c.readOneAppDataRecord && c.ableToDetectNMinusOneSplitting &&
            want == recordTypeApplicationData then data.length == 1 || data.length == 0
          else c.nMinusOneRecordSplittingDetected } := by
  cases c with
  | mk _ _ _ _ _ _ _ _ _ _ _ _ able readOne _ =>
    unfold probeRecord
    cases readOne <;> cases able <;> cases want == recordTypeApplicationData <;> rfl

/-- What one pass can change, said once: either an error ends the read before
the probe, or the probe and then the switch run on the plaintext. -/
theorem readRecordBody_cases (r : Record) :
    (reachesProbe c want r = false ∧ ∃ err, readRecordBody c want r = (c.setError err, false)) ∨
    (reachesProbe c want r = true ∧ ∃ data e w i h, r.body = .plaintext data ∧
      (readRecordBody c want r).1 =
        { probeRecord c want data with inErr := e, warnCount := w, input := i, hand := h } ∧
      ((readRecordBody c want r).2 = true → e = c.inErr ∧ i = c.input ∧ h = c.hand)) := by
  cases hr : reachesProbe c want r
  · exact .inl ⟨rfl, readRecordBody_of_not_reachesProbe c want hr⟩
  refine .inr ⟨rfl, ?_⟩
  cases hb : r.body with
  | failed a => simp [reachesProbe, hb] at hr
  | plaintext data =>
    rw [readRecordBody_of_reachesProbe c want hr hb]
    obtain ⟨e, w, i, h, heq, hagain⟩ := processRecord_eq (probeRecord (if r.typ ≠ recordTypeAlert ∧
      r.typ ≠ recordTypeChangeCipherSpec ∧ data.length > 0 then { c with warnCount := 0 } else c)
      want data) want r.typ data
    refine ⟨data, e, w, i, h, rfl, ?_, fun ha => ?_⟩
    · rw [heq]
      split_ifs <;> simp only [probeRecord_eq]
    obtain ⟨he, hi, hh⟩ := hagain ha
    refine ⟨he.trans ?_, hi.trans ?_, hh.trans ?_⟩ <;> split_ifs <;> simp only [probeRecord_eq]

theorem readRecordBody_frame (r : Record) : ReadFrame c (readRecordBody c want r).1 := by
  rcases readRecordBody_cases c want r with ⟨-, err, heq⟩ | ⟨-, data, e, w, i, h, -, heq, -⟩
  · rw [heq]
    exact ⟨rfl, rfl, rfl, rfl, rfl, rfl, rfl, rfl⟩
  · rw [heq, probeRecord_eq]
    exact ⟨rfl, rfl, rfl, rfl, rfl, rfl, rfl, rfl⟩

/-- A pass that goes back to `Again` keeps the read going: no error, no input and
no handshake bytes appear. -/
theorem readRecordBody_again {r : Record} (h : (readRecordBody c want r).2 = true) :
    (readRecordBody c want r).1.inErr = c.inErr ∧ (readRecordBody c want r).1.input = c.input ∧
      (readRecordBody c want r).1.hand = c.hand := by
  rcases readRecordBody_cases c want r with ⟨-, err, heq⟩ | ⟨-, data, e, w, i, hd, -, heq, hagain⟩
  · rw [heq] at h
    cases h
  · obtain ⟨he, hi, hh⟩ := hagain h
    rw [heq]
    exact ⟨he, hi, hh⟩

/-- The probe fires on the first record of a read for application data that
passes the checks before it, whatever its type. -/
theorem readRecordBody_readOne (r : Record) :
    (readRecordBody c want r).1.readOneAppDataRecord = (c.readOneAppDataRecord ||
      (reachesProbe c want r && c.ableToDetectNMinusOneSplitting &&
        want == recordTypeApplicationData)) := by
  rcases readRecordBody_cases c want r with ⟨hr, err, heq⟩ | ⟨hr, data, e, w, i, h, -, heq, -⟩
  · rw [heq, hr]
    simp [Conn.setError]
  · rw [heq, probeRecord_eq, hr]
    simp only [Bool.true_and]

theorem readRecordBody_nMinusOne (r : Record) :
    (readRecordBody c want r).1.nMinusOneRecordSplittingDetected =
      if reachesProbe c want r && !c.readOneAppDataRecord && c.ableToDetectNMinusOneSplitting &&
        want == recordTypeApplicationData then r.body.length == 1 || r.body.length == 0
      else c.nMinusOneRecordSplittingDetected := by
  rcases readRecordBody_cases c want r with ⟨hr, err, heq⟩ | ⟨hr, data, e, w, i, h, hb, heq, -⟩
  · rw [heq, hr]
    simp [Conn.setError]
  · rw [heq, probeRecord_eq, hr, hb]
    simp only [Bool.true_and, Decrypted.length]

end Record

section Renegotiation

variable (c : Conn) (o : HandshakeOutcome)

/-- `readHandshake` writes the kept error and the buffer, and nothing else. -/
theorem readHandshake_eq : ∃ e h, (readHandshake c).1 = { c with inErr := e, hand := h } := by
  unfold readHandshake
  split
  · dsimp only
    split_ifs <;> exact ⟨_, _, rfl⟩
  · exact ⟨_, _, rfl⟩

theorem Conn.renegotiate_keeps : ReadKeeps c (c.renegotiate o).1 := by
  cases o <;> exact ⟨rfl, rfl, rfl, rfl⟩

theorem Conn.renegotiate_probe :
    (c.renegotiate o).1.readOneAppDataRecord = c.readOneAppDataRecord ∧
      (c.renegotiate o).1.nMinusOneRecordSplittingDetected = c.nMinusOneRecordSplittingDetected := by
  cases o <;> exact ⟨rfl, rfl⟩

/-- What handling a renegotiation can do, said once: `readHandshake` writes the
kept error and the buffer, and only a client that allows renegotiation goes on to
a handshake. -/
theorem handleRenegotiation_cases :
    ∃ e h, (handleRenegotiation c o).1 = { c with inErr := e, hand := h } ∨
      c.isClient = true ∧ c.renegotiation ≠ .renegotiateNever ∧
        (handleRenegotiation c o).1 = ({ c with inErr := e, hand := h }.renegotiate o).1 := by
  obtain ⟨e, h, heq⟩ := readHandshake_eq c
  refine ⟨e, h, ?_⟩
  unfold handleRenegotiation
  rcases hr : readHandshake c with ⟨c', _ | _ | _⟩ <;> rw [hr] at heq <;> subst heq
  · exact .inl rfl
  · exact .inl rfl
  cases hcl : c.isClient
  · exact .inl (by simp [hcl])
  cases hreg : c.renegotiation
  · exact .inl (by simp [hcl, hreg])
  · by_cases hn : c.handshakes > 1
    · exact .inl (by simp [hcl, hreg, hn])
    · exact .inr ⟨rfl, by simp [hreg], by simp [hcl, hreg, hn]⟩
  · exact .inr ⟨rfl, by simp [hreg], by simp [hcl, hreg]⟩

theorem handleRenegotiation_keeps : ReadKeeps c (handleRenegotiation c o).1 := by
  obtain ⟨e, h, heq | ⟨-, -, heq⟩⟩ := handleRenegotiation_cases c o <;> rw [heq]
  · exact ⟨rfl, rfl, rfl, rfl⟩
  · have hk := Conn.renegotiate_keeps { c with inErr := e, hand := h } o
    exact ⟨hk.1, hk.2, hk.3, hk.4⟩

theorem handleRenegotiation_probe :
    (handleRenegotiation c o).1.readOneAppDataRecord = c.readOneAppDataRecord ∧
      (handleRenegotiation c o).1.nMinusOneRecordSplittingDetected =
        c.nMinusOneRecordSplittingDetected := by
  obtain ⟨e, h, heq | ⟨-, -, heq⟩⟩ := handleRenegotiation_cases c o <;> rw [heq]
  · exact ⟨rfl, rfl⟩
  · exact Conn.renegotiate_probe { c with inErr := e, hand := h } o

/-- A server, or a client that never renegotiates, refuses before any handshake. -/
theorem handleRenegotiation_frame
    (hr : c.isClient = false ∨ c.renegotiation = .renegotiateNever) :
    ReadFrame c (handleRenegotiation c o).1 := by
  obtain ⟨e, h, heq | ⟨hcl, hreg, -⟩⟩ := handleRenegotiation_cases c o
  · rw [heq]
    exact ⟨rfl, rfl, rfl, rfl, rfl, rfl, rfl, rfl⟩
  · rcases hr with hr | hr
    · exact absurd (hcl.symm.trans hr) Bool.noConfusion
    · exact absurd hr hreg

end Renegotiation

/-- A property of connections that every part of `Read`'s loops keeps: a pass of
`readRecord`, a renegotiation, the delivery of input and the EOF at the end of
the records. -/
structure ReadInvariant (P : Conn → Prop) (o : HandshakeOutcome) : Prop where
  pass : ∀ c r, P c → P (readRecordBody c recordTypeApplicationData r).1
  renegotiation : ∀ c, P c → P (handleRenegotiation c o).1
  deliver : ∀ c, P c → P { c with input := none }
  eof : ∀ c, P c → P (c.setError .eof)

section Loop

variable {P : Conn → Prop} {o : HandshakeOutcome}

/-- A turn of the loop after a first pass from which the property holds: every
way the turn goes on keeps it. -/
theorem ReadInvariant.readLoop_cons (hP : ReadInvariant P o) {rs : List Record}
    (ih : ∀ empty c, P c → P (readLoop o empty c rs)) (empty : Nat) (c : Conn) (r : Record)
    (h : P (readRecordBody c recordTypeApplicationData r).1) :
    P (readLoop o empty c (r :: rs)) := by
  rw [readLoop]
  rcases hb : readRecordBody c recordTypeApplicationData r with ⟨c1, _ | _⟩ <;> rw [hb] at h <;>
    dsimp only
  · by_cases he : c1.inErr ≠ none
    · rw [if_pos he]
      exact h
    rw [if_neg he]
    have h2 : P (if c1.hand = [] then (c1, true) else handleRenegotiation c1 o).1 := by
      split_ifs
      · exact h
      · exact hP.renegotiation c1 h
    rcases hp : (if c1.hand = [] then (c1, true) else handleRenegotiation c1 o) with
      ⟨c2, _ | _⟩ <;> rw [hp] at h2 <;> dsimp only
    · exact h2
    split
    · exact ih empty c2 h2
    · split_ifs
      · exact ih _ _ (hP.deliver c2 h2)
      · exact hP.deliver c2 h2
  · exact ih empty c1 h

theorem ReadInvariant.of_readLoop (hP : ReadInvariant P o) (rs : List Record) :
    ∀ empty c, P c → P (readLoop o empty c rs) := by
  induction rs with
  | nil => exact fun _ c h => hP.eof c h
  | cons r rs ih => exact fun empty c h => hP.readLoop_cons ih empty c r (hP.pass c r h)

theorem ReadInvariant.of_readApplicationData (hP : ReadInvariant P o) {c : Conn} (h : P c)
    (rs : List Record) : P (readApplicationData c o rs) := by
  unfold readApplicationData
  split_ifs
  · exact h
  split
  · exact hP.of_readLoop rs 0 c h
  · split_ifs
    · exact hP.of_readLoop rs 1 _ (hP.deliver c h)
    · exact hP.deliver c h

end Loop

theorem readInvariant_keeps (c : Conn) (o : HandshakeOutcome) : ReadInvariant (ReadKeeps c) o where
  pass c' r h := h.trans (readRecordBody_frame c' _ r).keeps
  renegotiation c' h := h.trans (handleRenegotiation_keeps c' o)
  deliver _ h := h.trans ⟨rfl, rfl, rfl, rfl⟩
  eof _ h := h.trans ⟨rfl, rfl, rfl, rfl⟩

theorem readInvariant_frame (c : Conn) (hr : c.isClient = false ∨ c.renegotiation = .renegotiateNever)
    (o : HandshakeOutcome) : ReadInvariant (ReadFrame c) o where
  pass c' r h := h.trans (readRecordBody_frame c' _ r)
  renegotiation c' h := h.trans (handleRenegotiation_frame c' o (by rw [h.isClient, h.renegotiation]; exact hr))
  deliver _ h := h.trans ⟨rfl, rfl, rfl, rfl, rfl, rfl, rfl, rfl⟩
  eof _ h := h.trans ⟨rfl, rfl, rfl, rfl, rfl, rfl, rfl, rfl⟩

/-- Once fired, the probe is left alone: a pass measures only an unfired probe,
and nothing else in `Read` touches it. -/
theorem readInvariant_measured (v : Bool) (o : HandshakeOutcome) :
    ReadInvariant (fun c => c.readOneAppDataRecord = true ∧ c.nMinusOneRecordSplittingDetected = v)
      o where
  pass c r h := by
    rw [readRecordBody_readOne, readRecordBody_nMinusOne, h.1]
    simp [h.2]
  renegotiation c h := by rw [(handleRenegotiation_probe c o).1, (handleRenegotiation_probe c o).2]; exact h
  deliver _ h := h
  eof _ h := h

/-- Every part of `Read` keeps the role, the policy, the ClientHello and the arming. -/
theorem readApplicationData_keeps (c : Conn) (o : HandshakeOutcome) (rs : List Record) :
    ReadKeeps c (readApplicationData c o rs) :=
  (readInvariant_keeps c o).of_readApplicationData ⟨rfl, rfl, rfl, rfl⟩ rs

/-- On a server, and on a client that never renegotiates, `Read` leaves the
handshake and its results alone. -/
theorem readApplicationData_frame (c : Conn)
    (hr : c.isClient = false ∨ c.renegotiation = .renegotiateNever) (o : HandshakeOutcome)
    (rs : List Record) : ReadFrame c (readApplicationData c o rs) :=
  (readInvariant_frame c hr o).of_readApplicationData (ReadFrame.refl c) rs

/-- Once the probe has fired, no record changes its two fields. -/
theorem readApplicationData_measured {c : Conn} (h : c.readOneAppDataRecord = true)
    (o : HandshakeOutcome) (rs : List Record) :
    (readApplicationData c o rs).readOneAppDataRecord = true ∧
      (readApplicationData c o rs).nMinusOneRecordSplittingDetected =
        c.nMinusOneRecordSplittingDetected :=
  (readInvariant_measured _ o).of_readApplicationData ⟨h, rfl⟩ rs

/-- A server connection that has completed a TLS 1.0 handshake with the probe armed. -/
def armedServer : Conn :=
  { Conn.init false .renegotiateNever with
    vers := versionTLS10, haveVers := true, handshakeComplete := true, handshakes := 1,
    ableToDetectNMinusOneSplitting := true }

/-- With no error and no input, `Read` goes straight to its loop. -/
theorem readApplicationData_of_waiting {c : Conn} (hi : c.input = none) (he : c.inErr = none)
    (o : HandshakeOutcome) (rs : List Record) : readApplicationData c o rs = readLoop o 0 c rs := by
  simp [readApplicationData, hi, he]

/-- A first record that passes the checks before the armed, unfired probe is
measured: the probe fires and records whether the record held one byte or none,
and no later record changes that. -/
theorem readApplicationData_probe_measures {c : Conn} (o : HandshakeOutcome)
    (hwait : c.input = none ∧ c.inErr = none ∧ c.hand = [])
    (harmed : c.ableToDetectNMinusOneSplitting = true) (hfresh : c.readOneAppDataRecord = false)
    {r : Record} (rs : List Record) (hr : reachesProbe c recordTypeApplicationData r = true) :
    (readApplicationData c o (r :: rs)).readOneAppDataRecord = true ∧
      (readApplicationData c o (r :: rs)).nMinusOneRecordSplittingDetected =
        (r.body.length == 1 || r.body.length == 0) := by
  rw [readApplicationData_of_waiting hwait.1 hwait.2.1]
  have h1 := readRecordBody_readOne c recordTypeApplicationData r
  have h2 := readRecordBody_nMinusOne c recordTypeApplicationData r
  simp only [hfresh, harmed, hr, Bool.false_or, Bool.not_false, Bool.and_true, beq_self_eq_true,
    if_true] at h1 h2
  have hP := readInvariant_measured (r.body.length == 1 || r.body.length == 0) o
  exact hP.readLoop_cons (hP.of_readLoop rs) 0 c r ⟨h1, h2⟩

/-- On a connection waiting for application data with the probe armed and not
yet fired, the first record read decides the probe, whatever its type: if it
passes the checks before the probe its length is measured, and otherwise the
read ends in an error. -/
theorem readApplicationData_first_record (c : Conn) (o : HandshakeOutcome)
    (hwait : c.input = none ∧ c.inErr = none ∧ c.hand = [])
    (harmed : c.ableToDetectNMinusOneSplitting = true) (hfresh : c.readOneAppDataRecord = false)
    (r : Record) (rs : List Record) :
    (readApplicationData c o (r :: rs)).readOneAppDataRecord =
        reachesProbe c recordTypeApplicationData r ∧
      (reachesProbe c recordTypeApplicationData r = true →
        (readApplicationData c o (r :: rs)).nMinusOneRecordSplittingDetected =
          (r.body.length == 1 || r.body.length == 0)) ∧
      (reachesProbe c recordTypeApplicationData r = false →
        (readApplicationData c o (r :: rs)).inErr ≠ none) := by
  cases hr : reachesProbe c recordTypeApplicationData r
  · obtain ⟨err, heq⟩ := readRecordBody_of_not_reachesProbe c recordTypeApplicationData hr
    have hend : readApplicationData c o (r :: rs) = c.setError err := by
      simp [readApplicationData_of_waiting hwait.1 hwait.2.1, readLoop, heq, Conn.setError]
    rw [hend]
    exact ⟨hfresh, nofun, fun _ => by simp [Conn.setError]⟩
  · obtain ⟨hm1, hm2⟩ := readApplicationData_probe_measures o hwait harmed hfresh rs hr
    exact ⟨hm1, fun _ => hm2, nofun⟩

/-- A warning alert read first is what the probe measures. -/
theorem readApplicationData_first_record_alert :
    (armedServer.input = none ∧ armedServer.inErr = none ∧ armedServer.hand = []) ∧
      armedServer.ableToDetectNMinusOneSplitting = true ∧
      armedServer.readOneAppDataRecord = false ∧
      (readApplicationData armedServer (.failed .eof)
        [⟨recordTypeAlert, versionTLS10, 32, .plaintext [alertLevelWarning, 90]⟩,
          ⟨recordTypeApplicationData, versionTLS10, 32, .plaintext [0x47]⟩]).nMinusOneRecordSplittingDetected =
        false :=
  ⟨⟨rfl, rfl, rfl⟩, rfl, rfl, (readApplicationData_first_record armedServer (.failed .eof)
    ⟨rfl, rfl, rfl⟩ rfl rfl _ _).2.1 rfl⟩

/-- A client that renegotiates freely reads a HelloRequest and takes the version
of the new handshake. -/
example : (readApplicationData { Conn.init true .renegotiateFreelyAsClient with
      vers := versionTLS10, haveVers := true, handshakeComplete := true, handshakes := 1 }
    (.clientDone versionTLS12)
    [⟨recordTypeHandshake, versionTLS10, 32, .plaintext [typeHelloRequest, 0, 0, 0]⟩]).vers =
      versionTLS12 := rfl

section Lifecycle

variable {c : Conn}

theorem Conn.handshake_of_handshakeComplete (hc : c.handshakeComplete = true)
    (o : HandshakeOutcome) : c.handshake o = c := by
  simp [Conn.handshake, hc]

theorem Conn.read_of_handshakeComplete (hc : c.handshakeComplete = true) (o : HandshakeOutcome)
    (rs : List Record) : c.read o rs = readApplicationData c o rs := by
  simp [Conn.read, Conn.handshake_of_handshakeComplete hc, hc]

/-- The handshake leaves the probe's two fields alone. -/
theorem Conn.handshake_probe (o : HandshakeOutcome) :
    (c.handshake o).readOneAppDataRecord = c.readOneAppDataRecord ∧
      (c.handshake o).nMinusOneRecordSplittingDetected = c.nMinusOneRecordSplittingDetected := by
  unfold Conn.handshake
  split_ifs
  · exact ⟨rfl, rfl⟩
  · split <;> exact ⟨rfl, rfl⟩

/-- Once the probe has fired, no later call changes its two fields. -/
theorem Conn.step_measured (h : c.readOneAppDataRecord = true) (call : ConnCall) :
    (c.step call).readOneAppDataRecord = true ∧
      (c.step call).nMinusOneRecordSplittingDetected = c.nMinusOneRecordSplittingDetected := by
  have h1 o := (@Conn.handshake_probe c o).1
  have h2 o := (@Conn.handshake_probe c o).2
  cases call with
  | handshake o | write o => exact ⟨(h1 o).trans h, h2 o⟩
  | close => exact ⟨h, rfl⟩
  | read o records =>
    obtain ⟨m1, m2⟩ := readApplicationData_measured ((h1 o).trans h) o records
    simp only [Conn.step, Conn.read]
    split_ifs
    · exact ⟨m1, m2.trans (h2 o)⟩
    · exact ⟨(h1 o).trans h, h2 o⟩

/-- The calls made one after another. -/
def Conn.run (c : Conn) (calls : List ConnCall) : Conn := calls.foldl Conn.step c

theorem Reachable.run (h : Reachable c) (calls : List ConnCall) : Reachable (c.run calls) := by
  induction calls generalizing c with
  | nil => exact h
  | cons call calls ih => exact ih (.step call h)

/-- Once the probe has fired, it keeps its result over every later sequence of
calls. -/
theorem Conn.run_measured (h : c.readOneAppDataRecord = true) (calls : List ConnCall) :
    (c.run calls).readOneAppDataRecord = true ∧
      (c.run calls).nMinusOneRecordSplittingDetected = c.nMinusOneRecordSplittingDetected := by
  induction calls generalizing c with
  | nil => exact ⟨h, rfl⟩
  | cons call calls ih =>
    obtain ⟨h1, h2⟩ := Conn.step_measured h call
    exact (ih h1).imp id (·.trans h2)

/-- A split record read after the probe measured two bytes changes nothing. -/
theorem Conn.run_measured_split :
    ({ armedServer with readOneAppDataRecord := true }).readOneAppDataRecord = true ∧
      (({ armedServer with readOneAppDataRecord := true }).run
        [.read (.failed .eof) [⟨recordTypeApplicationData, versionTLS10, 32, .plaintext [0x47]⟩]]
        ).nMinusOneRecordSplittingDetected = false :=
  ⟨rfl, (@Conn.run_measured _ rfl _).2⟩

/-- After the handshake of a server, or of a client that never renegotiates, a
call changes nothing but what a record read changes. -/
theorem Conn.step_frame (hc : c.handshakeComplete = true)
    (hr : c.isClient = false ∨ c.renegotiation = .renegotiateNever) (call : ConnCall) :
    ReadFrame c (c.step call) := by
  cases call with
  | handshake o | write o =>
    show ReadFrame c (c.handshake o)
    rw [Conn.handshake_of_handshakeComplete hc o]
    exact ReadFrame.refl c
  | close => exact ReadFrame.refl c
  | read o records =>
    show ReadFrame c (c.read o records)
    rw [Conn.read_of_handshakeComplete hc]
    exact readApplicationData_frame c hr o records

/-- Once the handshake of a server, or of a client that never renegotiates, is
complete, the role, the version, the ClientHello and the probe's arming are fixed
for the rest of the connection's life. -/
theorem Conn.run_frame (hc : c.handshakeComplete = true)
    (hr : c.isClient = false ∨ c.renegotiation = .renegotiateNever) (calls : List ConnCall) :
    ReadFrame c (c.run calls) := by
  induction calls generalizing c with
  | nil => exact ReadFrame.refl c
  | cons call calls ih =>
    have hf := Conn.step_frame hc hr call
    exact hf.trans (ih (hf.handshakeComplete.trans hc) (by rw [hf.isClient, hf.renegotiation]; exact hr))

theorem Conn.run_frame_armed :
    armedServer.handshakeComplete = true ∧
      (armedServer.isClient = false ∨ armedServer.renegotiation = .renegotiateNever) ∧
      (armedServer.run [.read (.failed .eof)
        [⟨recordTypeApplicationData, versionTLS10, 32, .plaintext [0x47]⟩], .close]).vers =
        versionTLS10 :=
  ⟨rfl, .inl rfl, (@Conn.run_frame armedServer rfl (.inl rfl) _).vers⟩

/-- On a server, a completed handshake has kept its ClientHello. -/
def ServerHelloKept (c : Conn) : Prop :=
  c.isClient = false → c.handshakeComplete = true → c.clientHello.isSome = true

theorem Conn.handshake_kept (h : ServerHelloKept c) (o : HandshakeOutcome) :
    ServerHelloKept (c.handshake o) := by
  unfold Conn.handshake
  split_ifs
  · exact h
  · split
    · intro _ _
      rfl
    · rename_i hcl
      intro hc
      exact absurd (hcl.symm.trans hc) Bool.noConfusion
    · exact h
    · exact h

theorem ServerHelloKept.of_frame {c c' : Conn} (h : ServerHelloKept c) (hf : ReadFrame c c') :
    ServerHelloKept c' := by
  intro hc hh
  rw [hf.clientHello]
  exact h (hf.isClient ▸ hc) (hf.handshakeComplete ▸ hh)

/-- `Read` keeps the ClientHello of a server; a client has none to keep. -/
theorem ServerHelloKept.readApplicationData (h : ServerHelloKept c) (o : HandshakeOutcome)
    (rs : List Record) : ServerHelloKept (readApplicationData c o rs) := by
  cases hs : c.isClient
  · exact h.of_frame (readApplicationData_frame c (.inl hs) o rs)
  · intro hcl
    rw [(readApplicationData_keeps c o rs).isClient, hs] at hcl
    cases hcl

theorem Conn.step_kept (h : ServerHelloKept c) (call : ConnCall) : ServerHelloKept (c.step call) := by
  cases call with
  | handshake o | write o => exact Conn.handshake_kept h o
  | close => exact h
  | read o records =>
    have hk := Conn.handshake_kept h o
    simp only [Conn.step, Conn.read]
    split_ifs
    · exact hk.readApplicationData o records
    · exact hk

/-- Every server connection that has completed its handshake holds a ClientHello. -/
theorem Reachable.serverHelloKept (h : Reachable c) : ServerHelloKept c := by
  induction h with
  | init isClient renegotiation => intro _ hh; cases hh
  | step call _ ih => exact Conn.step_kept ih call

/-- `ConnectionState` never fails on a server connection. -/
theorem Reachable.connectionState_server (h : Reachable c) (hs : c.isClient = false) :
    ∃ st, c.connectionState = .ok st := by
  unfold Conn.connectionState
  split_ifs with hc
  · obtain ⟨ch, hch⟩ := Option.isSome_iff_exists.mp (h.serverHelloKept hs hc)
    exact ⟨_, by rw [hch]⟩
  · exact ⟨_, rfl⟩

/-- A server connection whose handshake has completed. -/
def completedServer : Conn :=
  (Conn.init false .renegotiateNever).step
    (.handshake (.serverDone ⟨versionTLS10, [TLS_RSA_WITH_AES_128_CBC_SHA], [0], [], false, []⟩
      versionTLS10 true))

theorem Reachable.connectionState_completedServer :
    Reachable completedServer ∧ completedServer.isClient = false ∧
      ∃ st, completedServer.connectionState = .ok st :=
  ⟨.step _ (.init _ _), rfl, Reachable.connectionState_server (.step _ (.init _ _)) rfl⟩

/-- A client connection whose handshake has completed. -/
def completedClient : Conn :=
  (Conn.init true .renegotiateNever).step (.handshake (.clientDone versionTLS12))

/-- The client's handshake completes without a ClientHello, and `ConnectionState`
then dereferences the nil pointer. -/
theorem completedClient_connectionState :
    Reachable completedClient ∧ completedClient.handshakeComplete = true ∧
      completedClient.clientHello = none ∧
      completedClient.connectionState = .error nilDereference :=
  ⟨.step _ (.init _ _), rfl, rfl, rfl⟩

/-- The probe is armed only on a server; a split is recorded only after the
probe has fired, and the probe fires only on an armed connection whose handshake
is complete. -/
structure ProbeSound (c : Conn) : Prop where
  armed : c.ableToDetectNMinusOneSplitting = true → c.isClient = false
  readOne : c.readOneAppDataRecord = true →
    c.ableToDetectNMinusOneSplitting = true ∧ c.handshakeComplete = true
  nMinusOne : c.nMinusOneRecordSplittingDetected = true → c.readOneAppDataRecord = true

/-- Before the handshake completes the probe has not fired. -/
theorem ProbeSound.fresh (h : ProbeSound c) (hc : c.handshakeComplete = false) :
    c.readOneAppDataRecord = false ∧ c.nMinusOneRecordSplittingDetected = false := by
  have hr : c.readOneAppDataRecord = false :=
    Bool.eq_false_iff.mpr fun hr => absurd (h.readOne hr).2 (by simp [hc])
  exact ⟨hr, Bool.eq_false_iff.mpr fun hn => absurd (h.nMinusOne hn) (by simp [hr])⟩

/-- On a client the probe is neither armed nor fired. -/
theorem ProbeSound.client (h : ProbeSound c) (hcl : c.isClient = true) :
    c.ableToDetectNMinusOneSplitting = false ∧ c.readOneAppDataRecord = false ∧
      c.nMinusOneRecordSplittingDetected = false := by
  have ha : c.ableToDetectNMinusOneSplitting = false :=
    Bool.eq_false_iff.mpr fun ha => absurd ((h.armed ha).symm.trans hcl) Bool.noConfusion
  have hr : c.readOneAppDataRecord = false :=
    Bool.eq_false_iff.mpr fun hr => absurd (h.readOne hr).1 (by simp [ha])
  exact ⟨ha, hr, Bool.eq_false_iff.mpr fun hn => absurd (h.nMinusOne hn) (by simp [hr])⟩

theorem ProbeSound.of_frame {c c' : Conn} (h : ProbeSound c) (hf : ReadFrame c c')
    (hr : c'.readOneAppDataRecord = c.readOneAppDataRecord)
    (hn : c'.nMinusOneRecordSplittingDetected = c.nMinusOneRecordSplittingDetected) :
    ProbeSound c' := by
  refine ⟨fun ha => ?_, fun h1 => ?_, fun h2 => hr ▸ h.nMinusOne (hn ▸ h2)⟩
  · rw [hf.isClient]
    exact h.armed (hf.ableToDetect ▸ ha)
  · rw [hf.ableToDetect, hf.handshakeComplete]
    exact h.readOne (hr ▸ h1)

/-- The probe of a server is sound whenever it fires on a completed handshake;
this is what `Read`'s loops keep. -/
def ProbeReady (c : Conn) : Prop := ProbeSound c ∧ (c.isClient = false → c.handshakeComplete = true)

/-- One pass of the record loop fires the probe only on an armed connection,
which is a server whose handshake is complete, and records a split only as it
fires. -/
theorem ProbeReady.readRecordBody (h : ProbeReady c) (r : Record) :
    ProbeReady (readRecordBody c recordTypeApplicationData r).1 := by
  have hf := readRecordBody_frame c recordTypeApplicationData r
  refine ⟨⟨fun ha => ?_, ?_, ?_⟩, fun hs => ?_⟩
  · rw [hf.isClient]
    exact h.1.armed (hf.ableToDetect ▸ ha)
  · rw [readRecordBody_readOne, hf.ableToDetect, hf.handshakeComplete, Bool.or_eq_true]
    rintro (hr | hp)
    · exact h.1.readOne hr
    · simp only [Bool.and_eq_true] at hp
      exact ⟨hp.1.2, h.2 (h.1.armed hp.1.2)⟩
  · rw [readRecordBody_nMinusOne, readRecordBody_readOne]
    simp only [Bool.or_eq_true, Bool.and_eq_true]
    split
    · rename_i hp
      exact fun _ => .inr ⟨⟨hp.1.1.1, hp.1.2⟩, hp.2⟩
    · exact fun hn => .inl (h.1.nMinusOne hn)
  · rw [hf.handshakeComplete]
    exact h.2 (hf.isClient ▸ hs)

/-- A renegotiation leaves a server as it was and a client's probe unarmed. -/
theorem ProbeReady.renegotiation (h : ProbeReady c) (o : HandshakeOutcome) :
    ProbeReady (handleRenegotiation c o).1 := by
  obtain ⟨hr, hn⟩ := handleRenegotiation_probe c o
  cases hs : c.isClient
  · have hf := handleRenegotiation_frame c o (.inl hs)
    exact ⟨h.1.of_frame hf hr hn, fun _ => hf.handshakeComplete.trans (h.2 hs)⟩
  · have hk := handleRenegotiation_keeps c o
    obtain ⟨ha, hr0, hn0⟩ := h.1.client hs
    refine ⟨⟨fun ha' => ?_, fun hr' => ?_, fun hn' => ?_⟩, fun hs' => ?_⟩
    · rw [hk.ableToDetect, ha] at ha'
      cases ha'
    · rw [hr, hr0] at hr'
      cases hr'
    · rw [hn, hn0] at hn'
      cases hn'
    · rw [hk.isClient, hs] at hs'
      cases hs'

theorem readInvariant_probeReady (o : HandshakeOutcome) : ReadInvariant ProbeReady o where
  pass _ r h := h.readRecordBody r
  renegotiation _ h := h.renegotiation o
  deliver _ h := ⟨h.1.of_frame ⟨rfl, rfl, rfl, rfl, rfl, rfl, rfl, rfl⟩ rfl rfl, h.2⟩
  eof _ h := ⟨h.1.of_frame ⟨rfl, rfl, rfl, rfl, rfl, rfl, rfl, rfl⟩ rfl rfl, h.2⟩

theorem ProbeSound.handshake (h : ProbeSound c) (o : HandshakeOutcome) :
    ProbeSound (c.handshake o) := by
  cases hc : c.handshakeComplete
  · obtain ⟨hr, hn⟩ := h.fresh hc
    obtain ⟨h1, h2⟩ := Conn.handshake_probe (c := c) o
    refine ⟨?_, fun h' => absurd (h1 ▸ h') (by simp [hr]),
      fun h' => absurd (h2 ▸ h') (by simp [hn])⟩
    unfold Conn.handshake
    split_ifs
    · exact h.armed
    split
    · exact fun _ => by assumption
    all_goals exact h.armed
  · rwa [Conn.handshake_of_handshakeComplete hc]

theorem ProbeSound.step (h : ProbeSound c) (call : ConnCall) : ProbeSound (c.step call) := by
  cases call with
  | handshake o | write o => exact h.handshake o
  | close => exact h
  | read o records =>
    have hh := h.handshake o
    simp only [Conn.step, Conn.read]
    split_ifs with hc
    · exact ((readInvariant_probeReady o).of_readApplicationData ⟨hh, fun _ => hc⟩ records).1
    · exact hh

/-- On every connection either role reaches, a recorded split was measured by the
probe, and the probe fired only after an armed handshake, which only a server
makes. -/
theorem Reachable.probeSound (h : Reachable c) : ProbeSound c := by
  induction h with
  | init isClient renegotiation => exact ⟨nofun, nofun, nofun⟩
  | step call _ ih => exact ih.step call

end Lifecycle

end CheckTlsSupport.Tls110
