import CheckTlsSupport.InsecureSuites
import CheckTlsSupport.Tls110.Common

/-!
# `pullClientInfo`

The classifier turns the connection state of a finished handshake into the
report. Its one loop walks the client's cipher suites once, left to right,
appending display names, attaching reasons to suite names in two maps, and
carrying the 3DES suites seen since the last flush in `sweet32Seen`. Two short
loops follow: one over the compression methods, one over the supported_versions
values, which can raise the reported version. The rating reads the results.

`SuiteScan` holds exactly the fields the suite loop writes, and
`scanCipherSuite` is one iteration of it. The tables `allCipherSuites`,
`cbcSuites`, `metaCipherSuites` and `tls13Suites` live outside the two files
modelled here and are a parameter, `Catalogue`: every result below holds for
all of them. `TLSVersionFloat`, a `float64`, is not modelled.
-/

namespace CheckTlsSupport

open Tls110 Go

/-- The suite tables the classifier reads, declared outside `client_info.go` and
`insecure_suites.go`. -/
structure Catalogue where
  allCipherSuites : UInt16 → Option String
  cbcSuites : UInt16 → Bool
  metaCipherSuites : UInt16 → Bool
  tls13Suites : UInt16 → Bool

/-- `rating`, a string type with three values. -/
inductive Rating
  | good
  | improvable
  | bad
  deriving DecidableEq, Repr

def goodScore : Int := 10
def improvableScore : Int := 5
def badScore : Int := 0

def versionTLS13 : UInt16 := 0x0304
def versionTLS13Draft18 : UInt16 := 0x7f00 ||| 18
def versionTLS13Draft21 : UInt16 := 0x7f00 ||| 21
def versionTLS13Draft22 : UInt16 := 0x7f00 ||| 22
def versionTLS13Draft23 : UInt16 := 0x7f00 ||| 23
def versionTLS13Draft24 : UInt16 := 0x7f00 ||| 24
def versionTLS13Draft25 : UInt16 := 0x7f00 ||| 25
def versionTLS13Draft26 : UInt16 := 0x7f00 ||| 26
def versionTLS13Draft27 : UInt16 := 0x7f00 ||| 27
def versionTLS13Draft28 : UInt16 := 0x7f00 ||| 28
def versionTLS13Draft29 : UInt16 := 0x7f00 ||| 29
def versionTLS13Draft30 : UInt16 := 0x7f00 ||| 30
def versionTLS13Draft31 : UInt16 := 0x7f00 ||| 31
def versionTLS13Draft32 : UInt16 := 0x7f00 ||| 32
def versionTLS13Draft33 : UInt16 := 0x7f00 ||| 33

/-- The `actualSupportedVersions` map literal. -/
def actualSupportedVersions : List (UInt16 × String) :=
  [(versionSSL30, "SSL 3.0"), (versionTLS10, "TLS 1.0"), (versionTLS11, "TLS 1.1"),
    (versionTLS12, "TLS 1.2"), (versionTLS13, "TLS 1.3"),
    (versionTLS13Draft18, "TLS 1.3"), (versionTLS13Draft21, "TLS 1.3"),
    (versionTLS13Draft22, "TLS 1.3"), (versionTLS13Draft23, "TLS 1.3"),
    (versionTLS13Draft24, "TLS 1.3"), (versionTLS13Draft25, "TLS 1.3"),
    (versionTLS13Draft26, "TLS 1.3"), (versionTLS13Draft27, "TLS 1.3"),
    (versionTLS13Draft28, "TLS 1.3"), (versionTLS13Draft29, "TLS 1.3"),
    (versionTLS13Draft30, "TLS 1.3"), (versionTLS13Draft31, "TLS 1.3"),
    (versionTLS13Draft32, "TLS 1.3"), (versionTLS13Draft33, "TLS 1.3")]

/-- `clientInfo`, the report, without `TLSVersionFloat`. -/
structure ClientInfo where
  supportedCipherSuites : List String
  weakCipherSuites : StringListMap
  brokenCipherSuites : StringListMap
  ephemeralKeysSupported : Bool
  sessionTicketsSupported : Bool
  tlsCompressionSupported : Bool
  unknownCipherSuiteSupported : Bool
  beastVuln : Bool
  ableToDetectNMinusOneSplitting : Bool
  tlsVersion : String
  rating : Rating
  ratingScore : Int

/-- The fields the cipher-suite loop writes, and its pending 3DES names. -/
structure SuiteScan where
  supportedCipherSuites : List String
  weakCipherSuites : StringListMap
  brokenCipherSuites : StringListMap
  ephemeralKeysSupported : Bool
  unknownCipherSuiteSupported : Bool
  beastVuln : Bool
  ableToDetectNMinusOneSplitting : Bool
  sweet32Seen : List String

/-- The loop's start: the two maps made empty, every other field its zero value. -/
def SuiteScan.init : SuiteScan := ⟨[], ∅, ∅, false, false, false, false, []⟩

section Classifier

variable (cat : Catalogue) (st : ConnectionState)

/-- One iteration of `for _, ci := range st.ClientCipherSuites`. -/
def scanCipherSuite (d : SuiteScan) (ci : UInt16) : SuiteScan :=
  match cat.allCipherSuites ci with
  | some s =>
    let d := if stringsContains s "DHE_" then { d with ephemeralKeysSupported := true } else d
    let d := if stringsContains s "_CBC" then
      { d with weakCipherSuites := d.weakCipherSuites.appendAt s cbcReason } else d
    let d := if stringsContains s "TLS_RSA_WITH" then
      { d with weakCipherSuites := d.weakCipherSuites.appendAt s noEphemeralReason } else d
    let d := if cat.cbcSuites ci = true ∧ st.version ≤ versionTLS10 then
      { d with beastVuln := !st.nMinusOneRecordSplittingDetected,
               ableToDetectNMinusOneSplitting := st.ableToDetectNMinusOneSplitting } else d
    let d := if s ∈ fewBitCipherSuites then
      { d with brokenCipherSuites := d.brokenCipherSuites.appendAt s fewBitReason } else d
    let d := if s ∈ nullCipherSuites then
      { d with brokenCipherSuites := d.brokenCipherSuites.appendAt s nullReason } else d
    let d := if s ∈ nullAuthCipherSuites then
      { d with brokenCipherSuites := d.brokenCipherSuites.appendAt s nullAuthReason } else d
    let d := if s ∈ rc4CipherSuites then
      { d with brokenCipherSuites := d.brokenCipherSuites.appendAt s rc4Reason } else d
    let d := if s ∈ sweet32CipherSuites then { d with sweet32Seen := d.sweet32Seen ++ [s] }
      else if d.sweet32Seen.length ≠ 0 ∧ cat.metaCipherSuites ci = false ∧
          cat.tls13Suites ci = false then
        { d with
          brokenCipherSuites :=
            d.sweet32Seen.foldl (fun m seen => m.appendAt seen sweet32Reason) d.brokenCipherSuites,
          sweet32Seen := [] }
      else d
    { d with supportedCipherSuites := d.supportedCipherSuites ++ [s] }
  | none =>
    match weirdNSSSuites ci with
    | none =>
      { d with unknownCipherSuiteSupported := true,
               supportedCipherSuites := d.supportedCipherSuites ++
                 ["An unknown cipher suite: " ++ sprintfSharpZeroHex 4 ci.toNat] }
    | some w =>
      { d with brokenCipherSuites := d.brokenCipherSuites.appendAt w fewBitReason,
               supportedCipherSuites := d.supportedCipherSuites ++ [w] }

/-- The whole cipher-suite loop. -/
def scanCipherSuites : SuiteScan := st.clientCipherSuites.foldl (scanCipherSuite cat st) .init

/-- The compression loop: the flag is set at the first non-null method, and the
loop breaks. -/
def scanCompressionMethods : List UInt8 → Bool
  | [] => false
  | cm :: cms => if cm ≠ 0 then true else scanCompressionMethods cms

/-- One iteration of the supported_versions loop over `(vers, d.TLSVersion)`. -/
def upgradeVersion (acc : UInt16 × String) (v : UInt16) : UInt16 × String :=
  match actualSupportedVersions.lookup v with
  | some maybeStr => if v > acc.1 then (v, maybeStr) else acc
  | none => acc

/-- `vers` and `d.TLSVersion` after the supported_versions loop, before the empty
name is replaced. -/
def reportedVersion : UInt16 × String :=
  st.supportedVersions.foldl upgradeVersion
    (st.version, (actualSupportedVersions.lookup st.version).getD "")

/-- The two rating steps: start at `good`, drop to `improvable`, then to `bad`. -/
def rateClientInfo (ephemeralKeysSupported sessionTicketsSupported tlsCompressionSupported
    unknownCipherSuiteSupported beastVuln : Bool) (brokenLen : Nat) (vers : UInt16) :
    Rating × Int :=
  let r := (Rating.good, goodScore)
  let r := if !ephemeralKeysSupported ∨ vers = versionTLS12 ∨ !sessionTicketsSupported then
    (Rating.improvable, improvableScore) else r
  if tlsCompressionSupported ∨ unknownCipherSuiteSupported ∨ beastVuln ∨ brokenLen ≠ 0 ∨
      vers ≤ versionTLS11 then (Rating.bad, badScore) else r

/-- The body of `pullClientInfo` past its handshake check. -/
def collectClientInfo : ClientInfo :=
  let d := scanCipherSuites cat st
  let tlsCompressionSupported := scanCompressionMethods st.compressionMethods
  let v := reportedVersion st
  let r := rateClientInfo d.ephemeralKeysSupported st.sessionTicketsSupported
    tlsCompressionSupported d.unknownCipherSuiteSupported d.beastVuln d.brokenCipherSuites.len v.1
  { supportedCipherSuites := d.supportedCipherSuites
    weakCipherSuites := d.weakCipherSuites
    brokenCipherSuites := d.brokenCipherSuites
    ephemeralKeysSupported := d.ephemeralKeysSupported
    sessionTicketsSupported := st.sessionTicketsSupported
    tlsCompressionSupported := tlsCompressionSupported
    unknownCipherSuiteSupported := d.unknownCipherSuiteSupported
    beastVuln := d.beastVuln
    ableToDetectNMinusOneSplitting := d.ableToDetectNMinusOneSplitting
    tlsVersion := if v.2 = "" then "an unknown version of SSL/TLS" else v.2
    rating := r.1
    ratingScore := r.2 }

/-- `pullClientInfo`, given `st := c.ConnectionState()`. Its panic on an
unfinished handshake is the error. -/
def pullClientInfo : Except String ClientInfo :=
  if !st.handshakeComplete then .error "given a TLS conn that has not completed its handshake"
  else .ok (collectClientInfo cat st)

theorem pullClientInfo_of_handshakeComplete (h : st.handshakeComplete = true) :
    pullClientInfo cat st = .ok (collectClientInfo cat st) := by
  simp [pullClientInfo, h]

end Classifier

/-- A catalogue of four suites. As the catalogue the spec describes, it also
lists the NSS code `0xFEFE` under its legacy name. -/
def sampleCatalogue : Catalogue where
  allCipherSuites ci :=
    if ci = 0xfefe then some "SSL_RSA_FIPS_WITH_DES_CBC_SHA"
    else if ci = 0x000a then some "TLS_RSA_WITH_3DES_EDE_CBC_SHA"
    else if ci = 0x002f then some "TLS_RSA_WITH_AES_128_CBC_SHA"
    else if ci = 0xc02f then some "TLS_ECDHE_RSA_WITH_AES_128_GCM_SHA256"
    else none
  cbcSuites ci := ci = 0x000a || ci = 0x002f
  metaCipherSuites _ := false
  tls13Suites _ := false

/-- A finished handshake offering an unknown code, a 3DES suite, a CBC suite and
a GCM suite, in that order, with a TLS 1.3 supported_versions entry. -/
def sampleState : ConnectionState where
  handshakeComplete := true
  version := versionTLS12
  clientCipherSuites := [0xfafa, 0x000a, 0x002f, 0xc02f]
  compressionMethods := [0]
  nMinusOneRecordSplittingDetected := false
  ableToDetectNMinusOneSplitting := false
  sessionTicketsSupported := true
  supportedVersions := [0xfafa, versionTLS13, versionTLS12]

/-- The sample connection with the NSS code `0xFEFE` as the only offered suite. -/
def fipsState : ConnectionState := { sampleState with clientCipherSuites := [0xfefe] }

end CheckTlsSupport
