import Mathlib.Data.List.Infix

/-!
# The data of the instrumented TLS fork

`tls110` is a copy of the standard library's TLS package with a small patch: the
ClientHello is kept on the connection, a few of its fields are copied into
`ConnectionState`, the first application-data record is measured, and the
cipher-suite choice is pinned when a BEAST probe is possible.

This file holds the constants and records the patched functions read. Fields of
the stock records that no modelled function reads are left out; every number is
the wire value the package declares, at the width it declares it.
-/

namespace CheckTlsSupport.Tls110

def versionSSL30 : UInt16 := 0x0300
def versionTLS10 : UInt16 := 0x0301
def versionTLS11 : UInt16 := 0x0302
def versionTLS12 : UInt16 := 0x0303

def recordTypeChangeCipherSpec : UInt8 := 20
def recordTypeAlert : UInt8 := 21
def recordTypeHandshake : UInt8 := 22
def recordTypeApplicationData : UInt8 := 23

/-- Largest plaintext a record may carry. -/
def maxPlaintext : Nat := 16384
/-- Largest ciphertext a record may carry: plaintext plus the 2048-byte overhead. -/
def maxCiphertext : Nat := 16384 + 2048
/-- Warning alerts tolerated in a row before the connection is dropped. -/
def maxWarnAlertCount : Nat := 5

/-- Largest handshake message read. -/
def maxHandshake : Nat := 65536

def alertLevelWarning : UInt8 := 1
def alertLevelError : UInt8 := 2

def alertCloseNotify : UInt8 := 0
def alertUnexpectedMessage : UInt8 := 10
def alertRecordOverflow : UInt8 := 22
def alertHandshakeFailure : UInt8 := 40
def alertNoRenegotiation : UInt8 := 100

def typeHelloRequest : UInt8 := 0
def typeClientHello : UInt8 := 1
def typeServerHello : UInt8 := 2
def typeNewSessionTicket : UInt8 := 4
def typeCertificate : UInt8 := 11
def typeServerKeyExchange : UInt8 := 12
def typeCertificateRequest : UInt8 := 13
def typeServerHelloDone : UInt8 := 14
def typeCertificateVerify : UInt8 := 15
def typeClientKeyExchange : UInt8 := 16
def typeFinished : UInt8 := 20
def typeCertificateStatus : UInt8 := 22
def typeNextProtocol : UInt8 := 67

/-- The errors a connection reports. `localError` is what `sendAlert` returns
after writing the alert; `remoteError` is a fatal alert read from the peer. -/
inductive ConnError
  | localError (alert : UInt8)
  | remoteError (alert : UInt8)
  | eof
  | message (text : String)
  deriving DecidableEq, Repr

def TLS_RSA_WITH_AES_128_CBC_SHA : UInt16 := 0x002f
def TLS_RSA_WITH_AES_256_CBC_SHA : UInt16 := 0x0035
def TLS_RSA_WITH_AES_128_CBC_SHA256 : UInt16 := 0x003c

def suiteECDHE : Nat := 1
def suiteECDSA : Nat := 2
def suiteTLS12 : Nat := 4

/-- An implemented suite: its code and the flags `setCipherSuite` tests. -/
structure CipherSuite where
  id : UInt16
  flags : Nat
  deriving DecidableEq, Repr

/-- The ClientHello fields read by the patched server and by `ConnectionState`.
`supportedVersions` is the patch's addition (extension 43). -/
structure ClientHelloMsg where
  vers : UInt16
  cipherSuites : List UInt16
  compressionMethods : List UInt8
  sessionTicket : List UInt8
  ticketSupported : Bool
  supportedVersions : List UInt16
  deriving DecidableEq, Repr

/-- `ConnectionState`: the stock fields the classifier reads and the six fields
the patch adds. -/
structure ConnectionState where
  handshakeComplete : Bool
  version : UInt16
  clientCipherSuites : List UInt16
  compressionMethods : List UInt8
  nMinusOneRecordSplittingDetected : Bool
  ableToDetectNMinusOneSplitting : Bool
  sessionTicketsSupported : Bool
  supportedVersions : List UInt16
  deriving DecidableEq, Repr

/-- `ClientAuthType`, the server's client-certificate policy. -/
inductive ClientAuthType
  | noClientCert
  | requestClientCert
  | requireAnyClientCert
  | verifyClientCertIfGiven
  | requireAndVerifyClientCert
  deriving DecidableEq, Repr

/-- `RenegotiationSupport`, read on the client side of `readRecord` and by
`handleRenegotiation`. -/
inductive RenegotiationSupport
  | renegotiateNever
  | renegotiateOnceAsClient
  | renegotiateFreelyAsClient
  deriving DecidableEq, Repr

end CheckTlsSupport.Tls110
