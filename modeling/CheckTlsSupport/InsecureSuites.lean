import CheckTlsSupport.GoLib

/-!
# Reason strings and policy tables

The seven reason strings and the five name-keyed policy tables, as
`insecure_suites.go` declares them. A Go `map[string]bool` literal of `true`
entries is the list of its keys; `table[s]` is membership. `weirdNSSSuites` is
keyed by code, as in the source.
-/

namespace CheckTlsSupport

def fewBitReason : String := "The cipher uses broken encryption algorithms."
def nullReason : String :=
  "The cipher specifies that no encryption should be used on the connection, therefore the cipher provides no data confidentiality."
def nullAuthReason : String :=
  "The cipher specifies that no authentication should be used on the connection, therefore the cipher provides no data integrity guarantees."
def rc4Reason : String := "The cipher uses the broken RC4 encryption algorithm."
def sweet32Reason : String :=
  "The cipher uses the broken 3DES encryption algorithm in a way that makes it highly vulnerable to the Sweet32 attack."
def cbcReason : String :=
  "The cipher uses cipher block chaining (CBC) mode, which is often implemented improperly, leading to padding oracle attacks."
def noEphemeralReason : String :=
  "The cipher does not support ephemeral keys. Use of ephemeral keys greatly improves data confidentiality by generating keys that only last for the duration of the connection."

/-- Cipher suites with less than 128-bit encryption. -/
def fewBitCipherSuites : List String := [
  "TLS_DHE_DSS_EXPORT_WITH_DES40_CBC_SHA",
  "TLS_DHE_DSS_WITH_DES_CBC_SHA",
  "TLS_DHE_RSA_EXPORT_WITH_DES40_CBC_SHA",
  "TLS_DHE_RSA_WITH_DES_CBC_SHA",
  "TLS_DH_DSS_EXPORT_WITH_DES40_CBC_SHA",
  "TLS_DH_DSS_WITH_DES_CBC_SHA",
  "TLS_DH_RSA_EXPORT_WITH_DES40_CBC_SHA",
  "TLS_DH_RSA_WITH_DES_CBC_SHA",
  "TLS_DH_anon_EXPORT_WITH_DES40_CBC_SHA",
  "TLS_DH_anon_EXPORT_WITH_RC4_40_MD5",
  "TLS_DH_anon_WITH_DES_CBC_SHA",
  "TLS_RSA_EXPORT_WITH_DES40_CBC_SHA",
  "TLS_RSA_EXPORT_WITH_RC2_CBC_40_MD5",
  "TLS_RSA_EXPORT_WITH_RC4_40_MD5",
  "TLS_RSA_WITH_DES_CBC_SHA",
  "TLS_KRB5_EXPORT_WITH_DES_CBC_40_MD5",
  "TLS_KRB5_EXPORT_WITH_DES_CBC_40_SHA",
  "TLS_KRB5_EXPORT_WITH_RC4_40_MD5",
  "TLS_KRB5_EXPORT_WITH_RC4_40_SHA",
  "TLS_KRB5_WITH_DES_CBC_MD5",
  "TLS_KRB5_WITH_DES_CBC_SHA",
  "TLS_RSA_EXPORT1024_WITH_DES_CBC_SHA",
  "TLS_DHE_DSS_EXPORT1024_WITH_DES_CBC_SHA",
  "TLS_RSA_EXPORT1024_WITH_RC4_56_SHA",
  "TLS_DHE_DSS_EXPORT1024_WITH_RC4_56_SHA",
  "TLS_RSA_EXPORT1024_WITH_RC4_56_MD5",
  "TLS_RSA_EXPORT1024_WITH_RC2_CBC_56_MD5"]

/-- Cipher suites that offer no encryption. -/
def nullCipherSuites : List String := [
  "TLS_DHE_PSK_WITH_NULL_SHA",
  "TLS_DHE_PSK_WITH_NULL_SHA256",
  "TLS_DHE_PSK_WITH_NULL_SHA384",
  "TLS_ECDHE_ECDSA_WITH_NULL_SHA",
  "TLS_ECDHE_PSK_WITH_NULL_SHA",
  "TLS_ECDHE_PSK_WITH_NULL_SHA256",
  "TLS_ECDHE_PSK_WITH_NULL_SHA384",
  "TLS_ECDHE_RSA_WITH_NULL_SHA",
  "TLS_ECDH_ECDSA_WITH_NULL_SHA",
  "TLS_ECDH_RSA_WITH_NULL_SHA",
  "TLS_ECDH_anon_WITH_NULL_SHA",
  "TLS_NULL_WITH_NULL_NULL",
  "TLS_PSK_WITH_NULL_SHA",
  "TLS_PSK_WITH_NULL_SHA256",
  "TLS_PSK_WITH_NULL_SHA384",
  "TLS_RSA_PSK_WITH_NULL_SHA",
  "TLS_RSA_PSK_WITH_NULL_SHA256",
  "TLS_RSA_PSK_WITH_NULL_SHA384",
  "TLS_RSA_WITH_NULL_MD5",
  "TLS_RSA_WITH_NULL_SHA",
  "TLS_RSA_WITH_NULL_SHA256"]

/-- Cipher suites that offer encryption but no authentication. -/
def nullAuthCipherSuites : List String := [
  "TLS_DH_anon_EXPORT_WITH_DES40_CBC_SHA",
  "TLS_DH_anon_EXPORT_WITH_RC4_40_MD5",
  "TLS_DH_anon_WITH_3DES_EDE_CBC_SHA",
  "TLS_DH_anon_WITH_AES_128_CBC_SHA",
  "TLS_DH_anon_WITH_AES_128_CBC_SHA256",
  "TLS_DH_anon_WITH_AES_128_GCM_SHA256",
  "TLS_DH_anon_WITH_AES_256_CBC_SHA",
  "TLS_DH_anon_WITH_AES_256_CBC_SHA256",
  "TLS_DH_anon_WITH_AES_256_GCM_SHA384",
  "TLS_DH_anon_WITH_ARIA_128_CBC_SHA256",
  "TLS_DH_anon_WITH_ARIA_128_GCM_SHA256",
  "TLS_DH_anon_WITH_ARIA_256_CBC_SHA384",
  "TLS_DH_anon_WITH_ARIA_256_GCM_SHA384",
  "TLS_DH_anon_WITH_CAMELLIA_128_CBC_SHA",
  "TLS_DH_anon_WITH_CAMELLIA_128_CBC_SHA256",
  "TLS_DH_anon_WITH_CAMELLIA_128_GCM_SHA256",
  "TLS_DH_anon_WITH_CAMELLIA_256_CBC_SHA",
  "TLS_DH_anon_WITH_CAMELLIA_256_CBC_SHA256",
  "TLS_DH_anon_WITH_CAMELLIA_256_GCM_SHA384",
  "TLS_DH_anon_WITH_DES_CBC_SHA",
  "TLS_DH_anon_WITH_RC4_128_MD5",
  "TLS_DH_anon_WITH_SEED_CBC_SHA",
  "TLS_ECDH_anon_WITH_3DES_EDE_CBC_SHA",
  "TLS_ECDH_anon_WITH_AES_128_CBC_SHA",
  "TLS_ECDH_anon_WITH_AES_256_CBC_SHA",
  "TLS_ECDH_anon_WITH_NULL_SHA",
  "TLS_ECDH_anon_WITH_RC4_128_SHA"]

/-- Cipher suites that use RC4. -/
def rc4CipherSuites : List String := [
  "TLS_RSA_EXPORT_WITH_RC4_40_MD5",
  "TLS_RSA_WITH_RC4_128_MD5",
  "TLS_RSA_WITH_RC4_128_SHA",
  "TLS_DH_anon_EXPORT_WITH_RC4_40_MD5",
  "TLS_DH_anon_WITH_RC4_128_MD5",
  "TLS_KRB5_WITH_RC4_128_SHA",
  "TLS_KRB5_WITH_RC4_128_MD5",
  "TLS_KRB5_EXPORT_WITH_RC4_40_SHA",
  "TLS_KRB5_EXPORT_WITH_RC4_40_MD5",
  "TLS_PSK_WITH_RC4_128_SHA",
  "TLS_DHE_PSK_WITH_RC4_128_SHA",
  "TLS_RSA_PSK_WITH_RC4_128_SHA",
  "TLS_ECDH_ECDSA_WITH_RC4_128_SHA",
  "TLS_ECDHE_ECDSA_WITH_RC4_128_SHA",
  "TLS_ECDH_RSA_WITH_RC4_128_SHA",
  "TLS_ECDHE_RSA_WITH_RC4_128_SHA",
  "TLS_ECDH_anon_WITH_RC4_128_SHA",
  "TLS_ECDHE_PSK_WITH_RC4_128_SHA",
  "TLS_RSA_EXPORT1024_WITH_RC4_56_SHA",
  "TLS_DHE_DSS_EXPORT1024_WITH_RC4_56_SHA",
  "TLS_DHE_DSS_WITH_RC4_128_SHA"]

/-- Cipher suites that use 3DES, a 64-bit block cipher. -/
def sweet32CipherSuites : List String := [
  "TLS_RSA_WITH_3DES_EDE_CBC_SHA",
  "TLS_DH_DSS_WITH_3DES_EDE_CBC_SHA",
  "TLS_DH_RSA_WITH_3DES_EDE_CBC_SHA",
  "TLS_DHE_DSS_WITH_3DES_EDE_CBC_SHA",
  "TLS_DHE_RSA_WITH_3DES_EDE_CBC_SHA",
  "TLS_DH_anon_WITH_3DES_EDE_CBC_SHA",
  "TLS_KRB5_WITH_3DES_EDE_CBC_SHA",
  "TLS_KRB5_WITH_3DES_EDE_CBC_MD5",
  "TLS_PSK_WITH_3DES_EDE_CBC_SHA",
  "TLS_DHE_PSK_WITH_3DES_EDE_CBC_SHA",
  "TLS_RSA_PSK_WITH_3DES_EDE_CBC_SHA",
  "TLS_ECDH_ECDSA_WITH_3DES_EDE_CBC_SHA",
  "TLS_ECDHE_ECDSA_WITH_3DES_EDE_CBC_SHA",
  "TLS_ECDH_RSA_WITH_3DES_EDE_CBC_SHA",
  "TLS_ECDHE_RSA_WITH_3DES_EDE_CBC_SHA",
  "TLS_ECDH_anon_WITH_3DES_EDE_CBC_SHA",
  "TLS_SRP_SHA_WITH_3DES_EDE_CBC_SHA",
  "TLS_SRP_SHA_RSA_WITH_3DES_EDE_CBC_SHA",
  "TLS_SRP_SHA_DSS_WITH_3DES_EDE_CBC_SHA",
  "TLS_ECDHE_PSK_WITH_3DES_EDE_CBC_SHA"]

/-- Obsolete NSS suites that were meant to die with SSL 3.0. -/
def weirdNSSSuites : UInt16 → Option String
  | 0xFEFE => some "SSL_RSA_FIPS_WITH_DES_CBC_SHA"
  | 0xFEFF => some "SSL_RSA_FIPS_WITH_3DES_EDE_CBC_SHA"
  | _ => none

@[simp] theorem cbcReason_ne_noEphemeralReason : cbcReason ≠ noEphemeralReason := by decide
@[simp] theorem fewBitReason_ne_sweet32Reason : fewBitReason ≠ sweet32Reason := by decide
@[simp] theorem nullReason_ne_sweet32Reason : nullReason ≠ sweet32Reason := by decide
@[simp] theorem nullAuthReason_ne_sweet32Reason : nullAuthReason ≠ sweet32Reason := by decide
@[simp] theorem rc4Reason_ne_sweet32Reason : rc4Reason ≠ sweet32Reason := by decide
@[simp] theorem fewBitReason_ne_nullReason : fewBitReason ≠ nullReason := by decide
@[simp] theorem fewBitReason_ne_nullAuthReason : fewBitReason ≠ nullAuthReason := by decide
@[simp] theorem fewBitReason_ne_rc4Reason : fewBitReason ≠ rc4Reason := by decide
@[simp] theorem nullReason_ne_nullAuthReason : nullReason ≠ nullAuthReason := by decide
@[simp] theorem nullReason_ne_rc4Reason : nullReason ≠ rc4Reason := by decide
@[simp] theorem nullAuthReason_ne_rc4Reason : nullAuthReason ≠ rc4Reason := by decide

end CheckTlsSupport
