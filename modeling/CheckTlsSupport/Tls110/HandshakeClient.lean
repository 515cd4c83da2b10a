import CheckTlsSupport.Tls110.Common

/-!
# The cipher suites of `makeClientHello`

`makeClientHello` walks the configured suites and, for each, the package's
implemented suites: it appends the configured code when it finds it implemented
and usable at the hello's version, and goes on to the next configured code
(`continue NextCipherSuite`). The patch lets the meta codes `0x00FF`
(the renegotiation SCSV) and `0x0A0A` (a GREASE value) through before the
comparison, so they are advertised whatever the package implements, as long as
it implements something.

`nextCipherSuite` is the inner loop and `makeClientHelloCipherSuites` the outer
one. The hello's list is the configured list filtered by `Advertised`, in order.
-/

namespace CheckTlsSupport.Tls110

section Hello

variable (cipherSuites : List CipherSuite) (helloVers : UInt16)

/-- The inner loop of `NextCipherSuite` for the configured code `suiteId`: whether
it is appended. -/
def nextCipherSuite (suiteId : UInt16) : List CipherSuite → Bool
  | [] => false
  | suite :: rest =>
    if suiteId = 0x00FF ∨ suiteId = 0x0A0A then true
    else if suite.id ≠ suiteId then nextCipherSuite suiteId rest
    else if helloVers < versionTLS12 ∧ suite.flags &&& suiteTLS12 ≠ 0 then
      nextCipherSuite suiteId rest
    else true

/-- The outer loop over `possibleCipherSuites`, appending to `hello.cipherSuites`. -/
def makeClientHelloCipherSuites (possibleCipherSuites : List UInt16) : List UInt16 :=
  possibleCipherSuites.foldl (fun acc suiteId =>
    if nextCipherSuite helloVers suiteId cipherSuites then acc ++ [suiteId] else acc) []

/-- A configured code reaches the hello when the package implements something and
it is a whitelisted meta code, or when the package implements it and it is not a
TLS 1.2 suite offered below TLS 1.2. -/
def Advertised (suiteId : UInt16) : Prop :=
  (cipherSuites ≠ [] ∧ (suiteId = 0x00FF ∨ suiteId = 0x0A0A)) ∨
    ∃ suite ∈ cipherSuites, suite.id = suiteId ∧
      ¬(helloVers < versionTLS12 ∧ suite.flags &&& suiteTLS12 ≠ 0)

instance : DecidablePred (Advertised cipherSuites helloVers) :=
  fun _ => inferInstanceAs (Decidable (_ ∨ _))

theorem nextCipherSuite_iff (suiteId : UInt16) :
    nextCipherSuite helloVers suiteId cipherSuites = true ↔
      Advertised cipherSuites helloVers suiteId := by
  induction cipherSuites with
  | nil => simp [nextCipherSuite, Advertised]
  | cons suite rest ih =>
    unfold nextCipherSuite
    split_ifs with hm hid hv
    · simp [Advertised, hm]
    · simp [ih, Advertised, hm, hid]
    · simp [ih, Advertised, hm, hv]
    · exact iff_of_true rfl (.inr ⟨suite, .head _, not_not.mp hid, hv⟩)

/-- The hello advertises the configured codes that are `Advertised`, in the
configured order. -/
theorem makeClientHelloCipherSuites_eq_filter (possibleCipherSuites : List UInt16) :
    makeClientHelloCipherSuites cipherSuites helloVers possibleCipherSuites =
      possibleCipherSuites.filter (Advertised cipherSuites helloVers ·) := by
  suffices ∀ acc, possibleCipherSuites.foldl (fun acc suiteId =>
      if nextCipherSuite helloVers suiteId cipherSuites then acc ++ [suiteId] else acc) acc =
      acc ++ possibleCipherSuites.filter (Advertised cipherSuites helloVers ·) from this []
  induction possibleCipherSuites with
  | nil => simp
  | cons suiteId rest ih =>
    intro acc
    have hn := nextCipherSuite_iff cipherSuites helloVers suiteId
    rw [List.foldl_cons, List.filter_cons]
    by_cases h : Advertised cipherSuites helloVers suiteId
    · rw [if_pos (hn.mpr h), ih]
      simp [h]
    · rw [if_neg (mt hn.mp h), ih]
      simp [h]

example : makeClientHelloCipherSuites [⟨0x002f, 0⟩, ⟨0x003c, suiteTLS12⟩] versionTLS11
    [0x0a0a, 0x003c, 0x002f, 0x1234] = [0x0a0a, 0x002f] := by decide

end Hello

end CheckTlsSupport.Tls110
