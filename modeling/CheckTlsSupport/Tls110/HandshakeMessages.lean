import CheckTlsSupport.Tls110.Common

/-!
# The supported_versions case of `clientHelloMsg.unmarshal`

The patch teaches the ClientHello parser extension 43. Its body is a one-byte
length followed by that many bytes of big-endian 16-bit versions. The case
below is the patched code, run at the point of the extension loop where `data`
starts with this extension's body and `length` is the body length the loop has
already checked against `len(data)`.

`supportedVersionsBody` is the encoding, the grammar the case is meant to
accept; it is not part of the parser. The main result is that the case accepts
exactly the encodings of version lists of at most 127 entries, reads nothing
past the body, and appends exactly the encoded list.
-/

namespace CheckTlsSupport.Tls110

def extensionSupportedVersions : UInt16 := 43

/-- How the extension loop of `unmarshal` stops early: `malformed` is its
`return false`; `indexOutOfRange` is a slice index past the end, a runtime
panic in Go. -/
inductive UnmarshalError
  | malformed
  | indexOutOfRange
  deriving DecidableEq, Repr

/-- The `for i := 0; i < n; i++` loop of the case: each round reads
`uint16(d[0])<<8 + uint16(d[1])` and moves `d` on by two bytes. -/
def readSupportedVersions : Nat → List UInt8 → Option (List UInt16)
  | 0, _ => some []
  | n + 1, b0 :: b1 :: d =>
      (((b0.toUInt16 <<< 8) + b1.toUInt16) :: ·) <$> readSupportedVersions n d
  | _ + 1, _ => none

/-- `case extensionSupportedVersions:` of `clientHelloMsg.unmarshal`. -/
def unmarshalSupportedVersions (m : ClientHelloMsg) (length : Nat) (data : List UInt8) :
    Except UnmarshalError ClientHelloMsg :=
  if length < 1 then .error .malformed else
  match data with
  | [] => .error .indexOutOfRange
  | b :: d =>
    let l := b.toNat
    if l % 2 = 1 ∨ length ≠ l + 1 then .error .malformed else
    match readSupportedVersions (l / 2) d with
    | some vs => .ok { m with supportedVersions := m.supportedVersions ++ vs }
    | none => .error .indexOutOfRange

/-- The two big-endian bytes of a version. -/
def versionBytes (v : UInt16) : List UInt8 := [(v >>> 8).toUInt8, v.toUInt8]

/-- The extension body for a list of versions: its byte length, then the
versions big-endian. -/
def supportedVersionsBody (vs : List UInt16) : List UInt8 :=
  (2 * vs.length).toUInt8 :: vs.flatMap versionBytes

theorem toNat_shiftLeft_add (b0 b1 : UInt8) :
    ((b0.toUInt16 <<< 8) + b1.toUInt16).toNat = b0.toNat * 256 + b1.toNat := by
  have h0 := b0.toNat_lt_size
  have h1 := b1.toNat_lt_size
  show ((b0.toUInt16.toBitVec <<< ((8 : UInt16) % 16).toBitVec) + b1.toUInt16.toBitVec).toNat = _
  simp only [BitVec.toNat_add, BitVec.shiftLeft_eq', BitVec.toNat_shiftLeft]
  show ((b0.toNat <<< 8) % 2 ^ 16 + b1.toNat) % 2 ^ 16 = _
  simp only [UInt8.size, Nat.shiftLeft_eq] at *
  omega

theorem toNat_toUInt8_shiftRight (v : UInt16) : (v >>> 8).toUInt8.toNat = v.toNat / 256 := by
  have hv := v.toNat_lt_size
  show (v.toBitVec >>> ((8 : UInt16) % 16).toBitVec).toNat % 256 = _
  simp only [BitVec.ushiftRight_eq', BitVec.toNat_ushiftRight]
  show v.toNat >>> 8 % 256 = _
  simp only [Nat.shiftRight_eq_div_pow, UInt16.size] at *
  omega

theorem toNat_toUInt8 (v : UInt16) : v.toUInt8.toNat = v.toNat % 256 := rfl

/-- Reading back the two bytes of a version gives the version. -/
theorem shiftLeft_add_versionBytes (v : UInt16) :
    ((v >>> 8).toUInt8.toUInt16 <<< 8) + v.toUInt8.toUInt16 = v := by
  apply UInt16.toNat.inj
  rw [toNat_shiftLeft_add, toNat_toUInt8_shiftRight, toNat_toUInt8]
  omega

/-- Two bytes read as a version are the bytes of that version. -/
theorem versionBytes_shiftLeft_add (b0 b1 : UInt8) :
    versionBytes ((b0.toUInt16 <<< 8) + b1.toUInt16) = [b0, b1] := by
  have h1 := b1.toNat_lt_size
  have hb0 : (((b0.toUInt16 <<< 8) + b1.toUInt16) >>> 8).toUInt8 = b0 := by
    apply UInt8.toNat.inj
    rw [toNat_toUInt8_shiftRight, toNat_shiftLeft_add]
    simp only [UInt8.size] at h1
    omega
  have hb1 : ((b0.toUInt16 <<< 8) + b1.toUInt16).toUInt8 = b1 := by
    apply UInt8.toNat.inj
    rw [toNat_toUInt8, toNat_shiftLeft_add]
    simp only [UInt8.size] at h1
    omega
  simp only [versionBytes, hb0, hb1]

/-- With `2 * n` bytes available the loop reads `n` versions, and only those bytes. -/
theorem readSupportedVersions_take (n : Nat) (d : List UInt8) :
    readSupportedVersions n d = readSupportedVersions n (d.take (2 * n)) := by
  induction n generalizing d with
  | zero => rfl
  | succ n ih =>
    match d with
    | [] => rfl
    | [_] => rfl
    | b0 :: b1 :: d =>
      rw [show 2 * (n + 1) = 2 * n + 2 by omega]
      simp only [readSupportedVersions, List.take_succ_cons, ih d]

/-- A successful loop read exactly the encodings of what it returns. -/
theorem readSupportedVersions_some {n : Nat} {d : List UInt8} {vs : List UInt16}
    (h : readSupportedVersions n d = some vs) :
    vs.length = n ∧ d.take (2 * n) = vs.flatMap versionBytes := by
  induction n generalizing d vs with
  | zero => cases h; simp
  | succ n ih =>
    match d, h with
    | b0 :: b1 :: d, h =>
      simp only [readSupportedVersions, Option.map_eq_map, Option.map_eq_some'] at h
      obtain ⟨ws, hws, rfl⟩ := h
      obtain ⟨hlen, htake⟩ := ih hws
      rw [show 2 * (n + 1) = 2 * n + 2 by omega]
      simp [hlen, htake, versionBytes_shiftLeft_add]

/-- The loop reads back every encoded list, whatever follows it. -/
theorem readSupportedVersions_flatMap (vs : List UInt16) (rest : List UInt8) :
    readSupportedVersions vs.length (vs.flatMap versionBytes ++ rest) = some vs := by
  induction vs with
  | nil => rfl
  | cons v vs ih =>
    show readSupportedVersions (vs.length + 1)
      ((v >>> 8).toUInt8 :: v.toUInt8 :: (vs.flatMap versionBytes ++ rest)) = some (v :: vs)
    simp only [readSupportedVersions, ih, shiftLeft_add_versionBytes]
    rfl

theorem length_flatMap_versionBytes (vs : List UInt16) :
    (vs.flatMap versionBytes).length = 2 * vs.length := by
  induction vs with
  | nil => rfl
  | cons v vs ih =>
    show (versionBytes v ++ vs.flatMap versionBytes).length = _
    rw [List.length_append, ih]
    simp only [versionBytes, List.length_cons, List.length_nil]
    omega

theorem ofNat_eq_shiftLeft_add (b0 b1 : UInt8) :
    UInt16.ofNat (b0.toNat * 256 + b1.toNat) = (b0.toUInt16 <<< 8) + b1.toUInt16 := by
  have h0 := b0.toNat_lt_size
  have h1 := b1.toNat_lt_size
  apply UInt16.toNat.inj
  rw [toNat_shiftLeft_add, UInt16.toNat_ofNat_of_lt]
  simp only [UInt8.size, UInt16.size] at *
  omega

/-- The loop's result position by position: round `k` reads bytes `2k` and `2k+1`. -/
theorem readSupportedVersions_eq_range (n : Nat) (d : List UInt8) (h : 2 * n ≤ d.length) :
    readSupportedVersions n d = some ((List.range n).map fun k =>
      UInt16.ofNat ((d.getD (2 * k) 0).toNat * 256 + (d.getD (2 * k + 1) 0).toNat)) := by
  induction n generalizing d with
  | zero => rfl
  | succ n ih =>
    match d, h with
    | b0 :: b1 :: d, h =>
      simp only [List.length_cons] at h
      rw [List.range_succ_eq_map, List.map_cons, List.map_map]
      simp only [readSupportedVersions, ih d (by omega), Option.map_eq_map, Option.map_some',
        ofNat_eq_shiftLeft_add]
      rfl

section Case

variable (m : ClientHelloMsg) (length : Nat) (data : List UInt8)

/-- The three ways the case rejects a body. -/
def SupportedVersionsMalformed : Prop :=
  length = 0 ∨ (data.headD 0).toNat % 2 = 1 ∨ length ≠ (data.headD 0).toNat + 1

theorem unmarshalSupportedVersions_zero : unmarshalSupportedVersions m 0 data = .error .malformed :=
  rfl

theorem unmarshalSupportedVersions_cons (length : Nat) (b : UInt8) (d : List UInt8) (h : 0 < length) :
    unmarshalSupportedVersions m length (b :: d) =
      if b.toNat % 2 = 1 ∨ length ≠ b.toNat + 1 then .error .malformed else
      match readSupportedVersions (b.toNat / 2) d with
      | some vs => .ok { m with supportedVersions := m.supportedVersions ++ vs }
      | none => .error .indexOutOfRange := by
  simp only [unmarshalSupportedVersions, show ¬length < 1 by omega, if_false]

variable {m length data}

/-- The case reads nothing past the extension body. -/
theorem unmarshalSupportedVersions_take (hlen : length ≤ data.length) :
    unmarshalSupportedVersions m length data =
      unmarshalSupportedVersions m length (data.take length) := by
  match length, data, hlen with
  | 0, _, _ => rfl
  | length + 1, b :: d, _ =>
    rw [List.take_succ_cons, unmarshalSupportedVersions_cons _ _ _ _ (by omega),
      unmarshalSupportedVersions_cons _ _ _ _ (by omega)]
    split
    · rfl
    · have heven : 2 * (b.toNat / 2) = length := by omega
      rw [readSupportedVersions_take _ (d.take length), List.take_take, heven, Nat.min_self,
        ← heven, ← readSupportedVersions_take]

/-- Within the body the case either rejects it as malformed or reads it whole. -/
theorem unmarshalSupportedVersions_of_not_malformed (hlen : length ≤ data.length)
    (hwf : ¬SupportedVersionsMalformed length data) :
    unmarshalSupportedVersions m length data = .ok { m with supportedVersions :=
      m.supportedVersions ++ (List.range ((data.headD 0).toNat / 2)).map (fun k =>
        UInt16.ofNat ((data.getD (1 + 2 * k) 0).toNat * 256 + (data.getD (2 + 2 * k) 0).toNat)) } := by
  simp only [SupportedVersionsMalformed, not_or] at hwf
  obtain ⟨hpos, hodd, hl⟩ := hwf
  match data, hlen with
  | [], hlen => exact absurd (Nat.le_zero.mp hlen) hpos
  | b :: d, hlen =>
    simp only [List.headD_cons, List.length_cons] at hodd hl hlen
    rw [unmarshalSupportedVersions_cons _ _ _ _ (by omega), if_neg (by omega),
      readSupportedVersions_eq_range _ _ (by omega)]
    simp only [Nat.add_comm 1, Nat.add_comm 2]
    rfl

theorem unmarshalSupportedVersions_eq_malformed_iff (hlen : length ≤ data.length) :
    unmarshalSupportedVersions m length data = .error .malformed ↔
      SupportedVersionsMalformed length data := by
  by_cases hwf : SupportedVersionsMalformed length data
  · simp only [hwf, iff_true]
    match length, data, hwf with
    | 0, _, _ => rfl
    | length + 1, [], _ => simp at hlen
    | length + 1, b :: d, hwf =>
      simp only [SupportedVersionsMalformed, List.headD_cons] at hwf
      rw [unmarshalSupportedVersions_cons _ _ _ _ (by omega), if_pos (by omega)]
  · simp only [hwf, iff_false, unmarshalSupportedVersions_of_not_malformed hlen hwf]
    exact Except.noConfusion

/-- Every accepted body is the encoding of at most 127 versions, and those are
what the case appends. -/
theorem unmarshalSupportedVersions_eq_ok {m' : ClientHelloMsg}
    (h : unmarshalSupportedVersions m length data = .ok m') :
    ∃ vs : List UInt16, vs.length ≤ 127 ∧ data.take length = supportedVersionsBody vs ∧
      m' = { m with supportedVersions := m.supportedVersions ++ vs } := by
  match length, data, h with
  | length + 1, b :: d, h =>
    rw [unmarshalSupportedVersions_cons _ _ _ _ (by omega)] at h
    split at h
    · cases h
    · rename_i hwf
      split at h
      · rename_i vs hvs
        cases h
        obtain ⟨hvlen, htake⟩ := readSupportedVersions_some hvs
        have hb := b.toNat_lt_size
        simp only [UInt8.size] at hb
        refine ⟨vs, by omega, ?_, rfl⟩
        have hb' : (2 * vs.length).toUInt8 = b := by
          apply UInt8.toNat.inj
          rw [hvlen]
          show 2 * (b.toNat / 2) % 256 = b.toNat
          omega
        rw [List.take_succ_cons, supportedVersionsBody, hb', ← htake,
          show 2 * (b.toNat / 2) = length by omega]
      · cases h

/-- The encoding of every list of at most 127 versions is accepted and yields that list. -/
theorem unmarshalSupportedVersions_body (vs : List UInt16) (rest : List UInt8)
    (hvs : vs.length ≤ 127) :
    unmarshalSupportedVersions m (supportedVersionsBody vs).length (supportedVersionsBody vs ++ rest) =
      .ok { m with supportedVersions := m.supportedVersions ++ vs } := by
  have hb : (2 * vs.length).toUInt8.toNat = 2 * vs.length := Nat.mod_eq_of_lt (by
    show 2 * vs.length < 256
    omega)
  simp only [supportedVersionsBody, List.cons_append, List.length_cons, length_flatMap_versionBytes]
  rw [unmarshalSupportedVersions_cons _ _ _ _ (by omega), if_neg (by omega), hb,
    show 2 * vs.length / 2 = vs.length by omega, readSupportedVersions_flatMap]

end Case

/-- The supported_versions case reads only the extension body; it rejects exactly
the bodies with no length byte, an odd length byte, or a length byte that does not
match the body; otherwise it appends the big-endian pairs that follow, in order.
So it accepts exactly the encodings of lists of at most 127 versions, and yields
the encoded list. -/
theorem unmarshalSupportedVersions_accepts_encodings (m : ClientHelloMsg) (length : Nat)
    (data : List UInt8) (hlen : length ≤ data.length) :
    unmarshalSupportedVersions m length data =
        unmarshalSupportedVersions m length (data.take length) ∧
      (unmarshalSupportedVersions m length data = .error .malformed ↔
        SupportedVersionsMalformed length data) ∧
      (¬SupportedVersionsMalformed length data →
        unmarshalSupportedVersions m length data = .ok { m with supportedVersions :=
          m.supportedVersions ++ (List.range ((data.headD 0).toNat / 2)).map (fun k =>
            UInt16.ofNat ((data.getD (1 + 2 * k) 0).toNat * 256 +
              (data.getD (2 + 2 * k) 0).toNat)) }) ∧
      (∀ m', unmarshalSupportedVersions m length data = .ok m' →
        ∃ vs : List UInt16, vs.length ≤ 127 ∧ data.take length = supportedVersionsBody vs ∧
          m' = { m with supportedVersions := m.supportedVersions ++ vs }) ∧
      (∀ (vs : List UInt16) (rest : List UInt8), vs.length ≤ 127 →
        unmarshalSupportedVersions m (supportedVersionsBody vs).length
            (supportedVersionsBody vs ++ rest) =
          .ok { m with supportedVersions := m.supportedVersions ++ vs }) :=
  ⟨unmarshalSupportedVersions_take hlen, unmarshalSupportedVersions_eq_malformed_iff hlen,
    unmarshalSupportedVersions_of_not_malformed hlen, fun _ => unmarshalSupportedVersions_eq_ok,
    fun vs rest => unmarshalSupportedVersions_body vs rest⟩

/-- An odd length byte is rejected. -/
theorem unmarshalSupportedVersions_odd_length :
    3 ≤ [3, 3, 4].length ∧
      unmarshalSupportedVersions ⟨versionTLS12, [], [0], [], false, []⟩ 3 [3, 3, 4] =
        .error .malformed :=
  ⟨by decide, ((unmarshalSupportedVersions_accepts_encodings _ 3 [3, 3, 4] (by decide)).2.1).mpr
    (Or.inr (Or.inl rfl))⟩

end CheckTlsSupport.Tls110
