import Mathlib.Data.List.AList
import Mathlib.Data.List.Infix
import Mathlib.Tactic.IntervalCases

/-!
# The Go library calls the classifier makes

`pullClientInfo` calls `strings.Contains`, formats unknown codes with
`fmt.Sprintf("%#04x", ci)`, and grows two `map[string][]string` values with
`m[k] = append(m[k], v)`. Each is modelled here at the behaviour the classifier
uses, with the facts later proofs need, so that they never unfold it.

Go's `fmtInteger` writes the hex digits of `u` right to left, pads them with
zeros to the width, puts `0x` in front, and last pads the whole with spaces to
the width; `Nat.toDigits 16` is the same digit loop, lowercase as Go's
`ldigits`. For a 16-bit value the result is always `0x` and four digits.
-/

namespace CheckTlsSupport.Go

/-- `strings.Contains(s, substr)`. -/
def stringsContains (s substr : String) : Bool := decide (substr.data <:+: s.data)

/-- `fmt.Sprintf("%#0<width>x", u)` for an unsigned `u`. -/
def sprintfSharpZeroHex (width u : Nat) : String :=
  let digits := Nat.toDigits 16 u
  let buf := '0' :: 'x' :: (List.replicate (width - digits.length) '0' ++ digits)
  String.mk (List.replicate (width - buf.length) ' ' ++ buf)

/-- The four lowercase hex digits of a 16-bit value, most significant first. -/
def hexDigits4 (u : Nat) : List Char :=
  [Nat.digitChar (u / 4096 % 16), Nat.digitChar (u / 256 % 16), Nat.digitChar (u / 16 % 16),
    Nat.digitChar (u % 16)]

/-- The value of a lowercase hex digit. -/
def hexDigitValue (c : Char) : Nat := if c.isDigit then c.toNat - 48 else c.toNat - 87

private theorem toDigitsCore_succ (b f n : Nat) (ds : List Char) :
    Nat.toDigitsCore b (f + 1) n ds =
      if n / b = 0 then Nat.digitChar (n % b) :: ds
      else Nat.toDigitsCore b f (n / b) (Nat.digitChar (n % b) :: ds) := rfl

private theorem pad_toDigitsCore (f u : Nat) (h : u < 65536) :
    List.replicate (4 - (Nat.toDigitsCore 16 (f + 4) u []).length) '0' ++
      Nat.toDigitsCore 16 (f + 4) u [] = hexDigits4 u := by
  have e0 : Nat.digitChar 0 = '0' := rfl
  simp only [toDigitsCore_succ, Nat.div_div_eq_div_mul, Nat.reduceMul, hexDigits4]
  have h4 : u / 65536 = 0 := by omega
  by_cases h1 : u / 16 = 0
  · simp [h1, show u / 4096 = 0 by omega, show u / 256 = 0 by omega, show u % 16 = u by omega, e0]
  by_cases h2 : u / 256 = 0
  · simp [h1, h2, show u / 4096 = 0 by omega, e0]
  by_cases h3 : u / 4096 = 0
  · simp [h1, h2, h3, e0]
  · simp [h1, h2, h3, h4, show u / 4096 % 16 = u / 4096 by omega]

/-- `%#04x` of a 16-bit value is `0x` and its four hex digits. -/
theorem sprintfSharpZeroHex_four (u : Nat) (h : u < 65536) :
    sprintfSharpZeroHex 4 u = String.mk ('0' :: 'x' :: hexDigits4 u) := by
  have hd : List.replicate (4 - (Nat.toDigits 16 u).length) '0' ++ Nat.toDigits 16 u =
      hexDigits4 u := by
    rcases Nat.lt_or_ge u 3 with hu | hu
    · interval_cases u <;> rfl
    · obtain ⟨f, rfl⟩ : ∃ f, u = f + 3 := ⟨u - 3, by omega⟩
      exact pad_toDigitsCore f (f + 3) h
  simp only [sprintfSharpZeroHex, hd]
  rfl

theorem hexDigitValue_digitChar {a : Nat} (h : a < 16) : hexDigitValue (Nat.digitChar a) = a := by
  interval_cases a <;> rfl

theorem hexDigits4_injective {u v : Nat} (hu : u < 65536) (hv : v < 65536)
    (h : hexDigits4 u = hexDigits4 v) : u = v := by
  have hvals := congrArg (List.map hexDigitValue) h
  simp only [hexDigits4, List.map_cons, List.map_nil,
    hexDigitValue_digitChar (Nat.mod_lt _ (by decide : 16 > 0)), List.cons.injEq,
    and_true] at hvals
  omega

/-- A Go `map[string][]string`; its keys are distinct. -/
abbrev StringListMap := AList (fun _ : String => List String)

namespace StringListMap

/-- `m[k]`: an absent key reads as the zero value, the empty slice. -/
def index (m : StringListMap) (k : String) : List String := (m.lookup k).getD []

/-- `m[k] = append(m[k], v)`. -/
def appendAt (m : StringListMap) (k v : String) : StringListMap := m.insert k (m.index k ++ [v])

/-- `len(m)`. -/
def len (m : StringListMap) : Nat := m.entries.length

/-- Every key present holds a non-empty slice. -/
def NoEmptyValues (m : StringListMap) : Prop := ∀ k l, m.lookup k = some l → l ≠ []

variable (m : StringListMap) (k k' v : String)

@[simp] theorem index_empty : (∅ : StringListMap).index k = [] := rfl

theorem index_appendAt :
    (m.appendAt k v).index k' = if k' = k then m.index k' ++ [v] else m.index k' := by
  by_cases h : k' = k
  · subst h
    simp [appendAt, index, AList.lookup_insert]
  · simp [appendAt, index, AList.lookup_insert_ne h, h]

@[simp] theorem index_appendAt_self : (m.appendAt k v).index k = m.index k ++ [v] := by
  simp [index_appendAt]

theorem index_appendAt_of_ne {k k'} (h : k' ≠ k) : (m.appendAt k v).index k' = m.index k' := by
  simp [index_appendAt, h]

/-- Appending `r` under each key of `ks` in turn: the flush of pending names. -/
theorem index_foldl_appendAt (ks : List String) (r : String) :
    (ks.foldl (fun m s => m.appendAt s r) m).index k = m.index k ++ List.replicate (ks.count k) r := by
  induction ks generalizing m with
  | nil => simp
  | cons s ks ih =>
    rw [List.foldl_cons, ih, index_appendAt, List.count_cons]
    by_cases h : k = s
    · subst h
      simp only [if_true, beq_self_eq_true, List.append_assoc, List.singleton_append]
      rw [← List.replicate_succ, List.replicate_succ']
    · simp [h, Ne.symm h]

theorem noEmptyValues_empty : NoEmptyValues ∅ := by
  intro k l h
  simp at h

theorem NoEmptyValues.appendAt {m : StringListMap} (h : m.NoEmptyValues) (k v : String) :
    (m.appendAt k v).NoEmptyValues := by
  intro k' l hl
  by_cases hk : k' = k
  · subst hk
    simp only [StringListMap.appendAt, AList.lookup_insert, Option.some.injEq] at hl
    simp [← hl]
  · rw [StringListMap.appendAt, AList.lookup_insert_ne hk] at hl
    exact h k' l hl

theorem NoEmptyValues.foldl_appendAt {m : StringListMap} (h : m.NoEmptyValues)
    (ks : List String) (r : String) : (ks.foldl (fun m s => m.appendAt s r) m).NoEmptyValues := by
  induction ks generalizing m with
  | nil => exact h
  | cons s ks ih => exact ih (h.appendAt s r)

theorem NoEmptyValues.index_ne_nil {m : StringListMap} (h : m.NoEmptyValues) {k : String}
    (hk : k ∈ m) : m.index k ≠ [] := by
  obtain ⟨l, hl⟩ := Option.isSome_iff_exists.mp (AList.lookup_isSome.mpr hk)
  simp [index, hl, h k l hl]

/-- With no empty slices stored, the map is non-empty exactly when some key reads
as a non-empty slice. -/
theorem len_ne_zero_iff {m : StringListMap} (h : m.NoEmptyValues) :
    m.len ≠ 0 ↔ ∃ k, m.index k ≠ [] := by
  constructor
  · intro hlen
    obtain ⟨⟨k, l⟩, he⟩ := List.exists_mem_of_length_pos (Nat.pos_of_ne_zero hlen)
    have hl : m.lookup k = some l := AList.mem_lookup_iff.mpr he
    exact ⟨k, by simp [index, hl, h k l hl]⟩
  · rintro ⟨k, hk⟩ hlen
    have hnil : m.entries = [] := List.eq_nil_of_length_eq_zero hlen
    have : m.lookup k = none := by simp [AList.lookup, hnil]
    simp [index, this] at hk

end StringListMap

end CheckTlsSupport.Go
