import Mathlib.Algebra.Group.Nat.Basic
import Mathlib.Tactic.Basic

/-!
# The hijack counter and clean shutdown

`liveHijackCount` counts the hijacked connections "so that we can do clean
shutdowns": `hijackHandle` runs `incrementHijack` after a successful hijack and
defers `decrementHijack`, and `main`, once both servers are shut down, waits
while `atomic.LoadUint64(liveHijackCount) != 0`. Both functions are
compare-and-swap loops: load the counter, then swap in the loaded value plus or
minus one if the counter still holds it, else go round again.

The goroutines are modelled by their phase in those loops and interleave
freely: a schedule is any list of goroutine indices, and each entry runs one
atomic operation of that goroutine. The counter is a `UInt64` and wraps as Go's
does. Over every schedule the counter equals the number of goroutines between
their increment and their decrement (`HijackWorld.Counted`): no update is lost,
none wraps while there are fewer than `2 ^ 64` goroutines, and the shutdown
loop reads `0` exactly when no hijacked connection is live.
-/

namespace CheckTlsSupport.Service

/-- Where a connection's goroutine stands in `hijackHandle` with respect to the
counter. `incCas old` and `decCas old` hold the value their loop loaded. -/
inductive HijackPhase
  | idle
  | incLoad
  | incCas (old : UInt64)
  | live
  | decLoad
  | decCas (old : UInt64)
  | done
  deriving DecidableEq, Repr

/-- The goroutine has incremented the counter and not yet decremented it. -/
def HijackPhase.holds : HijackPhase → Bool
  | .live | .decLoad | .decCas _ => true
  | _ => false

/-- One atomic step of a goroutine against the counter's value: the hijack
succeeds and `incrementHijack` starts; `old := atomic.LoadUint64(..)`;
`atomic.CompareAndSwapUint64(.., old, old + 1)`, which breaks the loop or goes
round again; the handler returns and the deferred `decrementHijack` starts;
its load; its swap of `old - 1`. Returns the counter and the new phase. -/
def HijackPhase.step (count : UInt64) : HijackPhase → UInt64 × HijackPhase
  | .idle => (count, .incLoad)
  | .incLoad => (count, .incCas count)
  | .incCas old => if count = old then (old + 1, .live) else (count, .incLoad)
  | .live => (count, .decLoad)
  | .decLoad => (count, .decCas count)
  | .decCas old => if count = old then (old - 1, .done) else (count, .decLoad)
  | .done => (count, .done)

/-- The shared `liveHijackCount` and the goroutine of every connection. -/
structure HijackWorld where
  count : UInt64
  threads : List HijackPhase
  deriving DecidableEq, Repr

/-- `n` connections before any hijack, with the counter at its zero value. -/
def HijackWorld.init (n : Nat) : HijackWorld := ⟨0, List.replicate n .idle⟩

/-- Goroutine `i` runs one atomic step; an index with no goroutine does nothing. -/
def HijackWorld.step (w : HijackWorld) (i : Nat) : HijackWorld :=
  match w.threads[i]? with
  | some p => ⟨(p.step w.count).1, w.threads.set i (p.step w.count).2⟩
  | none => w

/-- The goroutines run in the order `schedule` gives, one atomic step each. -/
def HijackWorld.run (w : HijackWorld) (schedule : List Nat) : HijackWorld :=
  schedule.foldl HijackWorld.step w

/-- The counter is the number of goroutines that hold an increment. -/
def HijackWorld.Counted (w : HijackWorld) : Prop :=
  w.count.toNat = w.threads.countP HijackPhase.holds

section Step

private theorem toNat_add_one {a : UInt64} (h : a.toNat + 1 < 2 ^ 64) :
    (a + 1).toNat = a.toNat + 1 := by
  show (a.toBitVec + 1).toNat = _
  rw [BitVec.toNat_add]
  exact Nat.mod_eq_of_lt h

private theorem toNat_sub_one {a : UInt64} (h : 0 < a.toNat) : (a - 1).toNat = a.toNat - 1 :=
  UInt64.toNat_sub_of_le a 1 (show (1 : UInt64).toNat ≤ a.toNat from h)

/-- A step moves the counter exactly as it moves the goroutine in or out of the
holding phases, as long as an increment does not wrap and a decrement finds the
counter positive. -/
theorem HijackPhase.step_count (p : HijackPhase) {count : UInt64}
    (hfit : p.holds = false → count.toNat + 1 < 2 ^ 64)
    (hpos : p.holds = true → 0 < count.toNat) :
    (p.step count).1.toNat + (if p.holds then 1 else 0) =
      count.toNat + (if (p.step count).2.holds then 1 else 0) := by
  cases p with
  | incCas old =>
    simp only [HijackPhase.step]
    split
    · rename_i h
      subst h
      simp [HijackPhase.holds, toNat_add_one (hfit rfl)]
    · simp [HijackPhase.holds]
  | decCas old =>
    simp only [HijackPhase.step]
    split
    · rename_i h
      subst h
      have := hpos rfl
      simp [HijackPhase.holds, toNat_sub_one this]
      omega
    · simp [HijackPhase.holds]
  | _ => simp [HijackPhase.step, HijackPhase.holds]

@[simp] theorem HijackWorld.step_length (w : HijackWorld) (i : Nat) :
    (w.step i).threads.length = w.threads.length := by
  unfold HijackWorld.step
  split <;> simp

/-- Every interleaved step keeps the counter exact. -/
theorem HijackWorld.Counted.step {w : HijackWorld} (h : w.Counted)
    (hlen : w.threads.length < 2 ^ 64) (i : Nat) : (w.step i).Counted := by
  unfold HijackWorld.step
  split
  · rename_i p hp
    obtain ⟨hi, rfl⟩ := List.getElem?_eq_some_iff.mp hp
    have hc : w.count.toNat = w.threads.countP HijackPhase.holds := h
    have hle : w.threads.countP HijackPhase.holds ≤ w.threads.length := List.countP_le_length _
    have hfit : w.threads[i].holds = false → w.count.toNat + 1 < 2 ^ 64 := fun hf => by
      have hlt : w.threads.countP HijackPhase.holds ≠ w.threads.length := fun he =>
        absurd (List.countP_eq_length.mp he _ (List.getElem_mem hi)) (by simp [hf])
      omega
    have hpos : w.threads[i].holds = true → 0 < w.count.toNat := fun ht =>
      hc ▸ List.countP_pos_iff.mpr ⟨_, List.getElem_mem hi, ht⟩
    have hstep := HijackPhase.step_count w.threads[i] hfit hpos
    have hset := List.countP_set HijackPhase.holds w.threads i (w.threads[i].step w.count).2 hi
    have hone : (if w.threads[i].holds then 1 else 0) ≤ w.threads.countP HijackPhase.holds :=
      List.boole_getElem_le_countP _ _ _ hi
    show (w.threads[i].step w.count).1.toNat = (w.threads.set i _).countP HijackPhase.holds
    omega
  · exact h

end Step

section Run

theorem HijackWorld.Counted.run {w : HijackWorld} (h : w.Counted)
    (hlen : w.threads.length < 2 ^ 64) (schedule : List Nat) : (w.run schedule).Counted := by
  induction schedule generalizing w with
  | nil => exact h
  | cons i schedule ih => exact ih (h.step hlen i) ((w.step_length i).symm ▸ hlen)

end Run

end CheckTlsSupport.Service
