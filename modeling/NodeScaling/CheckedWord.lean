/-!
Arithmetic on machine words that refuses a result beyond the word, where the plain operations
would wrap. Each operation answers exactly when its result over the natural numbers fits.
-/
namespace NodeScaling.CheckedWord

def add? (a b : UInt64) : Option UInt64 :=
  if a.toNat + b.toNat < UInt64.size then some (a + b) else none

def mul? (a b : UInt64) : Option UInt64 :=
  if a.toNat * b.toNat < UInt64.size then some (a * b) else none

def narrow? (a : UInt64) : Option UInt32 :=
  if a.toNat < UInt32.size then some a.toUInt32 else none

/-- The product in 32 bits, or the greatest number there if it does not fit. -/
def saturatingMul (a b : UInt32) : UInt32 :=
  if a.toNat * b.toNat < UInt32.size then a * b else 4294967295

theorem add?_eq_some {a b c : UInt64} (h : add? a b = some c) : c.toNat = a.toNat + b.toNat := by
  unfold add? at h
  split at h
  · next fits => cases h; rw [UInt64.toNat_add, Nat.mod_eq_of_lt fits]
  · contradiction

theorem add?_eq_some_iff {a b c : UInt64} : add? a b = some c ↔ c.toNat = a.toNat + b.toNat := by
  refine ⟨add?_eq_some, fun exact => ?_⟩
  have fits : a.toNat + b.toNat < UInt64.size := exact ▸ c.toNat_lt
  rw [add?, if_pos fits, Option.some.injEq]
  exact UInt64.toNat_inj.mp (by rw [UInt64.toNat_add, Nat.mod_eq_of_lt fits, exact])

theorem add?_eq_none_iff {a b : UInt64} : add? a b = none ↔ UInt64.size ≤ a.toNat + b.toNat := by
  unfold add?
  split <;> simp_all

theorem mul?_eq_some {a b c : UInt64} (h : mul? a b = some c) : c.toNat = a.toNat * b.toNat := by
  unfold mul? at h
  split at h
  · next fits => cases h; rw [UInt64.toNat_mul, Nat.mod_eq_of_lt fits]
  · contradiction

theorem mul?_eq_some_iff {a b c : UInt64} : mul? a b = some c ↔ c.toNat = a.toNat * b.toNat := by
  refine ⟨mul?_eq_some, fun exact => ?_⟩
  have fits : a.toNat * b.toNat < UInt64.size := exact ▸ c.toNat_lt
  rw [mul?, if_pos fits, Option.some.injEq]
  exact UInt64.toNat_inj.mp (by rw [UInt64.toNat_mul, Nat.mod_eq_of_lt fits, exact])

theorem mul?_eq_none_iff {a b : UInt64} : mul? a b = none ↔ UInt64.size ≤ a.toNat * b.toNat := by
  unfold mul?
  split <;> simp_all

theorem narrow?_eq_some {a : UInt64} {b : UInt32} (h : narrow? a = some b) :
    b.toNat = a.toNat := by
  unfold narrow? at h
  split at h
  · next fits => cases h; simpa using Nat.mod_eq_of_lt fits
  · contradiction

theorem narrow?_eq_some_iff {a : UInt64} {b : UInt32} :
    narrow? a = some b ↔ b.toNat = a.toNat := by
  refine ⟨narrow?_eq_some, fun exact => ?_⟩
  have fits : a.toNat < UInt32.size := exact ▸ b.toNat_lt
  rw [narrow?, if_pos fits, Option.some.injEq]
  exact UInt32.toNat_inj.mp (by rw [UInt64.toNat_toUInt32, Nat.mod_eq_of_lt fits, exact])

theorem toNat_saturatingMul (a b : UInt32) :
    (saturatingMul a b).toNat = min (a.toNat * b.toNat) (UInt32.size - 1) := by
  unfold saturatingMul
  split
  · next fits =>
    rw [UInt32.toNat_mul, Nat.mod_eq_of_lt fits]
    omega
  · next beyond =>
    have : (4294967295 : UInt32).toNat = UInt32.size - 1 := by decide
    omega

end NodeScaling.CheckedWord
