import Mathlib.NumberTheory.LucasPrimality
import Mathlib.Tactic.NormNum.Prime
import Coffer.Curve.Point
import Coffer.Proofs.Curve.Bits

/-!
# Proofs/Curve/Primality — the prime of the field and the order of the curve

A number is prime if some **witness** has exactly the order that it would have in the field of that
size: Lucas's test.  The test needs the prime factors of the number before it, which are tested in
the same way until they are small.
-/

namespace Coffer.Curve

/-! ## Lucas's test -/

/-- A power modulo a number. -/
def powerMod (modulus base exponent : Nat) : Nat :=
  (bits (exponent.log2 + 1) exponent).foldl
    (fun value bit =>
      if bit then value * value % modulus * base % modulus else value * value % modulus) 1

theorem powerMod_modEq (modulus base exponent : Nat) :
    powerMod modulus base exponent ≡ base ^ exponent [MOD modulus] := by
  refine foldl_bits (fun value number => value ≡ base ^ number [MOD modulus])
    (Nat.ModEq.refl 1) ?_ Nat.lt_log2_self
  intro value number bit hvalue
  have hsquare : value * value % modulus ≡ base ^ (2 * number) [MOD modulus] := by
    rw [two_mul, pow_add]
    exact (Nat.mod_modEq _ _).trans (hvalue.mul hvalue)
  cases bit with
  | false => exact hsquare
  | true =>
    rw [Bool.toNat_true, pow_succ]
    exact (Nat.mod_modEq _ _).trans (hsquare.mul (Nat.ModEq.refl base))

theorem pow_eq_one_iff {modulus base exponent : Nat} (hmodulus : 1 < modulus) :
    (base : ZMod modulus) ^ exponent = 1 ↔ powerMod modulus base exponent % modulus = 1 := by
  rw [← Nat.cast_pow, ← Nat.cast_one, ZMod.natCast_eq_natCast_iff, Nat.ModEq,
    Nat.mod_eq_of_lt hmodulus, powerMod_modEq]

/-- **A certificate** that a number is prime: a witness, and the prime factors of the number before
it, each as often as it divides. -/
structure Certificate where
  (number witness : Nat)
  (factors : List Nat)

/-- **Lucas's test**: the factors are known and make up the number before the one that is tested,
and the witness has that number as its order. -/
def Certificate.Passes (known : List Nat) (certificate : Certificate) : Prop :=
  1 < certificate.number
    ∧ certificate.factors.prod + 1 = certificate.number
    ∧ powerMod certificate.number certificate.witness (certificate.number - 1)
      % certificate.number = 1
    ∧ ∀ factor ∈ certificate.factors, factor ∈ known
      ∧ powerMod certificate.number certificate.witness ((certificate.number - 1) / factor)
        % certificate.number ≠ 1

instance (known : List Nat) (certificate : Certificate) :
    Decidable (certificate.Passes known) :=
  inferInstanceAs (Decidable (_ ∧ _))

/-- Certificates in a row, of which each may use the numbers of those before it. -/
def Chained (known : List Nat) : List Certificate → Prop
  | [] => True
  | certificate :: rest => certificate.Passes known ∧ Chained (certificate.number :: known) rest

instance decidableChained : (known : List Nat) → (certificates : List Certificate) →
    Decidable (Chained known certificates)
  | _, [] => inferInstanceAs (Decidable True)
  | known, certificate :: rest =>
    have := decidableChained (certificate.number :: known) rest
    inferInstanceAs (Decidable (_ ∧ _))

/-- **A number that passes the test is prime**, if what is known is prime. -/
theorem Certificate.Passes.prime {known : List Nat} {certificate : Certificate}
    (h : certificate.Passes known) (hknown : ∀ number ∈ known, number.Prime) :
    certificate.number.Prime := by
  obtain ⟨hnumber, hprod, hone, hfactors⟩ := h
  refine lucas_primality _ certificate.witness ((pow_eq_one_iff hnumber).2 hone) ?_
  intro factor hfactor hdvd
  have hmem : factor ∈ certificate.factors := by
    rw [show certificate.number - 1 = certificate.factors.prod by omega] at hdvd
    obtain ⟨other, hother, hdvd⟩ := (Prime.dvd_prod_iff hfactor.prime).1 hdvd
    have hprime := hknown other (hfactors other hother).1
    rwa [(Nat.prime_dvd_prime_iff_eq hfactor hprime).1 hdvd]
  rw [Ne, pow_eq_one_iff hnumber]
  exact (hfactors factor hmem).2

theorem Chained.prime {known : List Nat} {certificates : List Certificate}
    (h : Chained known certificates) (hknown : ∀ number ∈ known, number.Prime) :
    ∀ number ∈ certificates.map Certificate.number, number.Prime := by
  induction certificates generalizing known with
  | nil => simp
  | cons first rest ih =>
    have hfirst := h.1.prime hknown
    rw [List.map_cons]
    exact List.forall_mem_cons.2 ⟨hfirst, ih h.2 (List.forall_mem_cons.2 ⟨hfirst, hknown⟩)⟩

/-! ## The two primes -/

/-- The small primes that the certificates below rest on. -/
def smallPrimes : List Nat :=
  [2, 3, 5, 7, 11, 17, 23, 29, 41, 43, 53, 71, 107, 127, 131, 173, 197, 229, 257, 311, 373, 641,
   1201, 1297, 1531, 2411, 3023, 3407, 3677, 3769, 16879, 17449, 18169, 38189, 65537, 78283, 126241,
   155317, 490463, 704251, 3969899, 6700417]

/-- The certificates of the two primes, and of the primes that these rest on. -/
def certificates : List Certificate :=
  [⟨204061199, 11, [2, 11, 23, 107, 3769]⟩,
   ⟨34282281433, 17, [2, 2, 2, 3, 7, 204061199]⟩,
   ⟨66417393611, 6, [2, 5, 53, 173, 197, 3677]⟩,
   ⟨11290956913871, 13, [2, 5, 17, 66417393611]⟩,
   ⟨46076956964474543, 5, [2, 23, 18169, 78283, 704251]⟩,
   ⟨774023187263532362759620327192479577272145303, 3, [2, 3, 3, 2411, 34282281433, 11290956913871,
     46076956964474543]⟩,
   ⟨835945042244614951780389953367877943453916927241, 11, [2, 2, 2, 3, 3, 3, 5,
     774023187263532362759620327192479577272145303]⟩,
   ⟨prime, 6, [2, 3, 5, 5, 17, 257, 641, 1531, 65537, 490463, 6700417,
     835945042244614951780389953367877943453916927241]⟩,
   ⟨311245691, 2, [2, 5, 7, 17, 29, 29, 311]⟩,
   ⟨622491383, 5, [2, 311245691]⟩,
   ⟨9350987, 2, [2, 17, 229, 1201]⟩,
   ⟨187019741, 2, [2, 2, 5, 9350987]⟩,
   ⟨1002328039319, 19, [2, 126241, 3969899]⟩,
   ⟨191039911, 3, [2, 3, 5, 41, 155317]⟩,
   ⟨208150935158385979, 2, [2, 3, 11, 43, 127, 3023, 191039911]⟩,
   ⟨2624747550333869278416773953, 7, [2, 2, 2, 2, 2, 2, 3, 3, 1297, 16879, 208150935158385979]⟩,
   ⟨order, 7, [2, 2, 2, 2, 3, 71, 131, 373, 3407, 17449, 38189, 187019741, 622491383, 1002328039319,
     2624747550333869278416773953]⟩]

private theorem prime_of_mem_smallPrimes : ∀ number ∈ smallPrimes, number.Prime := by
  norm_num [smallPrimes]

private theorem chained_certificates : Chained smallPrimes certificates := by
  decide +kernel

/-- **The number of coordinates is prime.** -/
theorem prime_prime : prime.Prime :=
  chained_certificates.prime prime_of_mem_smallPrimes prime (by decide +kernel)

/-- **The number of points is prime.** -/
theorem prime_order : order.Prime :=
  chained_certificates.prime prime_of_mem_smallPrimes order (by decide +kernel)

end Coffer.Curve
