import Mathlib.Data.Nat.Bitwise
import Mathlib.Data.UInt
import Mathlib.Tactic

/-!
# Fields of a number given by its octets

The number whose octets are listed most significant first, the field of a
number between two bit positions, and the number with given bits. Bits decide
equality: a field is the number with the bits of the whole shifted down.
-/

namespace VlfGateway.BitField

/-- Value of a list of octets, most significant first. -/
def bigEndian : List UInt8 → ℕ
  | [] => 0
  | octet::rest => 2^(8*rest.length)*octet.toNat+bigEndian rest

/-- Bits `msb` down to `lsb` of a number. -/
def field (value msb lsb : ℕ) : ℕ := value/2^lsb%2^(msb+1-lsb)

/-- The octets bound the value. -/
theorem bigEndian_lt (octets : List UInt8) : bigEndian octets<2^(8*octets.length) := by
  induction octets with
  | nil => decide
  | cons octet rest ih =>
    have ho := octet.toNat_lt
    have hpow : 2^(8*(octet::rest).length)=2^(8*rest.length)*256 := by
      rw [List.length_cons,Nat.mul_add,Nat.pow_add]
    rw [hpow,bigEndian]
    calc 2^(8*rest.length)*octet.toNat+bigEndian rest
        < 2^(8*rest.length)*octet.toNat+2^(8*rest.length) := Nat.add_lt_add_left ih _
      _ = 2^(8*rest.length)*(octet.toNat+1) := by rw [Nat.mul_add,Nat.mul_one]
      _ ≤ 2^(8*rest.length)*256 := Nat.mul_le_mul_left _ (by omega)

/-- The bits of the value are the bits of the octets. -/
theorem testBit_bigEndian (octets : List UInt8) {position : ℕ} (hp : position<8*octets.length) :
    (bigEndian octets).testBit position=
      (octets.getD (octets.length-1-position/8) 0).toNat.testBit (position%8) := by
  induction octets with
  | nil => exact absurd hp (by simp)
  | cons octet rest ih =>
    rw [List.length_cons] at hp ⊢
    rw [bigEndian,Nat.testBit_two_pow_mul_add _ (bigEndian_lt rest)]
    by_cases hlow : position<8*rest.length
    · have hindex : rest.length+1-1-position/8=(rest.length-1-position/8)+1 := by omega
      rw [if_pos hlow,ih hlow,hindex,List.getD_cons_succ]
    · have hindex : rest.length+1-1-position/8=0 := by omega
      have hbit : position-8*rest.length=position%8 := by omega
      rw [if_neg hlow,hindex,List.getD_cons_zero,hbit]

/-- The bits of a field. -/
theorem testBit_field (value msb lsb i : ℕ) :
    (field value msb lsb).testBit i=(decide (i < msb+1-lsb) && value.testBit (lsb+i)) := by
  unfold field
  rw [Nat.testBit_mod_two_pow,Nat.testBit_div_two_pow,Nat.add_comm i lsb]

/-- A field is bounded by its width. -/
theorem field_lt (value msb lsb : ℕ) : field value msb lsb<2^(msb+1-lsb) :=
  Nat.mod_lt _ (Nat.two_pow_pos _)

/-- A field cut in two. -/
theorem field_split (value : ℕ) {msb middle lsb : ℕ} (hl : lsb ≤ middle) (hm : middle ≤ msb) :
    field value msb lsb=field value middle lsb+2^(middle+1-lsb)*field value msb (middle+1) := by
  unfold field
  rw [show msb+1-lsb=(middle+1-lsb)+(msb+1-(middle+1)) by omega,Nat.pow_add,Nat.mod_mul,
    Nat.div_div_eq_div_mul,←Nat.pow_add,show lsb+(middle+1-lsb)=middle+1 by omega]

/-- A number with no bits at or above `width` and the bits of a field below it
is that field. -/
theorem eq_field_of_testBit {number value msb lsb : ℕ}
    (h : ∀ i,number.testBit i=(decide (i < msb+1-lsb) && value.testBit (lsb+i))) :
    number=field value msb lsb := by
  apply Nat.eq_of_testBit_eq
  intro i
  rw [h,testBit_field]

end VlfGateway.BitField
