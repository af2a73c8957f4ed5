import Mathlib.Data.Nat.Basic
import Mathlib.Tactic

/-!
# Text of the number conversions of `printf`

The unsigned and signed decimal conversions and the hexadecimal ones, with
the widths their results can have. Text is a list of characters.
-/

namespace VlfGateway.PrintfText

/-- `%u` and `%lu`. -/
def unsignedDecimal (n : ℕ) : List Char := Nat.toDigits 10 n

/-- `%d`. -/
def signedDecimal (z : ℤ) : List Char :=
  if z<0 then '-'::unsignedDecimal z.natAbs else unsignedDecimal z.natAbs

/-- `%x`. -/
def hex (n : ℕ) : List Char := Nat.toDigits 16 n

/-- `%0wx`: at least `w` digits, filled up with leading zeros. -/
def hexPadded (w n : ℕ) : List Char := List.replicate (w-(hex n).length) '0'++hex n

/-- Value of a hexadecimal digit. -/
def hexValue (c : Char) : Option ℕ :=
  if c.isDigit then some (c.toNat-48)
  else if 'a'≤c ∧ c≤ 'f' then some (c.toNat-87)
  else if 'A'≤c ∧ c≤ 'F' then some (c.toNat-55)
  else none

/-- Further hexadecimal digits behind those that stand for a number. -/
def readHexFrom (n : ℕ) : List Char → Option ℕ
  | [] => some n
  | c::text => (hexValue c).bind fun d => readHexFrom (16*n+d) text

/-- The number that hexadecimal text stands for. -/
def readHex (text : List Char) : Option ℕ := if text=[] then none else readHexFrom 0 text

/-- A number below a power of ten has at most that many decimal digits. -/
theorem unsignedDecimal_length_le {n k : ℕ} (hk : 0<k) (h : n<10^k) :
    (unsignedDecimal n).length≤k :=
  (Nat.length_toDigits_le_iff (by decide) hk).mpr h

/-- A number below a power of sixteen has at most that many digits. -/
theorem hex_length_le {n k : ℕ} (hk : 0<k) (h : n<16^k) : (hex n).length≤k :=
  (Nat.length_toDigits_le_iff (by decide) hk).mpr h

/-- Padding brings a number that fits to exactly its width. -/
theorem hexPadded_length {n w : ℕ} (hw : 0<w) (h : n<16^w) : (hexPadded w n).length=w := by
  have hl := hex_length_le hw h
  unfold hexPadded
  rw [List.length_append,List.length_replicate]
  omega

/-- A nonnegative number is printed without a sign. -/
theorem signedDecimal_natCast (n : ℕ) : signedDecimal n=unsignedDecimal n := by
  unfold signedDecimal
  rw [if_neg (by omega),Int.natAbs_natCast]

/-- A number between the negative and positive bounds of `k` digits takes at
most one character more for its sign. -/
theorem signedDecimal_length_le {z : ℤ} {k : ℕ} (hk : 0<k) (h : z.natAbs<10^k) :
    (signedDecimal z).length≤k+1 := by
  have hl := unsignedDecimal_length_le hk h
  unfold signedDecimal
  split
  · rw [List.length_cons]
    omega
  · omega

/-! ## Reading hexadecimal text back -/

/-- A printed digit has its own value. -/
theorem hexValue_digitChar {d : ℕ} (h : d<16) : hexValue (Nat.digitChar d)=some d := by
  interval_cases d <;> rfl

/-- Every character of `%x` is a digit. -/
theorem mem_hex {c : Char} {n : ℕ} (h : c∈hex n) : ∃ d<16,c=Nat.digitChar d := by
  induction n using Nat.strongRecOn with
  | ind n ih =>
    unfold hex at h ih
    rw [Nat.toDigits_eq_if (by decide)] at h
    split at h
    · rename_i hn
      exact ⟨n,hn,List.mem_singleton.mp h⟩
    · rcases List.mem_append.mp h with hfront|hlast
      · exact ih (n/16) (by omega) hfront
      · exact ⟨n%16,Nat.mod_lt _ (by decide),List.mem_singleton.mp hlast⟩

/-- Every character of `%0wx` is a digit. -/
theorem mem_hexPadded {c : Char} {w n : ℕ} (h : c∈hexPadded w n) :
    ∃ d<16,c=Nat.digitChar d := by
  rcases List.mem_append.mp h with hzero|hdigit
  · exact ⟨0,by decide,List.eq_of_mem_replicate hzero⟩
  · exact mem_hex hdigit

/-- Text is read from left to right. -/
theorem readHexFrom_append (front back : List Char) :
    ∀ n,readHexFrom n (front++back)=(readHexFrom n front).bind fun m => readHexFrom m back := by
  induction front with
  | nil => exact fun n => rfl
  | cons c front ih =>
    intro n
    rw [List.cons_append,readHexFrom,readHexFrom]
    cases hexValue c with
    | none => rfl
    | some d => exact ih (16*n+d)

/-- Zeros shift the number that stands in front of them. -/
theorem readHexFrom_zeros (k n : ℕ) :
    readHexFrom n (List.replicate k '0')=some (n*16^k) := by
  induction k generalizing n with
  | zero => rw [List.replicate_zero,readHexFrom,pow_zero,mul_one]
  | succ k ih =>
    change readHexFrom (16*n+0) (List.replicate k '0')=_
    rw [ih,pow_succ]
    congr 1
    ring

/-- The digits of a number are read behind any other. -/
theorem readHexFrom_hex (n m : ℕ) : readHexFrom m (hex n)=some (m*16^(hex n).length+n) := by
  induction n using Nat.strongRecOn generalizing m with
  | ind n ih =>
    unfold hex at ih ⊢
    rw [Nat.toDigits_eq_if (by decide)]
    split
    · rename_i hn
      rw [readHexFrom,hexValue_digitChar hn]
      change some (16*m+n)=some (m*16^1+n)
      rw [pow_one,Nat.mul_comm]
    · rw [readHexFrom_append,ih (n/16) (by omega) m]
      change (hexValue (Nat.digitChar (n%16))).bind _=_
      rw [hexValue_digitChar (Nat.mod_lt _ (by decide)),List.length_append]
      change some (16*(m*16^(Nat.toDigits 16 (n/16)).length+n/16)+n%16)=
        some (m*16^((Nat.toDigits 16 (n/16)).length+1)+n)
      have hn := Nat.div_add_mod n 16
      rw [pow_succ,←Nat.mul_assoc]
      congr 1
      omega

/-- The padded digits of a number are read behind any other. -/
theorem readHexFrom_hexPadded (w n m : ℕ) :
    readHexFrom m (hexPadded w n)=some (m*16^(hexPadded w n).length+n) := by
  unfold hexPadded
  rw [readHexFrom_append,readHexFrom_zeros]
  change readHexFrom (m*16^(w-(hex n).length)) (hex n)=_
  rw [readHexFrom_hex,List.length_append,List.length_replicate,pow_add,Nat.mul_assoc]

/-- A pair of words printed by `%x%0wx` is read as one number. -/
theorem readHex_pair {w low : ℕ} (high : ℕ) (hw : 0<w) (hlow : low<16^w) :
    readHex (hex high++hexPadded w low)=some (high*16^w+low) := by
  have hne : hex high++hexPadded w low≠[] := by
    intro hnil
    exact Nat.toDigits_ne_nil (List.append_eq_nil_iff.mp hnil).1
  unfold readHex
  rw [if_neg hne,readHexFrom_append,readHexFrom_hex]
  change readHexFrom (0*16^(hex high).length+high) (hexPadded w low)=_
  rw [readHexFrom_hexPadded,hexPadded_length hw hlow,Nat.zero_mul,Nat.zero_add]

end VlfGateway.PrintfText
