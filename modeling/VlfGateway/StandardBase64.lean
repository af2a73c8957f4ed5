import Mathlib.Data.List.Basic
import Mathlib.Tactic

/-!
# The padded Base64 code

Three octets are one number of twenty-four bits, written as four digits to the
base sixty-four, the highest first. A last group of two or one octets is
extended with zero bits to whole digits, and padding completes its four
characters. The decoder accepts exactly this form and reads every encoding
back.
-/

namespace VlfGateway.StandardBase64

/-- Character of a digit. -/
def digitChar (v : ℕ) : Char :=
  if v<26 then Char.ofNat (v+65)
  else if v<52 then Char.ofNat (v-26+97)
  else if v<62 then Char.ofNat (v-52+48)
  else if v=62 then '+'
  else '/'

/-- Digit of a character of the alphabet. -/
def charDigit (c : Char) : Option ℕ :=
  if 65≤c.toNat ∧ c.toNat≤90 then some (c.toNat-65)
  else if 97≤c.toNat ∧ c.toNat≤122 then some (c.toNat-97+26)
  else if 48≤c.toNat ∧ c.toNat≤57 then some (c.toNat-48+52)
  else if c = '+' then some 62
  else if c = '/' then some 63
  else none

/-- Digit `k` of a number, counted from the lowest. -/
def digit (k v : ℕ) : ℕ := v/64^k%64

/-- Text of a list of octets. -/
def encode : List UInt8 → List Char
  | a::b::c::rest =>
    let v := a.toNat*2^16+b.toNat*2^8+c.toNat
    [digitChar (digit 3 v),digitChar (digit 2 v),digitChar (digit 1 v),digitChar (digit 0 v)]++
      encode rest
  | [a,b] =>
    let v := (a.toNat*2^8+b.toNat)*2^2
    [digitChar (digit 2 v),digitChar (digit 1 v),digitChar (digit 0 v),'=']
  | [a] =>
    let v := a.toNat*2^4
    [digitChar (digit 1 v),digitChar (digit 0 v),'=','=']
  | [] => []

/-- Octets of a full group. -/
def fullGroup (w x y z : ℕ) : List UInt8 :=
  let v := w*64^3+x*64^2+y*64+z
  [UInt8.ofNat (v/2^16),UInt8.ofNat (v/2^8),UInt8.ofNat v]

/-- Octets of a last group of two, whose extension has to be zero. -/
def pairGroup (w x y : ℕ) : Option (List UInt8) :=
  let v := w*64^2+x*64+y
  if v%2^2=0 then some [UInt8.ofNat (v/2^10),UInt8.ofNat (v/2^2)] else none

/-- The octet of a last group of one, whose extension has to be zero. -/
def singleGroup (w x : ℕ) : Option (List UInt8) :=
  let v := w*64+x
  if v%2^4=0 then some [UInt8.ofNat (v/2^4)] else none

/-- Octets of a text, if it is the text of some. -/
def decode : List Char → Option (List UInt8)
  | [] => some []
  | a::b::c::d::rest =>
    if rest=[] ∧ d = '=' then
      if c = '=' then do singleGroup (←charDigit a) (←charDigit b)
      else do pairGroup (←charDigit a) (←charDigit b) (←charDigit c)
    else do
      let group := fullGroup (←charDigit a) (←charDigit b) (←charDigit c) (←charDigit d)
      return group++(←decode rest)
  | _ => none

/-- The alphabet has a character for every digit, and its digit is read
back. -/
theorem charDigit_digitChar {v : ℕ} (hv : v<64) : charDigit (digitChar v)=some v := by
  have hall : ∀ v<64,charDigit (digitChar v)=some v := by decide
  exact hall v hv

/-- No digit is written as padding. -/
theorem digitChar_ne_padding {v : ℕ} (hv : v<64) : digitChar v ≠ '=' := by
  have hall : ∀ v<64,digitChar v ≠ '=' := by decide
  exact hall v hv

/-- Digits are below the base. -/
theorem digit_lt (k v : ℕ) : digit k v<64 := Nat.mod_lt _ (by decide)

/-- Multiplying by the base moves every digit up by one. -/
theorem digit_mul_base (k v : ℕ) : digit (k+1) (v*64)=digit k v := by
  rw [digit,digit,pow_succ,Nat.mul_div_mul_right _ _ (by decide)]

/-- Every group takes four characters. -/
theorem encode_length (octets : List UInt8) : (encode octets).length=4*((octets.length+2)/3) := by
  induction octets using encode.induct with
  | case1 a b c rest ih =>
    rw [encode]
    simp only [List.length_append,List.length_cons,List.length_nil,ih]
    omega
  | case2 a b =>
    rw [encode]
    simp only [List.length_cons,List.length_nil]
  | case3 a =>
    rw [encode]
    simp only [List.length_cons,List.length_nil]
  | case4 =>
    rw [encode]
    rfl

/-- The octets of a full group are read back. -/
theorem fullGroup_digit (a b c : UInt8) :
    fullGroup (digit 3 (a.toNat*2^16+b.toNat*2^8+c.toNat))
      (digit 2 (a.toNat*2^16+b.toNat*2^8+c.toNat))
      (digit 1 (a.toNat*2^16+b.toNat*2^8+c.toNat))
      (digit 0 (a.toNat*2^16+b.toNat*2^8+c.toNat))=[a,b,c] := by
  have ha := a.toNat_lt
  have hb := b.toNat_lt
  have hc := c.toNat_lt
  unfold fullGroup digit
  simp only [List.cons.injEq,and_true,←UInt8.toNat_inj,UInt8.toNat_ofNat']
  omega

/-- The octets of a last group of two are read back. -/
theorem pairGroup_digit (a b : UInt8) :
    pairGroup (digit 2 ((a.toNat*2^8+b.toNat)*2^2)) (digit 1 ((a.toNat*2^8+b.toNat)*2^2))
      (digit 0 ((a.toNat*2^8+b.toNat)*2^2))=some [a,b] := by
  have ha := a.toNat_lt
  have hb := b.toNat_lt
  unfold pairGroup digit
  dsimp only
  rw [if_pos (by omega)]
  simp only [Option.some.injEq,List.cons.injEq,and_true,←UInt8.toNat_inj,UInt8.toNat_ofNat']
  omega

/-- The octet of a last group of one is read back. -/
theorem singleGroup_digit (a : UInt8) :
    singleGroup (digit 1 (a.toNat*2^4)) (digit 0 (a.toNat*2^4))=some [a] := by
  have ha := a.toNat_lt
  unfold singleGroup digit
  dsimp only
  rw [if_pos (by omega)]
  simp only [Option.some.injEq,List.cons.injEq,and_true,←UInt8.toNat_inj,UInt8.toNat_ofNat']
  omega

/-- The decoder reads every encoding back. -/
theorem decode_encode (octets : List UInt8) : decode (encode octets)=some octets := by
  induction octets using encode.induct with
  | case1 a b c rest ih =>
    rw [encode]
    dsimp only [List.cons_append,List.nil_append]
    have hopen : ¬(encode rest=[] ∧ digitChar (digit 0 (a.toNat*2^16+b.toNat*2^8+c.toNat)) = '=') :=
      fun h => digitChar_ne_padding (digit_lt _ _) h.2
    rw [decode,if_neg hopen]
    simp only [charDigit_digitChar (digit_lt _ _),ih,Option.bind_eq_bind,Option.bind_some,
      Option.pure_def,fullGroup_digit]
    rfl
  | case2 a b =>
    rw [encode,decode,if_pos ⟨rfl,rfl⟩,if_neg (digitChar_ne_padding (digit_lt _ _))]
    simp only [charDigit_digitChar (digit_lt _ _),Option.bind_eq_bind,Option.bind_some,
      pairGroup_digit]
  | case3 a =>
    rw [encode,decode,if_pos ⟨rfl,rfl⟩,if_pos rfl]
    simp only [charDigit_digitChar (digit_lt _ _),Option.bind_eq_bind,Option.bind_some,
      singleGroup_digit]
  | case4 =>
    rw [encode,decode]

end VlfGateway.StandardBase64
