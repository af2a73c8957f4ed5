import Mathlib.Data.List.Basic
import Mathlib.Logic.Function.Iterate
import Mathlib.Tactic

/-!
# Reflected cyclic redundancy checks

A register of `w` bits is shifted towards its lowest bit, and the polynomial is
added whenever a one is shifted out. A message is fed from its first bit on by
adding each bit to the lowest bit of the register. Both operations are linear
over exclusive or. When the polynomial has its highest bit set a step loses
nothing, so that an error confined to `w` consecutive bits always reaches the
end of the message.
-/

namespace VlfGateway.ReflectedCrc

variable {w : ℕ}

/-- One shift of the register. -/
def bitStep (poly r : BitVec w) : BitVec w :=
  (r >>> 1) ^^^ (if r.getLsbD 0 then poly else 0#w)

/-- A message bit in the lowest place. -/
def lowBit (b : Bool) : BitVec w := if b then 1#w else 0#w

/-- The register after a message. -/
def feed (poly r : BitVec w) (bits : List Bool) : BitVec w :=
  bits.foldl (fun r b => bitStep poly (r ^^^ lowBit b)) r

/-! ## One step -/

/-- The bits of a register after a step. -/
theorem getLsbD_bitStep (poly r : BitVec w) (i : ℕ) :
    (bitStep poly r).getLsbD i=((r.getLsbD (1+i)).xor (r.getLsbD 0 && poly.getLsbD i)) := by
  unfold bitStep
  rw [BitVec.getLsbD_xor,BitVec.getLsbD_ushiftRight]
  cases r.getLsbD 0
  · rw [if_neg Bool.false_ne_true,BitVec.getLsbD_zero,Bool.false_and]
  · rw [if_pos rfl,Bool.true_and]

/-- A step is linear. -/
theorem bitStep_xor (poly a b : BitVec w) :
    bitStep poly (a ^^^ b)=bitStep poly a ^^^ bitStep poly b := by
  apply BitVec.eq_of_getLsbD_eq
  intro i _
  simp only [getLsbD_bitStep,BitVec.getLsbD_xor]
  generalize a.getLsbD (1+i)=a1,b.getLsbD (1+i)=b1,a.getLsbD 0=a0,b.getLsbD 0=b0,poly.getLsbD i=p
  revert a1 b1 a0 b0 p
  decide

/-- A register of zeros stays. -/
theorem bitStep_zero (poly : BitVec w) : bitStep poly 0#w=0#w := by
  apply BitVec.eq_of_getLsbD_eq
  intro i _
  rw [getLsbD_bitStep,BitVec.getLsbD_zero,BitVec.getLsbD_zero,BitVec.getLsbD_zero,Bool.false_and]
  rfl

/-- Without a one to shift out a step is a plain shift. -/
theorem bitStep_even (poly : BitVec w) {r : BitVec w} (h : r.getLsbD 0=false) :
    bitStep poly r=r >>> 1 := by
  unfold bitStep
  rw [h,if_neg Bool.false_ne_true,BitVec.xor_zero]

/-- A polynomial with its highest bit set leaves a trace of the one that was
shifted out, so that only zeros become zeros. -/
theorem bitStep_eq_zero {poly r : BitVec w} (hpoly : poly.msb=true) (h : bitStep poly r=0#w) :
    r=0#w := by
  have hbit : ∀ i,(r.getLsbD (1+i)).xor (r.getLsbD 0 && poly.getLsbD i)=false := by
    intro i
    rw [←getLsbD_bitStep,h,BitVec.getLsbD_zero]
  have hlow : r.getLsbD 0=false := by
    have htop := hbit (w-1)
    rw [←BitVec.msb_eq_getLsbD_last,hpoly,BitVec.getLsbD_of_ge _ _ (by omega),Bool.and_true,
      Bool.false_xor] at htop
    exact htop
  apply BitVec.eq_of_getLsbD_eq
  intro i _
  rw [BitVec.getLsbD_zero]
  cases i with
  | zero => exact hlow
  | succ i =>
    have hnext := hbit i
    rwa [hlow,Bool.false_and,Bool.xor_false,Nat.add_comm] at hnext

/-! ## Several steps -/

/-- Several steps are linear. -/
theorem iterate_bitStep_xor (poly a b : BitVec w) (k : ℕ) :
    (bitStep poly)^[k] (a ^^^ b)=(bitStep poly)^[k] a ^^^ (bitStep poly)^[k] b := by
  induction k generalizing a b with
  | zero => rfl
  | succ k ih =>
    rw [Function.iterate_succ_apply,Function.iterate_succ_apply,Function.iterate_succ_apply,
      bitStep_xor,ih]

/-- Several steps keep zeros. -/
theorem iterate_bitStep_zero (poly : BitVec w) (k : ℕ) : (bitStep poly)^[k] 0#w=0#w :=
  Function.iterate_fixed (bitStep_zero poly) k

/-- Several steps make zeros of nothing but zeros. -/
theorem iterate_bitStep_eq_zero {poly r : BitVec w} (hpoly : poly.msb=true) {k : ℕ}
    (h : (bitStep poly)^[k] r=0#w) : r=0#w := by
  induction k with
  | zero => exact h
  | succ k ih =>
    rw [Function.iterate_succ_apply'] at h
    exact ih (bitStep_eq_zero hpoly h)

/-- Registers that become equal were equal. -/
theorem iterate_bitStep_inj {poly a b : BitVec w} (hpoly : poly.msb=true) {k : ℕ} :
    (bitStep poly)^[k] a=(bitStep poly)^[k] b ↔ a=b := by
  refine ⟨fun h => ?_,fun h => by rw [h]⟩
  rw [←BitVec.xor_eq_zero_iff,←iterate_bitStep_xor] at h
  exact BitVec.xor_eq_zero_iff.mp (iterate_bitStep_eq_zero hpoly h)

/-- Zeros in the lowest places are shifted out without a trace. -/
theorem iterate_bitStep_low_zero (poly : BitVec w) {r : BitVec w} {k : ℕ}
    (h : ∀ i<k,r.getLsbD i=false) : (bitStep poly)^[k] r=r >>> k := by
  induction k generalizing r with
  | zero => exact (BitVec.ushiftRight_zero r).symm
  | succ k ih =>
    rw [Function.iterate_succ_apply,bitStep_even poly (h 0 (Nat.succ_pos k)),ih,
      ←BitVec.shiftRight_add,Nat.add_comm]
    intro i hi
    rw [BitVec.getLsbD_ushiftRight]
    exact h _ (by omega)

/-! ## Messages -/

/-- A message bit has no bit in any other place. -/
theorem getLsbD_lowBit (hw : 0<w) (b : Bool) (i : ℕ) :
    (lowBit b : BitVec w).getLsbD i=(b && decide (i=0)) := by
  unfold lowBit
  cases b
  · exact BitVec.getLsbD_zero
  · rw [if_pos rfl,BitVec.getLsbD_one,decide_eq_true hw,Bool.true_and]

/-- Message bits are added like registers. -/
theorem lowBit_xor (a b : Bool) : (lowBit (a.xor b) : BitVec w)=lowBit a ^^^ lowBit b := by
  cases a <;> cases b
  · exact (BitVec.xor_zero).symm
  · exact (BitVec.zero_xor).symm
  · exact (BitVec.xor_zero).symm
  · exact (BitVec.xor_self).symm

/-- The bit of a word that is fed first, and what is left of the word. -/
theorem bitStep_xor_word (poly r v : BitVec w) :
    bitStep poly (r ^^^ v)=bitStep poly (r ^^^ lowBit (v.getLsbD 0)) ^^^ (v >>> 1) := by
  apply BitVec.eq_of_getLsbD_eq
  intro i hi
  have hw : 0<w := Nat.zero_lt_of_lt hi
  simp only [getLsbD_bitStep,BitVec.getLsbD_xor,BitVec.getLsbD_ushiftRight,getLsbD_lowBit hw,
    decide_eq_false (show ¬1+i=0 by omega),decide_true,Bool.and_true,Bool.and_false,Bool.xor_false]
  generalize r.getLsbD (1+i)=r1,v.getLsbD (1+i)=v1,r.getLsbD 0=r0,v.getLsbD 0=v0,poly.getLsbD i=p
  revert r1 v1 r0 v0 p
  decide

/-- A word that is added to the register is fed by as many steps as it has
bits. -/
theorem iterate_bitStep_word (poly r v : BitVec w) {k : ℕ} (h : ∀ i,k ≤ i → v.getLsbD i=false) :
    (bitStep poly)^[k] (r ^^^ v)=feed poly r ((List.range k).map v.getLsbD) := by
  induction k generalizing r v with
  | zero =>
    have hzero : v=0#w := by
      apply BitVec.eq_of_getLsbD_eq
      intro i _
      rw [h i (Nat.zero_le i),BitVec.getLsbD_zero]
    rw [hzero,BitVec.xor_zero]
    rfl
  | succ k ih =>
    have hshift : (List.range k).map (v >>> 1).getLsbD=
        ((List.range k).map Nat.succ).map v.getLsbD := by
      rw [List.map_map]
      refine List.map_congr_left fun i _ => ?_
      rw [BitVec.getLsbD_ushiftRight,Nat.add_comm]
      rfl
    rw [Function.iterate_succ_apply,bitStep_xor_word,ih _ _ ?_,hshift,List.range_succ_eq_map]
    · rfl
    · intro i hi
      rw [BitVec.getLsbD_ushiftRight]
      exact h _ (by omega)

/-- A message in two parts. -/
theorem feed_append (poly r : BitVec w) (first second : List Bool) :
    feed poly r (first++second)=feed poly (feed poly r first) second := List.foldl_append

/-- Feeding is linear in register and message. -/
theorem feed_xor (poly r s : BitVec w) {x y : List Bool} (h : x.length=y.length) :
    feed poly (r ^^^ s) (List.zipWith Bool.xor x y)=feed poly r x ^^^ feed poly s y := by
  induction x generalizing r s y with
  | nil =>
    cases y with
    | nil => rfl
    | cons _ _ => cases h
  | cons a x ih =>
    cases y with
    | nil => cases h
    | cons b y =>
      have hstep : bitStep poly ((r ^^^ s) ^^^ lowBit (Bool.xor a b))=
          bitStep poly (r ^^^ lowBit a) ^^^ bitStep poly (s ^^^ lowBit b) := by
        rw [←bitStep_xor,lowBit_xor]
        congr 1
        ac_rfl
      change feed poly (bitStep poly ((r ^^^ s) ^^^ lowBit (Bool.xor a b))) (List.zipWith Bool.xor x y)=_
      rw [hstep,ih _ _ (Nat.succ.inj h)]
      rfl

/-- Feeding zeros only shifts. -/
theorem feed_zeros (poly r : BitVec w) {bits : List Bool} (h : ∀ b∈bits,b=false) :
    feed poly r bits=(bitStep poly)^[bits.length] r := by
  induction bits generalizing r with
  | nil => rfl
  | cons b bits ih =>
    have hb : (lowBit b : BitVec w)=0#w := by
      rw [h b List.mem_cons_self]
      rfl
    change feed poly (bitStep poly (r ^^^ lowBit b)) bits=_
    rw [hb,BitVec.xor_zero,ih _ (fun c hc => h c (List.mem_cons_of_mem b hc)),List.length_cons,
      Function.iterate_succ_apply]

/-- A message of at most `w` bits that are not all zero leaves a trace. -/
theorem feed_short_ne_zero {poly : BitVec w} (hpoly : poly.msb=true) {bits : List Bool}
    (hlength : bits.length≤w) (h : true∈bits) : feed poly 0#w bits≠0#w := by
  intro hzero
  have hword : ∀ i,((BitVec.ofBoolListLE bits).setWidth w).getLsbD i=bits.getD i false := by
    intro i
    rw [BitVec.getLsbD_setWidth,BitVec.getLsbD_ofBoolListLE]
    by_cases hi : i<w
    · rw [decide_eq_true hi,Bool.true_and]
    · rw [List.getD_eq_getElem?_getD,List.getElem?_eq_none (by omega),Option.getD_none,
        Bool.and_false]
  have hbits : (List.range bits.length).map ((BitVec.ofBoolListLE bits).setWidth w).getLsbD=bits := by
    apply List.ext_getElem
    · rw [List.length_map,List.length_range]
    · intro i _ hi
      rw [List.getElem_map,List.getElem_range,hword,List.getD_eq_getElem?_getD,
        List.getElem?_eq_getElem hi,Option.getD_some]
  have hiterate := iterate_bitStep_word poly 0#w ((BitVec.ofBoolListLE bits).setWidth w)
    (k:=bits.length) (fun i hi => by rw [hword,List.getD_eq_getElem?_getD,List.getElem?_eq_none hi,
      Option.getD_none])
  rw [hbits,hzero,BitVec.zero_xor] at hiterate
  have hv := iterate_bitStep_eq_zero hpoly hiterate
  obtain ⟨i,hi,hget⟩ := List.getElem_of_mem h
  have hset := hword i
  rw [hv,BitVec.getLsbD_zero,List.getD_eq_getElem?_getD,List.getElem?_eq_getElem hi,hget] at hset
  cases hset

/-- An error confined to `w` consecutive bits of a message of any length leaves
a trace. -/
theorem feed_burst_ne_zero {poly : BitVec w} (hpoly : poly.msb=true) {bits : List Bool} {start : ℕ}
    (hwindow : ∀ i,bits[i]?=some true → start ≤ i ∧ i < start+w) (h : true∈bits) :
    feed poly 0#w bits≠0#w := by
  have hfirst : ∀ b∈bits.take start,b=false := by
    intro b hb
    obtain ⟨i,hi,rfl⟩ := List.getElem_of_mem hb
    rw [List.length_take] at hi
    rw [List.getElem_take]
    by_contra htrue
    have hbound := (hwindow i (by
      rw [List.getElem?_eq_getElem (by omega),Bool.eq_true_of_not_eq_false htrue])).1
    omega
  have hlast : ∀ b∈bits.drop (start+w),b=false := by
    intro b hb
    obtain ⟨i,hi,rfl⟩ := List.getElem_of_mem hb
    rw [List.length_drop] at hi
    rw [List.getElem_drop]
    by_contra htrue
    have hbound := (hwindow (start+w+i) (by
      rw [List.getElem?_eq_getElem (by omega),Bool.eq_true_of_not_eq_false htrue])).2
    omega
  have hsplit : bits=bits.take start++((bits.drop start).take w++bits.drop (start+w)) := by
    rw [←List.drop_drop,List.take_append_drop,List.take_append_drop]
  have hmiddle : true∈(bits.drop start).take w := by
    rw [hsplit,List.mem_append,List.mem_append] at h
    rcases h with h|h|h
    · exact absurd (hfirst _ h) Bool.noConfusion
    · exact h
    · exact absurd (hlast _ h) Bool.noConfusion
  rw [hsplit,feed_append,feed_append,feed_zeros _ _ hfirst,iterate_bitStep_zero,feed_zeros _ _ hlast]
  exact mt (iterate_bitStep_eq_zero hpoly)
    (feed_short_ne_zero hpoly (by rw [List.length_take]; omega) hmiddle)

end VlfGateway.ReflectedCrc
