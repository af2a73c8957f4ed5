import Mathlib.Dynamics.PeriodicPts.Defs
import Mathlib.Logic.Function.Iterate
import Mathlib.Order.Bounds.Basic
import Mathlib.Tactic

/-!
# One-based cyclic positions

A ring of `M` positions numbered from one, the successor that walks it, the
number of successor steps between two positions, and the arc that runs from
one position to another. The successor is total: a number outside the ring
is sent to the first position. Nothing here depends on what is stored in a
position, or on the type whose values stand for the positions: a map that
follows the successor through an injective code walks the ring as well.
-/

namespace VlfGateway.CyclicRing

/-- Successor on the one-based cycle of length `M`. The last position, and
every number beyond it, goes to position one. -/
def next (M c : ℕ) : ℕ := if c<M then c+1 else 1

/-- Inside the ring the successor is the plain increment. -/
theorem next_of_lt {M c : ℕ} (h : c<M) : next M c=c+1 := if_pos h

/-- At or beyond the last position the successor restarts at one. -/
theorem next_of_le {M c : ℕ} (h : M≤c) : next M c=1 := if_neg (by omega)

/-- The successor of any number is a position of a nonempty ring. -/
theorem next_bounds {M : ℕ} (hM : 1≤M) (c : ℕ) : 1≤next M c ∧ next M c≤M := by
  unfold next
  split <;> omega

/-- Walking `k` steps from a position is addition modulo the ring length. -/
theorem iterate_next {M a : ℕ} (ha : 1≤a) (haM : a≤M) (k : ℕ) :
    (next M)^[k] a=(a-1+k)%M+1 := by
  induction k with
  | zero =>
    have hm : (a-1+0)%M=a-1 := Nat.mod_eq_of_lt (by omega)
    rw [Function.iterate_zero_apply,hm]
    omega
  | succ k ih =>
    have hlt : (a-1+k)%M<M := Nat.mod_lt _ (by omega)
    rw [Function.iterate_succ_apply',ih]
    by_cases hend : (a-1+k)%M+1<M
    · have hs : (a-1+(k+1))%M=(a-1+k)%M+1 := by
        rw [←Nat.add_assoc,Nat.add_mod,Nat.mod_eq_of_lt (by omega : 1<M)]
        exact Nat.mod_eq_of_lt hend
      rw [next_of_lt hend,hs]
    · have hs : (a-1+(k+1))%M=0 := by
        have he : a-1+(k+1)=M*((a-1+k)/M+1) := by
          have hd := Nat.div_add_mod (a-1+k) M
          rw [Nat.mul_add,Nat.mul_one]
          omega
        rw [he]
        exact Nat.mul_mod_right _ _
      rw [next_of_le (by omega),hs]

/-- While the walk stays below the last position it is plain addition. -/
theorem iterate_next_of_le {M a k : ℕ} (h : a+k≤M) : (next M)^[k] a=a+k := by
  induction k with
  | zero => rfl
  | succ k ih =>
    rw [Function.iterate_succ_apply',ih (by omega),next_of_lt (by omega)]
    omega

/-- A full turn of the ring returns to the start. -/
theorem iterate_next_turn {M a : ℕ} (ha : 1≤a) (haM : a≤M) (k : ℕ) :
    (next M)^[k+M] a=(next M)^[k] a := by
  rw [iterate_next ha haM,iterate_next ha haM,←Nat.add_assoc,Nat.add_mod_right]

/-- Within one turn different numbers of steps arrive at different positions. -/
theorem iterate_next_inj {M a m n : ℕ} (ha : 1≤a) (haM : a≤M) (hmn : m≤n) (hn : n < m+M)
    (h : (next M)^[m] a=(next M)^[n] a) : m=n := by
  rw [iterate_next ha haM,iterate_next ha haM,Nat.add_right_cancel_iff] at h
  have hd : M∣(a-1+n)-(a-1+m) := (Nat.modEq_iff_dvd' (by omega)).mp h
  have hz := Nat.eq_zero_of_dvd_of_lt hd (by omega)
  omega

/-- Number of successor steps from one position to another. -/
def distance (M a b : ℕ) : ℕ := if a≤b then b-a else M-a+b

/-- The distance is shorter than the ring. -/
theorem distance_lt {M a b : ℕ} (ha : 1≤a) (hb : b≤M) (haM : a≤M) : distance M a b<M := by
  unfold distance
  split <;> omega

/-- Walking the distance arrives at the target. -/
theorem iterate_distance {M a b : ℕ} (ha : 1≤a) (haM : a≤M) (hb : 1≤b) (hbM : b≤M) :
    (next M)^[distance M a b] a=b := by
  rw [iterate_next ha haM]
  unfold distance
  split
  · rw [Nat.mod_eq_of_lt (by omega)]
    omega
  · have he : a-1+(M-a+b)=(b-1)+M := by omega
    rw [he,Nat.add_mod_right,Nat.mod_eq_of_lt (by omega)]
    omega

/-- No shorter walk arrives at the target. -/
theorem distance_le_of_iterate {M a b k : ℕ} (ha : 1≤a) (haM : a≤M) (hbM : b≤M)
    (hk : (next M)^[k] a=b) : distance M a b≤k := by
  by_contra hlt
  have hd := distance_lt ha hbM haM
  rw [iterate_next ha haM] at hk
  unfold distance at hlt hd
  split at hlt
  · rw [Nat.mod_eq_of_lt (by omega)] at hk
    omega
  · by_cases hw : a-1+k<M
    · rw [Nat.mod_eq_of_lt hw] at hk
      omega
    · have he : a-1+k=(a-1+k-M)+M := by omega
      rw [he,Nat.add_mod_right,Nat.mod_eq_of_lt (by omega)] at hk
      omega

/-- The distance is the least number of successor steps to the target. -/
theorem isLeast_distance {M a b : ℕ} (ha : 1≤a) (haM : a≤M) (hb : 1≤b) (hbM : b≤M) :
    IsLeast {k | (next M)^[k] a=b} (distance M a b) :=
  ⟨iterate_distance ha haM hb hbM,fun _ hk => distance_le_of_iterate ha haM hbM hk⟩

/-- Every position is met at exactly one number of steps within a turn. -/
theorem existsUnique_iterate_next {M a b : ℕ} (ha : 1≤a) (haM : a≤M) (hb : 1≤b) (hbM : b≤M) :
    ∃! k,k<M ∧ (next M)^[k] a=b := by
  refine ⟨distance M a b,⟨distance_lt ha hbM haM,iterate_distance ha haM hb hbM⟩,?_⟩
  rintro k ⟨hk,harrive⟩
  have hle := distance_le_of_iterate ha haM hbM harrive
  have hsame : (next M)^[distance M a b] a=(next M)^[k] a := by
    rw [iterate_distance ha haM hb hbM,harrive]
  exact (iterate_next_inj ha haM hle (by omega) hsame).symm

/-- A walk from a position first returns after a full turn. -/
theorem minimalPeriod_next {M a : ℕ} (ha : 1≤a) (haM : a≤M) :
    Function.minimalPeriod (next M) a=M := by
  have hturn : Function.IsPeriodicPt (next M) M a := by
    have hback := iterate_next_turn ha haM 0
    rwa [Nat.zero_add] at hback
  have hpos := hturn.minimalPeriod_pos (Nat.lt_of_lt_of_le ha haM)
  have hle := hturn.minimalPeriod_le (Nat.lt_of_lt_of_le ha haM)
  have hback : (next M)^[Function.minimalPeriod (next M) a] a=a :=
    Function.iterate_minimalPeriod
  by_contra hne
  have hzero := iterate_next_inj ha haM (Nat.zero_le _) (by omega) hback.symm
  omega

/-! ## Positions held as codes -/

section Coded

open Function Set

variable {α : Type} {code : α → ℕ} {f : α → α} {M : ℕ}

/-- The values that stand for a position of the ring. -/
def positions (code : α → ℕ) (M : ℕ) : Set α := {x | 1≤code x ∧ code x≤M}

variable (hcode : Injective code) (hf : Semiconj code f (next M))

include hf in
/-- Every value is sent to a position. -/
theorem Coded.apply_mem (hM : 1≤M) (x : α) : f x∈positions code M := by
  have hnext := next_bounds hM (code x)
  rwa [←hf x] at hnext

include hcode hf

/-- A walk over the codes is a walk over the ring. -/
theorem Coded.iterate_eq_iff (k : ℕ) (x y : α) : f^[k] x=y ↔ (next M)^[k] (code x)=code y := by
  rw [←hf.iterate_right k x]
  exact hcode.eq_iff.symm

/-- The positions are the values that return after a turn. -/
theorem Coded.ptsOfPeriod_eq (hM : 1≤M) : ptsOfPeriod f M=positions code M := by
  ext x
  constructor
  · intro hturn
    have hback : f (f^[M-1] x)=x := by
      rw [←iterate_succ_apply' f,Nat.succ_eq_add_one,Nat.sub_add_cancel hM]
      exact hturn
    rw [←hback]
    exact Coded.apply_mem hf hM _
  · rintro ⟨hx,hxM⟩
    have hback := iterate_next_turn hx hxM 0
    rw [Nat.zero_add] at hback
    exact (Coded.iterate_eq_iff hcode hf M x x).mpr hback

/-- The successor permutes the positions. -/
theorem Coded.bijOn (hM : 1≤M) : BijOn f (positions code M) (positions code M) := by
  rw [←Coded.ptsOfPeriod_eq hcode hf hM]
  exact bijOn_ptsOfPeriod f hM

/-- From a position the walk first returns after a full turn. -/
theorem Coded.minimalPeriod_eq {x : α} (hx : x∈positions code M) : minimalPeriod f x=M := by
  rw [←minimalPeriod_next hx.1 hx.2,minimalPeriod_eq_minimalPeriod_iff]
  exact fun n => Coded.iterate_eq_iff hcode hf n x x

/-- From a position every other is met exactly once within a turn. -/
theorem Coded.existsUnique_iterate {x y : α} (hx : x∈positions code M) (hy : y∈positions code M) :
    ∃! k,k<M ∧ f^[k] x=y := by
  simp only [Coded.iterate_eq_iff hcode hf]
  exact existsUnique_iterate_next hx.1 hx.2 hy.1 hy.2

end Coded

/-! ## Arcs -/

/-- The arc from `r` forwards to `w`, both ends included. -/
def Within (r w b : ℕ) : Prop := (r≤w ∧ r≤b ∧ b≤w) ∨ (w<r ∧ (r≤b ∨ b≤w))

instance (r w b : ℕ) : Decidable (Within r w b) := inferInstanceAs (Decidable (_ ∨ _))

/-- The position after the arc's end lies outside the arc, unless the arc
already fills the ring. -/
theorem not_within_next {M r w : ℕ} (hr : 1≤r) (hrM : r≤M) (hw : w≤M)
    (hn : next M w≠r) : ¬Within r w (next M w) := by
  unfold Within
  by_cases hlast : w<M
  · rw [next_of_lt hlast] at hn ⊢
    omega
  · rw [next_of_le (by omega)] at hn ⊢
    omega

/-- Moving the arc's end forward adds exactly the new position. -/
theorem within_next_end {M r w b : ℕ} (hr : 1≤r) (hrM : r≤M) (hw : w≤M)
    (hb : 1≤b) (hbM : b≤M) (hn : next M w≠r) :
    Within r (next M w) b ↔ Within r w b ∨ b=next M w := by
  unfold Within
  by_cases hlast : w<M
  · rw [next_of_lt hlast] at hn ⊢
    omega
  · rw [next_of_le (by omega)] at hn ⊢
    omega

/-- Moving the arc's start forward removes exactly the old start. -/
theorem within_next_start {M r w b : ℕ} (hrM : r≤M) (hw : 1≤w) (hwM : w≤M)
    (hb : 1≤b) (hbM : b≤M) (hne : r≠w) :
    Within (next M r) w b ↔ Within r w b ∧ b≠r := by
  unfold Within
  by_cases hlast : r<M
  · rw [next_of_lt hlast]
    omega
  · rw [next_of_le (by omega)]
    omega

/-- When the start follows the end, the arc is the whole ring. -/
theorem within_of_next_eq {M r w b : ℕ} (hwM : w≤M) (hb : 1≤b) (hbM : b≤M)
    (hn : next M w=r) : Within r w b := by
  unfold Within
  by_cases hlast : w<M
  · rw [next_of_lt hlast] at hn
    omega
  · rw [next_of_le (by omega)] at hn
    omega

/-! ## Marked positions -/

/-- A cursor that left `start` is at `current` after `n` steps and has not
arrived at a multiple of `p` on the way. `wrapped` says whether it passed the
end of the ring. -/
def Unmarked (p start current n : ℕ) (wrapped : Prop) : Prop :=
  (¬wrapped ∧ current=start+n ∧ start%p+n<p) ∨
    (wrapped ∧ 1≤current ∧ current<p ∧ n≤p-1+current)

/-- A cursor that has not moved. -/
theorem Unmarked.refl {p : ℕ} (hp : 0<p) (start : ℕ) {wrapped : Prop} (hw : ¬wrapped) :
    Unmarked p start start 0 wrapped := .inl ⟨hw,rfl,Nat.mod_lt _ hp⟩

/-- One more step to a position without a mark. -/
theorem Unmarked.next {p M start current n : ℕ} {wrapped wrapped' : Prop} (hp : 2≤p) (hM : p≤M)
    (hcurrent : current≤M) (h : Unmarked p start current n wrapped)
    (hmark : ¬p∣CyclicRing.next M current) (hw : wrapped' ↔ wrapped ∨ current=M) :
    Unmarked p start (CyclicRing.next M current) (n+1) wrapped' := by
  rcases h with ⟨hnot,hplace,hgap⟩|⟨hyes,hfirst,hbefore,hcount⟩
  · by_cases hend : current<M
    · rw [next_of_lt hend] at hmark ⊢
      refine .inl ⟨fun h => (hw.mp h).elim hnot (by omega),by omega,?_⟩
      by_contra hfull
      apply hmark
      refine ⟨start/p+1,?_⟩
      have hdiv := Nat.div_add_mod start p
      rw [Nat.mul_add]
      omega
    · rw [next_of_le (by omega)]
      exact .inr ⟨hw.mpr (.inr (by omega)),le_rfl,by omega,by omega⟩
  · rw [next_of_lt (by omega)] at hmark ⊢
    refine .inr ⟨hw.mpr (.inl hyes),by omega,?_,by omega⟩
    by_contra hfull
    exact hmark ⟨1,by omega⟩

/-- Without a wrap fewer than `p` steps were taken, and at most twice as many
with one. -/
theorem Unmarked.bound {p start current n : ℕ} {wrapped : Prop}
    (h : Unmarked p start current n wrapped) : (¬wrapped → n≤p-1) ∧ n≤2*(p-1) := by
  rcases h with ⟨_,_,hgap⟩|⟨hyes,_,hbefore,hcount⟩
  · exact ⟨fun _ => by omega,by omega⟩
  · exact ⟨fun hnot => absurd hyes hnot,by omega⟩

end VlfGateway.CyclicRing
