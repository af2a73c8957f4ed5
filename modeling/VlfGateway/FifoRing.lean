import Mathlib.Data.List.Basic
import Mathlib.Tactic

/-!
# Rings with one free slot

A producer and a consumer share `N` slots and two indexes. The producer fills
the slot at its index and moves on; the consumer uses the slot at its own
index and moves on; equal indexes mean that nothing is pending. The relation
`Holds` ties slots and indexes to the whole history: everything published so
far and how many of it has been released. Each side's step is one rule, and a
separate rule allows any change to slots that hold nothing pending.
-/

namespace VlfGateway.FifoRing

/-- The slot after a given one. -/
def next {N : ℕ} (i : Fin N) : Fin N := ⟨(i.val+1)%N,Nat.mod_lt _ i.pos⟩

/-- Slot `i` is the place of entry `k` when the first entry went to slot
`base`. -/
def Place {N : ℕ} (base k : ℕ) (i : Fin N) : Prop := i.val=(base+k)%N

/-- The successor of a place is the place of the next entry. -/
theorem Place.next {N base k : ℕ} {i : Fin N} (h : Place base k i) :
    Place base (k+1) (FifoRing.next i) := by
  change (i.val+1)%N=(base+(k+1))%N
  rw [h,Nat.mod_add_mod,Nat.add_assoc]

/-- Entries less than a turn apart have different places. -/
theorem Place.inj {N base j k : ℕ} {i : Fin N} (hj : Place base j i) (hk : Place base k i)
    (hle : j≤k) (hlt : k < j+N) : j=k := by
  have hmod : (base+j)%N=(base+k)%N := hj.symm.trans hk
  have hdvd : N∣(base+k)-(base+j) := (Nat.modEq_iff_dvd' (by omega)).mp hmod
  have hzero := Nat.eq_zero_of_dvd_of_lt hdvd (by omega)
  omega

/-- The ring holds the entries of `stored` from number `released` on, each in
its place, where `view` says what a slot holds. -/
structure Holds {α β : Type} {N : ℕ} (view : α → β → Prop) (base : ℕ) (slots : Fin N → α)
    (produce consume : Fin N) (stored : List β) (released : ℕ) : Prop where
  /-- The producer's index is the place of the next entry. -/
  produce : Place base stored.length produce
  /-- The consumer's index is the place of the oldest pending entry. -/
  consume : Place base released consume
  /-- Only published entries are released. -/
  published : released ≤ stored.length
  /-- One slot stays free. -/
  room : stored.length < released+N
  /-- Pending entries are in their slots. -/
  pending : ∀ k i entry,stored[k]?=some entry → released≤k → Place base k i → view (slots i) entry

section Rules

variable {α β : Type} {N : ℕ} {view : α → β → Prop} {base : ℕ} {slots : Fin N → α}
  {produce consume : Fin N} {stored : List β} {released : ℕ}

/-- An empty ring, wherever its indexes are. -/
theorem Holds.empty (view : α → β → Prop) (slots : Fin N → α) (i : Fin N) :
    Holds view i.val slots i i [] 0 := by
  have hplace : Place i.val 0 i := (Nat.mod_eq_of_lt i.isLt).symm
  refine ⟨hplace,hplace,le_rfl,?_,?_⟩
  · rw [List.length_nil,Nat.zero_add]
    exact i.pos
  · intro k j entry hentry
    rw [List.getElem?_nil] at hentry
    cases hentry

/-- Equal indexes mean that nothing is pending. -/
theorem Holds.empty_iff (h : Holds view base slots produce consume stored released) :
    consume=produce ↔ released=stored.length := by
  have hroom := h.room
  have hpublished := h.published
  constructor
  · intro heq
    exact Place.inj h.consume (heq ▸ h.produce) hpublished hroom
  · intro heq
    have hproduce := h.produce
    rw [←heq] at hproduce
    exact Fin.ext (h.consume.trans hproduce.symm)

/-- The producer runs into the consumer exactly when all but one slot are
pending. -/
theorem Holds.full_iff (h : Holds view base slots produce consume stored released) :
    FifoRing.next produce=consume ↔ stored.length+1=released+N := by
  have hroom := h.room
  have hpublished := h.published
  have hplace := h.produce.next
  constructor
  · intro heq
    rw [heq] at hplace
    have hturn : Place base (released+N) consume := by
      change consume.val=_
      rw [←Nat.add_assoc,Nat.add_mod_right]
      exact h.consume
    by_contra hne
    have hsame := Place.inj hplace hturn (by omega) (by omega)
    omega
  · intro heq
    rw [heq] at hplace
    refine Fin.ext (hplace.trans ?_)
    rw [←Nat.add_assoc,Nat.add_mod_right]
    exact h.consume.symm

/-- Slots without a pending entry may change. -/
theorem Holds.frame {slots' : Fin N → α} (h : Holds view base slots produce consume stored released)
    (hsame : ∀ k i,released≤k → k<stored.length → Place base k i → slots' i=slots i) :
    Holds view base slots' produce consume stored released := by
  refine ⟨h.produce,h.consume,h.published,h.room,?_⟩
  intro k i entry hentry hreleased hplace
  obtain ⟨hk,_⟩ := List.getElem?_eq_some_iff.mp hentry
  rw [hsame k i hreleased hk hplace]
  exact h.pending k i entry hentry hreleased hplace

/-- The slot at the producer's index holds nothing pending. -/
theorem Holds.produce_free (h : Holds view base slots produce consume stored released) {k : ℕ}
    {i : Fin N} (hreleased : released≤k) (hk : k<stored.length) (hplace : Place base k i) :
    i≠produce := by
  rintro rfl
  have hroom := h.room
  have hsame := Place.inj hplace h.produce hk.le (by omega)
  omega

/-- With room for another entry the slot behind it is free as well. -/
theorem Holds.next_free (h : Holds view base slots produce consume stored released)
    (hroom : FifoRing.next produce≠consume) {k : ℕ} {i : Fin N} (hreleased : released≤k)
    (hk : k<stored.length) (hplace : Place base k i) : i≠FifoRing.next produce := by
  rintro rfl
  have hbound := h.room
  have hfull := mt h.full_iff.mpr hroom
  have hsame := Place.inj hplace h.produce.next (by omega) (by omega)
  omega

/-- Publishing the slot at the producer's index. -/
theorem Holds.publish {entry : β} (h : Holds view base slots produce consume stored released)
    (hroom : FifoRing.next produce≠consume) (hentry : view (slots produce) entry) :
    Holds view base slots (FifoRing.next produce) consume (stored++[entry]) released := by
  have hbound := h.room
  have hpublished := h.published
  have hfull := mt h.full_iff.mpr hroom
  have hlength : (stored++[entry]).length=stored.length+1 := List.length_append
  refine ⟨?_,h.consume,by omega,by omega,?_⟩
  · rw [hlength]
    exact h.produce.next
  · intro k i x hx hreleased hplace
    by_cases hk : k<stored.length
    · rw [List.getElem?_append_left hk] at hx
      exact h.pending k i x hx hreleased hplace
    · obtain ⟨hlast,hget⟩ := List.getElem?_eq_some_iff.mp hx
      have hkeq : k=stored.length := by omega
      subst hkeq
      rw [List.getElem_concat_length rfl] at hget
      rw [Fin.ext (hplace.trans h.produce.symm),←hget]
      exact hentry

/-- The slot at the consumer's index holds the oldest pending entry. -/
theorem Holds.front (h : Holds view base slots produce consume stored released)
    (hsome : consume≠produce) :
    ∃ entry,stored[released]?=some entry ∧ view (slots consume) entry := by
  have hpublished := h.published
  have hlt : released<stored.length := by
    have hne := mt h.empty_iff.mpr hsome
    omega
  exact ⟨stored[released],List.getElem?_eq_getElem hlt,
    h.pending released consume _ (List.getElem?_eq_getElem hlt) le_rfl h.consume⟩

/-- Releasing the slot at the consumer's index. -/
theorem Holds.release (h : Holds view base slots produce consume stored released)
    (hsome : consume≠produce) :
    Holds view base slots produce (FifoRing.next consume) stored (released+1) := by
  have hpublished := h.published
  have hroom := h.room
  have hne := mt h.empty_iff.mpr hsome
  refine ⟨h.produce,h.consume.next,by omega,by omega,?_⟩
  intro k i entry hentry hreleased
  exact h.pending k i entry hentry (by omega)

/-- The slot at the consumer's index may change once it is released. -/
theorem Holds.release_change (x : α)
    (h : Holds view base slots produce consume stored released) (hsome : consume≠produce) :
    Holds view base (Function.update slots consume x) produce (FifoRing.next consume) stored
      (released+1) := by
  have hroom := h.room
  refine (h.release hsome).frame fun k i hreleased hk hplace => Function.update_of_ne ?_ _ _
  rintro rfl
  have hsame := Place.inj h.consume hplace (by omega) (by omega)
  omega

/-- The slot at the producer's index may be changed and published. -/
theorem Holds.publish_change {x : α} {entry : β}
    (h : Holds view base slots produce consume stored released)
    (hroom : FifoRing.next produce≠consume) (hentry : view x entry) :
    Holds view base (Function.update slots produce x) (FifoRing.next produce) consume
      (stored++[entry]) released := by
  have hframe : Holds view base (Function.update slots produce x) produce consume stored released :=
    h.frame fun k i hreleased hk hplace =>
      Function.update_of_ne (h.produce_free hreleased hk hplace) _ _
  exact hframe.publish hroom (by rw [Function.update_self]; exact hentry)

/-- Room for another entry stays when the consumer moves on. -/
theorem Holds.room_release (h : Holds view base slots produce consume stored released)
    (hsome : consume≠produce) (hroom : FifoRing.next produce≠consume) :
    FifoRing.next produce≠FifoRing.next consume := by
  have hbound := h.room
  have hfull := mt h.full_iff.mpr hroom
  exact mt (h.release hsome).full_iff.mp (by omega)

end Rules

end VlfGateway.FifoRing
