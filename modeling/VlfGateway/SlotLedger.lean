import Mathlib.Data.List.Nodup
import Mathlib.Data.List.Perm.Basic
import Mathlib.Logic.Function.Basic
import Mathlib.Tactic

/-!
# What a table of slots holds

Slots that hold at most one thing each. Putting a thing into an empty slot
adds it to what is held, taking it out removes it, and emptying the slots one
after another gives everything back in the order of the slots. Up to order,
what is held together with what was given away is what was put in.
-/

namespace VlfGateway.SlotLedger

variable {ι α : Type}

/-- The things in the listed slots. -/
def held (slots : List ι) (table : ι → Option α) : List α := slots.filterMap table

/-- A table without anything holds nothing. -/
theorem held_empty {slots : List ι} {table : ι → Option α} (h : ∀ i,table i=none) :
    held slots table=[] := by
  unfold held
  rw [List.filterMap_eq_nil_iff]
  exact fun i _ => h i

variable [DecidableEq ι]

/-- Empty the listed slots in turn: what came out, and the table afterwards. -/
def drain (table : ι → Option α) : List ι → List α×(ι → Option α)
  | [] => ([],table)
  | i::rest =>
    match table i with
    | none => drain table rest
    | some x =>
      let tail := drain (Function.update table i none) rest
      (x::tail.1,tail.2)

/-- A slot that is not listed does not count. -/
theorem held_update_of_notMem {slots : List ι} {i : ι} (hi : i∉slots) (table : ι → Option α)
    (x : Option α) : held slots (Function.update table i x)=held slots table := by
  unfold held
  apply List.filterMap_congr
  intro j hj
  exact Function.update_of_ne (ne_of_mem_of_not_mem hj hi) _ _

/-- Putting into an empty slot. -/
theorem held_put {slots : List ι} (hn : slots.Nodup) {i : ι} (hi : i∈slots)
    {table : ι → Option α} (hempty : table i=none) (x : α) :
    (held slots (Function.update table i (some x))).Perm (x::held slots table) := by
  induction slots with
  | nil => exact absurd hi (List.not_mem_nil)
  | cons j rest ih =>
    obtain ⟨hj,hrest⟩ := List.nodup_cons.mp hn
    by_cases hji : j=i
    · subst hji
      have hsame := held_update_of_notMem hj table (some x)
      unfold held at hsame ⊢
      rw [List.filterMap_cons_some (Function.update_self j (some x) table),
        List.filterMap_cons_none hempty,hsame]
    · have hmem : i∈rest := (List.mem_cons.mp hi).resolve_left (fun h => hji h.symm)
      have hkeep : Function.update table i (some x) j=table j := Function.update_of_ne hji _ _
      have hrec := ih hrest hmem
      unfold held at hrec ⊢
      cases hy : table j with
      | none =>
        rw [List.filterMap_cons_none (hkeep.trans hy),List.filterMap_cons_none hy]
        exact hrec
      | some y =>
        rw [List.filterMap_cons_some (hkeep.trans hy),List.filterMap_cons_some hy]
        exact (hrec.cons y).trans (List.Perm.swap x y _)

/-- Taking out of a slot. -/
theorem held_take {slots : List ι} (hn : slots.Nodup) {i : ι} (hi : i∈slots)
    {table : ι → Option α} {x : α} (hx : table i=some x) :
    (held slots table).Perm (x::held slots (Function.update table i none)) := by
  have hput := held_put hn hi (Function.update_self i none table) x
  rwa [Function.update_idem,←hx,Function.update_eq_self] at hput

/-- Emptying all slots gives back what they held and leaves them empty. -/
theorem drain_eq {slots : List ι} (hn : slots.Nodup) (table : ι → Option α) :
    (drain table slots).1=held slots table ∧
      ∀ i,(drain table slots).2 i=if i∈slots then none else table i := by
  induction slots generalizing table with
  | nil => exact ⟨rfl,fun i => by rw [if_neg List.not_mem_nil]; rfl⟩
  | cons j rest ih =>
    obtain ⟨hj,hrest⟩ := List.nodup_cons.mp hn
    unfold held
    rw [drain]
    cases hx : table j with
    | none =>
      obtain ⟨hout,htable⟩ := ih hrest table
      refine ⟨?_,fun i => ?_⟩
      · rw [List.filterMap_cons_none hx]
        exact hout
      · simp only [htable,List.mem_cons]
        by_cases hij : i=j
        · subst hij
          simp [hj,hx]
        · simp [hij]
    | some x =>
      obtain ⟨hout,htable⟩ := ih hrest (Function.update table j none)
      refine ⟨?_,fun i => ?_⟩
      · rw [List.filterMap_cons_some hx]
        exact congrArg (x::·) (hout.trans (held_update_of_notMem hj table none))
      · simp only [htable,List.mem_cons]
        by_cases hij : i=j
        · subst hij
          simp [hj]
        · simp [hij]

end VlfGateway.SlotLedger
