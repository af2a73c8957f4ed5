import Mathlib.Data.List.Basic
import Mathlib.Data.UInt
import Mathlib.Tactic

/-!
# A serial bus with one selected peripheral

The host shifts octets out and, with each of them, one octet in. A peripheral
is what it answers to an octet while it is selected and what it does when its
select line is released; a peripheral that is not selected hears nothing and
the host reads the pulled-up line. The host's loops are a sequence of octets
sent, a number of octets read against a blank one, and a bounded poll. Each
of them is expressed by the run of the peripheral over the octets it was sent.
-/

namespace VlfGateway.SpiBus

/-- A peripheral with states in `σ`. -/
structure Device (σ : Type) where
  /-- Answer to an octet shifted in while selected, and the state after it. -/
  shift : σ → UInt8 → UInt8×σ
  /-- State after the select line is released. -/
  release : σ → σ

/-- The bus as the host sees it. -/
structure Bus (σ : Type) where
  /-- State of the peripheral. -/
  device : σ
  /-- The select line is asserted. -/
  selected : Bool

/-- What the host reads while nothing drives the line. -/
def floating : UInt8 := 0xFF

section Host

variable {σ : Type} (d : Device σ)

/-- The answers of a selected peripheral to a sequence of octets. -/
def Device.run (s : σ) : List UInt8 → List UInt8×σ
  | [] => ([],s)
  | octet::rest =>
    let answer := d.shift s octet
    let tail := run answer.2 rest
    (answer.1::tail.1,tail.2)

/-- Assert the select line. -/
def Bus.enable (bus : Bus σ) : Bus σ := {bus with selected := true}

/-- Release the select line. -/
def Bus.disable (bus : Bus σ) : Bus σ :=
  ⟨if bus.selected then d.release bus.device else bus.device,false⟩

/-- Shift one octet out and one in. -/
def exchange (octet : UInt8) (bus : Bus σ) : UInt8×Bus σ :=
  if bus.selected then
    let answer := d.shift bus.device octet
    (answer.1,{bus with device := answer.2})
  else (floating,bus)

/-- Shift a sequence of octets out and drop what comes back. -/
def send (bus : Bus σ) : List UInt8 → Bus σ
  | [] => bus
  | octet::rest => send (exchange d octet bus).2 rest

/-- Read a number of octets against a blank one. -/
def receive (blank : UInt8) (bus : Bus σ) : ℕ → List UInt8×Bus σ
  | 0 => ([],bus)
  | count+1 =>
    let answer := exchange d blank bus
    let tail := receive blank answer.2 count
    (answer.1::tail.1,tail.2)

/-- Read against a blank octet until an accepted answer comes, at most
`limit` times. The accepted answer comes with its position, counted from
`index`. -/
def poll (accept : UInt8 → Bool) (blank : UInt8) (bus : Bus σ) (index : ℕ) :
    ℕ → Option (ℕ×UInt8)×Bus σ
  | 0 => (none,bus)
  | limit+1 =>
    let answer := exchange d blank bus
    if accept answer.1 then (some (index,answer.1),answer.2)
    else poll accept blank answer.2 (index+1) limit

@[simp] theorem run_nil (s : σ) : d.run s []=([],s) := rfl

@[simp] theorem run_cons (s : σ) (octet : UInt8) (rest : List UInt8) :
    d.run s (octet::rest)=
      ((d.shift s octet).1::(d.run (d.shift s octet).2 rest).1,
        (d.run (d.shift s octet).2 rest).2) := rfl

/-- A run over two sequences is the second run after the first. -/
theorem run_append (s : σ) (first second : List UInt8) :
    d.run s (first++second)=
      ((d.run s first).1++(d.run (d.run s first).2 second).1,
        (d.run (d.run s first).2 second).2) := by
  induction first generalizing s with
  | nil => rfl
  | cons octet rest ih =>
    rw [List.cons_append,run_cons,ih,run_cons]
    rfl

/-- A selected peripheral hears the octet. -/
@[simp] theorem exchange_selected (octet : UInt8) (s : σ) :
    exchange d octet ⟨s,true⟩=((d.shift s octet).1,⟨(d.shift s octet).2,true⟩) := rfl

/-- Shifting an octet does not touch the select line. -/
@[simp] theorem exchange_keeps_line (octet : UInt8) (bus : Bus σ) :
    (exchange d octet bus).2.selected=bus.selected := by
  unfold exchange
  split <;> rfl

/-- Sending to a selected peripheral runs it over the octets. -/
theorem send_selected (s : σ) (octets : List UInt8) :
    send d ⟨s,true⟩ octets=⟨(d.run s octets).2,true⟩ := by
  induction octets generalizing s with
  | nil => rfl
  | cons octet rest ih =>
    rw [send,exchange_selected,ih,run_cons]

/-- A released peripheral hears nothing of what is sent. -/
theorem send_released (s : σ) (octets : List UInt8) : send d ⟨s,false⟩ octets=⟨s,false⟩ := by
  induction octets with
  | nil => rfl
  | cons octet rest ih => exact ih

/-- Sending two sequences is sending them as one. -/
theorem send_append (bus : Bus σ) (first second : List UInt8) :
    send d (send d bus first) second=send d bus (first++second) := by
  induction first generalizing bus with
  | nil => rfl
  | cons octet rest ih => rw [send,ih,List.cons_append,send]

/-- Reading from a selected peripheral runs it over blank octets. -/
theorem receive_selected (blank : UInt8) (s : σ) (count : ℕ) :
    receive d blank ⟨s,true⟩ count=
      ((d.run s (List.replicate count blank)).1,⟨(d.run s (List.replicate count blank)).2,true⟩) := by
  induction count generalizing s with
  | zero => rfl
  | succ count ih =>
    rw [receive,exchange_selected,List.replicate_succ,run_cons]
    simp only [ih]

variable (accept : UInt8 → Bool) (blank : UInt8)

/-- Polling passes over answers that are not accepted. -/
theorem poll_skip (s : σ) (index limit : ℕ) (octets : List UInt8)
    (hb : ∀ octet∈octets,octet=blank)
    (hr : ∀ answer∈(d.run s octets).1,accept answer=false) :
    poll d accept blank ⟨s,true⟩ index (octets.length+limit)=
      poll d accept blank ⟨(d.run s octets).2,true⟩ (index+octets.length) limit := by
  induction octets generalizing s index with
  | nil => rw [List.length_nil,Nat.zero_add,run_nil,Nat.add_zero]
  | cons octet rest ih =>
    have ho : octet=blank := hb octet (List.mem_cons_self ..)
    subst ho
    rw [run_cons] at hr
    have hfirst := hr _ (List.mem_cons_self ..)
    have hrest := ih (d.shift s octet).2 (index+1)
      (fun o hm => hb o (List.mem_cons_of_mem _ hm))
      (fun a hm => hr a (List.mem_cons_of_mem _ hm))
    have hlen : (octet::rest).length+limit=(rest.length+limit)+1 := by
      rw [List.length_cons]
      omega
    rw [hlen,poll,exchange_selected]
    simp only [hfirst,Bool.false_eq_true,if_false]
    rw [hrest,run_cons,List.length_cons,Nat.add_assoc,Nat.add_comm 1]

/-- Polling passes over any number of blank octets that bring no accepted answer. -/
theorem poll_blanks (s : σ) (index count limit : ℕ)
    (hr : ∀ answer∈(d.run s (List.replicate count blank)).1,accept answer=false) :
    poll d accept blank ⟨s,true⟩ index (count+limit)=
      poll d accept blank ⟨(d.run s (List.replicate count blank)).2,true⟩ (index+count) limit := by
  have h := poll_skip d accept blank s index limit (List.replicate count blank)
    (fun o hm => List.eq_of_mem_replicate hm) hr
  rwa [List.length_replicate] at h

/-- A poll that brings no accepted answer uses up its limit. -/
theorem poll_exhausted (s : σ) (index limit : ℕ)
    (hr : ∀ answer∈(d.run s (List.replicate limit blank)).1,accept answer=false) :
    poll d accept blank ⟨s,true⟩ index limit=
      (none,⟨(d.run s (List.replicate limit blank)).2,true⟩) :=
  poll_blanks d accept blank s index limit 0 hr

/-- The first accepted answer ends the poll. -/
theorem poll_found (s : σ) (index limit : ℕ) (ha : accept (d.shift s blank).1=true) :
    poll d accept blank ⟨s,true⟩ index (limit+1)=
      (some (index,(d.shift s blank).1),⟨(d.shift s blank).2,true⟩) := by
  rw [poll,exchange_selected]
  simp only [ha,if_true]

end Host

end VlfGateway.SpiBus
