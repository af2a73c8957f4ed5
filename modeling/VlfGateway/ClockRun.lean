import VlfGateway.GatewayClock

/-!
# The 64-bit time over whole runs

A run consists of seconds, which advance the 32-bit timer, and of calls of
`get_current_time`. Between two calls the timer wraps at most once when fewer
than 2^32 seconds pass, and the comparison with the lower word of the last
result then tells whether it did. The result is the number of seconds modulo
2^64, however often the timer has wrapped.
-/

namespace VlfGateway.ClockRun

open GatewayClock

/-- The timer counter and the time kept by the gateway. -/
structure TimerState where
  /-- `LPC_TIM3->TC`. -/
  tc : UInt32
  /-- `current_time` and `time_valid`. -/
  clock : Clock

/-- What happens in a run. -/
inductive ClockEvent where
  /-- One second passes. -/
  | second
  /-- `get_current_time` is called. -/
  | call

/-- The results of the calls of a run, in order. -/
def readings (st : TimerState) : List ClockEvent → List UInt64
  | [] => []
  | .second::events => readings {st with tc := st.tc+1} events
  | .call::events =>
    let read := getCurrentTime st.tc st.clock
    read.1::readings {st with clock := read.2} events

/-- The seconds counted from `total` on, at every call of a run. -/
def totals (total : ℕ) : List ClockEvent → List ℕ
  | [] => []
  | .second::events => totals (total+1) events
  | .call::events => total::totals total events

/-- Every call comes less than 2^32 seconds after the one before, or after the
start, `since` seconds having passed already. -/
def Spaced (since : ℕ) : List ClockEvent → Prop
  | [] => True
  | .second::events => Spaced (since+1) events
  | .call::events => since<2^32 ∧ Spaced 0 events

/-- States a run starts from, with the seconds they stand for: just after
`ntp_set_current_time`, or after a reset. -/
inductive ClockStart : TimerState → ℕ → Prop
  /-- The time was set, which loads the timer. -/
  | set (secs us : UInt32) (clock : Clock) :
      ClockStart ⟨(ntpSetCurrentTime secs us clock).1.2,(ntpSetCurrentTime secs us clock).2⟩ secs.toNat
  /-- Nothing has been set yet. -/
  | reset : ClockStart ⟨0,Clock.reset⟩ 0

/-! ## One call -/

/-- The state after `total` seconds of which the last `since` have not been
noticed by a call. -/
structure Counted (total since : ℕ) (st : TimerState) : Prop where
  /-- The timer counts modulo its width. -/
  timer : st.tc.toNat=total%2^32
  /-- The last call, or the start, is not later. -/
  noticed : since≤total
  /-- The time is that of the last call, or of the start. -/
  kept : st.clock.time.toNat=(total-since)%2^64

/-- A second is counted by the timer only. -/
theorem Counted.second {total since : ℕ} {st : TimerState} (h : Counted total since st) :
    Counted (total+1) (since+1) {st with tc := st.tc+1} := by
  have htimer := h.timer
  have hnoticed := h.noticed
  have hone : (1 : UInt32).toNat=1 := rfl
  refine ⟨?_,by omega,?_⟩
  · dsimp only
    rw [UInt32.toNat_add,hone]
    omega
  · rw [show total+1-(since+1)=total-since by omega]
    exact h.kept

/-- The upper word after a call: with fewer than 2^32 seconds since the last
one, the timer is behind the lower word exactly when the sum carries. -/
theorem carry_upper {last since tc upper lower : ℕ} (hspaced : since<2^32) (hlower : lower<2^32)
    (hupper : upper<2^32) (hkept : upper*2^32+lower=last%2^64) (htimer : tc=(last+since)%2^32) :
    (if tc<lower then (upper+1)%2^32 else upper)*2^32+tc=(last+since)%2^64 := by
  have hlast := Nat.div_add_mod last (2^64)
  rw [←hkept] at hlast
  generalize last/2^64=epoch at hlast
  subst hlast
  have htc : tc=(lower+since)%2^32 := by omega
  clear htimer hkept
  have hsum : 2^64*epoch+(upper*2^32+lower)+since=upper*2^32+(lower+since)+2^64*epoch := by ring
  rw [hsum,Nat.add_mul_mod_self_left]
  split <;> omega

/-- A call in time returns the seconds counted and notices all of them. -/
theorem Counted.call {total since : ℕ} {st : TimerState} (h : Counted total since st)
    (hspaced : since<2^32) :
    (getCurrentTime st.tc st.clock).1.toNat=total%2^64 ∧
      Counted total 0 {st with clock := (getCurrentTime st.tc st.clock).2} := by
  have htimer := h.timer
  have hkept := h.kept
  have hone : (1 : UInt32).toNat=1 := rfl
  obtain ⟨last,rfl⟩ : ∃ last,total=last+since := ⟨total-since,(Nat.sub_add_cancel h.noticed).symm⟩
  rw [Clock.time_toNat,Nat.add_sub_cancel] at hkept
  have hcarry := carry_upper hspaced st.clock.lower.toNat_lt st.clock.upper.toNat_lt hkept htimer
  have htime : (getCurrentTime st.tc st.clock).2.time.toNat=(last+since)%2^64 := by
    rw [Clock.time_toNat,←hcarry]
    unfold getCurrentTime
    simp only [UInt32.lt_iff_toNat_lt]
    split
    · rw [UInt32.toNat_add,hone]
    · rfl
  exact ⟨htime,htimer,Nat.zero_le _,htime⟩

/-! ## Whole runs -/

/-- From a counted state every call returns the seconds counted. -/
theorem Counted.readings {events : List ClockEvent} :
    ∀ {total since : ℕ} {st : TimerState},Counted total since st → Spaced since events →
      readings st events=(totals total events).map UInt64.ofNat := by
  induction events with
  | nil => exact fun _ _ => rfl
  | cons event events ih =>
    intro total since st h hspaced
    cases event with
    | second => exact ih h.second hspaced
    | call =>
      obtain ⟨hresult,hcounted⟩ := h.call hspaced.1
      have hfirst : (getCurrentTime st.tc st.clock).1=UInt64.ofNat total := by
        rw [←UInt64.toNat_inj,hresult,UInt64.toNat_ofNat']
      rw [ClockRun.readings,totals,List.map_cons,hfirst]
      exact congrArg (List.cons _) (ih hcounted hspaced.2)

/-- A run starts counted. -/
theorem ClockStart.counted {st : TimerState} {s : ℕ} (h : ClockStart st s) : Counted s 0 st := by
  cases h with
  | set secs us clock =>
    have hsecs := secs.toNat_lt
    refine ⟨(Nat.mod_eq_of_lt hsecs).symm,Nat.zero_le _,?_⟩
    rw [Clock.time_toNat]
    have hupper : (ntpSetCurrentTime secs us clock).2.upper=0 := by
      have hnone : ¬secs<lastRecordedTime.lower := UInt32.not_lt_zero
      unfold ntpSetCurrentTime
      rw [if_neg hnone]
      rfl
    rw [hupper]
    change 0*2^32+secs.toNat=_
    omega
  | reset => exact ⟨rfl,le_rfl,rfl⟩

/-- The seconds counted only grow. -/
theorem totals_sorted (events : List ClockEvent) :
    ∀ total,(totals total events).Pairwise (·≤·) ∧ ∀ t∈totals total events,total≤t := by
  induction events with
  | nil => exact fun _ => ⟨.nil,by simp [totals]⟩
  | cons event events ih =>
    intro total
    cases event with
    | second =>
      obtain ⟨hsorted,hbound⟩ := ih (total+1)
      exact ⟨hsorted,fun t ht => (Nat.le_succ total).trans (hbound t ht)⟩
    | call =>
      obtain ⟨hsorted,hbound⟩ := ih total
      rw [totals]
      refine ⟨List.pairwise_cons.mpr ⟨hbound,hsorted⟩,fun t ht => ?_⟩
      rcases List.mem_cons.mp ht with rfl|ht
      · exact le_rfl
      · exact hbound t ht

/-- In every run whose calls are spaced, each call returns the start value
plus the seconds so far modulo 2^64, and the results never decrease while that
sum stays below 2^64 at the calls. -/
theorem readings_exact {st : TimerState} {s : ℕ} (hstart : ClockStart st s)
    {events : List ClockEvent} (hspaced : Spaced 0 events) :
    readings st events=(totals s events).map UInt64.ofNat ∧
      ((∀ total∈totals s events,total<2^64) → (readings st events).Pairwise (·≤·)) := by
  have hread := hstart.counted.readings hspaced
  refine ⟨hread,fun hbound => ?_⟩
  rw [hread,List.pairwise_map]
  refine (totals_sorted events s).1.imp_of_mem ?_
  intro a b ha hb hab
  rw [UInt64.le_iff_toNat_le,UInt64.toNat_ofNat',UInt64.toNat_ofNat',
    Nat.mod_eq_of_lt (hbound a ha),Nat.mod_eq_of_lt (hbound b hb)]
  exact hab

/-- Two calls around a wrap of the timer, one second apart. -/
theorem readings_exact_wrap :
    readings ⟨(ntpSetCurrentTime 0xFFFFFFFF 0 Clock.reset).1.2,
        (ntpSetCurrentTime 0xFFFFFFFF 0 Clock.reset).2⟩ [.call,.second,.call]=
      [0xFFFFFFFF,0x100000000] := by
  have hspaced : Spaced 0 [.call,.second,.call] := ⟨by decide,by decide,trivial⟩
  rw [(readings_exact (.set 0xFFFFFFFF 0 Clock.reset) hspaced).1]
  rfl

/-! ## Beyond 64 bits -/

/-- `n` calls, each after `m` seconds, in front of the rest of a run. -/
def bursts (m : ℕ) : ℕ → List ClockEvent → List ClockEvent
  | 0,rest => rest
  | n+1,rest => List.replicate m .second++.call::bursts m n rest

/-- Seconds are only counted. -/
theorem totals_replicate (m : ℕ) (rest : List ClockEvent) :
    ∀ total,totals total (List.replicate m .second++rest)=totals (total+m) rest := by
  induction m with
  | zero => exact fun _ => rfl
  | succ m ih =>
    intro total
    rw [List.replicate_succ,List.cons_append,totals,ih,Nat.add_right_comm]
    rfl

/-- Seconds only use up the time until the next call. -/
theorem spaced_replicate (m : ℕ) (rest : List ClockEvent) :
    ∀ since,Spaced since (List.replicate m .second++rest)=Spaced (since+m) rest := by
  induction m with
  | zero => exact fun _ => rfl
  | succ m ih =>
    intro since
    rw [List.replicate_succ,List.cons_append,Spaced,ih,Nat.add_right_comm]
    rfl

/-- Bursts are spaced when each of them is. -/
theorem spaced_bursts {m : ℕ} (hm : m<2^32) {rest : List ClockEvent} (hrest : Spaced 0 rest) (n : ℕ) :
    Spaced 0 (bursts m n rest) := by
  induction n with
  | zero => exact hrest
  | succ n ih =>
    rw [bursts,spaced_replicate,Nat.zero_add]
    exact ⟨hm,ih⟩

/-- The last of the calls comes after all the seconds of the bursts. -/
theorem totals_bursts (m : ℕ) (rest : List ClockEvent) (n : ℕ) :
    ∀ total,∃ earlier,totals total (bursts m (n+1) rest)=
      earlier++(total+(n+1)*m)::totals (total+(n+1)*m) rest := by
  induction n with
  | zero =>
    intro total
    refine ⟨[],?_⟩
    rw [bursts,totals_replicate,totals,bursts,Nat.zero_add,Nat.one_mul]
    rfl
  | succ n ih =>
    intro total
    obtain ⟨earlier,hearlier⟩ := ih (total+m)
    refine ⟨(total+m)::earlier,?_⟩
    rw [bursts,totals_replicate,totals,hearlier,show total+m+(n+1)*m=total+(n+1+1)*m by ring]
    rfl

/-- When the bursts use up all but the last of the 2^64 values, one more second
leads back to zero. -/
theorem not_sorted_of_overflow {m n : ℕ} (hm : m<2^32) (hfull : (n+1)*m=2^64-1) :
    ¬(readings ⟨0,Clock.reset⟩ (bursts m (n+1) [.second,.call])).Pairwise (·≤·) := by
  have hspaced : Spaced 0 (bursts m (n+1) [.second,.call]) := by
    refine spaced_bursts hm ?_ (n+1)
    exact ⟨by decide,trivial⟩
  obtain ⟨earlier,hearlier⟩ := totals_bursts m [.second,.call] n 0
  rw [ClockStart.reset.counted.readings hspaced,hearlier,Nat.zero_add,hfull,List.map_append]
  intro hsorted
  have hlast := (List.pairwise_append.mp hsorted).2.1
  have hpair := List.rel_of_pairwise_cons hlast (List.mem_cons_self)
  revert hpair
  decide

/-- A call every 2^32-1 seconds, 2^32+1 times, and one more a second later:
the last result is zero. -/
theorem readings_decrease :
    ∃ m n,m=2^32-1 ∧ n=2^32+1 ∧ ClockStart ⟨0,Clock.reset⟩ 0 ∧
      Spaced 0 (bursts m n [.second,.call]) ∧
      ¬(readings ⟨0,Clock.reset⟩ (bursts m n [.second,.call])).Pairwise (·≤·) := by
  -- the numbers stay variables: the run itself is never to be written out
  obtain ⟨m,hm⟩ : ∃ m,m=2^32-1 := ⟨_,rfl⟩
  obtain ⟨n,hn⟩ : ∃ n,n=2^32 := ⟨_,rfl⟩
  have hrest : Spaced 0 [.second,.call] := ⟨by decide,trivial⟩
  have hshort : m<2^32 := by omega
  have hfull : (n+1)*m=2^64-1 := by
    rw [hm,hn]
    decide
  exact ⟨m,n+1,hm,by rw [hn],.reset,spaced_bursts hshort hrest (n+1),
    not_sorted_of_overflow hshort hfull⟩

end VlfGateway.ClockRun
