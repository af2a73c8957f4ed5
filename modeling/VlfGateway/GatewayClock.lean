import Mathlib.Data.List.Basic
import Mathlib.Tactic

/-!
# The gateway's time

Timer 3 counts seconds in 32 bits. The 64-bit time is brought up to the timer
whenever it is asked for; a timer behind the lower word means that the timer
has wrapped.
-/

namespace VlfGateway.GatewayClock

/-- `current_time` as its two words, and `time_valid`. -/
structure Clock where
  /-- `ct_ptr[0]`. -/
  lower : UInt32
  /-- `ct_ptr[1]`. -/
  upper : UInt32
  /-- `time_valid`. -/
  valid : Bool
  deriving DecidableEq

/-- The two words of `current_time` as one number. -/
def Clock.time (clock : Clock) : UInt64 := clock.upper.toUInt64 <<< 32 ||| clock.lower.toUInt64

/-- The clock after a reset. -/
def Clock.reset : Clock := ⟨0,0,false⟩

/-- `get_current_time` with the timer at `timerVal`. -/
def getCurrentTime (timerVal : UInt32) (clock : Clock) : UInt64 × Clock :=
  let upper := if timerVal<clock.lower then clock.upper+1 else clock.upper
  let updated := {clock with lower := timerVal,upper := upper}
  (updated.time,updated)

/-- `is_time_valid`. -/
def isTimeValid (clock : Clock) : Bool := clock.valid

/-- What `get_last_recorded_time` returns as long as nothing is recorded. -/
def lastRecordedTime : Clock := Clock.reset

/-- `ntp_set_current_time`, with the prescale counter and the timer value that
are loaded. -/
def ntpSetCurrentTime (secs us : UInt32) (_ : Clock) : (UInt32 × UInt32) × Clock :=
  let upper := if secs<lastRecordedTime.lower then lastRecordedTime.upper+1
    else lastRecordedTime.upper
  ((25*us,secs),{lower := secs,upper := upper,valid := true})

/-- The two words of the time as a number. -/
theorem Clock.time_toNat (clock : Clock) :
    clock.time.toNat=clock.upper.toNat*2^32+clock.lower.toNat := by
  have hupper := clock.upper.toNat_lt
  have hlower := clock.lower.toNat_lt
  have hshift : (clock.upper.toUInt64 <<< 32).toNat=clock.upper.toNat <<< 32 := by
    rw [UInt64.toNat_shiftLeft]
    change (clock.upper.toNat <<< 32)%2^64=_
    rw [Nat.shiftLeft_eq]
    omega
  rw [Clock.time,UInt64.toNat_or,hshift,UInt32.toNat_toUInt64,
    ←Nat.shiftLeft_add_eq_or_of_lt hlower,Nat.shiftLeft_eq]

end VlfGateway.GatewayClock
