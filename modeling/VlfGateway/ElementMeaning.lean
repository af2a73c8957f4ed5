import VlfGateway.HttpTransmit
import VlfGateway.JsonReader

/-!
# Meaning of the uploaded elements

The text of an element is read back as JSON and compared with the packet
structure documented above the functions that print it. The text always reads
as one object from which every field of the record can be recovered. A PGA gain
with a half is printed as its integer part followed by `.5`, which has the
documented value only while the integer part is negative.
-/

namespace VlfGateway.ElementMeaning

open PrintfText HttpTransmit JsonReader

/-! ## Documented meaning -/

/-- Record type in the six highest bits of the header. -/
def kind (w : Sample) : ℕ := (header w).toNat/2^26

/-- Half-word of the left channel. -/
def leftHalf (w : Sample) : ℕ := (header w).toNat/2^16

/-- Half-word of the right channel. -/
def rightHalf (w : Sample) : ℕ := (header w).toNat%2^16

/-- Time of the record. -/
def time (w : Sample) : ℕ := (timeHigh w).toNat*2^32+(timeLow w).toNat

/-- Documented microphone boost in dB. -/
def documentedBoost (field : ℕ) : ℕ :=
  match field with
  | 0 => 33
  | 1 => 28
  | 2 => 18
  | _ => 13

/-- Documented PGA gain in dB, `null` for mute. -/
def documentedGain (pga : ℕ) : Json := if pga=0 then .null else .number (-(195/2)+(pga : ℚ)/2)

/-- One channel of a measurement as the documentation describes it. -/
structure DocumentedChannel (name : String) (half value : ℕ) (j : Json) : Prop where
  /-- Target frequency in the six highest bits. -/
  frequency : j.follow [name,"target_freq"]=some (.number (half/2^10 : ℕ))
  /-- Microphone boost in the next two bits. -/
  boost : j.follow [name,"mic_gain"]=some (.number (documentedBoost (half/2^8%4)))
  /-- PGA gain in the lowest octet. -/
  gain : j.follow [name,"pga_gain"]=some (documentedGain (half%2^8))
  /-- The measured value. -/
  value : j.follow [name,"value"]=some (.number value)

/-- An object carries what the documentation says a record means. -/
def Documented (w : Sample) (j : Json) : Prop :=
  (∃ text,j.follow ["time"]=some (.string text) ∧ readHex text=some (time w)) ∧
    match kind w with
    | 60 => j.follow ["battery","value"]=some (.number (leftData w).toNat)
    | 61 => j.follow ["rssi","value"]=some (.number (leftData w).toNat)
    | 63 => j.follow ["left_envelope","value"]=some (.number (leftData w).toNat) ∧
        j.follow ["right_envelope","value"]=some (.number (rightData w).toNat)
    | _ => DocumentedChannel "left" (leftHalf w) (leftData w).toNat j ∧
        DocumentedChannel "right" (rightHalf w) (rightData w).toNat j

/-- Fields of one channel. -/
def channelFields (half value : ℕ) : List ℕ := [half/2^10,half/2^8%4,half%2^8,value]

/-- Fields that a record of its kind has. -/
def fieldValues (w : Sample) : List ℕ :=
  time w::match kind w with
    | 60 => [(leftData w).toNat]
    | 61 => [(leftData w).toNat]
    | 63 => [(leftData w).toNat,(rightData w).toNat]
    | _ => channelFields (leftHalf w) (leftData w).toNat++channelFields (rightHalf w) (rightData w).toNat

/-- The documented PGA gain is not one of the halves from -0.5 dB on, which
have the even octets from 194 on. -/
def GainPrintable (half : ℕ) : Prop := ¬(half%2^8%2=0 ∧ 194≤half%2^8)

instance (half : ℕ) : Decidable (GainPrintable half) :=
  inferInstanceAs (Decidable (¬(half%2^8%2=0 ∧ 194≤half%2^8)))

/-- The record has no channels, or both have a printable gain. -/
def GainsPrintable (w : Sample) : Prop :=
  kind w=60 ∨ kind w=61 ∨ kind w=63 ∨ GainPrintable (leftHalf w) ∧ GainPrintable (rightHalf w)

/-! ## Printed objects -/

/-- The PGA gain that is printed. The half is appended to the text of the
integer part, so that it counts in the direction of its sign. -/
def printedGain (pga : ℕ) : Json :=
  if pga=0 then .null
  else if pga%2=1 then .number ((pga/2 : ℕ)-97)
  else if pga/2<97 then .number ((pga/2 : ℕ)-97-1/2)
  else .number ((pga/2 : ℕ)-97+1/2)

/-- An object with one value. -/
def valueObject (value : ℕ) : Json := .object [("value".toList,.number value)]

/-- The object of one channel. -/
def channelObject (half value : ℕ) : Json :=
  .object [("target_freq".toList,.number (half/2^10 : ℕ)),
    ("mic_gain".toList,.number (documentedBoost (half/2^8%4))),
    ("pga_gain".toList,printedGain (half%2^8)),("value".toList,.number value)]

/-- Members that depend on the record type. -/
def recordMembers (w : Sample) : List (List Char × Json) :=
  match kind w with
  | 60 => [("battery".toList,valueObject (leftData w).toNat)]
  | 61 => [("rssi".toList,valueObject (leftData w).toNat)]
  | 63 => [("left_envelope".toList,valueObject (leftData w).toNat),
      ("right_envelope".toList,valueObject (rightData w).toNat)]
  | _ => [("left".toList,channelObject (leftHalf w) (leftData w).toNat),
      ("right".toList,channelObject (rightHalf w) (rightData w).toNat)]

/-- Text of the time inside its quotes. -/
def timeDigits (w : Sample) : List Char := hex (timeHigh w).toNat++hexPadded 8 (timeLow w).toNat

/-- The object that an element stands for. -/
def elementObject (w : Sample) : Json :=
  .object (("time".toList,.string (timeDigits w))::recordMembers w)

/-! ## Fields of the header word -/

/-- The record type is the highest six bits. -/
theorem recordType_toNat (w : Sample) : ((w 0 >>> 26) &&& 0x3F : UInt32).toNat=kind w := by
  have hlt := (header w).toNat_lt
  have hmask := Nat.and_two_pow_sub_one_eq_mod ((header w).toNat/2^26) 6
  rw [UInt32.toNat_and,UInt32.toNat_shiftRight,Nat.shiftRight_eq_div_pow]
  change (header w).toNat/2^26 &&& 2^6-1=(header w).toNat/2^26
  omega

/-- The high half-word. -/
theorem leftHalf_eq (w : Sample) : (header w >>> 16).toUInt16.toNat=leftHalf w := by
  have hlt := (header w).toNat_lt
  rw [UInt32.toNat_toUInt16,UInt32.toNat_shiftRight,Nat.shiftRight_eq_div_pow]
  change (header w).toNat/2^16%2^16=(header w).toNat/2^16
  omega

/-- The low half-word. -/
theorem rightHalf_eq (w : Sample) : (header w).toUInt16.toNat=rightHalf w :=
  UInt32.toNat_toUInt16 _

/-- The target frequency of a half-word. -/
theorem targetFreq_toNat (flags : UInt16) : ((flags >>> 10) &&& 0x3F).toNat=flags.toNat/2^10 := by
  have hlt := flags.toNat_lt
  have hmask := Nat.and_two_pow_sub_one_eq_mod (flags.toNat/2^10) 6
  rw [UInt16.toNat_and,UInt16.toNat_shiftRight,Nat.shiftRight_eq_div_pow]
  change flags.toNat/2^10 &&& 2^6-1=flags.toNat/2^10
  omega

/-- The boost field of a half-word. -/
theorem micGain_toNat (flags : UInt16) : ((flags >>> 8) &&& 0x3).toNat=flags.toNat/2^8%4 := by
  rw [UInt16.toNat_and,UInt16.toNat_shiftRight,Nat.shiftRight_eq_div_pow]
  exact Nat.and_two_pow_sub_one_eq_mod (flags.toNat/2^8) 2

/-- The gain field of a half-word. -/
theorem pgaGain_toNat (flags : UInt16) : (flags &&& 0xFF).toNat=flags.toNat%2^8 := by
  rw [UInt16.toNat_and]
  exact Nat.and_two_pow_sub_one_eq_mod flags.toNat 8

/-- The switch on the boost field has the documented values. -/
theorem micGainDecibel_eq (field : UInt16) : micGainDecibel field=documentedBoost field.toNat := rfl

/-! ## Reading the printed numbers -/

/-- A printed unsigned number. -/
theorem readValue_unsignedDecimal (n m : ℕ) {rest : List Char} (h : Ends rest) :
    readValue (n+1) (unsignedDecimal m++rest)=some (.number m,rest) := by
  refine readValue_unsigned ?_
  rw [readMagnitude_toDigits m (fun c hc => (h c hc).1),readFraction_none h]
  change some ((m : ℚ)+0,rest)=_
  rw [add_zero]

/-- A printed signed number with the fraction that follows it: the fraction
counts in the direction of the sign. -/
theorem readValue_signedDecimal (n : ℕ) (z : ℤ) {tail rest : List Char} {fraction : ℚ}
    (htail : ∀ c∈tail.head?,c.isDigit=false) (hfraction : readFraction tail=some (fraction,rest)) :
    readValue (n+1) (signedDecimal z++tail)=
      some (.number (z+if z<0 then -fraction else fraction),rest) := by
  have hmagnitude : readMagnitude (unsignedDecimal z.natAbs++tail)=
      some ((z.natAbs : ℚ)+fraction,rest) := by
    refine (readMagnitude_toDigits z.natAbs htail).trans ?_
    rw [hfraction]
    rfl
  unfold signedDecimal
  by_cases hz : z<0
  · have habs : (z.natAbs : ℚ)=-z := by
      rw [Nat.cast_natAbs,abs_of_neg hz,Int.cast_neg]
    rw [habs,show -(z : ℚ)+fraction=-(z+-fraction) by ring] at hmagnitude
    rw [if_pos hz,if_pos hz,List.cons_append,readValue_negative hmagnitude,neg_neg]
  · have habs : (z.natAbs : ℚ)=z := by
      rw [Nat.cast_natAbs,abs_of_nonneg (not_lt.mp hz)]
    rw [habs] at hmagnitude
    rw [if_neg hz,if_neg hz]
    exact readValue_unsigned hmagnitude

/-- The half that is appended to an integer part. -/
theorem readFraction_half {rest : List Char} (h : Ends rest) :
    readFraction (".5".toList++rest)=some (1/2,rest) := by
  have hdigits : ['5'].all Char.isDigit=true := rfl
  refine (readFraction_digits (List.cons_ne_nil '5' []) hdigits h).trans ?_
  have hvalue : ((Nat.ofDigitChars 10 ['5'] 0 : ℕ) : ℚ)/10^(['5'].length)=1/2 := by
    rw [show Nat.ofDigitChars 10 ['5'] 0=5 from rfl,show ['5'].length=1 from rfl]
    norm_num
  rw [hvalue]

/-- The printed PGA gain. -/
theorem readValue_pgaGainText (n : ℕ) (pga : UInt16) {rest : List Char} (h : Ends rest) :
    readValue (n+1) (pgaGainText pga++rest)=some (printedGain pga.toNat,rest) := by
  have hhalf : (pga >>> 1).toNat=pga.toNat/2 := by
    rw [UInt16.toNat_shiftRight,Nat.shiftRight_eq_div_pow]
    rfl
  have hlowest : (pga &&& 1).toNat=pga.toNat%2 := by
    rw [UInt16.toNat_and]
    exact Nat.and_two_pow_sub_one_eq_mod pga.toNat 1
  have hzero : pga=0 ↔ pga.toNat=0 := UInt16.toNat_inj.symm
  have hbit : pga &&& 1=0 ↔ pga.toNat%2=0 := by
    rw [←hlowest]
    exact UInt16.toNat_inj.symm
  have hsign : ((pga.toNat/2 : ℕ) : ℤ)-97<0 ↔ pga.toNat/2<97 := by omega
  unfold pgaGainText printedGain
  by_cases hmute : pga.toNat=0
  · rw [if_pos (hzero.mpr hmute),if_pos hmute]
    exact readValue_null n rest
  rw [if_neg (mt hzero.mp hmute),if_neg hmute,hhalf,List.append_assoc]
  by_cases hodd : pga.toNat%2=1
  · rw [if_pos hodd,if_neg (by rw [hbit]; omega),List.nil_append,
      readValue_signedDecimal n _ (fun c hc => (h c hc).1) (readFraction_none h),neg_zero,ite_self,
      add_zero,Int.cast_sub,Int.cast_natCast]
    rfl
  · rw [if_neg hodd,if_pos (hbit.mpr (by omega)),
      readValue_signedDecimal n _ (by rintro c ⟨⟩; rfl) (readFraction_half h),Int.cast_sub,
      Int.cast_natCast]
    by_cases hlow : pga.toNat/2<97
    · rw [if_pos (hsign.mpr hlow),if_pos hlow,←sub_eq_add_neg]
      rfl
    · rw [if_neg (mt hsign.mp hlow),if_neg hlow]
      rfl

/-! ## Reading the printed objects -/

/-- A comma ends a number. -/
theorem ends_comma (rest : List Char) : Ends (','::rest) := by
  rintro c ⟨⟩
  decide

/-- A closing brace ends a number. -/
theorem ends_closeBrace (rest : List Char) : Ends (closeBrace::rest) := by
  rintro c ⟨⟩
  decide

/-- The last member of the objects of values and of channels. -/
theorem readMembers_value (n value : ℕ) (rest : List Char) :
    readMembers (n+2) ("\"value\":".toList++(unsignedDecimal value++closeBrace::rest))=
      some ([("value".toList,.number value)],rest) :=
  readMembers_last (rfl : "value".toList.all isPlain=true)
    (readValue_unsignedDecimal n value (ends_closeBrace rest)) (skip_cons (by decide) rest)

/-- A printed value object. -/
theorem readValue_valueObject (n value : ℕ) (rest : List Char) :
    readValue (n+3) ("\x7b\"value\":".toList++(unsignedDecimal value++closeBrace::rest))=
      some (valueObject value,rest) :=
  readValue_object (readMembers_value n value rest)

/-- A printed channel. -/
theorem readValue_sprintfEmChannel (n : ℕ) (flags : UInt16) (value : UInt32) (rest : List Char) :
    readValue (n+6) (sprintfEmChannel flags value++rest)=
      some (channelObject flags.toNat value.toNat,rest) := by
  have hvalue := readMembers_value n value.toNat rest
  have hgain := readMembers_next (rfl : "pga_gain".toList.all isPlain=true)
    (readValue_pgaGainText (n+1) (flags &&& 0xFF) (ends_comma _)) hvalue
  have hboost := readMembers_next (rfl : "mic_gain".toList.all isPlain=true)
    (readValue_unsignedDecimal (n+2) (micGainDecibel ((flags >>> 8) &&& 0x3)) (ends_comma _)) hgain
  have hfrequency := readMembers_next (rfl : "target_freq".toList.all isPlain=true)
    (readValue_unsignedDecimal (n+3) ((flags >>> 10) &&& 0x3F).toNat (ends_comma _)) hboost
  rw [targetFreq_toNat,micGainDecibel_eq,micGain_toNat,pgaGain_toNat] at hfrequency
  unfold sprintfEmChannel
  dsimp only
  rw [targetFreq_toNat,micGainDecibel_eq,micGain_toNat]
  simp only [List.append_assoc]
  exact readValue_object hfrequency

/-- The members that depend on the record type, up to the end of the padded
element. -/
theorem readMembers_recordText (n k : ℕ) (w : Sample) :
    readMembers (n+8) (recordText w++(List.replicate k ' '++[closeBrace]))=
      some (recordMembers w,[]) := by
  have hpadding : skip (List.replicate k ' '++[closeBrace])=[closeBrace] := by
    rw [skip_blanks]
    exact skip_cons (by decide) []
  unfold recordText recordMembers
  rw [recordType_toNat]
  generalize kind w=t
  split
  · have hlast := readMembers_last (rfl : "battery".toList.all isPlain=true)
      (readValue_valueObject (n+4) (leftData w).toNat (List.replicate k ' '++[closeBrace])) hpadding
    unfold sprintfBattery
    simp only [List.append_assoc]
    exact hlast
  · have hlast := readMembers_last (rfl : "rssi".toList.all isPlain=true)
      (readValue_valueObject (n+4) (leftData w).toNat (List.replicate k ' '++[closeBrace])) hpadding
    unfold sprintfRssi
    simp only [List.append_assoc]
    exact hlast
  · have hlast := readMembers_last (rfl : "right_envelope".toList.all isPlain=true)
      (readValue_valueObject (n+3) (rightData w).toNat (List.replicate k ' '++[closeBrace])) hpadding
    have hnext := readMembers_next (rfl : "left_envelope".toList.all isPlain=true)
      (readValue_valueObject (n+4) (leftData w).toNat _) hlast
    unfold sprintfEnvelope
    simp only [List.append_assoc]
    exact hnext
  · have hlast := readMembers_last (rfl : "right".toList.all isPlain=true)
      (readValue_sprintfEmChannel n (header w).toUInt16 (rightData w) (List.replicate k ' '++[closeBrace]))
      hpadding
    have hnext := readMembers_next (rfl : "left".toList.all isPlain=true)
      (readValue_sprintfEmChannel (n+1) (header w >>> 16).toUInt16 (leftData w) _) hlast
    rw [leftHalf_eq,rightHalf_eq] at hnext
    unfold sprintfEm
    simp only [List.append_assoc]
    exact hnext

/-- The digits of the time stand for themselves in a string. -/
theorem timeDigits_plain (w : Sample) : (timeDigits w).all isPlain=true := by
  refine List.all_eq_true.mpr fun c hc => ?_
  have hdigit : ∃ d<16,c=Nat.digitChar d := by
    rcases List.mem_append.mp hc with hhigh|hlow
    · exact mem_hex hhigh
    · exact mem_hexPadded hlow
  obtain ⟨d,hd,rfl⟩ := hdigit
  interval_cases d <;> decide

/-- The text of an element without a comma reads as its object. -/
theorem read_jsonElement (w : Sample) :
    read (jsonElement (some w) false)=some (elementObject w) := by
  have hrecord := readMembers_recordText 171
    (jsonRecordChars-1-(elementText (some w)).length) w
  have hmembers := readMembers_next (rfl : "time".toList.all isPlain=true)
    (readValue_string 178 (timeDigits_plain w) _) hrecord
  have htext : jsonElement (some w) false=openBrace::quote::("time".toList++quote:: ':'::
      quote::(timeDigits w++quote:: ','::(recordText w++
        (List.replicate (jsonRecordChars-1-(elementText (some w)).length) ' '++[closeBrace])))) := by
    unfold jsonElement
    generalize jsonRecordChars-1-(elementText (some w)).length=k
    unfold elementText timeText timeDigits
    simp only [List.append_assoc]
    rfl
  apply read_of_readValue
  rw [jsonElement_length,htext]
  exact readValue_object hmembers

/-! ## The printed objects against the documentation -/

/-- A printed gain is the documented one, except for an even octet from 194 on. -/
theorem printedGain_eq_iff (half : ℕ) :
    printedGain (half%2^8)=documentedGain (half%2^8) ↔ GainPrintable half := by
  unfold GainPrintable
  generalize half%2^8=pga
  unfold printedGain documentedGain
  by_cases hmute : pga=0
  · subst hmute
    exact iff_of_true rfl (by decide)
  rw [if_neg hmute,if_neg hmute]
  have hcast : (pga : ℚ)=2*(pga/2 : ℕ)+(pga%2 : ℕ) := by
    rw [←Nat.cast_ofNat,←Nat.cast_mul,←Nat.cast_add,Nat.div_add_mod]
  by_cases hodd : pga%2=1
  · rw [if_pos hodd]
    refine iff_of_true ?_ (by omega)
    rw [hcast,hodd]
    congr 1
    push_cast
    ring
  · rw [if_neg hodd]
    have heven : pga%2=0 := by omega
    rw [heven,Nat.cast_zero,add_zero] at hcast
    by_cases hlow : pga/2<97
    · rw [if_pos hlow]
      refine iff_of_true ?_ (by omega)
      rw [hcast]
      congr 1
      ring
    · rw [if_neg hlow]
      refine iff_of_false ?_ (by omega)
      rw [hcast]
      intro h
      have hvalue := Json.number.inj h
      linarith

/-- The printed gain in halves of a dB. -/
def printedHalves (pga : ℕ) : ℤ :=
  if pga%2=1 then 2*(pga/2 : ℕ)-194
  else if pga/2<97 then 2*(pga/2 : ℕ)-195
  else 2*(pga/2 : ℕ)-193

/-- The printed gain of an octet that does not mute. -/
theorem printedGain_eq_halves {pga : ℕ} (h : pga≠0) :
    printedGain pga=.number ((printedHalves pga : ℚ)/2) := by
  unfold printedGain printedHalves
  rw [if_neg h]
  generalize pga/2=k
  split
  · congr 1
    push_cast
    ring
  · split
    · congr 1
      push_cast
      ring
    · congr 1
      push_cast
      ring

/-- The printed gains are different for different octets. -/
theorem printedGain_injective {p q : ℕ} (h : printedGain p=printedGain q) : p=q := by
  by_cases hp : p=0
  · by_cases hq : q=0
    · rw [hp,hq]
    · rw [printedGain_eq_halves hq,hp] at h
      exact absurd h Json.noConfusion
  · by_cases hq : q=0
    · rw [printedGain_eq_halves hp,hq] at h
      exact absurd h Json.noConfusion
    · rw [printedGain_eq_halves hp,printedGain_eq_halves hq] at h
      have hvalue := Json.number.inj h
      have hhalves : printedHalves p=printedHalves q := by
        have hcast : (printedHalves p : ℚ)=printedHalves q := by linarith
        exact_mod_cast hcast
      unfold printedHalves at hhalves
      split at hhalves <;> split at hhalves <;> (try split at hhalves) <;>
        (try split at hhalves) <;> omega

/-- The printed gain is not an object. -/
theorem isScalar_printedGain (pga : ℕ) : (printedGain pga).isScalar=true := by
  unfold printedGain
  repeat' split
  all_goals rfl

/-- The documented boosts are different for different fields. -/
theorem documentedBoost_injective {p q : ℕ} (hp : p<4) (hq : q<4)
    (h : documentedBoost p=documentedBoost q) : p=q := by
  interval_cases p <;> interval_cases q <;> first | rfl | exact absurd h (by decide)

/-- The printed digits stand for the time. -/
theorem readHex_timeDigits (w : Sample) : readHex (timeDigits w)=some (time w) :=
  readHex_pair (timeHigh w).toNat (by decide) ((timeLow w).toNat_lt.trans_eq (by decide))

/-- A printed channel is documented exactly when its gain is printable. -/
theorem documentedChannel_iff {name : String} {half value : ℕ} {j : Json}
    (h : j.follow [name]=some (channelObject half value)) :
    DocumentedChannel name half value j ↔ GainPrintable half := by
  rw [←printedGain_eq_iff]
  constructor
  · intro hchannel
    have hgain := hchannel.gain
    rw [Json.follow_pair h] at hgain
    exact Option.some.inj hgain
  · intro hgain
    refine ⟨Json.follow_pair h _,Json.follow_pair h _,?_,Json.follow_pair h _⟩
    rw [←hgain]
    exact Json.follow_pair h _

/-- Two printed channels that cannot be told apart have the same fields. -/
theorem channelFields_of_same (name : String) {half half' value value' : ℕ} {j j' : Json}
    (hsame : Json.Same j j') (h : j.follow [name]=some (channelObject half value))
    (h' : j'.follow [name]=some (channelObject half' value')) :
    channelFields half value=channelFields half' value' := by
  have hfrequency := Json.number.inj (hsame.scalar_eq [name,"target_freq"]
    (Json.follow_pair h _) (Json.follow_pair h' _) rfl)
  have hboost := Json.number.inj (hsame.scalar_eq [name,"mic_gain"]
    (Json.follow_pair h _) (Json.follow_pair h' _) rfl)
  have hgain := hsame.scalar_eq [name,"pga_gain"]
    (Json.follow_pair h _) (Json.follow_pair h' _) (isScalar_printedGain _)
  have hvalue := Json.number.inj (hsame.scalar_eq [name,"value"]
    (Json.follow_pair h _) (Json.follow_pair h' _) rfl)
  unfold channelFields
  rw [Nat.cast_injective hfrequency,documentedBoost_injective (Nat.mod_lt _ (by decide))
    (Nat.mod_lt _ (by decide)) (Nat.cast_injective hboost),printedGain_injective hgain,
    Nat.cast_injective hvalue]

/-- Two printed value objects that cannot be told apart have the same value. -/
theorem value_of_same (name : String) {value value' : ℕ} {j j' : Json}
    (hsame : Json.Same j j') (h : j.follow [name]=some (valueObject value))
    (h' : j'.follow [name]=some (valueObject value')) : value=value' :=
  Nat.cast_injective (Json.number.inj (hsame.scalar_eq [name,"value"]
    (Json.follow_pair h _) (Json.follow_pair h' _) rfl))

/-- The members of a record that is none of the special kinds. -/
theorem recordMembers_measurement {w : Sample} (h60 : kind w≠60) (h61 : kind w≠61)
    (h63 : kind w≠63) :
    recordMembers w=[("left".toList,channelObject (leftHalf w) (leftData w).toNat),
      ("right".toList,channelObject (rightHalf w) (rightData w).toNat)] := by
  unfold recordMembers
  split
  · contradiction
  · contradiction
  · contradiction
  · rfl

/-- A printed record is documented exactly when its gains are printable. -/
theorem documented_iff (w : Sample) : Documented w (elementObject w) ↔ GainsPrintable w := by
  have htime : ∃ text,(elementObject w).follow ["time"]=some (.string text) ∧
      readHex text=some (time w) := ⟨timeDigits w,rfl,readHex_timeDigits w⟩
  refine (and_iff_right htime).trans ?_
  unfold GainsPrintable
  split
  · rename_i h60
    refine iff_of_true ?_ (.inl h60)
    rw [elementObject,recordMembers,h60]
    rfl
  · rename_i h61
    refine iff_of_true ?_ (.inr (.inl h61))
    rw [elementObject,recordMembers,h61]
    rfl
  · rename_i h63
    refine iff_of_true ?_ (.inr (.inr (.inl h63)))
    rw [elementObject,recordMembers,h63]
    exact ⟨rfl,rfl⟩
  · rename_i h60 h61 h63
    rw [or_iff_right h60,or_iff_right h61,or_iff_right h63,elementObject,
      recordMembers_measurement h60 h61 h63]
    exact and_congr (documentedChannel_iff rfl) (documentedChannel_iff rfl)

/-- Records of one kind whose printed objects cannot be told apart have the
same fields. -/
theorem fieldValues_of_same {v w : Sample} (hkind : kind v=kind w)
    (hsame : Json.Same (elementObject v) (elementObject w)) : fieldValues v=fieldValues w := by
  have htime : time v=time w := by
    have hdigits := Json.string.inj (hsame.scalar_eq ["time"] rfl rfl rfl)
    have hread := readHex_timeDigits v
    rw [hdigits,readHex_timeDigits w] at hread
    exact (Option.some.inj hread).symm
  unfold fieldValues
  rw [htime,hkind]
  congr 1
  rw [elementObject,elementObject] at hsame
  split
  · rename_i h60
    rw [recordMembers,recordMembers,hkind,h60] at hsame
    rw [value_of_same "battery" hsame rfl rfl]
  · rename_i h61
    rw [recordMembers,recordMembers,hkind,h61] at hsame
    rw [value_of_same "rssi" hsame rfl rfl]
  · rename_i h63
    rw [recordMembers,recordMembers,hkind,h63] at hsame
    rw [value_of_same "left_envelope" hsame rfl rfl,value_of_same "right_envelope" hsame rfl rfl]
  · rename_i h60 h61 h63
    rw [recordMembers_measurement h60 h61 h63,recordMembers_measurement (hkind.trans_ne h60)
      (hkind.trans_ne h61) (hkind.trans_ne h63)] at hsame
    rw [channelFields_of_same "left" hsame rfl rfl,channelFields_of_same "right" hsame rfl rfl]

/-- The text of a record is an object. It means what the documentation says
exactly when no channel has a gain that cannot be printed, and no record of the
same kind with other fields has the same object. -/
theorem element_meaning_iff (w : Sample) :
    ∃ j,read (jsonElement (some w) false)=some j ∧ (Documented w j ↔ GainsPrintable w) ∧
      ∀ v j',read (jsonElement (some v) false)=some j' → kind v=kind w → Json.Same j' j →
        fieldValues v=fieldValues w := by
  refine ⟨elementObject w,read_jsonElement w,documented_iff w,?_⟩
  intro v j' hread hkind hsame
  rw [read_jsonElement v] at hread
  cases hread
  exact fieldValues_of_same hkind hsame

/-- The widest measurement has gains of -96.5 dB and means what it should. -/
theorem widest_element_meaning :
    ∃ j,read (jsonElement (some widestSample) false)=some j ∧ Documented widestSample j := by
  obtain ⟨j,hread,hmeaning,_⟩ := element_meaning_iff widestSample
  exact ⟨j,hread,hmeaning.mpr (.inr (.inr (.inr (by decide))))⟩

/-- A measurement with a gain of -0.5 dB on the left and -97 dB on the right. -/
def halfBelowZero : Sample := ![0x28C22801,0,0,7,8,0]

/-- The gain of -0.5 dB is printed as 0.5. -/
theorem half_below_zero_misprinted :
    ∃ j,read (jsonElement (some halfBelowZero) false)=some j ∧
      j.follow ["left","pga_gain"]=some (.number (1/2)) ∧
      documentedGain (leftHalf halfBelowZero%2^8)=.number (-(1/2)) ∧
      ¬Documented halfBelowZero j := by
  have hhalf : leftHalf halfBelowZero%2^8=194 := rfl
  have hkind : kind halfBelowZero≠60 ∧ kind halfBelowZero≠61 ∧ kind halfBelowZero≠63 := by decide
  refine ⟨elementObject halfBelowZero,read_jsonElement halfBelowZero,?_,?_,?_⟩
  · have hgain : printedGain 194=.number (1/2) := by
      rw [printedGain_eq_halves (by decide),show printedHalves 194=1 from rfl,Int.cast_one]
    rw [elementObject,recordMembers_measurement hkind.1 hkind.2.1 hkind.2.2,←hgain]
    rfl
  · rw [hhalf,documentedGain,if_neg (by decide)]
    norm_num
  · rw [documented_iff]
    rintro (h60|h61|h63|hgains)
    · exact hkind.1 h60
    · exact hkind.2.1 h61
    · exact hkind.2.2 h63
    · exact hgains.1 ⟨rfl,by decide⟩

end VlfGateway.ElementMeaning
