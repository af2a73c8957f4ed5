import VlfGateway.Base64
import VlfGateway.PrintfText

/-!
# Text of the upload request

Every function writes text into a buffer and returns its length; here the
text is the result. A sample is the six words of a record, or nothing when
the block could not be read. Elements are padded with blanks to a fixed
length, so that the header can announce the length of the body from the
number of records alone.
-/

namespace VlfGateway.HttpTransmit

open PrintfText Base64

/-- The six words of a record. -/
abbrev Sample : Type := Fin 6 → UInt32

/-- Word with the record type and the settings of both channels. -/
def header (sample : Sample) : UInt32 := sample 0

/-- Low word of the time. -/
def timeLow (sample : Sample) : UInt32 := sample 1

/-- High word of the time. -/
def timeHigh (sample : Sample) : UInt32 := sample 2

/-- Word of the left channel. -/
def leftData (sample : Sample) : UInt32 := sample 3

/-- Word of the right channel. -/
def rightData (sample : Sample) : UInt32 := sample 4

/-- `JSON_OVERHEAD_CHARS`. -/
def jsonOverheadChars : ℕ := 11

/-- `JSON_RECORD_CHARS`. -/
def jsonRecordChars : ℕ := 180

/-- The documented microphone boost in dB for the two-bit field. -/
def micGainDecibel (field : UInt16) : ℕ :=
  match field.toNat with
  | 0 => 33
  | 1 => 28
  | 2 => 18
  | _ => 13

/-- Text of the PGA gain: `null` for mute, otherwise the halved gain less 97
and a half where the lowest bit is clear. -/
def pgaGainText (pgaGain : UInt16) : List Char :=
  if pgaGain=0 then "null".toList
  else signedDecimal ((pgaGain >>> 1).toNat-97)++if pgaGain &&& 1=0 then ".5".toList else []

/-- `sprintf_em_channel`. -/
def sprintfEmChannel (flags : UInt16) (value : UInt32) : List Char :=
  let targetFreq := (flags >>> 10) &&& 0x3F
  let micGain := (flags >>> 8) &&& 0x3
  let pgaGain := flags &&& 0xFF
  "\x7b\"target_freq\":".toList++unsignedDecimal targetFreq.toNat++
    ",\"mic_gain\":".toList++unsignedDecimal (micGainDecibel micGain)++
    ",\"pga_gain\":".toList++pgaGainText pgaGain++
    ",\"value\":".toList++unsignedDecimal value.toNat++"\x7d".toList

/-- `sprintf_em`: the high half-word describes the left channel. -/
def sprintfEm (flags left right : UInt32) : List Char :=
  "\"left\":".toList++sprintfEmChannel (flags >>> 16).toUInt16 left++
    ",\"right\":".toList++sprintfEmChannel flags.toUInt16 right

/-- `sprintf_battery`. -/
def sprintfBattery (value : UInt32) : List Char :=
  "\"battery\":\x7b\"value\":".toList++unsignedDecimal value.toNat++"\x7d".toList

/-- `sprintf_rssi`. -/
def sprintfRssi (value : UInt32) : List Char :=
  "\"rssi\":\x7b\"value\":".toList++unsignedDecimal value.toNat++"\x7d".toList

/-- `sprintf_envelope`. -/
def sprintfEnvelope (left right : UInt32) : List Char :=
  "\"left_envelope\":\x7b\"value\":".toList++unsignedDecimal left.toNat++"\x7d".toList++
    ",\"right_envelope\":\x7b\"value\":".toList++unsignedDecimal right.toNat++"\x7d".toList

/-- Body of the switch on the record type. -/
def recordText (sample : Sample) : List Char :=
  match ((sample 0 >>> 26) &&& 0x3F).toNat with
  | 60 => sprintfBattery (sample 3)
  | 61 => sprintfRssi (sample 3)
  | 63 => sprintfEnvelope (sample 3) (sample 4)
  | _ => sprintfEm (sample 0) (sample 3) (sample 4)

/-- The time as a pair of hexadecimal words. -/
def timeText (sample : Sample) : List Char :=
  "\"time\":\"".toList++hex (sample 2).toNat++hexPadded 8 (sample 1).toNat++"\",".toList

/-- Text of an element before it is padded. -/
def elementText : Option Sample → List Char
  | none => "\x7b".toList
  | some sample => "\x7b".toList++timeText sample++recordText sample

/-- `json_element`. -/
def jsonElement (binaryData : Option Sample) (comma : Bool) : List Char :=
  elementText binaryData++
    List.replicate (jsonRecordChars-1-(elementText binaryData).length) ' '++"\x7d".toList++
    if comma then ",".toList else []

/-- `json_header`. -/
def jsonHeader : List Char := "\x7b\"docs\":[".toList

/-- `json_footer`. -/
def jsonFooter : List Char := "]\x7d".toList

/-- `content_len` of `http_header`. -/
def contentLen (recordsCount : UInt16) : ℤ :=
  jsonOverheadChars+recordsCount.toNat*jsonRecordChars+(recordsCount.toNat-1)

/-- The optional line for basic authorization. -/
def authorizationText : Option (List UInt8) → List Char
  | none => []
  | some key => "Authorization: Basic ".toList++base64Encode key++"\r\n".toList

/-- `http_header` for the host that `server_tcp_print_hostname` prints. -/
def httpHeader (host : List Char) (auth : Option (List UInt8)) (recordsCount : UInt16) : List Char :=
  "POST /vlf_fft/_bulk_docs HTTP/1.1\r\nHost: ".toList++host++
    "\r\nContent-Length: ".toList++signedDecimal (contentLen recordsCount)++"\r\n".toList++
    authorizationText auth++"Content-Type: application/json\r\n".toList++"\r\n".toList

/-- The elements of a request for `count` records from index `i` on. Every
element but the last of the request is followed by a comma. -/
def elementsFrom (count : ℕ) : ℕ → List (Option Sample) → List Char
  | _,[] => []
  | i,sample::rest => jsonElement sample (i+1<count)++elementsFrom count (i+1) rest

/-- The request body with the given samples, in the order in which the output
phases produce it. -/
def requestBody (count : ℕ) (samples : List (Option Sample)) : List Char :=
  jsonHeader++elementsFrom count 0 samples++jsonFooter

/-- The PGA gain takes at most five characters, as in `-96.5`. -/
theorem pgaGainText_length_le {pgaGain : UInt16} (h : pgaGain.toNat<256) :
    (pgaGainText pgaGain).length≤5 := by
  have hshift : (pgaGain >>> 1).toNat=pgaGain.toNat/2 := by
    simp [UInt16.toNat_shiftRight,Nat.shiftRight_eq_div_pow]
  have habs : (((pgaGain >>> 1).toNat : ℤ)-97).natAbs<10^2 := by omega
  have hsigned := signedDecimal_length_le (by decide) habs
  have hhalf : (if pgaGain &&& 1=0 then ".5".toList else []).length≤2 := by split <;> decide
  unfold pgaGainText
  split
  · decide
  · rw [List.length_append]
    omega

/-- The microphone boost has two digits. -/
theorem micGainDecibel_lt (field : UInt16) : micGainDecibel field<10^2 := by
  unfold micGainDecibel
  split <;> decide

/-- A 32-bit value has at most ten decimal digits. -/
theorem value_length_le (value : UInt32) : (unsignedDecimal value.toNat).length≤10 :=
  unsignedDecimal_length_le (by decide) (value.toNat_lt.trans (by decide))

/-- One channel of a measurement takes at most 68 characters. -/
theorem sprintfEmChannel_length_le (flags : UInt16) (value : UInt32) :
    (sprintfEmChannel flags value).length≤68 := by
  have hfreq : (((flags >>> 10) &&& 0x3F) : UInt16).toNat<10^2 := by
    rw [UInt16.toNat_and]
    exact lt_of_le_of_lt Nat.and_le_right (by decide)
  have hgain : ((flags &&& 0xFF) : UInt16).toNat<256 := by
    rw [UInt16.toNat_and]
    exact lt_of_le_of_lt Nat.and_le_right (by decide)
  have hfreqText := unsignedDecimal_length_le (by decide) hfreq
  have hmicText := unsignedDecimal_length_le (by decide)
    (micGainDecibel_lt ((flags >>> 8) &&& 0x3))
  have hgainText := pgaGainText_length_le hgain
  have hvalue := value_length_le value
  unfold sprintfEmChannel
  simp only [List.length_append,String.length_toList]
  change 15+_+12+_+12+_+9+_+1≤68
  omega

/-- Every record type stays within 152 characters. -/
theorem recordText_length_le (sample : Sample) : (recordText sample).length≤152 := by
  have hleft := value_length_le (sample 3)
  have hright := value_length_le (sample 4)
  have hemLeft := sprintfEmChannel_length_le ((sample 0) >>> 16).toUInt16 (sample 3)
  have hemRight := sprintfEmChannel_length_le (sample 0).toUInt16 (sample 4)
  unfold recordText
  split
  · unfold sprintfBattery
    simp only [List.length_append,String.length_toList]
    change 19+_+1≤152
    omega
  · unfold sprintfRssi
    simp only [List.length_append,String.length_toList]
    change 16+_+1≤152
    omega
  · unfold sprintfEnvelope
    simp only [List.length_append,String.length_toList]
    change 25+_+1+27+_+1≤152
    omega
  · unfold sprintfEm
    simp only [List.length_append,String.length_toList]
    change 7+_+9+_≤152
    omega

/-- The time takes at most 26 characters. -/
theorem timeText_length_le (sample : Sample) : (timeText sample).length≤26 := by
  have hhigh := hex_length_le (k:=8) (by decide) ((sample 2).toNat_lt.trans_eq (by decide))
  have hlow := hexPadded_length (w:=8) (by decide) ((sample 1).toNat_lt.trans_eq (by decide))
  unfold timeText
  simp only [List.length_append,String.length_toList]
  change 8+_+_+2≤26
  omega

/-- Before padding, an element leaves room for its closing brace. -/
theorem elementText_length_le (sample : Option Sample) :
    (elementText sample).length≤jsonRecordChars-1 := by
  cases sample with
  | none => decide
  | some sample =>
    have htime := timeText_length_le sample
    have hrecord := recordText_length_le sample
    unfold elementText
    simp only [List.length_append,String.length_toList]
    change 1+_+_≤179
    omega

/-- A padded element has the fixed length, and a comma adds one character. -/
theorem jsonElement_length (sample : Option Sample) (comma : Bool) :
    (jsonElement sample comma).length=jsonRecordChars+comma.toNat := by
  have htext := elementText_length_le sample
  unfold jsonElement
  simp only [List.length_append,List.length_replicate]
  unfold jsonRecordChars at htext ⊢
  cases comma
  · change _+_+1+0=180+0
    omega
  · change _+_+1+1=180+1
    omega

/-- The comma is the only difference between the two forms of an element. -/
theorem jsonElement_comma (sample : Option Sample) (comma : Bool) :
    jsonElement sample comma=jsonElement sample false++if comma then ",".toList else [] := by
  simp [jsonElement]

/-- The remaining elements of a request: a fixed length each, and a comma
after each but the last. -/
theorem elementsFrom_length (count : ℕ) (samples : List (Option Sample)) :
    ∀ i,i+samples.length=count → samples≠[] →
      (elementsFrom count i samples).length=samples.length*jsonRecordChars+(samples.length-1) := by
  induction samples with
  | nil => exact fun i _ h => absurd rfl h
  | cons sample rest ih =>
    intro i hcount _
    rw [elementsFrom,List.length_append,jsonElement_length]
    simp only [List.length_cons] at hcount ⊢
    rcases Nat.eq_zero_or_pos rest.length with hrest | hrest
    · have hnil : rest=[] := List.eq_nil_of_length_eq_zero hrest
      subst hnil
      have hlast : ¬i+1<count := by simp only [List.length_nil] at hcount; omega
      simp [hlast,elementsFrom]
    · have hne : rest≠[] := List.ne_nil_of_length_pos hrest
      have hmore : i+1<count := by omega
      rw [ih (i+1) (by omega) hne,decide_eq_true hmore]
      simp only [Bool.toNat_true]
      rw [Nat.add_mul]
      omega

/-- The length announced in the header is the length of the body. -/
theorem contentLen_requestBody {recordsCount : UInt16} {samples : List (Option Sample)}
    (hpos : 1≤recordsCount.toNat) (hlen : samples.length=recordsCount.toNat) :
    contentLen recordsCount=((requestBody recordsCount.toNat samples).length : ℤ) := by
  have hne : samples≠[] := List.ne_nil_of_length_pos (by omega)
  have hbody := elementsFrom_length recordsCount.toNat samples 0 (by omega) hne
  have htotal : (requestBody recordsCount.toNat samples).length=
      9+(elementsFrom recordsCount.toNat 0 samples).length+2 := by
    unfold requestBody jsonHeader jsonFooter
    simp only [List.length_append,String.length_toList]
    rfl
  rw [htotal,hbody,hlen]
  unfold contentLen jsonOverheadChars jsonRecordChars
  omega

/-- For any samples, readable or not, the number after `Content-Length` is
the length of the body that follows, and every element takes the fixed length
apart from its comma. -/
theorem content_length_exact (host : List Char) (auth : Option (List UInt8)) (recordsCount : UInt16)
    (samples : List (Option Sample)) (hpos : 1≤recordsCount.toNat)
    (hlen : samples.length=recordsCount.toNat) :
    httpHeader host auth recordsCount=
      "POST /vlf_fft/_bulk_docs HTTP/1.1\r\nHost: ".toList++host++"\r\nContent-Length: ".toList++
        unsignedDecimal (requestBody recordsCount.toNat samples).length++"\r\n".toList++
        authorizationText auth++"Content-Type: application/json\r\n".toList++"\r\n".toList∧
    (∀ (sample : Option Sample) (comma : Bool),(jsonElement sample false).length=180∧
      jsonElement sample comma=jsonElement sample false++if comma then ",".toList else []) := by
  constructor
  · unfold httpHeader
    rw [contentLen_requestBody hpos hlen,signedDecimal_natCast]
  · intro sample comma
    exact ⟨jsonElement_length sample false,jsonElement_comma sample comma⟩

/-- The widest measurement: every field of both channels at its longest. -/
def widestSample : Sample := ![0x28022802,0xFFFFFFFF,0xFFFFFFFF,0xFFFFFFFF,0xFFFFFFFF,0]

/-- The widest measurement and an unreadable block make a request of two
records whose body has the announced length. -/
theorem content_length_of_widest :
    httpHeader "192.168.1.8".toList none 2=
      "POST /vlf_fft/_bulk_docs HTTP/1.1\r\nHost: ".toList++"192.168.1.8".toList++
        "\r\nContent-Length: ".toList++
        unsignedDecimal (requestBody 2 [some widestSample,none]).length++"\r\n".toList++
        authorizationText none++"Content-Type: application/json\r\n".toList++"\r\n".toList∧
    (∀ (sample : Option Sample) (comma : Bool),(jsonElement sample false).length=180∧
      jsonElement sample comma=jsonElement sample false++if comma then ",".toList else []) :=
  content_length_exact "192.168.1.8".toList none 2 [some widestSample,none] (by decide) rfl

end VlfGateway.HttpTransmit
