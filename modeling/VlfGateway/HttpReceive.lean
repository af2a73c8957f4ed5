import VlfGateway.GreedyMatcher

/-!
# Parser of the server's response

The response is matched octet by octet against two fixed strings. The parser
keeps its two indexes between buffers, so a buffer boundary may fall inside a
match. What a match does is a parameter here: the gateway passes
`good_upload_done`.
-/

namespace VlfGateway.HttpReceive

open GreedyMatcher

/-- Octets of a C string before its terminator. -/
def cString (text : String) : List UInt8 := text.toList.map fun c => UInt8.ofNat c.toNat

/-- `good`: the string that precedes every identifier in the response. -/
def good : List UInt8 := cString "\"id\":"

/-- `good_len`. -/
def goodLen : ℕ := 5

/-- `bad`. -/
def bad : List UInt8 := cString "unused-unused-unused"

/-- `bad_len`. -/
def badLen : ℕ := 20

/-- The two indexes of the parser. -/
structure Parser where
  /-- `good_index`. -/
  goodIndex : ℕ
  /-- `bad_index`. -/
  badIndex : ℕ
  deriving DecidableEq

/-- `reset_http_response_parser`. -/
def resetHttpResponseParser : Parser := ⟨0,0⟩

/-- The comparison with `bad`. Its index is never advanced. -/
def badStep (badIndex : ℕ) (octet : UInt8) : ℕ :=
  if octet≠bad.getD badIndex 0 then 0
  else if badIndex=badLen then 0
  else badIndex

/-- One round of the loop. Reading at the end of a string gives its
terminator. -/
def parseOctet {σ : Type} (goodUploadDone : σ → σ) (state : Parser × σ) (octet : UInt8) :
    Parser × σ :=
  let badIndex := badStep state.1.badIndex octet
  if octet≠good.getD state.1.goodIndex 0 then (⟨0,badIndex⟩,state.2)
  else if state.1.goodIndex+1=goodLen then (⟨0,badIndex⟩,goodUploadDone state.2)
  else (⟨state.1.goodIndex+1,badIndex⟩,state.2)

/-- `parse_http_response_buffer`. -/
def parseHttpResponseBuffer {σ : Type} (goodUploadDone : σ → σ) (parser : Parser) (s : σ)
    (buffer : List UInt8) : Parser × σ :=
  buffer.foldl (parseOctet goodUploadDone) (parser,s)

/-- A response that arrives in several buffers. -/
def parseHttpResponse {σ : Type} (goodUploadDone : σ → σ) (parser : Parser) (s : σ)
    (buffers : List (List UInt8)) : Parser × σ :=
  buffers.foldl (fun state buffer =>
    parseHttpResponseBuffer goodUploadDone state.1 state.2 buffer) (parser,s)

/-- Calls of the handler for a response that arrives in these buffers. -/
def goodUploadDoneCalls (buffers : List (List UInt8)) : ℕ :=
  (parseHttpResponse Nat.succ resetHttpResponseParser 0 buffers).2

/-- Identifiers the parser finds in a response read from its start. -/
def identifiers (response : List UInt8) : ℕ := scanCount good response

/-- One octet moves the parser as the streaming matcher for `good`, and calls
the handler exactly when it completes the string. -/
theorem parseOctet_eq {σ : Type} (goodUploadDone : σ → σ) {parser : Parser} (s : σ) (octet : UInt8)
    (hi : parser.goodIndex<good.length) :
    parseOctet goodUploadDone (parser,s) octet=
      (⟨nextIndex good parser.goodIndex octet,badStep parser.badIndex octet⟩,
        goodUploadDone^[(completes good parser.goodIndex octet).toNat] s) := by
  have hget : good[parser.goodIndex]?=some (good.getD parser.goodIndex 0) := by
    rw [List.getD_eq_getElem?_getD,List.getElem?_eq_getElem hi,Option.getD_some]
  have hlen : good.length=goodLen := rfl
  unfold parseOctet nextIndex completes
  rw [hget,hlen]
  generalize good.getD parser.goodIndex 0=expected
  by_cases hmatch : octet=expected
  · by_cases hend : parser.goodIndex+1=goodLen <;> simp [hmatch,hend]
  · simp [hmatch,Ne.symm hmatch]

/-- A buffer leaves the matcher's index inside the string and has called the
handler once for every match. -/
theorem parseHttpResponseBuffer_eq {σ : Type} (goodUploadDone : σ → σ) (buffer : List UInt8) :
    ∀ (parser : Parser) (s : σ),parser.goodIndex<good.length →
      (parseHttpResponseBuffer goodUploadDone parser s buffer).1.goodIndex=
        buffer.foldl (nextIndex good) parser.goodIndex ∧
      (parseHttpResponseBuffer goodUploadDone parser s buffer).2=
        goodUploadDone^[streamCount good parser.goodIndex buffer] s := by
  induction buffer with
  | nil => exact fun parser s _ => ⟨rfl,rfl⟩
  | cons octet buffer ih =>
    intro parser s hi
    have hnext := nextIndex_lt (by decide) hi octet
    obtain ⟨hindex,hcalls⟩ := ih ⟨nextIndex good parser.goodIndex octet,
      badStep parser.badIndex octet⟩ (goodUploadDone^[(completes good parser.goodIndex octet).toNat] s)
      hnext
    have hunfold : parseHttpResponseBuffer goodUploadDone parser s (octet::buffer)=
        parseHttpResponseBuffer goodUploadDone
          ⟨nextIndex good parser.goodIndex octet,badStep parser.badIndex octet⟩
          (goodUploadDone^[(completes good parser.goodIndex octet).toNat] s) buffer := by
      unfold parseHttpResponseBuffer
      rw [List.foldl_cons,parseOctet_eq goodUploadDone s octet hi]
    rw [hunfold]
    refine ⟨hindex,?_⟩
    rw [hcalls,streamCount,Nat.add_comm,Function.iterate_add_apply]

/-! ## Whole responses -/

/-- Where the buffers end does not matter. -/
theorem parseHttpResponse_flatten {σ : Type} (goodUploadDone : σ → σ) (buffers : List (List UInt8))
    (parser : Parser) (s : σ) :
    parseHttpResponse goodUploadDone parser s buffers=
      parseHttpResponseBuffer goodUploadDone parser s buffers.flatten := by
  unfold parseHttpResponse parseHttpResponseBuffer
  rw [List.foldl_flatten]

/-- From a reset parser the calls are the matches of the stream. -/
theorem goodUploadDoneCalls_eq (buffers : List (List UInt8)) :
    goodUploadDoneCalls buffers=streamCount good 0 buffers.flatten := by
  unfold goodUploadDoneCalls
  rw [parseHttpResponse_flatten,
    (parseHttpResponseBuffer_eq Nat.succ buffers.flatten resetHttpResponseParser 0 (by decide)).2,
    Nat.succ_iterate,Nat.zero_add]
  rfl

/-- For every response and every split of it into buffers, the handler runs
at most once for each occurrence of `"id":`, and exactly once for each when
none follows a quote, an `i` or a `d`. At every octet the parser reads inside
`good`. -/
theorem goodUploadDone_calls_count_identifiers (buffers : List (List UInt8)) :
    (∀ {σ : Type} (goodUploadDone : σ → σ) (s : σ),
      (parseHttpResponse goodUploadDone resetHttpResponseParser s buffers).2=
        goodUploadDone^[goodUploadDoneCalls buffers] s) ∧
    goodUploadDoneCalls buffers≤occurrences good buffers.flatten ∧
    ((∀ front octet back,buffers.flatten=front++octet::(good++back) → octet∉cString "\"id") →
      goodUploadDoneCalls buffers=occurrences good buffers.flatten) ∧
    ∀ {σ : Type} (goodUploadDone : σ → σ) (s : σ) (seen rest : List UInt8),
      buffers.flatten=seen++rest →
        (parseHttpResponseBuffer goodUploadDone resetHttpResponseParser s seen).1.goodIndex≤4 ∧
        (parseHttpResponseBuffer goodUploadDone resetHttpResponseParser s seen).1.goodIndex<
          good.length := by
  have hstart : resetHttpResponseParser.goodIndex<good.length := by decide
  refine ⟨?_,?_,?_,?_⟩
  · intro σ goodUploadDone s
    rw [parseHttpResponse_flatten,
      (parseHttpResponseBuffer_eq goodUploadDone buffers.flatten resetHttpResponseParser s hstart).2,
      goodUploadDoneCalls_eq]
    rfl
  · rw [goodUploadDoneCalls_eq]
    exact streamCount_le_occurrences buffers.flatten 0 hstart
  · intro hbefore
    have hanchored : Anchored good buffers.flatten := by
      intro front octet back hsplit hmem
      have hsymbols : good.dropLast.all (fun octet => decide (octet∈cString "\"id"))=true := rfl
      have hin := of_decide_eq_true (List.all_eq_true.mp hsymbols octet hmem)
      exact hbefore front octet back hsplit hin
    rw [goodUploadDoneCalls_eq]
    exact streamCount_eq_occurrences buffers.flatten 0 hstart hanchored
  · intro σ goodUploadDone s seen rest _
    have hinside := foldl_nextIndex_lt (by decide) seen resetHttpResponseParser.goodIndex hstart
    rw [←(parseHttpResponseBuffer_eq goodUploadDone seen resetHttpResponseParser s hstart).1]
      at hinside
    have hlen : good.length=5 := rfl
    exact ⟨by omega,hinside⟩

/-- A response with two identifiers, split inside the first: both are
counted. -/
theorem goodUploadDone_calls_split :
    goodUploadDoneCalls [cString "[\x7b\"i",cString "d\":1,\"id\":2\x7d]"]=2 := by
  have hexact := (goodUploadDone_calls_count_identifiers
    [cString "[\x7b\"i",cString "d\":1,\"id\":2\x7d]"]).2.2.1
  rw [hexact]
  · decide
  · intro front octet back hsplit
    -- the octet before each position at which the string starts
    have hpositions : ∀ n<17,good<+:(cString "[\x7b\"id\":1,\"id\":2\x7d]").drop (n+1) →
        (cString "[\x7b\"id\":1,\"id\":2\x7d]").getD n 0∉cString "\"id" := by decide
    have hflat : cString "[\x7b\"id\":1,\"id\":2\x7d]"=front++octet::(good++back) := hsplit
    have hlen := congrArg List.length hflat
    have htotal : (cString "[\x7b\"id\":1,\"id\":2\x7d]").length=17 := rfl
    rw [htotal,List.length_append,List.length_cons] at hlen
    have hoctet := hpositions front.length (by omega) ⟨back,by rw [hflat]; simp⟩
    rw [hflat,List.getD_eq_getElem?_getD,List.getElem?_append_right le_rfl,Nat.sub_self] at hoctet
    exact hoctet

end VlfGateway.HttpReceive
