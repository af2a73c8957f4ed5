import Mathlib.Data.List.Basic
import Mathlib.Tactic

/-!
# A streaming matcher without backtracking

The matcher keeps one index into its pattern. A symbol that does not agree
with the pattern there sends the index back to the start and is itself
consumed. Over a whole text this counts the matches of a scan from the left
that gives up a partial match together with the symbol that broke it.
-/

namespace VlfGateway.GreedyMatcher

variable {α : Type} [DecidableEq α]

/-- Index after one symbol. -/
def nextIndex (pattern : List α) (i : ℕ) (a : α) : ℕ :=
  if pattern[i]?=some a then (if i+1=pattern.length then 0 else i+1) else 0

/-- Whether a symbol completes the pattern. -/
def completes (pattern : List α) (i : ℕ) (a : α) : Bool :=
  decide (pattern[i]?=some a ∧ i+1=pattern.length)

/-- Matches completed while the symbols of a text are fed in one by one. -/
def streamCount (pattern : List α) : ℕ → List α → ℕ
  | _,[] => 0
  | i,a::text => (completes pattern i a).toNat+streamCount pattern (nextIndex pattern i a) text

/-- Number of leading symbols two lists agree on. -/
def agreement : List α → List α → ℕ
  | p::pattern,a::text => if p=a then agreement pattern text+1 else 0
  | _,_ => 0

/-- Matches of the scan from the left over a whole text. -/
def scanCount (pattern : List α) : List α → ℕ
  | [] => 0
  | a::text =>
    if agreement pattern (a::text)=pattern.length then
      1+scanCount pattern (text.drop (pattern.length-1))
    else scanCount pattern (text.drop (agreement pattern (a::text)))
termination_by text => text.length
decreasing_by
  all_goals
    simp only [List.length_drop,List.length_cons]
    omega

/-- Occurrences of the pattern in a text, overlapping ones included. -/
def occurrences (pattern text : List α) : ℕ :=
  text.tails.countP fun rest => decide (pattern<+:rest)

/-- Every occurrence stands at the start of the text or follows a symbol that
the pattern has at most as its last one. -/
def Anchored (pattern text : List α) : Prop :=
  ∀ front a back,text=front++a::(pattern++back) → a∉pattern.dropLast

/-- Feeding a text in two parts continues with the index reached. -/
theorem streamCount_append (pattern : List α) (first second : List α) :
    ∀ i,streamCount pattern i (first++second)=
      streamCount pattern i first+streamCount pattern (first.foldl (nextIndex pattern) i) second := by
  induction first with
  | nil => intro i; simp only [List.nil_append,streamCount,List.foldl_nil,Nat.zero_add]
  | cons a first ih =>
    intro i
    simp only [List.cons_append,streamCount,List.foldl_cons]
    rw [ih,Nat.add_assoc]

/-- The index stays inside the pattern. -/
theorem nextIndex_lt {pattern : List α} (hp : 0<pattern.length) {i : ℕ} (hi : i<pattern.length)
    (a : α) : nextIndex pattern i a<pattern.length := by
  unfold nextIndex
  split
  · split <;> omega
  · exact hp

/-- After a whole text the index is still inside the pattern. -/
theorem foldl_nextIndex_lt {pattern : List α} (hp : 0<pattern.length) (text : List α) :
    ∀ i,i<pattern.length → text.foldl (nextIndex pattern) i<pattern.length := by
  induction text with
  | nil => exact fun i hi => hi
  | cons a text ih => exact fun i hi => ih _ (nextIndex_lt hp hi a)

/-- From inside the pattern, the stream first settles the rest of the
pattern: it completes it, breaks it off, or the text ends before. -/
theorem streamCount_eq_scan (pattern : List α) (text : List α) :
    ∀ i,i<pattern.length → streamCount pattern i text=
      if agreement (pattern.drop i) text=(pattern.drop i).length then
        1+streamCount pattern 0 (text.drop (pattern.length-i))
      else streamCount pattern 0 (text.drop (agreement (pattern.drop i) text+1)) := by
  induction text with
  | nil =>
    intro i hi
    simp only [List.drop_nil,streamCount]
    rw [List.drop_eq_getElem_cons hi,agreement,List.length_cons,if_neg (by omega)]
    exact fun _ _ _ _ _ h => by simp at h
  | cons a text ih =>
    intro i hi
    have hget : pattern[i]?=some pattern[i] := List.getElem?_eq_getElem hi
    rw [List.drop_eq_getElem_cons hi,agreement,streamCount,completes,nextIndex,hget]
    have hsucc : pattern.length-i=(pattern.length-(i+1))+1 := by omega
    by_cases ha : pattern[i]=a
    · simp only [ha,if_true,true_and,List.length_cons,Nat.add_right_cancel_iff,hsucc,List.drop_succ_cons]
      by_cases hend : i+1=pattern.length
      · have hnil : pattern.drop (i+1)=[] := List.drop_eq_nil_of_le hend.ge
        have hagree : agreement ([] : List α) text=0 := by cases text <;> rfl
        rw [hnil]
        simp [hend,hagree]
      · rw [if_neg hend,ih (i+1) (by omega)]
        simp only [hend,decide_false,Bool.toNat_false,Nat.zero_add]
    · have hopen : ¬0=pattern.length-i := by omega
      simp [ha,hopen]

/-- Fed from the start, the stream counts the matches of the scan. -/
theorem streamCount_eq_scanCount {pattern : List α} (hp : 0<pattern.length) (text : List α) :
    streamCount pattern 0 text=scanCount pattern text := by
  induction hn : text.length using Nat.strong_induction_on generalizing text with
  | _ n ih =>
    cases text with
    | nil => rw [scanCount,streamCount]
    | cons a text =>
      rw [List.length_cons] at hn
      have hdrop : (a::text).drop pattern.length=text.drop (pattern.length-1) := by
        rw [←Nat.succ_pred_eq_of_pos hp,List.drop_succ_cons]
        rfl
      rw [streamCount_eq_scan pattern (a::text) 0 hp,scanCount,List.drop_zero,Nat.sub_zero,
        List.drop_succ_cons,hdrop,ih _ _ _ rfl,ih _ _ _ rfl]
      all_goals
        rw [List.length_drop]
        omega

/-! ## Matches against occurrences -/

/-- A text's occurrences are one at its start, if any, and those of its
tail. -/
theorem occurrences_cons (pattern : List α) (a : α) (text : List α) :
    occurrences pattern (a::text)=
      (decide (pattern<+:a::text)).toNat+occurrences pattern text := by
  unfold occurrences
  rw [List.tails_cons,List.countP_cons,Nat.add_comm]
  cases decide (pattern<+:a::text) <;> rfl

/-- A text shorter than the pattern has no occurrence. -/
theorem occurrences_of_short {pattern text : List α} (hlen : text.length<pattern.length) :
    occurrences pattern text=0 := by
  unfold occurrences
  rw [List.countP_eq_zero]
  intro rest hrest hprefix
  have hsub := ((List.mem_tails rest text).mp hrest).length_le
  have hle := (of_decide_eq_true hprefix).length_le
  omega

/-- A longer text has at least the occurrences of its tail. -/
theorem occurrences_append_le (pattern front text : List α) :
    occurrences pattern text≤occurrences pattern (front++text) := by
  induction front with
  | nil => exact le_rfl
  | cons a front ih =>
    rw [List.cons_append,occurrences_cons]
    omega

omit [DecidableEq α] in
/-- A tail of an anchored text is anchored. -/
theorem Anchored.of_append {pattern front text : List α} (h : Anchored pattern (front++text)) :
    Anchored pattern text := by
  intro before a back htext
  exact h (front++before) a back (by rw [htext,List.append_assoc])

/-- Behind symbols of the pattern no occurrence starts in an anchored text:
only the one at its start can reach into them. -/
theorem occurrences_append_of_anchored {pattern text : List α} :
    ∀ {front : List α},front≠[] → Anchored pattern (front++text) →
      (∀ a∈front.dropLast,a∈pattern.dropLast) →
      occurrences pattern (front++text)=
        (decide (pattern<+:front++text)).toNat+occurrences pattern text := by
  intro front
  induction front with
  | nil => exact fun h => absurd rfl h
  | cons a front ih =>
    intro _ hanchored hsymbols
    rw [List.cons_append,occurrences_cons]
    congr 1
    cases front with
    | nil => rfl
    | cons b front =>
      have hinner : ¬pattern<+:(b::front)++text := by
        rintro ⟨back,htext⟩
        exact hanchored [] a back (by rw [htext]; rfl) (hsymbols a List.mem_cons_self)
      have hsplit : Anchored pattern ([a]++((b::front)++text)) := hanchored
      have hrest := ih (List.cons_ne_nil b front) hsplit.of_append fun c hc =>
        hsymbols c (List.mem_cons_of_mem a hc)
      rw [hrest,decide_eq_false hinner,Bool.toNat_false,Nat.zero_add]

omit [DecidableEq α] in
/-- The part of the pattern matched so far has only symbols before its last
one. -/
theorem mem_dropLast_of_mem_take {pattern : List α} {i : ℕ} (hi : i<pattern.length) {a : α}
    (ha : a∈pattern.take i) : a∈pattern.dropLast := by
  rw [List.dropLast_eq_take]
  exact List.take_subset_take_left pattern (by omega) ha

omit [DecidableEq α] in
/-- The part matched grows by the symbol that agrees. -/
theorem take_append_cons {pattern : List α} {i : ℕ} {a : α} (hget : pattern[i]?=some a)
    (text : List α) : pattern.take i++a::text=pattern.take (i+1)++text := by
  rw [List.take_add_one,hget]
  simp

/-- Every match the stream completes is an occurrence in the text that starts
with the part already matched. -/
theorem streamCount_le_occurrences {pattern : List α} (text : List α) :
    ∀ i,i<pattern.length →
      streamCount pattern i text≤occurrences pattern (pattern.take i++text) := by
  induction text with
  | nil => exact fun i _ => Nat.zero_le _
  | cons a text ih =>
    intro i hi
    have hpos : 0<pattern.length := by omega
    have hrestart := ih 0 hpos
    rw [List.take_zero,List.nil_append] at hrestart
    rw [streamCount,completes,nextIndex]
    by_cases hget : pattern[i]?=some a
    · rw [take_append_cons hget]
      by_cases hend : i+1=pattern.length
      · -- a match ends here: it is the occurrence at the start of the text
        rw [if_pos hget,if_pos hend,decide_eq_true ⟨hget,hend⟩,Bool.toNat_true,hend,
          List.take_length]
        obtain ⟨p,rest,rfl⟩ := List.exists_cons_of_length_pos hpos
        have hmore := occurrences_append_le (p::rest) rest text
        rw [List.cons_append,occurrences_cons,decide_eq_true ⟨text,rfl⟩,Bool.toNat_true]
        omega
      · rw [if_pos hget,if_neg hend,decide_eq_false (fun h => hend h.2),Bool.toNat_false,Nat.zero_add]
        exact ih (i+1) (by omega)
    · rw [if_neg hget,decide_eq_false (fun h => hget h.1),Bool.toNat_false,Nat.zero_add]
      have hmore := occurrences_append_le pattern (pattern.take i++[a]) text
      rw [List.append_assoc,List.singleton_append] at hmore
      omega

/-- In an anchored text the stream completes every occurrence. -/
theorem streamCount_eq_occurrences {pattern : List α} (text : List α) :
    ∀ i,i<pattern.length → Anchored pattern (pattern.take i++text) →
      streamCount pattern i text=occurrences pattern (pattern.take i++text) := by
  induction text with
  | nil =>
    intro i hi _
    rw [streamCount,occurrences_of_short]
    simp only [List.append_nil,List.length_take]
    omega
  | cons a text ih =>
    intro i hi hanchored
    have hpos : 0<pattern.length := by omega
    have hrestart : Anchored pattern text → streamCount pattern 0 text=occurrences pattern text := by
      simpa only [List.take_zero,List.nil_append] using ih 0 hpos
    rw [streamCount,completes,nextIndex]
    by_cases hget : pattern[i]?=some a
    · rw [take_append_cons hget] at hanchored ⊢
      by_cases hend : i+1=pattern.length
      · rw [if_pos hget,if_pos hend,decide_eq_true ⟨hget,hend⟩,Bool.toNat_true]
        rw [hend,List.take_length] at hanchored ⊢
        obtain ⟨p,rest,rfl⟩ := List.exists_cons_of_length_pos hpos
        rw [occurrences_append_of_anchored (List.cons_ne_nil p rest) hanchored fun b hb => hb,
          hrestart hanchored.of_append,decide_eq_true ⟨text,rfl⟩,Bool.toNat_true]
      · rw [if_pos hget,if_neg hend,decide_eq_false (fun h => hend h.2),Bool.toNat_false,Nat.zero_add]
        exact ih (i+1) (by omega) hanchored
    · rw [if_neg hget,decide_eq_false (fun h => hget h.1),Bool.toNat_false,Nat.zero_add]
      have hbroken : ¬pattern<+:(pattern.take i++[a])++text := by
        rintro ⟨back,hsplit⟩
        have hread := congrArg (fun l => l[i]?) hsplit
        simp only [List.append_assoc,List.singleton_append,List.getElem?_append_left hi] at hread
        rw [List.getElem?_append_right (by simp),List.length_take_of_le hi.le,Nat.sub_self] at hread
        exact hget hread
      rw [←List.singleton_append,←List.append_assoc] at hanchored ⊢
      rw [occurrences_append_of_anchored (by simp) hanchored,decide_eq_false hbroken,
        Bool.toNat_false,Nat.zero_add]
      · exact hrestart hanchored.of_append
      · intro b hb
        rw [List.dropLast_concat] at hb
        exact mem_dropLast_of_mem_take hi hb

end VlfGateway.GreedyMatcher
