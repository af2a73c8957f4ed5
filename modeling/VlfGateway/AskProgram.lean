import Mathlib.Data.List.Basic
import Mathlib.Tactic

/-!
# Programs that ask their environment

A driver is a sequential program whose every contact with the outside is a
question with an answer. The program is the tree of its questions; nothing is
assumed about the answers. A conversation lists what was asked and answered on
the way to a result, so a property of all conversations holds for every
environment. An environment with a state of its own answers the questions of a
run one after the other.
-/

namespace VlfGateway.AskProgram

/-- A program with questions of type `Ask`. -/
inductive Program (Ask : Type) (Answer : Ask → Type) (α : Type) where
  /-- The program returns. -/
  | done (value : α)
  /-- The program waits for ever. -/
  | halt
  /-- The program asks and goes on with the answer. -/
  | ask (question : Ask) (next : Answer question → Program Ask Answer α)

/-- A question with its answer. -/
abbrev Exchange (Ask : Type) (Answer : Ask → Type) := (question : Ask) × Answer question

variable {Ask : Type} {Answer : Ask → Type} {α β σ : Type}

/-- One program after the other. -/
def Program.bind : Program Ask Answer α → (α → Program Ask Answer β) → Program Ask Answer β
  | .done value,rest => rest value
  | .halt,_ => .halt
  | .ask question next,rest => .ask question fun answer => (next answer).bind rest

instance : Monad (Program Ask Answer) where
  pure := .done
  bind := .bind

/-- One question. -/
def Program.once (question : Ask) : Program Ask Answer (Answer question) := .ask question .done

/-- A body that is left out unless the condition holds. -/
def Program.onlyIf (condition : Prop) [Decidable condition] (body : Program Ask Answer Unit) :
    Program Ask Answer Unit :=
  if condition then body else pure ()

/-- A body repeated until its value is accepted, for a number of rounds. -/
def Program.repeatUntil (accept : α → Bool) (body : Program Ask Answer α) :
    ℕ → Program Ask Answer α
  | 0 => .halt
  | rounds+1 => do
    let value ← body
    if accept value then return value else repeatUntil accept body rounds

/-- The conversation leads the program to the value. -/
inductive Yields : Program Ask Answer α → List (Exchange Ask Answer) → α → Prop
  /-- Nothing is asked any more. -/
  | done (value : α) : Yields (.done value) [] value
  /-- One question is answered. -/
  | ask {question : Ask} {next : Answer question → Program Ask Answer α}
      {answer : Answer question} {rest : List (Exchange Ask Answer)} {value : α} :
      Yields (next answer) rest value → Yields (.ask question next) (⟨question,answer⟩::rest) value

/-- The program in an environment with a state. -/
def Program.run (world : (question : Ask) → σ → Answer question × σ) :
    Program Ask Answer α → σ → Option (α × σ)
  | .done value,s => some (value,s)
  | .halt,_ => none
  | .ask question next,s => (next (world question s).1).run world (world question s).2

/-- The conversation of the program with such an environment, up to its end or
to where it waits for ever. -/
def Program.transcript (world : (question : Ask) → σ → Answer question × σ) :
    Program Ask Answer α → σ → List (Exchange Ask Answer)
  | .done _,_ => []
  | .halt,_ => []
  | .ask question next,s =>
    ⟨question,(world question s).1⟩::(next (world question s).1).transcript world (world question s).2

/-! ## Conversations -/

/-- A finished program has asked nothing. -/
theorem yields_pure {value result : α} {talk : List (Exchange Ask Answer)} :
    Yields (pure value : Program Ask Answer α) talk result ↔ talk=[] ∧ value=result := by
  constructor
  · rintro ⟨⟩
    exact ⟨rfl,rfl⟩
  · rintro ⟨rfl,rfl⟩
    exact .done value

/-- A halted program has no result. -/
theorem not_yields_halt {result : α} {talk : List (Exchange Ask Answer)} :
    ¬Yields (.halt : Program Ask Answer α) talk result := by
  rintro ⟨⟩

/-- One question is one exchange. -/
theorem yields_once {question : Ask} {answer : Answer question} {talk : List (Exchange Ask Answer)} :
    Yields (Program.once question) talk answer ↔ talk=[⟨question,answer⟩] := by
  constructor
  · rintro (_|⟨⟨⟩⟩)
    rfl
  · rintro rfl
    exact .ask (.done answer)

/-- The conversation of a sequence is that of its parts, one after the other. -/
theorem yields_bind {program : Program Ask Answer α} {rest : α → Program Ask Answer β} {result : β}
    {talk : List (Exchange Ask Answer)} :
    Yields (program >>= rest) talk result ↔
      ∃ first value second,talk=first++second ∧ Yields program first value ∧
        Yields (rest value) second result := by
  change Yields (program.bind rest) talk result ↔ _
  constructor
  · intro h
    induction program generalizing talk with
    | done value => exact ⟨[],value,talk,rfl,.done value,h⟩
    | halt => exact absurd h not_yields_halt
    | ask question next ih =>
      obtain _|hnext := h
      obtain ⟨first,value,second,rfl,hfirst,hsecond⟩ := ih _ hnext
      exact ⟨_,value,second,rfl,.ask hfirst,hsecond⟩
  · rintro ⟨first,value,second,rfl,hfirst,hsecond⟩
    induction hfirst with
    | done value => exact hsecond
    | ask _ ih => exact .ask (ih hsecond)

/-- A repeated body has ended with an accepted value. -/
theorem yields_repeatUntil {accept : α → Bool} {body : Program Ask Answer α} {value : α}
    {rounds : ℕ} {talk : List (Exchange Ask Answer)}
    (h : Yields (Program.repeatUntil accept body rounds) talk value) :
    accept value=true ∧ ∃ before last,talk=before++last ∧ Yields body last value := by
  induction rounds generalizing talk with
  | zero => exact absurd h not_yields_halt
  | succ rounds ih =>
    obtain ⟨first,tried,second,rfl,hfirst,hsecond⟩ := yields_bind.mp h
    by_cases haccept : accept tried=true
    · rw [if_pos haccept] at hsecond
      obtain ⟨rfl,rfl⟩ := yields_pure.mp hsecond
      exact ⟨haccept,[],first,by rw [List.append_nil,List.nil_append],hfirst⟩
    · rw [if_neg haccept] at hsecond
      obtain ⟨haccepted,before,last,rfl,hlast⟩ := ih hsecond
      exact ⟨haccepted,first++before,last,(List.append_assoc _ _ _).symm,hlast⟩

/-! ## Runs -/

/-- The program ends with a value and leaves the environment in a state. -/
def Ends (world : (question : Ask) → σ → Answer question × σ) (program : Program Ask Answer α)
    (s : σ) (value : α) (s' : σ) : Prop :=
  program.run world s=some (value,s')

/-- Every run is its conversation. -/
theorem run_yields {world : (question : Ask) → σ → Answer question × σ}
    {program : Program Ask Answer α} {s s' : σ} {value : α}
    (h : program.run world s=some (value,s')) :
    Yields program (program.transcript world s) value := by
  induction program generalizing s with
  | done result =>
    obtain rfl : result=value := congrArg Prod.fst (Option.some.inj h)
    exact .done result
  | halt => exact absurd h (by simp [Program.run])
  | ask question next ih => exact .ask (ih _ h)

/-! ## Pre- and postconditions -/

/-- What has to hold of a state so that the program ends in one with `post`.
Whether it may also wait for ever is left to `waits`. -/
def Program.wp (waits : Prop) (world : (question : Ask) → σ → Answer question × σ) :
    Program Ask Answer α → (α → σ → Prop) → σ → Prop
  | .done value,post,s => post value s
  | .halt,_,_ => waits
  | .ask question next,post,s =>
    (next (world question s).1).wp waits world post (world question s).2

/-- From the states before, the program ends in those after. -/
def Meets (waits : Prop) (world : (question : Ask) → σ → Answer question × σ) (pre : σ → Prop)
    (program : Program Ask Answer α) (post : α → σ → Prop) : Prop :=
  ∀ s,pre s → program.wp waits world post s

section Meets

variable {waits : Prop} {world : (question : Ask) → σ → Answer question × σ}

/-- A sequence is met part by part. -/
theorem wp_bind (program : Program Ask Answer α) (rest : α → Program Ask Answer β)
    (post : β → σ → Prop) (s : σ) :
    (program >>= rest).wp waits world post s ↔
      program.wp waits world (fun value => (rest value).wp waits world post) s := by
  change (program.bind rest).wp waits world post s ↔ _
  induction program generalizing s with
  | done value => rfl
  | halt => rfl
  | ask question next ih => exact ih _ _

/-- A program that meets a postcondition meets every weaker one. -/
theorem Program.wp.mono {program : Program Ask Answer α} {post post' : α → σ → Prop} {s : σ}
    (h : program.wp waits world post s) (hpost : ∀ value s,post value s → post' value s) :
    program.wp waits world post' s := by
  induction program generalizing s with
  | done value => exact hpost _ _ h
  | halt => exact h
  | ask question next ih => exact ih _ h

/-- For a program that may wait for ever, the postcondition holds wherever it ends. -/
theorem wp_true_iff {program : Program Ask Answer α} {post : α → σ → Prop} {s : σ} :
    program.wp True world post s ↔ ∀ value s',Ends world program s value s' → post value s' := by
  unfold Ends
  induction program generalizing s with
  | done value =>
    constructor
    · intro h result s' hrun
      obtain ⟨rfl,rfl⟩ := Prod.mk.inj (Option.some.inj hrun)
      exact h
    · intro h
      exact h _ _ rfl
  | halt => simp [Program.wp,Program.run]
  | ask question next ih => exact ih _

/-- A program that may not wait for ever ends, and its postcondition holds there. -/
theorem wp_false_iff {program : Program Ask Answer α} {post : α → σ → Prop} {s : σ} :
    program.wp False world post s ↔ ∃ value s',Ends world program s value s' ∧ post value s' := by
  unfold Ends
  induction program generalizing s with
  | done value =>
    constructor
    · intro h
      exact ⟨value,s,rfl,h⟩
    · rintro ⟨result,s',hrun,h⟩
      obtain ⟨rfl,rfl⟩ := Prod.mk.inj (Option.some.inj hrun)
      exact h
  | halt => simp [Program.wp,Program.run]
  | ask question next ih => exact ih _

/-- A program that ends in a state meets what holds there. -/
theorem wp_of_ends {program : Program Ask Answer α} {post : α → σ → Prop} {s s' : σ} {value : α}
    (h : Ends world program s value s') (hpost : post value s') :
    program.wp waits world post s := by
  have hends : program.wp False world post s := wp_false_iff.mpr ⟨value,s',h,hpost⟩
  induction program generalizing s with
  | done result => exact hends
  | halt => exact hends.elim
  | ask question next ih => exact ih _ h hends

variable {pre : σ → Prop}

/-- A finished program meets what holds already. -/
theorem Meets.pure {post : α → σ → Prop} {value : α} (h : ∀ s,pre s → post value s) :
    Meets waits world pre (pure value) post := h

/-- One program after the other meets the postcondition of the second. -/
theorem Meets.bind {program : Program Ask Answer α} {rest : α → Program Ask Answer β}
    {middle : α → σ → Prop} {post : β → σ → Prop} (h : Meets waits world pre program middle)
    (hrest : ∀ value,Meets waits world (middle value) (rest value) post) :
    Meets waits world pre (program >>= rest) post := by
  intro s hs
  exact (wp_bind _ _ _ _).mpr ((h s hs).mono hrest)

/-- A postcondition may be weakened. -/
theorem Meets.weaken {program : Program Ask Answer α} {post post' : α → σ → Prop}
    (h : Meets waits world pre program post) (hpost : ∀ value s,post value s → post' value s) :
    Meets waits world pre program post' :=
  fun s hs => (h s hs).mono hpost

/-- A precondition may be strengthened. -/
theorem Meets.strengthen {pre' : σ → Prop} {program : Program Ask Answer α} {post : α → σ → Prop}
    (h : Meets waits world pre program post) (hpre : ∀ s,pre' s → pre s) :
    Meets waits world pre' program post :=
  fun s hs => h s (hpre s hs)

/-- A fact about the precondition may be used on the way. -/
theorem Meets.given {fact : Prop} {program : Program Ask Answer α} {post : α → σ → Prop}
    (h : fact → Meets waits world pre program post) :
    Meets waits world (fun s => fact ∧ pre s) program post :=
  fun s hs => h hs.1 s hs.2

/-- A precondition of several kinds is met kind by kind. -/
theorem Meets.each {ι : Type} {kinds : ι → σ → Prop} {program : Program Ask Answer α}
    {post : α → σ → Prop} (h : ∀ i,Meets waits world (kinds i) program post) :
    Meets waits world (fun s => ∃ i,kinds i s) program post :=
  fun s ⟨i,hs⟩ => h i s hs

/-- A body that may be left out is met with and without it. -/
theorem Meets.onlyIf {condition : Prop} [Decidable condition] {body : Program Ask Answer Unit}
    {post : Unit → σ → Prop} (hdone : condition → Meets waits world pre body post)
    (hleft : ¬condition → ∀ s,pre s → post () s) :
    Meets waits world pre (.onlyIf condition body) post := by
  unfold Program.onlyIf
  by_cases hcondition : condition
  · rw [if_pos hcondition]
    exact hdone hcondition
  · rw [if_neg hcondition]
    exact .pure (hleft hcondition)

/-- A loop keeps what its body keeps, however long it takes. -/
theorem Meets.repeatUntil {accept : α → Bool} {body : Program Ask Answer α}
    (h : Meets True world pre body fun _ => pre) (rounds : ℕ) :
    Meets True world pre (.repeatUntil accept body rounds) fun _ => pre := by
  induction rounds with
  | zero => exact fun _ _ => trivial
  | succ rounds ih =>
    refine h.bind fun value => ?_
    by_cases haccept : accept value=true
    · rw [if_pos haccept]
      exact .pure fun _ hs => hs
    · rw [if_neg haccept]
      exact ih

/-- A loop whose first round is accepted ends with it. -/
theorem Meets.repeatUntil_first {accept : α → Bool} {body : Program Ask Answer α}
    {post : α → σ → Prop}
    (h : Meets waits world pre body fun value s => accept value=true ∧ post value s)
    (rounds : ℕ) : Meets waits world pre (.repeatUntil accept body (rounds+1)) post := by
  refine h.bind fun value => .given fun haccept => ?_
  rw [if_pos haccept]
  exact .pure fun _ hs => hs

end Meets

end VlfGateway.AskProgram
