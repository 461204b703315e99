import Mathlib.Data.List.Basic

namespace LicoMesh.Library

open List

/-! Programs over a disk that may stop after any of their steps. A program yields the disks
after each of its steps, its result and its last disk. -/

structure Outcome (σ ε α : Type) where
  visits : List σ
  result : Except ε α
  last : σ

def Program (σ ε α : Type) : Type := σ → Outcome σ ε α

namespace Program

variable {σ ε α β : Type}

def pure (value : α) : Program σ ε α := fun disk => ⟨[], .ok value, disk⟩

def throw (error : ε) : Program σ ε α := fun disk => ⟨[], .error error, disk⟩

def bind (first : Program σ ε α) (rest : α → Program σ ε β) : Program σ ε β := fun disk =>
  match first disk with
  | ⟨visits, .error error, last⟩ => ⟨visits, .error error, last⟩
  | ⟨visits, .ok value, last⟩ =>
    let next := rest value last
    ⟨visits ++ next.visits, next.result, next.last⟩

/-- `try { body } catch (error) { handler }`. -/
def tryCatch (body : Program σ ε α) (handler : ε → Program σ ε α) : Program σ ε α := fun disk =>
  match body disk with
  | ⟨visits, .ok value, last⟩ => ⟨visits, .ok value, last⟩
  | ⟨visits, .error error, last⟩ =>
    let next := handler error last
    ⟨visits ++ next.visits, next.result, next.last⟩

def read (compute : σ → Except ε α) : Program σ ε α := fun disk => ⟨[], compute disk, disk⟩

def write (step : σ → σ) : Program σ ε Unit := fun disk => ⟨[step disk], .ok (), step disk⟩

instance : Monad (Program σ ε) where
  pure := pure
  bind := bind

def require (condition : σ → Bool) (error : ε) : Program σ ε Unit :=
  read fun disk => if condition disk then .ok () else .error error

def forEach (items : List β) (body : β → Program σ ε Unit) : Program σ ε Unit :=
  match items with
  | [] => .pure ()
  | item :: rest => do
      body item
      forEach rest body

section Results

variable (first : Program σ ε α) (rest : α → Program σ ε β) (handler : ε → Program σ ε α) {disk : σ}

theorem ends_bind_ok (ok : (first disk).result = .ok value) :
    ((first >>= rest) disk).result = (rest value (first disk).last).result ∧
      ((first >>= rest) disk).last = (rest value (first disk).last).last := by
  change (bind first rest disk).result = _ ∧ (bind first rest disk).last = _
  unfold bind
  cases outcome : first disk with
  | mk visits result last =>
    rw [outcome] at ok
    obtain rfl : result = .ok value := ok
    exact ⟨rfl, rfl⟩

theorem ends_bind_error (failed : (first disk).result = .error error) :
    ((first >>= rest) disk).result = .error error ∧
      ((first >>= rest) disk).last = (first disk).last := by
  change (bind first rest disk).result = _ ∧ (bind first rest disk).last = _
  unfold bind
  cases outcome : first disk with
  | mk visits result last =>
    rw [outcome] at failed
    obtain rfl : result = .error error := failed
    exact ⟨rfl, rfl⟩

theorem ends_tryCatch_error (failed : (first disk).result = .error error) :
    (tryCatch first handler disk).result = (handler error (first disk).last).result ∧
      (tryCatch first handler disk).last = (handler error (first disk).last).last := by
  unfold tryCatch
  cases outcome : first disk with
  | mk visits result last =>
    rw [outcome] at failed
    obtain rfl : result = .error error := failed
    exact ⟨rfl, rfl⟩

theorem ends_forEach_read {compute : β → σ → Except ε Unit} :
    (forEach items (fun item => read (compute item)) disk).last = disk ∧
      ∀ error, (forEach items (fun item => read (compute item)) disk).result = .error error →
        ∃ item ∈ items, compute item disk = .error error := by
  induction items with
  | nil =>
    refine ⟨rfl, ?_⟩
    intro error failed
    cases failed
  | cons item rest induction =>
    unfold forEach
    cases outcome : compute item disk with
    | error error =>
      obtain ⟨result, last⟩ := ends_bind_error (read (compute item))
        (fun _ => forEach rest fun item => read (compute item)) outcome
      refine ⟨last, ?_⟩
      intro other failed
      rw [result] at failed
      cases failed
      exact ⟨item, mem_cons_self, outcome⟩
    | ok value =>
      obtain ⟨result, last⟩ := ends_bind_ok (read (compute item))
        (fun _ => forEach rest fun item => read (compute item)) outcome
      refine ⟨last.trans induction.1, ?_⟩
      intro other failed
      rw [result] at failed
      obtain ⟨found, member, raised⟩ := induction.2 other failed
      exact ⟨found, mem_cons_of_mem _ member, raised⟩

end Results

def Ends (done : α → σ → Prop) (failed : ε → σ → Prop) (result : Except ε α) (last : σ) : Prop :=
  match result with
  | .ok value => done value last
  | .error error => failed error last

/-- From a disk that satisfies `pre`, every disk on the way satisfies `crash`, and the last one
satisfies `done` or, after an error, `failed`. -/
def Triple (pre : σ → Prop) (program : Program σ ε α) (done : α → σ → Prop)
    (failed : ε → σ → Prop) (crash : σ → Prop) : Prop :=
  ∀ disk, pre disk →
    (∀ visited ∈ (program disk).visits, crash visited) ∧
      Ends done failed (program disk).result (program disk).last

variable {pre crash : σ → Prop} {done : α → σ → Prop} {failed : ε → σ → Prop}

theorem triple_pure (holds : ∀ disk, pre disk → done value disk) :
    Triple pre (.pure value : Program σ ε α) done failed crash := by
  intro disk initial
  exact ⟨fun _ member => absurd member not_mem_nil, holds disk initial⟩

theorem triple_throw (holds : ∀ disk, pre disk → failed error disk) :
    Triple pre (throw error : Program σ ε α) done failed crash := by
  intro disk initial
  exact ⟨fun _ member => absurd member not_mem_nil, holds disk initial⟩

theorem triple_read (ok : ∀ disk value, pre disk → compute disk = .ok value → done value disk)
    (error : ∀ disk e, pre disk → compute disk = .error e → failed e disk) :
    Triple pre (read compute) done failed crash := by
  intro disk initial
  refine ⟨fun _ member => absurd member not_mem_nil, ?_⟩
  change Ends done failed (compute disk) disk
  cases outcome : compute disk with
  | ok value => exact ok disk value initial outcome
  | error e => exact error disk e initial outcome

theorem triple_require (ok : ∀ disk, pre disk → condition disk = true → finished () disk)
    (refused : ∀ disk, pre disk → condition disk = false → failed error disk) :
    Triple pre (require condition error) finished failed crash := by
  apply triple_read
  · intro disk value initial passes
    split at passes
    · rename_i holds
      exact ok disk initial holds
    · cases passes
  · intro disk e initial fails
    split at fails
    · cases fails
    · rename_i missing
      cases fails
      exact refused disk initial (by simpa using missing)

theorem triple_write (keeps : ∀ disk, pre disk → crash (step disk))
    (holds : ∀ disk, pre disk → finished () (step disk)) :
    Triple pre (write step) finished failed crash := by
  intro disk initial
  refine ⟨?_, holds disk initial⟩
  intro visited member
  rw [mem_singleton.mp member]
  exact keeps disk initial

theorem triple_bind (middle : α → σ → Prop) (head : Triple pre first middle failed crash)
    (tail : ∀ value, Triple (middle value) (rest value) finished failed crash) :
    Triple pre (first >>= rest) finished failed crash := by
  intro disk initial
  obtain ⟨kept, ended⟩ := head disk initial
  change (∀ visited ∈ (bind first rest disk).visits, crash visited) ∧
    Ends finished failed (bind first rest disk).result (bind first rest disk).last
  unfold bind
  cases outcome : first disk with
  | mk visits result last =>
    rw [outcome] at kept ended
    cases result with
    | error error => exact ⟨kept, ended⟩
    | ok value =>
      obtain ⟨keptAfter, endedAfter⟩ := tail value last ended
      refine ⟨?_, endedAfter⟩
      intro visited member
      obtain before | after := mem_append.mp member
      · exact kept visited before
      · exact keptAfter visited after

theorem triple_tryCatch (caught : ε → σ → Prop) (tried : Triple pre body done caught crash)
    (handled : ∀ error, Triple (caught error) (handler error) done failed crash) :
    Triple pre (tryCatch body handler) done failed crash := by
  intro disk initial
  obtain ⟨kept, ended⟩ := tried disk initial
  unfold tryCatch
  cases outcome : body disk with
  | mk visits result last =>
    rw [outcome] at kept ended
    cases result with
    | ok value => exact ⟨kept, ended⟩
    | error error =>
      obtain ⟨keptAfter, endedAfter⟩ := handled error last ended
      refine ⟨?_, endedAfter⟩
      intro visited member
      obtain before | after := mem_append.mp member
      · exact kept visited before
      · exact keptAfter visited after

theorem Triple.conseq (triple : Triple pre program done failed crash)
    (strengthen : ∀ disk, stronger disk → pre disk)
    (finish : ∀ value disk, done value disk → done' value disk)
    (fail : ∀ error disk, failed error disk → failed' error disk)
    (keep : ∀ disk, crash disk → crash' disk) : Triple stronger program done' failed' crash' := by
  intro disk initial
  obtain ⟨kept, ended⟩ := triple disk (strengthen disk initial)
  refine ⟨fun visited member => keep visited (kept visited member), ?_⟩
  cases outcome : (program disk).result with
  | ok value =>
    rw [outcome] at ended
    exact finish value _ ended
  | error error =>
    rw [outcome] at ended
    exact fail error _ ended

theorem triple_given (triple : fact → Triple pre program done failed crash) :
    Triple (fun disk => pre disk ∧ fact) program done failed crash :=
  fun disk holds => triple holds.2 disk holds.1

theorem triple_forEach (invariant : List β → List β → σ → Prop)
    (step : ∀ before item rest, Triple (invariant before (item :: rest)) (body item)
      (fun _ => invariant (before ++ [item]) rest) failed crash) :
    ∀ before items, Triple (invariant before items) (forEach items body)
      (fun _ => invariant (before ++ items) []) failed crash := by
  intro before items
  induction items generalizing before with
  | nil =>
    apply triple_pure
    intro disk holds
    rw [append_nil]
    exact holds
  | cons item rest induction =>
    apply triple_bind (fun _ => invariant (before ++ [item]) rest)
    · exact step before item rest
    · intro _
      have tail := induction (before ++ [item])
      rw [append_assoc] at tail
      exact tail

theorem triple_forEach_split (invariant : List β → σ → Prop)
    (step : ∀ before item after, before ++ item :: after = items →
      Triple (invariant before) (body item) (fun _ => invariant (before ++ [item])) failed crash) :
    Triple (invariant []) (forEach items body) (fun _ => invariant items) failed crash := by
  have continued : ∀ rest before, before ++ rest = items →
      Triple (invariant before) (forEach rest body) (fun _ => invariant items) failed crash := by
    intro rest
    induction rest with
    | nil =>
      intro before listed
      rw [append_nil] at listed
      subst listed
      exact triple_pure fun _ holds => holds
    | cons item rest induction =>
      intro before listed
      apply triple_bind (fun _ => invariant (before ++ [item]))
      · exact step before item rest listed
      · intro _
        apply induction
        rw [append_assoc]
        exact listed
  exact continued items [] rfl

theorem triple_forEach_keeps
    (step : ∀ item ∈ items, Triple invariant (body item) (fun _ => invariant) failed crash) :
    Triple invariant (forEach items body) (fun _ => invariant) failed crash := by
  induction items with
  | nil => exact triple_pure fun _ holds => holds
  | cons item rest induction =>
    apply triple_bind (fun _ => invariant)
    · exact step item mem_cons_self
    · intro _
      exact induction fun other member => step other (mem_cons_of_mem _ member)

section Execution

variable {start : σ} {rest : β → Program σ ε α}

theorem triple_pure_at (holds : done value start) :
    Triple (fun disk => disk = start) (.pure value : Program σ ε α) done failed crash := by
  apply triple_pure
  rintro disk rfl
  exact holds

theorem triple_throw_at (holds : failed error start) :
    Triple (fun disk => disk = start) (throw error : Program σ ε α) done failed crash := by
  apply triple_throw
  rintro disk rfl
  exact holds

theorem triple_bind_at (value : β) (next : σ)
    (head : Triple (fun disk => disk = start) first (fun read disk => read = value ∧ disk = next)
      failed crash)
    (tail : Triple (fun disk => disk = next) (rest value) done failed crash) :
    Triple (fun disk => disk = start) (first >>= rest) done failed crash := by
  apply triple_bind _ head
  rintro other disk ⟨rfl, here⟩
  exact tail disk here

theorem triple_read_at (value : β) (ok : compute start = .ok value)
    (tail : Triple (fun disk => disk = start) (rest value) done failed crash) :
    Triple (fun disk => disk = start) (read compute >>= rest) done failed crash := by
  refine triple_bind_at value start (triple_read ?_ ?_) tail
  · rintro disk found rfl result
    rw [ok] at result
    cases result
    exact ⟨rfl, rfl⟩
  · rintro disk error rfl result
    rw [ok] at result
    cases result

theorem triple_read_last (ok : compute start = .ok value) (holds : done value start) :
    Triple (fun disk => disk = start) (read compute) done failed crash := by
  apply triple_read
  · rintro disk found rfl result
    rw [ok] at result
    cases result
    exact holds
  · rintro disk error rfl result
    rw [ok] at result
    cases result

theorem triple_read_error_at (raised : compute start = .error error) (holds : failed error start) :
    Triple (fun disk => disk = start) (read compute >>= rest) done failed crash := by
  apply triple_bind (fun _ _ => False)
  · apply triple_read
    · rintro disk value rfl result
      rw [raised] at result
      cases result
    · rintro disk other rfl result
      rw [raised] at result
      cases result
      exact holds
  · exact fun _ _ impossible => impossible.elim

variable {rest : Unit → Program σ ε α}

theorem triple_require_at (holds : condition start = true)
    (tail : Triple (fun disk => disk = start) (rest ()) done failed crash) :
    Triple (fun disk => disk = start) (require condition error >>= rest) done failed crash :=
  triple_read_at () (if_pos holds) tail

theorem triple_require_error_at (fails : condition start = false) (holds : failed error start) :
    Triple (fun disk => disk = start) (require condition error >>= rest) done failed crash :=
  triple_read_error_at (if_neg (by rw [fails]; exact Bool.false_ne_true)) holds

theorem triple_write_last (next : σ) (writes : step start = next) (keeps : crash next) :
    Triple (fun disk => disk = start) (write step)
      (fun written disk => written = () ∧ disk = next) failed crash := by
  apply triple_write
  · rintro disk rfl
    rw [writes]
    exact keeps
  · rintro disk rfl
    exact ⟨rfl, writes⟩

theorem triple_write_at (next : σ) (writes : step start = next) (keeps : crash next)
    (tail : Triple (fun disk => disk = next) (rest ()) done failed crash) :
    Triple (fun disk => disk = start) (write step >>= rest) done failed crash :=
  triple_bind_at () next (triple_write_last next writes keeps) tail

end Execution

end Program

end LicoMesh.Library
