import DspBridge.Proofs.Compiler.Scripts

/-!
# The discipline of backend calls

What a compiler asks its backend, whatever the backend answers.  `Conversation` lists the ways in
which one job can go; a run of jobs is one conversation after another.  It follows that a fault is
answered by a reset before the backend is used again, and that a scripted backend is never left
poisoned.
-/

namespace DspBridge

/-! ## One job -/

/-- The conversations about a job that is compiled with a command, and the results that they lead
to. -/
inductive Conversation (job : Job) (command : String) :
    List Exchange → Except CompileError Output → Prop where
  | unnamed : job.name = "" → Conversation job command [] (.error .emptyName)
  | compiled (translated descriptor : String) : job.name ≠ "" →
      Conversation job command
        [.generate job.name job.content command (.ok true),
          .read (moduleName job.name) (.ok translated),
          .read (descriptorName job.name) (.ok descriptor)]
        (.ok ⟨translated, descriptor⟩)
  | refused (reported : String) : job.name ≠ "" →
      Conversation job command
        [.generate job.name job.content command (.ok false), .lastError reported]
        (.error (.refused reported))
  | unitFaulted (fault : Fault) (reported : String) : job.name ≠ "" →
      Conversation job command
        [.generate job.name job.content command (.error fault), .lastError reported, .reset]
        (.error (.faulted fault reported))
  | moduleFaulted (fault : Fault) (reported : String) : job.name ≠ "" →
      Conversation job command
        [.generate job.name job.content command (.ok true),
          .read (moduleName job.name) (.error fault), .lastError reported, .reset]
        (.error (.faulted fault reported))
  | descriptorFaulted (translated : String) (fault : Fault) (reported : String) : job.name ≠ "" →
      Conversation job command
        [.generate job.name job.content command (.ok true),
          .read (moduleName job.name) (.ok translated),
          .read (descriptorName job.name) (.error fault), .lastError reported, .reset]
        (.error (.faulted fault reported))

/-- The journals of runs of jobs: a conversation for each. -/
inductive Conversations (directories : List String) :
    List Job → List (Except CompileError Output) → List Exchange → Prop where
  | nothing : Conversations directories [] [] []
  | job {job : Job} {jobs : List Job} {result : Except CompileError Output}
      {results : List (Except CompileError Output)} {exchanges journal : List Exchange} :
      Conversation job (Compiler.commandFor directories job) exchanges result →
      Conversations directories jobs results journal →
      Conversations directories (job :: jobs) (result :: results) (exchanges ++ journal)

namespace Compiler

variable {σ : Type} (backend : Backend σ)

/-- A backend that keeps its journal has a conversation about a job, and one that keeps a record of
its calls is asked the same; neither changes what becomes of the job. -/
theorem perform_conversation (job : Job) (compiler : Compiler σ) (journal : List Exchange)
    (calls : List Call) :
    let done := (perform backend job compiler).value
    ∃ exchanges, Conversation job (commandFor compiler.includeDirs job) exchanges done.1 ∧
      done.2.includeDirs = compiler.includeDirs ∧
      (perform backend.journaled job (compiler.withLog journal)).value =
        (done.1, done.2.withLog (journal ++ exchanges)) ∧
      (perform backend.recorded job (compiler.withLog calls)).value =
        (done.1, done.2.withLog (calls ++ exchanges.map Exchange.call)) := by
  dsimp only
  by_cases named : job.name = ""
  · rw [perform_empty backend named, perform_empty _ named, perform_empty _ named]
    refine ⟨[], .unnamed named, rfl, ?_, ?_⟩
    · rw [List.append_nil]; rfl
    · rw [List.map_nil, List.append_nil]; rfl
  · rw [perform_value backend named, perform_value _ named, perform_value _ named]
    simp only [produce_value, withLog, Backend.journaled, Backend.note, Backend.recorded,
      Backend.record]
    rcases (backend.generate job.name job.content (commandFor compiler.includeDirs job)
      compiler.backend).value with ⟨fault | (_ | _), next⟩
    · simp only [List.append_assoc]
      exact ⟨_, .unitFaulted fault _ named, trivial, rfl, rfl⟩
    · simp only [List.append_assoc]
      exact ⟨_, .refused _ named, trivial, rfl, rfl⟩
    · dsimp only
      rcases (backend.read (moduleName job.name) next).value with ⟨fault | translated, next⟩
      · simp only [List.append_assoc]
        exact ⟨_, .moduleFaulted fault _ named, trivial, rfl, rfl⟩
      · dsimp only
        rcases (backend.read (descriptorName job.name) next).value with ⟨fault | descriptor, next⟩
        · simp only [List.append_assoc]
          exact ⟨_, .descriptorFaulted translated fault _ named, trivial, rfl, rfl⟩
        · simp only [List.append_assoc]
          exact ⟨_, .compiled translated descriptor named, trivial, rfl, rfl⟩

/-! ## Runs of jobs -/

/-- A run of jobs is a conversation for each, and the calls that are recorded are what is asked. -/
theorem performAll_conversations (jobs : List Job) (compiler : Compiler σ)
    (journal : List Exchange) (calls : List Call) :
    let done := (performAll backend jobs compiler).value
    ∃ exchanges, Conversations compiler.includeDirs jobs done.1 exchanges ∧
      (performAll backend.journaled jobs (compiler.withLog journal)).value =
        (done.1, done.2.withLog (journal ++ exchanges)) ∧
      (performAll backend.recorded jobs (compiler.withLog calls)).value =
        (done.1, done.2.withLog (calls ++ exchanges.map Exchange.call)) := by
  induction jobs generalizing compiler journal calls with
  | nil =>
      refine ⟨[], .nothing, ?_, ?_⟩
      · rw [List.append_nil]; rfl
      · rw [List.map_nil, List.append_nil]; rfl
  | cons job jobs ih =>
      obtain ⟨exchanges, talk, kept, journaled, recorded⟩ :=
        perform_conversation backend job compiler journal calls
      obtain ⟨others, talks, allJournaled, allRecorded⟩ :=
        ih (perform backend job compiler).value.2 (journal ++ exchanges)
          (calls ++ exchanges.map Exchange.call)
      rw [kept] at talks
      dsimp only at allJournaled allRecorded ⊢
      simp only [performAll_cons, journaled, recorded, allJournaled, allRecorded]
      refine ⟨exchanges ++ others, .job talk talks, ?_, ?_⟩
      · rw [List.append_assoc]
      · rw [List.append_assoc, List.map_append]

end Compiler

/-! ## Faults and resets -/

/-- Whether an answer is a fault. -/
def Exchange.isFault : Exchange → Bool
  | .generate _ _ _ (.error _) | .read _ (.error _) => true
  | _ => false

/-- Whether a backend has to be usable for what it was asked. -/
def Exchange.isUse : Exchange → Bool
  | .generate _ _ _ _ | .read _ _ => true
  | _ => false

/-- Between a fault and whatever the backend is next used for, it is reset. -/
def ResetsBeforeUse (journal : List Exchange) : Prop :=
  ∀ (before between later : List Exchange) (fault use : Exchange),
    journal = before ++ fault :: (between ++ use :: later) →
      fault.isFault → use.isUse → .reset ∈ between

/-- Whether a reset is due after an exchange, given whether one was due before it. -/
def Exchange.due (before : Bool) : Exchange → Bool
  | .reset => false
  | exchange => exchange.isFault || before

/-- A backend is used only when no reset is due. -/
def Guarded : Bool → List Exchange → Prop
  | _, [] => True
  | due, exchange :: journal =>
      (due = true → exchange.isUse = false) ∧ Guarded (exchange.due due) journal

theorem guarded_append (due : Bool) (first second : List Exchange) :
    Guarded due (first ++ second) ↔
      Guarded due first ∧ Guarded (first.foldl Exchange.due due) second := by
  induction first generalizing due with
  | nil => simp only [List.nil_append, List.foldl_nil, Guarded, true_and]
  | cons exchange first ih =>
      simp only [List.cons_append, List.foldl_cons, Guarded, ih, and_assoc]

theorem due_of_isFault {exchange : Exchange} (fault : exchange.isFault = true) (before : Bool) :
    exchange.due before = true := by
  cases exchange with
  | reset => cases fault
  | _ => simp only [Exchange.due, fault, Bool.true_or]

/-- Before a use a reset that is due has to come. -/
theorem reset_mem_of_guarded {between later : List Exchange} {use : Exchange}
    (guarded : Guarded true (between ++ use :: later)) (used : use.isUse = true) :
    .reset ∈ between := by
  induction between with
  | nil =>
      have unused := guarded.1 rfl
      rw [used] at unused
      cases unused
  | cons exchange between ih =>
      rw [List.cons_append] at guarded
      have rest := guarded.2
      cases exchange with
      | reset => exact List.mem_cons_self
      | _ =>
          simp only [Exchange.due, Bool.or_true] at rest
          exact List.mem_cons_of_mem _ (ih rest)

theorem resetsBeforeUse_of_guarded {due : Bool} {journal : List Exchange}
    (guarded : Guarded due journal) : ResetsBeforeUse journal := by
  intro before between later fault use cut isFault isUse
  rw [cut, guarded_append] at guarded
  have rest := guarded.2.2
  rw [due_of_isFault isFault] at rest
  exact reset_mem_of_guarded rest isUse

/-- No conversation uses a backend while a reset is due, or ends before it has come. -/
theorem Conversation.guarded {job : Job} {command : String} {exchanges : List Exchange}
    {result : Except CompileError Output} (talk : Conversation job command exchanges result) :
    Guarded false exchanges ∧ exchanges.foldl Exchange.due false = false := by
  cases talk <;> simp [Guarded, Exchange.due, Exchange.isFault, Exchange.isUse]

theorem Conversations.guarded {directories : List String} {jobs : List Job}
    {results : List (Except CompileError Output)} {journal : List Exchange}
    (talks : Conversations directories jobs results journal) : Guarded false journal := by
  induction talks with
  | nothing => trivial
  | job talk _ ih =>
      obtain ⟨guarded, settled⟩ := talk.guarded
      rw [guarded_append, settled]
      exact ⟨guarded, ih⟩

/-- Whatever a backend answers, jobs that are compiled one after another are conversations with it
in which every fault is answered by a reset before the backend is used again; and a scripted backend
is left usable, after one reset for each job that ended in a fault. -/
theorem Compiler.performAll_discipline (jobs : List Job) :
    (∀ {σ : Type} (backend : Backend σ) (compiler : Compiler σ),
      let done := (performAll backend jobs compiler).value
      ∃ journal, Conversations compiler.includeDirs jobs done.1 journal ∧
        ResetsBeforeUse journal ∧
        (performAll backend.journaled jobs (compiler.withLog [])).value =
          (done.1, done.2.withLog journal) ∧
        (performAll backend.recorded jobs (compiler.withLog [])).value =
          (done.1, done.2.withLog (journal.map Exchange.call))) ∧
    (∀ (steps : List Step) (version : String) (directories : List String),
      let played := (performAll Script.backend jobs (.new (.new steps version) directories)).value
      played.2.backend.poisoned = false ∧
        played.2.backend.resets = played.1.countP Script.faulted) := by
  constructor
  · intro σ backend compiler
    obtain ⟨journal, talks, journaled, recorded⟩ :=
      performAll_conversations backend jobs compiler [] []
    exact ⟨journal, talks, resetsBeforeUse_of_guarded talks.guarded, journaled, recorded⟩
  · intro steps version directories
    have after := Script.after_performAll steps version directories jobs
    exact ⟨after.usable, after.resets⟩

end DspBridge
