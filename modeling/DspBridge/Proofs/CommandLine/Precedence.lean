import DspBridge.Proofs.CommandLine.Agreement
import DspBridge.Proofs.Compiler.Launches
import Mathlib

/-!
# Which settings count

The settings of a command line that compiles a file, and what becomes of them.  A file that is named
comes before the one of the home directory, which comes before the standard settings; only the first
has to be good.  What else is given replaces the program and the further flags, and is added to the
include directories, of which those before the name of the task are lost if there are some behind
it.  The command made of all this is the only one that a program is started with.
-/

namespace DspBridge.CommandLine

/-! ## What is given -/

/-- What has been given where the words of a scope end. -/
def Ending.given : Ending → Given
  | .finished given | .task given _ _ => given
  | .version | .help => []

section Given

variable {slot : Slot} {given before behind : Given}

theorem values_append (slot : Slot) (first second : Given) :
    values slot (first ++ second) = values slot first ++ values slot second := by
  rw [values, List.filter_append, List.map_append]
  rfl

/-- Nothing is given twice that cannot be repeated. -/
def Unrepeated (given : Given) : Prop :=
  ∀ slot : Slot, slot.repeats = false → (values slot given).length ≤ 1

theorem unrepeated_nil : Unrepeated [] := fun _ _ => Nat.zero_le 1

theorem Unrepeated.give {value : String} {next : Given} (fine : Unrepeated given)
    (accepted : give slot value given = some next) : Unrepeated next := by
  intro other single
  rw [CommandLine.give] at accepted
  split at accepted
  · cases accepted
  · split at accepted
    · cases accepted
    · next fresh =>
      cases accepted
      rw [values_append]
      by_cases same : slot = other
      · subst same
        have none : values slot given = [] := by
          rw [single] at fresh
          simp only [values, List.map_eq_nil_iff, List.filter_eq_nil_iff]
          intro entry member
          simpa using fun found => fresh (by simpa using ⟨entry.2, found ▸ member⟩)
        rw [none]
        simp [values]
      · have rest := fine other single
        simpa [values, same] using rest

theorem Unrepeated.readFiles {scope : Scope} {words : List String} {next : Given}
    (fine : Unrepeated given) (read : readFiles scope given words = some next) :
    Unrepeated next := by
  induction words generalizing given with
  | nil =>
      cases read
      exact fine
  | cons word rest ih =>
      rw [CommandLine.readFiles] at read
      split at read
      · obtain ⟨more, accepted, read⟩ := Option.bind_eq_some_iff.mp read
        exact ih (fine.give accepted) read
      · cases read

theorem Unrepeated.readWords {scope : Scope} {words : List String} {ending : Ending}
    (fine : Unrepeated given) (read : readWords scope given words = some ending) :
    Unrepeated ending.given := by
  fun_induction CommandLine.readWords scope given words with
  | case1 | case10 =>
      cases read
      exact fine
  | case2 =>
      obtain ⟨next, files, rfl⟩ := Option.map_eq_some_iff.mp read
      exact fine.readFiles files
  | case3 | case4 | case11 =>
      cases read
      exact unrepeated_nil
  | case5 | case7 | case8 | case13 => cases read
  | case6 | case9 | case12 =>
      rename_i ih
      obtain ⟨next, accepted, read⟩ := Option.bind_eq_some_iff.mp read
      exact ih _ (fine.give accepted) read

/-- An option that is not repeated has the value that is given for it last. -/
theorem commonValues_head? (first : Unrepeated before) (second : Unrepeated behind)
    (single : slot.repeats = false) :
    (commonValues slot before behind).head? = (values slot (before ++ behind)).getLast? := by
  have last (list : List String) (short : list.length ≤ 1) : list.head? = list.getLast? := by
    match list, short with
    | [], _ | [_], _ => rfl
  rw [values_append, commonValues]
  cases replaced : values slot behind with
  | nil => simpa using last _ (first slot single)
  | cons value rest =>
      have alone := last _ (second slot single)
      rw [replaced] at alone
      rw [List.getLast?_append_of_ne_nil _ (List.cons_ne_nil _ _)]
      exact alone

/-- All values of an option are kept unless some are given before the name of the task and some
behind it. -/
theorem commonValues_eq_iff :
    commonValues slot before behind = values slot (before ++ behind) ↔
      values slot before = [] ∨ values slot behind = [] := by
  rw [values_append, commonValues]
  cases values slot behind with
  | nil => simp
  | cons value rest => simp

end Given

/-- A command line on which a file is given to be compiled, with what is given before the name of
the task and behind it. -/
structure Compiles (words : List String) (before behind : Given) (file : String) : Prop where
  named : ∃ rest, readWords topScope [] words = some (.task before "compile" rest) ∧
    readWords (taskScope "compile") [] rest = some (.finished behind)
  file : (values .file behind).head? = some file

section Parsing

variable {words : List String} {before behind : Given} {file : String}

theorem Compiles.unrepeated_before (given : Compiles words before behind file) :
    Unrepeated before := by
  obtain ⟨⟨rest, read, -⟩, -⟩ := given
  exact unrepeated_nil.readWords read

theorem Compiles.unrepeated_behind (given : Compiles words before behind file) :
    Unrepeated behind := by
  obtain ⟨⟨rest, -, read⟩, -⟩ := given
  exact unrepeated_nil.readWords read

/-- The invocation of a command line on which a file is given to be compiled. -/
def compilation (before behind : Given) (file : String) : Invocation where
  program? := (values .program (before ++ behind)).getLast?
  settingsFile? := (values .settingsFile (before ++ behind)).getLast?
  includeDirs := commonValues .includeDir before behind
  task := .compile file (values .flags behind).head? (values .output behind).head?

theorem Compiles.parse_eq (given : Compiles words before behind file) :
    parse words = some (.run (compilation before behind file)) := by
  have first := given.unrepeated_before
  have second := given.unrepeated_behind
  obtain ⟨⟨rest, top, inner⟩, found⟩ := given
  have task : task? "compile" behind =
      some (.compile file (values .flags behind).head? (values .output behind).head?) := by
    simp only [task?, found]
    rfl
  have invoked : invocation? "compile" before behind = some (compilation before behind file) := by
    rw [invocation?, task, compilation, ← commonValues_head? first second rfl,
      ← commonValues_head? first second rfl]
    rfl
  simp only [parse, top, inner, invoked, Option.bind_eq_bind, Option.bind_some, Option.map_some]

end Parsing

/-! ## What is in force -/

/-- The settings that a run starts from: those of a file that is named, those of the home directory
if it holds any, or else the standard ones. -/
inductive InForce (surroundings : Surroundings) : Option String → Settings → Prop where
  | named {path : String} {settings : Settings} :
      Settings.ofFile path (surroundings.readText path) surroundings.complain = .ok settings →
      InForce surroundings (some path) settings
  | home {settings : Settings} :
      Settings.ofFile Settings.homePath surroundings.homeSettings surroundings.complain =
        .ok settings →
      InForce surroundings none settings
  | standard {error : Settings.Error} :
      Settings.ofFile Settings.homePath surroundings.homeSettings surroundings.complain =
        .error error →
      InForce surroundings none .standard

section Settings

variable {surroundings : Surroundings} {file? : Option String}

theorem InForce.baseSettings_eq {base : Settings} (force : InForce surroundings file? base) :
    baseSettings surroundings file? = .ok base := by
  cases force with
  | named good => exact good
  | home good => simp only [baseSettings, good]
  | standard bad => simp only [baseSettings, bad]

/-- A file that is named has the settings that are in force. -/
theorem InForce.of_named {path : String} {base : Settings}
    (force : InForce surroundings (some path) base) :
    Settings.ofFile path (surroundings.readText path) surroundings.complain = .ok base := by
  cases force with
  | named good => exact good

/-- There are settings in force unless a file is named that gives none. -/
theorem inForce_or_bad (surroundings : Surroundings) (file? : Option String) :
    (∃ base, InForce surroundings file? base) ∨
      ∃ path error, file? = some path ∧
        Settings.ofFile path (surroundings.readText path) surroundings.complain = .error error := by
  cases file? with
  | none =>
      left
      cases home : Settings.ofFile Settings.homePath surroundings.homeSettings
        surroundings.complain with
      | ok settings => exact ⟨settings, .home home⟩
      | error error => exact ⟨.standard, .standard home⟩
  | some path =>
      cases named : Settings.ofFile path (surroundings.readText path) surroundings.complain with
      | ok settings => exact .inl ⟨settings, .named named⟩
      | error error => exact .inr ⟨path, error, rfl, named⟩

theorem run_bad {invocation : Invocation} {path : String} {error : Settings.Error}
    (named : invocation.settingsFile? = some path)
    (bad : Settings.ofFile path (surroundings.readText path) surroundings.complain = .error error) :
    run surroundings invocation = ⟨⟨[], []⟩, [], some (.settings error)⟩ := by
  have settled : effectiveSettings surroundings invocation = .error error := by
    rw [effectiveSettings, named, baseSettings, bad]
    rfl
  rw [run, perform, settled]
  rfl

end Settings

/-! ## What is started -/

section Launching

variable {surroundings : Surroundings} {settings : Settings} {scratch : Scratch}
  {file name text : String} {flags? output? : Option String}

theorem ofExcept_still {ε α : Type} (problem : ε → Problem) (result : Except ε α) :
    (Deed.ofExcept problem result).run.Reports Event.Still := by
  cases result <;> exact .of_silent fun _ => rfl

theorem tellDeclarations_still (descriptor : String) :
    (tellDeclarations descriptor).run.Reports Event.Still := by
  rw [tellDeclarations]
  cases declarationsOf descriptor with
  | error error => exact .report rfl
  | ok lines =>
      dsimp only
      induction lines with
      | nil => exact .of_silent fun _ => rfl
      | cons line rest ih =>
          rw [List.forM_eq_forM, List.forM_cons]
          exact .attempt (.report rfl) fun _ => ih

theorem deliver_still (translated : String) :
    (deliver surroundings output? translated).run.Reports Event.Still := by
  cases output? with
  | none => exact .of_silent fun _ => rfl
  | some path => exact .attempt (ofExcept_still _ _) fun _ => .of_silent fun _ => rfl

theorem within_events {σ α : Type} (state : σ) (action : Action σ α) (trail : Trail) :
    ((Deed.within state action).run trail).events = (action state).events :=
  List.append_nil _

theorem within_congr {σ α : Type} {state : σ} {action other : Action σ α}
    (same : action state = other state) : Deed.within state action = Deed.within state other := by
  rw [Deed.within, Deed.within, same]

/-- What the command does once its job is done. -/
def conclude (surroundings : Surroundings) (settings : Settings) (output? : Option String)
    (done : Except CompileError Output × Compiler Scratch) : Deed Unit := do
  let output ← Deed.ofExcept .compile done.1
  if settings.logDeclarations then tellDeclarations output.descriptor
  deliver surroundings output? output.translated

theorem conclude_still (done : Except CompileError Output × Compiler Scratch) :
    (conclude surroundings settings output? done).run.Reports Event.Still := by
  refine .attempt (ofExcept_still _ _) fun output => ?_
  split
  · exact .attempt (tellDeclarations_still _) fun _ => deliver_still _
  · exact deliver_still _

/-- A file is compiled as one job in a scratch directory. -/
theorem compileFile_made (source : unitName? ((Files.fileName? file).getD "") = some name)
    (held : surroundings.readText file = .ok text) (made : surroundings.scratch = .ok scratch) :
    compileFile surroundings settings file flags? output? =
      Deed.within (.new scratch settings.includeDirs)
          (Compiler.perform (backendOf surroundings settings) (jobOf settings name text flags?)) >>=
        conclude surroundings settings output? := by
  have new : makeCompiler surroundings settings = pure (.new scratch settings.includeDirs) := by
    rw [makeCompiler, ofExcept_bind_ok _ made]
  unfold compileFile
  rw [source]
  dsimp only
  rw [ofExcept_bind_ok _ held, new, pure_bind]
  rfl

/-- Other programs only have a part in the job. -/
theorem compileFile_others (source : unitName? ((Files.fileName? file).getD "") = some name)
    (held : surroundings.readText file = .ok text) (made : surroundings.scratch = .ok scratch)
    (others : String → Program) :
    compileFile { surroundings with program := others } settings file flags? output? =
      Deed.within (.new scratch settings.includeDirs)
          (Compiler.perform (Scratch.backend (others settings.program))
            (jobOf settings name text flags?)) >>=
        conclude surroundings settings output? :=
  compileFile_made source held made

theorem compileFile_refused {refusal : ScratchRefusal}
    (source : unitName? ((Files.fileName? file).getD "") = some name)
    (held : surroundings.readText file = .ok text)
    (refused : surroundings.scratch = .error refusal) (trail : Trail) :
    (compileFile surroundings settings file flags? output?).run trail =
      ⟨(.error (.scratch refusal), trail), []⟩ := by
  unfold compileFile
  rw [source]
  dsimp only
  rw [ofExcept_bind_ok _ held, makeCompiler, refused]
  rfl

end Launching

/-- What a run does with a program of some name.  It starts it once, with a command on the source of
a unit, and depends on nothing else that programs do; or the source has no place, and the run starts
nothing and does not depend on programs at all. -/
inductive StartsOnly (surroundings : Surroundings) (invocation : Invocation)
    (program name text command : String) : Prop where
  | once {scratch : Scratch} {ground : Scratch.Ground} :
      surroundings.scratch = .ok scratch → scratch.Clears ground →
      launches (run surroundings invocation).events =
        [((surroundings.program program).name, command)] →
      (∀ others : String → Program,
        Scratch.AlikeOn (surroundings.program program) (others program) ground name text command →
        run { surroundings with program := others } invocation = run surroundings invocation) →
      StartsOnly surroundings invocation program name text command
  | never :
      (∀ scratch, surroundings.scratch = .ok scratch → scratch.Unprepared name) →
      launches (run surroundings invocation).events = [] →
      (∀ others : String → Program,
        run { surroundings with program := others } invocation = run surroundings invocation) →
      StartsOnly surroundings invocation program name text command

section Running

variable {surroundings : Surroundings} {settings : Settings} {invocation : Invocation}
  {file name text : String} {flags? output? : Option String}

theorem run_refused {refusal : ScratchRefusal}
    (task : invocation.task = .compile file flags? output?)
    (settled : effectiveSettings surroundings invocation = .ok settings)
    (source : unitName? ((Files.fileName? file).getD "") = some name)
    (held : surroundings.readText file = .ok text)
    (refused : surroundings.scratch = .error refusal) :
    run surroundings invocation = ⟨⟨[], []⟩, [], some (.scratch refusal)⟩ := by
  rw [run, perform_compile task settled, compileFile_refused source held refused]

/-- The unit of a file that is compiled, for any program. -/
def unitOf (settings : Settings) (name text : String) (flags? : Option String)
    (program : Program) : Scratch.Attempt Bool :=
  Scratch.generate program name text
    (commandText name (flags?.getD settings.flags) settings.includeDirs)

/-- A run that compiles a file starts what the unit of the file starts. -/
theorem run_launches {scratch : Scratch} (task : invocation.task = .compile file flags? output?)
    (settled : effectiveSettings surroundings invocation = .ok settings)
    (source : unitName? ((Files.fileName? file).getD "") = some name) (nonempty : name ≠ "")
    (held : surroundings.readText file = .ok text) (made : surroundings.scratch = .ok scratch) :
    launches (run surroundings invocation).events =
      launches ((unitOf settings name text flags?
        (surroundings.program settings.program)).run scratch).events := by
  rw [run, perform_compile task settled, compileFile_made source held made]
  dsimp only
  rw [ExceptT.run_bind, launches_bind_left]
  · rw [within_events, backendOf, Scratch.perform_launches nonempty]
    rfl
  · rintro (problem | done)
    · exact .of_silent fun _ => rfl
    · exact conclude_still done

/-- A run that compiles a file sees nothing of programs but what the unit of the file comes to. -/
theorem run_congr {scratch : Scratch} (task : invocation.task = .compile file flags? output?)
    (settled : effectiveSettings surroundings invocation = .ok settings)
    (source : unitName? ((Files.fileName? file).getD "") = some name)
    (held : surroundings.readText file = .ok text) (made : surroundings.scratch = .ok scratch)
    {others : String → Program}
    (same : (unitOf settings name text flags? (others settings.program)).run scratch =
      (unitOf settings name text flags? (surroundings.program settings.program)).run scratch) :
    run { surroundings with program := others } invocation = run surroundings invocation := by
  have performed := @Scratch.perform_congr (surroundings.program settings.program)
    (others settings.program) (jobOf settings name text flags?) (.new scratch settings.includeDirs)
    same
  have unmoved : effectiveSettings { surroundings with program := others } invocation =
      .ok settings := settled
  rw [run, run, perform_compile task unmoved, perform_compile task settled,
    compileFile_made source held made, compileFile_others source held made,
    within_congr performed]
  rfl

/-- A run that compiles a file only starts the program of its settings. -/
theorem startsOnly_of_settled (task : invocation.task = .compile file flags? output?)
    (settled : effectiveSettings surroundings invocation = .ok settings)
    (source : unitName? ((Files.fileName? file).getD "") = some name) (nonempty : name ≠ "")
    (held : surroundings.readText file = .ok text) :
    StartsOnly surroundings invocation settings.program name text
      (commandText name (flags?.getD settings.flags) settings.includeDirs) := by
  cases made : surroundings.scratch with
  | error refusal =>
      have ended := run_refused task settled source held made
      refine .never ?_ ?_ fun others => ?_
      · intro scratch stands
        rw [made] at stands
        cases stands
      · rw [ended]
        rfl
      · rw [ended]
        exact run_refused task settled source held made
  | ok scratch =>
      have started := run_launches task settled source nonempty held made
      rcases Scratch.generate_launches name text
        (commandText name (flags?.getD settings.flags) settings.includeDirs) scratch with
        ⟨unprepared, ended, idle⟩ | ⟨ground, clears, starts⟩
      · refine .never ?_ ?_ fun others => run_congr task settled source held made ?_
        · intro other stands
          rw [made] at stands
          cases stands
          exact unprepared
        · rw [started, unitOf, idle]
          rfl
        · rw [unitOf, unitOf, idle, idle]
      · obtain ⟨launched, alone⟩ := starts (surroundings.program settings.program)
        refine .once made clears (started.trans launched) fun others alike => ?_
        exact run_congr task settled source held made (alone _ alike)

end Running

/-! ## Precedence -/

section Precedence

variable {words : List String} {before behind : Given} {surroundings : Surroundings}
  {file name text : String}

/-- Which settings a command line that compiles a source is run with.  If it names a settings file
that is no good then nothing is started, whatever the home directory holds.  Otherwise one program
at most is started: the one that is given last, or else that of the settings in force, with a
command for their include directories and those given, and for the flags given, if only as an empty
text, or else theirs.  The include directories given are all there are on the command line exactly
if there are none on one side of the name of the task. -/
theorem compile_in_force (given : Compiles words before behind file)
    (source : unitName? ((Files.fileName? file).getD "") = some name) (nonempty : name ≠ "")
    (held : surroundings.readText file = .ok text) :
    let named? := (values .settingsFile (before ++ behind)).getLast?
    let includeDirs := commonValues .includeDir before behind
    ∃ invocation, parse words = some (.run invocation) ∧
      ((∃ path error, named? = some path ∧
          Settings.ofFile path (surroundings.readText path) surroundings.complain = .error error ∧
          ∀ homeSettings program,
            let outcome := run { surroundings with homeSettings, program } invocation
            outcome.Shows 1 [] (some s!"faust-cmaj: config error: {error.message}") ∧
              outcome.events = []) ∨
        ∃ base, InForce surroundings named? base ∧
          StartsOnly surroundings invocation
            ((values .program (before ++ behind)).getLast?.getD base.program) name text
            (commandText name ((values .flags behind).head?.getD base.flags)
              (base.includeDirs ++ includeDirs))) ∧
      (includeDirs = values .includeDir (before ++ behind) ↔
        values .includeDir before = [] ∨ values .includeDir behind = []) := by
  intro named? includeDirs
  refine ⟨compilation before behind file, given.parse_eq, ?_, commonValues_eq_iff⟩
  rcases inForce_or_bad surroundings named? with ⟨base, force⟩ | ⟨path, error, named, bad⟩
  · right
    have settled : effectiveSettings surroundings (compilation before behind file) =
        .ok { base with
          program := (values .program (before ++ behind)).getLast?.getD base.program
          includeDirs := base.includeDirs ++ includeDirs } := by
      have based := force.baseSettings_eq
      rw [effectiveSettings, compilation, based]
      rfl
    exact ⟨base, force, startsOnly_of_settled rfl settled source nonempty held⟩
  · refine .inl ⟨path, error, named, bad, fun homeSettings program => ?_⟩
    have ended : run { surroundings with homeSettings, program } (compilation before behind file) =
        ⟨⟨[], []⟩, [], some (.settings error)⟩ := run_bad named bad
    intro outcome
    have whole : outcome = _ := ended
    rw [whole]
    exact ⟨⟨rfl, rfl, rfl⟩, rfl⟩

/-- Surroundings with settings in the home directory, a file with other settings, one that is no
document, and a source wherever else a path leads. -/
def settledSurroundings : Surroundings :=
  { sampleSurroundings [] [123, 125] with
    homeSettings := .ok "faust_path: h\n"
    readText := fun path =>
      if path = "c.yaml" then .ok "include_dirs: [lib]\nextra_args: -vec\n"
      else if path = "bad.yaml" then .ok "faust_path: g: h\n"
      else .ok "process = _;"
    program := fun name => { describer [123, 125] with name }
    complain := fun _ => "mapping values are not allowed in this context at line 1 column 14" }

/-- A file that is named counts instead of the one in the home directory, and no flags are flags;
and a file that is no document is no reason to turn to the home directory. -/
theorem compile_in_force_named :
    (∃ invocation,
      parse ["-I", "a", "--config", "c.yaml", "compile", "osc/a.dsp", "--faust", "f", "--args", ""] =
          some (.run invocation) ∧
        launches (run settledSurroundings invocation).events =
          [("f", "-lang cmajor-hybrid -json -I lib -I a -cn a -o a.cmajor")]) ∧
    ∃ invocation, parse ["--config", "bad.yaml", "compile", "osc/a.dsp"] = some (.run invocation) ∧
      (run settledSurroundings invocation).Shows 1 []
        (some ("faust-cmaj: config error: bad.yaml: " ++
          "mapping values are not allowed in this context at line 1 column 14")) := by
  have named : Settings.ofFile "c.yaml" (settledSurroundings.readText "c.yaml")
      settledSurroundings.complain = .ok ⟨"faust", ["lib"], "-vec", true⟩ := by cbv
  have broken : Settings.ofFile "bad.yaml" (settledSurroundings.readText "bad.yaml")
      settledSurroundings.complain = .error (.malformed ⟨"bad.yaml",
        "mapping values are not allowed in this context at line 1 column 14"⟩) := by cbv
  have source : unitName? ((Files.fileName? "osc/a.dsp").getD "") = some "a" := by decide
  have held : settledSurroundings.readText "osc/a.dsp" = .ok "process = _;" := by rfl
  constructor
  · have given : Compiles
        ["-I", "a", "--config", "c.yaml", "compile", "osc/a.dsp", "--faust", "f", "--args", ""]
        [(.includeDir, "a"), (.settingsFile, "c.yaml")]
        [(.file, "osc/a.dsp"), (.program, "f"), (.flags, "")] "osc/a.dsp" :=
      ⟨⟨["osc/a.dsp", "--faust", "f", "--args", ""], by rfl, by rfl⟩, rfl⟩
    obtain ⟨invocation, parsed, settled, -⟩ :=
      compile_in_force given source (by decide) held
    refine ⟨invocation, parsed, ?_⟩
    rcases settled with ⟨path, error, last, bad, -⟩ | ⟨base, force, starts⟩
    · have last : some "c.yaml" = some path := last
      cases last
      rw [named] at bad
      cases bad
    · have force : InForce settledSurroundings (some "c.yaml") base := force
      obtain rfl : base = ⟨"faust", ["lib"], "-vec", true⟩ :=
        Except.ok.inj (force.of_named.symm.trans named)
      cases starts with
      | once _ _ launched => exact launched
      | never unprepared =>
          cases unprepared .new rfl with
          | stuck stuck => exact absurd ⟨_, Scratch.clears_new {}⟩ stuck
          | outside outside => exact absurd outside (by decide)
          | unfit clears unfit =>
              rw [clears.unique (Scratch.clears_new {})] at unfit
              exact absurd ⟨by decide, by decide, by decide, by decide⟩ unfit
  · have given : Compiles ["--config", "bad.yaml", "compile", "osc/a.dsp"]
        [(.settingsFile, "bad.yaml")] [(.file, "osc/a.dsp")] "osc/a.dsp" :=
      ⟨⟨["osc/a.dsp"], by rfl, by rfl⟩, rfl⟩
    obtain ⟨invocation, parsed, settled, -⟩ :=
      compile_in_force given source (by decide) held
    refine ⟨invocation, parsed, ?_⟩
    rcases settled with ⟨path, error, last, bad, ended⟩ | ⟨base, force, -⟩
    · have last : some "bad.yaml" = some path := last
      cases last
      rw [broken] at bad
      cases bad
      exact (ended settledSurroundings.homeSettings settledSurroundings.program).1
    · have force : InForce settledSurroundings (some "bad.yaml") base := force
      have good := force.of_named
      rw [broken] at good
      cases good

/-- The include directories that are given before the name of the task are lost if there are some
behind it. -/
theorem not_compile_includes :
    let words := ["-I", "a", "compile", "x.dsp", "-I", "b"]
    let before := [(Slot.includeDir, "a")]
    let behind := [(Slot.file, "x.dsp"), (Slot.includeDir, "b")]
    Compiles words before behind "x.dsp" ∧ values .includeDir (before ++ behind) = ["a", "b"] ∧
      ∃ invocation, parse words = some (.run invocation) ∧
        launches (run (sampleSurroundings [] [123, 125]) invocation).events =
          [("faust", commandText "x" "" ["b"])] ∧
        commandArguments (commandText "x" "" ["b"]) "x" ≠
          commandArguments (commandText "x" "" ["a", "b"]) "x" := by
  refine ⟨⟨⟨["x.dsp", "-I", "b"], by rfl, by rfl⟩, rfl⟩, rfl, _, by rfl, by rfl, by decide⟩

end Precedence

end DspBridge.CommandLine
