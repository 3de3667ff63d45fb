import DspBridge.CommandLine.Run
import DspBridge.Proofs.Host.Refinement
import DspBridge.Proofs.Transformer.Answers

/-!
# Compiling a file and serving a host

The command that compiles one file and the session that is sent the same file first.  The two put
their compilers together on their own, and treat failures in their own ways: the session answers
with what it was given, the command ends with a complaint.  Under the same settings they ask for the
same compilation, so the answer of the session tells what the command writes.
-/

namespace DspBridge.CommandLine

open Host (Carries Cut Outbound Requests Sink)
open Host.Session (lineOf transformAll)

/-! ## Single deeds -/

section Deeds

variable {α β σ : Type} (trail : Trail)

theorem ofExcept_bind_ok {ε : Type} (problem : ε → Problem) {result : Except ε α} {value : α}
    (good : result = .ok value) (next : α → Deed β) :
    (Deed.ofExcept problem result >>= next) = next value := by
  rw [good, Deed.ofExcept, pure_bind]

theorem within_value (state : σ) (action : Action σ α) :
    ((Deed.within state action).run trail).value = (.ok (action state).value, trail) := rfl

theorem put_value (bytes : List UInt8) :
    ((Deed.put bytes).run trail).value =
      (.ok (), { trail with output := trail.output ++ bytes }) := rfl

theorem tell_value (event : Event) : ((Deed.tell event).run trail).value = (.ok (), trail) := rfl

/-- Telling about declarations leaves nothing behind. -/
theorem tellDeclarations_value (descriptor : String) :
    ((tellDeclarations descriptor).run trail).value = (.ok (), trail) := by
  rw [tellDeclarations]
  cases declarationsOf descriptor with
  | error error => rfl
  | ok lines =>
      dsimp only
      induction lines with
      | nil => rfl
      | cons line rest ih =>
          rw [List.forM_eq_forM, List.forM_cons, value_bind_ok _ (tell_value trail _)]
          exact ih

end Deeds

/-! ## The command -/

section Command

variable {surroundings : Surroundings} {settings : Settings} {invocation : Invocation}
  {file filename name text : String} {flags? output? : Option String} {scratch : Scratch}

/-- What programs make of a job: the module that they translate it to, whatever they say about it in
the descriptor, or the error. -/
def translation (program : Program) (scratch : Scratch) (directories : List String) (job : Job) :
    Except CompileError String :=
  (Compiler.perform (Scratch.backend program) job (.new scratch directories)).value.1.map
    Output.translated

/-- The job that the command does. -/
def jobOf (settings : Settings) (name text : String) (flags? : Option String) : Job :=
  ⟨name, text, flags?.getD settings.flags⟩

theorem compileFile_foreign (named : Files.fileName? file = some filename)
    (foreign : unitName? filename = none) (trail : Trail) :
    (compileFile surroundings settings file flags? output?).run trail =
      ⟨(.error (.notSource file), trail), []⟩ := by
  unfold compileFile
  rw [named, Option.getD_some, foreign]
  dsimp only
  rfl

/-- A source file is compiled, and written to the output if that succeeds. -/
theorem compileFile_source (named : Files.fileName? file = some filename)
    (source : unitName? filename = some name) (held : surroundings.readText file = .ok text)
    (made : surroundings.scratch = .ok scratch) (trail : Trail) :
    ((compileFile surroundings settings file flags? none).run trail).value =
      match translation (surroundings.program settings.program) scratch settings.includeDirs
        (jobOf settings name text flags?) with
      | .ok translated =>
          (.ok (), { trail with output := trail.output ++ Text.bytesOf translated })
      | .error error => (.error (.compile error), trail) := by
  have new : makeCompiler surroundings settings = pure (.new scratch settings.includeDirs) := by
    rw [makeCompiler, ofExcept_bind_ok _ made]
  unfold compileFile
  rw [named, Option.getD_some, source]
  dsimp only
  rw [ofExcept_bind_ok _ held, new, pure_bind, value_bind_ok _ (within_value trail _ _),
    translation, jobOf, Compiler.perform, backendOf]
  dsimp only
  cases (Compiler.compile (Scratch.backend (surroundings.program settings.program)) name text
    (flags?.getD settings.flags) (.new scratch settings.includeDirs)).value.1 with
  | error error => rfl
  | ok output =>
      rw [ofExcept_bind_ok _ rfl]
      cases settings.logDeclarations with
      | false => rfl
      | true =>
          rw [if_pos rfl, value_bind_ok _ (tellDeclarations_value trail _)]
          rfl

end Command

/-! ## The session -/

section Session

variable {hosted : Surroundings} {settings : Settings} {scratch : Scratch}

/-- The transformer of a session that is about to begin. -/
def openingTransformer (scratch : Scratch) (settings : Settings) : Transformer Scratch :=
  ⟨.new scratch settings.includeDirs, settings.flags, settings.logDeclarations⟩

theorem openSession_value (made : hosted.scratch = .ok scratch) (trail : Trail) :
    ((openSession hosted settings).run trail).value =
      (.ok ⟨openingTransformer scratch settings, .new none none⟩, trail) := by
  have new : makeCompiler hosted settings = pure (.new scratch settings.includeDirs) := by
    rw [makeCompiler, ofExcept_bind_ok _ made]
  unfold openSession
  rw [new, pure_bind, value_bind_ok _ (tell_value trail _)]
  rfl

/-- A session writes its greeting and its answers. -/
theorem serve_value {lines : List (List UInt8)} {requests : List (String × String)}
    (made : hosted.scratch = .ok scratch) (cut : Cut hosted.input lines)
    (selected : Requests lines requests) (trail : Trail) :
    let answers := (transformAll (backendOf hosted settings) requests
      (openingTransformer scratch settings)).value.1
    ((serve hosted settings).run trail).value =
      (.ok (), { trail with
        output := trail.output ++
          ((Outbound.ready :: answers.map .transformResponse).map lineOf).flatten }) := by
  intro answers
  have whole := Host.Session.run_unlimited (backendOf hosted settings)
    (openingTransformer scratch settings) cut selected
  dsimp only at whole
  unfold serve
  rw [value_bind_ok _ (openSession_value made trail), value_bind_ok _ (within_value trail _ _),
    whole]
  dsimp only
  rw [value_bind_ok _ (put_value trail _)]
  rfl

end Session

/-! ## Agreement -/

/-- The answer to the first request of a session, told by the bytes that the session writes. -/
def FirstAnswer (output : List UInt8) (answer : String) : Prop :=
  ∃ sent others, Cut output sent ∧
    List.Forall₂ Carries sent (.ready :: .transformResponse answer :: others)

/-- How an invocation that writes no files is seen to end: its status, its output, and what it
complains about. -/
def Outcome.Shows (outcome : Outcome) (status : Nat) (output : List UInt8)
    (complaint? : Option String) : Prop :=
  outcome.status = status ∧ outcome.trail = ⟨output, []⟩ ∧ outcome.complaint? = complaint?

section Agreement

variable {surroundings hosted : Surroundings} {invocation serving : Invocation}
  {settings : Settings} {scratch : Scratch} {file filename text : String} {flags? : Option String}

theorem perform_compile {output? : Option String}
    (task : invocation.task = .compile file flags? output?)
    (settled : effectiveSettings surroundings invocation = .ok settings) :
    perform surroundings invocation = compileFile surroundings settings file flags? output? := by
  rw [perform, ofExcept_bind_ok _ settled, task]

theorem perform_serve (task : serving.task = .serve)
    (settled : effectiveSettings hosted serving = .ok settings) :
    perform hosted serving = serve hosted settings := by
  rw [perform, ofExcept_bind_ok _ settled, task]

theorem shows_of_ok {output : List UInt8}
    (done : ((perform surroundings invocation).run ⟨[], []⟩).value = (.ok (), ⟨output, []⟩)) :
    (run surroundings invocation).Shows 0 output none := by
  have problem : (run surroundings invocation).problem? = none := by
    rw [run, done]
  refine ⟨?_, ?_, ?_⟩
  · rw [Outcome.status, problem]
    rfl
  · rw [run, done]
  · rw [Outcome.complaint?, problem]
    rfl

theorem shows_of_error {problem : Problem}
    (failed : ((perform surroundings invocation).run ⟨[], []⟩).value =
      (.error problem, ⟨[], []⟩)) :
    (run surroundings invocation).Shows 1 [] (some s!"faust-cmaj: {problem.message}") := by
  have ended : (run surroundings invocation).problem? = some problem := by
    rw [run, failed]
  refine ⟨?_, ?_, ?_⟩
  · rw [Outcome.status, ended]
    rfl
  · rw [run, failed]
  · rw [Outcome.complaint?, ended]
    rfl

theorem firstAnswer_messages (answer : String) (others : List String) :
    FirstAnswer ((Outbound.ready :: (answer :: others).map .transformResponse).map
      lineOf).flatten answer :=
  ⟨_, others.map .transformResponse, Host.cut_messages _, Host.carries_messages _⟩

/-- A session answers its first request as its opening transformer does. -/
theorem firstAnswer_run {lines : List (List UInt8)} {later : List (String × String)}
    (task : serving.task = .serve)
    (settled : effectiveSettings hosted serving = .ok settings)
    (made : hosted.scratch = .ok scratch) (cut : Cut hosted.input lines)
    (asked : Requests lines ((filename, text) :: later)) :
    FirstAnswer (run hosted serving).trail.output
      (Transformer.transform (backendOf hosted settings) filename text
        (openingTransformer scratch settings)).value.1 := by
  have served := @serve_value hosted settings _ _ _ made cut asked ⟨[], []⟩
  dsimp only at served
  rw [Host.Session.transformAll_cons] at served
  rw [run, perform_serve task settled, served]
  exact firstAnswer_messages _ _

/-- The command that compiles a file and a session that is sent the file first agree, under the same
settings but for the further flags, which the command may be given.  If the file is a source and is
compiled, the command writes the answer of the session.  Otherwise the session answers with the text
that it was sent, and the command writes nothing and complains: with the error of the compilation, or
without having used the program.  What the program says in the descriptor is no part of this; the
two may even get different ones. -/
theorem compile_agrees_with_serve {lines : List (List UInt8)} {later : List (String × String)}
    (task : invocation.task = .compile file flags? none) (other : serving.task = .serve)
    (settled : effectiveSettings surroundings invocation = .ok settings)
    (alike : effectiveSettings hosted serving =
      .ok { settings with flags := flags?.getD settings.flags })
    (made : surroundings.scratch = .ok scratch) (ready : hosted.scratch = .ok scratch)
    (named : Files.fileName? file = some filename) (held : surroundings.readText file = .ok text)
    (cut : Cut hosted.input lines) (asked : Requests lines ((filename, text) :: later))
    (translated : ∀ name, filename = name ++ sourceSuffix →
      translation (surroundings.program settings.program) scratch settings.includeDirs
          (jobOf settings name text flags?) =
        translation (hosted.program settings.program) scratch settings.includeDirs
          (jobOf settings name text flags?)) :
    let once := run surroundings invocation
    let hostSettings := { settings with flags := flags?.getD settings.flags }
    let transformer := openingTransformer scratch hostSettings
    ∃ answer, FirstAnswer (run hosted serving).trail.output answer ∧
      (¬ sourceSuffix.toList <:+ filename.toList →
        answer = text ∧
        once.Shows 1 [] (some s!"faust-cmaj: config error: {file} is not a .dsp file") ∧
        ∀ program, run { surroundings with program } invocation = once) ∧
      (∀ name, filename = name ++ sourceSuffix →
        match (Compiler.perform (backendOf hosted hostSettings) (transformer.jobOf name text)
          transformer.compiler).value.1 with
        | .ok output =>
            answer = output.translated ∧ once.Shows 0 (Text.bytesOf answer) none
        | .error error =>
            answer = text ∧
            once.Shows 1 [] (some s!"faust-cmaj: compile failed: {error.message}")) := by
  intro once hostSettings transformer
  refine ⟨_, firstAnswer_run other alike ready cut asked, ?_, ?_⟩
  · intro foreign
    have source := unitName?_eq_none_iff.mpr foreign
    have ended (program : String → Program) :
        run { surroundings with program } invocation = ⟨⟨[], []⟩, [], some (.notSource file)⟩ := by
      have performed : perform { surroundings with program } invocation =
          compileFile { surroundings with program } settings file flags? none :=
        perform_compile task settled
      rw [run, performed, compileFile_foreign named source]
    have same : once = ⟨⟨[], []⟩, [], some (.notSource file)⟩ := ended surroundings.program
    rw [Transformer.transform_foreign _ source, same]
    exact ⟨rfl, ⟨rfl, rfl, rfl⟩, ended⟩
  · intro name whole
    have source := unitName?_eq_some_iff.mpr whole
    have hostRun : translation (hosted.program settings.program) scratch settings.includeDirs
        (jobOf settings name text flags?) =
        (Compiler.perform (backendOf hosted hostSettings) (transformer.jobOf name text)
          transformer.compiler).value.1.map Output.translated := rfl
    have compiled : ((compileFile surroundings settings file flags? none).run ⟨[], []⟩).value = _ :=
      compileFile_source named source held made ⟨[], []⟩
    rw [← perform_compile task settled, translated name whole, hostRun] at compiled
    rw [Transformer.transform_source _ source]
    cases hostResult : (Compiler.perform (backendOf hosted hostSettings)
        (transformer.jobOf name text) transformer.compiler).value.1 with
    | ok output =>
        rw [hostResult] at compiled
        exact ⟨rfl, shows_of_ok compiled⟩
    | error error =>
        rw [hostResult] at compiled
        exact ⟨rfl, shows_of_error compiled⟩

/-- A program that translates the unit `a` and describes it in some way. -/
def describer (descriptor : List UInt8) : Program :=
  ⟨"faust", fun _ tree =>
    .ok ⟨some ((tree.put ["a.cmajor"] (.file [110])).put ["a.json"] (.file descriptor)), true,
      [], []⟩⟩

/-- Surroundings in which every path leads to the same text. -/
def sampleSurroundings (input descriptor : List UInt8) : Surroundings :=
  ⟨.error .notFound, fun _ => .ok "process = _;", fun _ => .ok (), input, .ok .new,
    fun _ => describer descriptor, fun _ => ""⟩

/-- The command and the session agree on a file, though the session gets a descriptor that breaks
off. -/
theorem compile_agrees_with_serve_broken :
    let hosted := sampleSurroundings (Host.requestLine "a.dsp" "process = _;") [123]
    let once := run (sampleSurroundings [] [123, 125])
      ⟨none, none, ["lib"], .compile "osc/a.dsp" none none⟩
    ∃ answer, FirstAnswer (run hosted ⟨none, none, ["lib"], .serve⟩).trail.output answer ∧
      once.Shows 0 (Text.bytesOf answer) none := by
  intro hosted once
  have cut : Cut hosted.input [Host.requestLine "a.dsp" "process = _;"] := by
    have whole := Cut.requestLine "a.dsp" "process = _;" .nothing
    rwa [List.append_nil] at whole
  have asked : Requests [Host.requestLine "a.dsp" "process = _;"] [("a.dsp", "process = _;")] :=
    .kept (Host.isRequest_requestLine _ _) .nothing
  have translated (name : String) (whole : "a.dsp" = name ++ sourceSuffix) :
      translation (describer [123, 125]) .new ["lib"] ⟨name, "process = _;", ""⟩ =
        translation (describer [123]) .new ["lib"] ⟨name, "process = _;", ""⟩ := by
    have named := unitName?_eq_some_iff.mpr whole
    have unit : unitName? "a.dsp" = some "a" := by decide
    rw [unit, Option.some.injEq] at named
    subst named
    decide
  have done : (Compiler.perform (backendOf hosted ⟨"faust", ["lib"], "", true⟩)
      ⟨"a", "process = _;", ""⟩ (.new .new ["lib"])).value.1 = .ok ⟨"n", "\x7b"⟩ := by rfl
  obtain ⟨answer, first, -, source⟩ := @compile_agrees_with_serve
    (sampleSurroundings [] [123, 125]) hosted
    ⟨none, none, ["lib"], .compile "osc/a.dsp" none none⟩ ⟨none, none, ["lib"], .serve⟩
    ⟨"faust", ["lib"], "", true⟩ .new "osc/a.dsp" "a.dsp" "process = _;" none _ []
    rfl rfl rfl rfl rfl rfl (by decide) rfl cut asked translated
  have agreed := source "a" (by decide)
  rw [openingTransformer] at agreed
  dsimp only [Transformer.jobOf, Option.getD_none] at agreed
  rw [done] at agreed
  exact ⟨answer, first, agreed.2⟩

end Agreement

end DspBridge.CommandLine
