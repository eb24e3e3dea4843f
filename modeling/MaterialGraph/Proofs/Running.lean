import MaterialGraph.Command.Run
import MaterialGraph.Proofs.JsonDocument
import MaterialGraph.Proofs.Saving

/-!
# How a run ends

A run that compiles a graph once ends in one of five ways. Its settings, its log filter or its graph
are rejected; the graph does not compile, which a run without JSON only notes and a run with JSON
also writes; the graph compiles and is written; or what was to be written could not be, to its file
or to the stream of results. The way it ends decides the exit code, the files that are changed and
the text that is printed.
-/

namespace MaterialGraph

/-- The settings that arguments lead to: those of the file that they name, else of the file beside
the graph, else the default ones. -/
def FileTree.settingsFor (t : FileTree) (arguments : Arguments) : Except SettingsError Settings :=
  match arguments.settings with
  | some path => Settings.ofFile path (t.read path)
  | none =>
    if t.isFile (Settings.besides arguments.input) then
      Settings.ofFile (Settings.besides arguments.input) (t.read (Settings.besides arguments.input))
    else .ok .default

namespace Arguments

/-- Where the reply of a run goes: to the file that the arguments name, else to the file in the
directory for shaders that is named after the graph, else to no file, so that it is printed. -/
def destination (arguments : Arguments) (settings : Settings) : Option Path :=
  match arguments.output, settings.outputDirectory, arguments.input.stem? with
  | some path, _, _ => some path
  | none, some directory, some stem => some (directory.join (stem ++ ".wgsl"))
  | none, _, _ => none

/-- The reply is asked for in JSON, by the arguments or by the settings. -/
def asksJson (arguments : Arguments) (settings : Settings) : Bool :=
  arguments.json || settings.emitJsonResult

/-- A graph is checked strictly if the arguments or the settings ask for it. -/
def policy (arguments : Arguments) (settings : Settings) : ValidationPolicy :=
  if arguments.strict || settings.strictValidation then .strict else .permissive

/-- What one compilation does is what its arguments and its settings ask for. -/
theorem options_eq (arguments : Arguments) (settings : Settings) :
    CompileOptions.of arguments settings =
      ⟨arguments.input, arguments.destination settings, arguments.policy settings,
        arguments.asksJson settings⟩ := by
  have houtput : (arguments.output <|> settings.outputPath? arguments.input) =
      arguments.destination settings := by
    unfold destination Settings.outputPath?
    cases arguments.output with
    | some path => rfl
    | none =>
      cases settings.outputDirectory with
      | none => rfl
      | some directory => cases arguments.input.stem? <;> rfl
  have hpolicy : (if arguments.strict then .strict else settings.policy) =
      arguments.policy settings := by
    unfold policy Settings.policy
    cases arguments.strict <;> rfl
  rw [CompileOptions.of, houtput, hpolicy, asksJson]

end Arguments

namespace Session

/-- What a session has printed, as one text. -/
def printed (s : Session) : String :=
  String.join (s.output.map (· ++ "\n"))

/-- No file was created or changed and nothing was printed. -/
structure Undisturbed (s after : Session) : Prop where
  files : s.tree.SameFiles after.tree
  output : after.output = s.output

/-- A text can be saved as the file to which a path leads, or be printed if there is no path. While
lines of results are taken, only a path can stand in the way. -/
def CanDeliver (s : Session) : Option Path → Prop
  | some path => s.tree.CanSave path
  | none => s.printing = .ok ()

/-- A text was saved as the file to which a path leads, or was printed if there is no path, and
nothing else happened to the files and the output. -/
def Delivered (s : Session) (destination : Option Path) (text : String) (after : Session) : Prop :=
  match destination with
  | some path => s.tree.Saved path text.toUTF8 after.tree ∧ after.output = s.output
  | none => s.tree.SameFiles after.tree ∧ after.output = s.output ++ [text]

/-- Sessions with the same output have printed the same. -/
theorem printed_eq {s after : Session} (h : after.output = s.output) :
    after.printed = s.printed := by
  rw [printed, h, printed]

/-- A further line of output is printed with the end of a line after it. -/
theorem printed_append {s after : Session} {text : String}
    (h : after.output = s.output ++ [text]) : after.printed = s.printed ++ text ++ "\n" := by
  rw [printed, h, printed, List.map_append, String.join_append]
  simp [String.join_cons, String.append_assoc]

end Session

namespace Command

/-- There is a log filter: the environment gives a good one, or the settings do. -/
def HasFilter (environment : Option String) (settings : Settings) : Prop :=
  (∃ text ∈ environment, (LogFilter.ofText text).isOk = true) ∨
    (LogFilter.ofText settings.logFilter).isOk = true

/-- The file of a graph is read, and its document accepted, as arguments and settings ask. -/
def Loads (t : FileTree) (arguments : Arguments) (settings : Settings) (graph : Graph) : Prop :=
  (Document.loadFile arguments.input (t.read arguments.input) Catalog.standard
    (arguments.policy settings)).result = .ok graph

/-- A run accepts its settings, its log filter and its graph. -/
structure Accepts (environment : Option String) (arguments : Arguments) (t : FileTree)
    (settings : Settings) (graph : Graph) : Prop where
  settings_eq : t.settingsFor arguments = .ok settings
  filter : HasFilter environment settings
  loads : Loads t arguments settings graph

/-- What a run has to write for the outcome of compiling: the shader, or in JSON a text that reads
back as the shader or as the message of the error. -/
def IsReply : Bool → Except CompileError String → String → Prop
  | false, outcome, text => outcome = .ok text
  | true, .ok code, text => readJson? CompileResult.decode text = some ⟨code, none⟩
  | true, .error e, text => readJson? CompileResult.decode text = some ⟨"", some e.message⟩

/-- What a run can do from a session, by the settings and the graph that it accepts: its exit code,
and the session afterwards. -/
inductive Ending (arguments : Arguments) (accepts : Settings → Graph → Prop) (s : Session) :
    UInt8 → Session → Prop
  | rejected {after : Session} (reject : ∀ settings graph, ¬accepts settings graph)
      (still : s.Undisturbed after) : Ending arguments accepts s 2 after
  | uncompiled {settings : Settings} {graph : Graph} {e : CompileError} {after : Session}
      (accept : accepts settings graph) (plain : arguments.asksJson settings = false)
      (failed : graph.compile Catalog.standard = .error e)
      (still : s.Undisturbed after) : Ending arguments accepts s 1 after
  | reported {settings : Settings} {graph : Graph} {e : CompileError} {text : String}
      {after : Session} (accept : accepts settings graph)
      (json : arguments.asksJson settings = true)
      (failed : graph.compile Catalog.standard = .error e)
      (reply : IsReply (arguments.asksJson settings) (.error e) text)
      (deliverable : s.CanDeliver (arguments.destination settings))
      (delivered : s.Delivered (arguments.destination settings) text after) :
      Ending arguments accepts s 1 after
  | compiled {settings : Settings} {graph : Graph} {code text : String} {after : Session}
      (accept : accepts settings graph)
      (succeeded : graph.compile Catalog.standard = .ok code)
      (reply : IsReply (arguments.asksJson settings) (.ok code) text)
      (deliverable : s.CanDeliver (arguments.destination settings))
      (delivered : s.Delivered (arguments.destination settings) text after) :
      Ending arguments accepts s 0 after
  | unwritten {settings : Settings} {graph : Graph} {after : Session}
      (accept : accepts settings graph)
      (replies : arguments.asksJson settings = false →
        (graph.compile Catalog.standard).isOk = true)
      (undeliverable : ¬s.CanDeliver (arguments.destination settings))
      (still : s.Undisturbed after) : Ending arguments accepts s 2 after

/-! ### One step after the other -/

section Steps

variable (filter : LogFilter) {s : Session}

/-- A step that is known leaves what comes after it, in the session that it leads to. -/
theorem run_bind_of_run {α β : Type} {step : StateM Session α} {next : α → StateM Session β}
    {a : α} {after : Session} (h : step.run s = (a, after)) :
    (step >>= next).run s = (next a).run after := by
  rw [StateT.run_bind, h]
  rfl

/-- A file is read from the tree of the session. -/
theorem run_readFile (s : Session) (path : Path) :
    (Host.readFile path : StateM Session _).run s = (s.tree.read path, s) :=
  rfl

/-- Files are told from other places by the tree of the session. -/
theorem run_isFile (s : Session) (path : Path) :
    (Host.isFile path : StateM Session _).run s = (s.tree.isFile path, s) :=
  rfl

/-- Directories are made in the tree of the session. -/
theorem run_makeDirectories (s : Session) (path : Path) :
    (Host.makeDirectories path : StateM Session _).run s =
      s.change fun tree => tree.makeDirectories path :=
  rfl

/-- A file is written to the tree of the session. -/
theorem run_writeFile (s : Session) (path : Path) (text : String) :
    (Host.writeFile path text : StateM Session _).run s =
      s.change fun tree => tree.write path text.toUTF8 :=
  rfl

/-- A line is printed to the output of the session. -/
theorem run_print (s : Session) (text : String) :
    (Host.print text : StateM Session _).run s = s.addLine text :=
  rfl

/-- Showing an event adds to the diagnostics at most. -/
theorem run_log (s : Session) (event : LogEvent) :
    ∃ diagnostics,
      (log filter event : StateM Session Unit).run s = ((), { s with diagnostics }) := by
  rw [log]
  split
  · exact ⟨_, rfl⟩
  · exact ⟨s.diagnostics, rfl⟩

/-- Showing events adds to the diagnostics at most. -/
theorem run_logAll (s : Session) (events : List LogEvent) :
    ∃ diagnostics,
      (logAll filter events : StateM Session Unit).run s = ((), { s with diagnostics }) := by
  induction events generalizing s with
  | nil => exact ⟨s.diagnostics, rfl⟩
  | cons event rest ih =>
    obtain ⟨first, hfirst⟩ := run_log filter s event
    obtain ⟨diagnostics, hrest⟩ := ih { s with diagnostics := first }
    refine ⟨diagnostics, ?_⟩
    rw [logAll, run_bind_of_run hfirst, hrest]

/-- Settings are loaded from a file of the session. -/
theorem run_loadSettings (s : Session) (path : Path) :
    (loadSettings path : StateM Session _).run s =
      (Settings.ofFile path (s.tree.read path), s) := by
  rw [loadSettings, run_bind_of_run (run_readFile s path)]
  rfl

/-- The settings that a run finds are those to which its arguments lead. -/
theorem run_discoverSettings (s : Session) (arguments : Arguments) :
    (discoverSettings arguments.input arguments.settings : StateM Session _).run s =
      (s.tree.settingsFor arguments, s) := by
  simp only [FileTree.settingsFor, discoverSettings]
  cases arguments.settings with
  | some path => exact run_loadSettings s path
  | none =>
    simp only [run_bind_of_run (run_isFile s _)]
    split
    · exact run_loadSettings s _
    · rfl

/-- What writing a text to a destination can do. -/
inductive Emitted (s : Session) (destination : Option Path) (text : String) :
    Except RunError Unit → Session → Prop
  | written {after : Session} (deliverable : s.CanDeliver destination)
      (delivered : s.Delivered destination text after) : Emitted s destination text (.ok ()) after
  | refused {e : RunError} {after : Session} (undeliverable : ¬s.CanDeliver destination)
      (code : e.exitCode = 2) (still : s.Undisturbed after) :
      Emitted s destination text (.error e) after

/-- A choice between two steps that lead on in the same way. -/
theorem run_ite_bind_of_run {α β : Type} {c : Prop} [Decidable c] {step other : StateM Session α}
    {next : α → StateM Session β} {a : α} {after : Session}
    (h : (if c then step else other).run s = (a, after)) :
    (if c then step >>= next else other >>= next).run s = (next a).run after := by
  by_cases hc : c
  · rw [if_pos hc] at h ⊢
    exact run_bind_of_run h
  · rw [if_neg hc] at h ⊢
    exact run_bind_of_run h

/-- The directory that a path lies in is made in the tree of the session. -/
theorem run_makeAround (s : Session) (path : Path) :
    (if (path.parent?.getD "").isEmpty then pure (.ok ())
      else Host.makeDirectories (path.parent?.getD "") : StateM Session _).run s =
      s.change fun tree => tree.makeAround path := by
  by_cases hempty : (path.parent?.getD "").isEmpty = true
  · simp only [FileTree.makeAround, if_pos hempty]
    rfl
  · simp only [FileTree.makeAround, if_neg hempty, run_makeDirectories]

/-- A text without a path is printed, unless the stream of results refuses it. -/
theorem run_emit_none (s : Session) (text : String) :
    ∃ result after, (emit filter none text : StateM Session _).run s = (result, after) ∧
      Emitted s none text result after := by
  have hprint := run_print s text
  rw [emit]
  cases hprinting : s.printing with
  | error fault =>
    rw [Session.addLine, hprinting] at hprint
    rw [run_bind_of_run hprint]
    refine ⟨_, _, rfl, .refused ?_ rfl ⟨.refl s.tree, rfl⟩⟩
    simp [Session.CanDeliver, hprinting]
  | ok =>
    rw [Session.addLine, hprinting] at hprint
    rw [run_bind_of_run hprint]
    exact ⟨_, _, rfl, .written hprinting (⟨.refl s.tree, rfl⟩ : _ ∧ _)⟩

/-- A text with a path is saved there, unless its directory cannot be made or its file not be
written. -/
theorem run_emit_some (s : Session) (path : Path) (text : String) :
    ∃ result after, (emit filter (some path) text : StateM Session _).run s = (result, after) ∧
      Emitted s (some path) text result after := by
  have hmake := run_makeAround s path
  rw [emit]
  cases hmade : s.tree.makeAround path with
  | error fault =>
    rw [Session.change, hmade] at hmake
    rw [run_ite_bind_of_run hmake]
    refine ⟨_, _, rfl, .refused ?_ rfl ⟨.refl s.tree, rfl⟩⟩
    rintro ⟨made, hok, -⟩
    cases hmade.symm.trans hok
  | ok made =>
    rw [Session.change, hmade] at hmake
    rw [run_ite_bind_of_run hmake]
    have hkept := FileTree.sameFiles_makeAround hmade
    have hput := run_writeFile { s with tree := made } path text
    cases hwrite : made.write path text.toUTF8 with
    | error fault =>
      simp only [Session.change, hwrite] at hput
      simp only [run_bind_of_run hput]
      refine ⟨_, _, rfl, .refused ?_ rfl ⟨hkept, rfl⟩⟩
      rintro ⟨made', hok, hany⟩
      obtain rfl : made = made' := Except.ok.inj (hmade.symm.trans hok)
      obtain ⟨after, hafter⟩ := hany text.toUTF8
      cases hwrite.symm.trans hafter
    | ok after =>
      simp only [Session.change, hwrite] at hput
      simp only [run_bind_of_run hput]
      obtain ⟨diagnostics, hlog⟩ := run_log filter { s with tree := after }
        ⟨.info, stepTarget,
          "Wrote " ++ countText text.utf8ByteSize ++ " bytes to " ++ quotedInMessage path⟩
      rw [run_bind_of_run hlog]
      have hsaved := hkept.saved (FileTree.saved_of_write hwrite)
      exact ⟨_, _, rfl, .written ⟨made, hmade, FileTree.exists_write hwrite⟩
        (⟨hsaved, rfl⟩ : _ ∧ _)⟩

/-- A text is written to its destination exactly if it can be delivered there. -/
theorem run_emit (s : Session) (destination : Option Path) (text : String) :
    ∃ result after, (emit filter destination text : StateM Session _).run s = (result, after) ∧
      Emitted s destination text result after := by
  cases destination with
  | none => exact run_emit_none filter s text
  | some path => exact run_emit_some filter s path text

/-- The exit code of a run that has come to a result. -/
def exitCodeOf : Except RunError Unit → UInt8
  | .ok () => 0
  | .error e => e.exitCode

/-- Diagnostics before and after a step do not count for how it ends. -/
theorem Ending.noted {arguments : Arguments} {accepts : Settings → Graph → Prop}
    {first : List String} {code : UInt8} {after : Session}
    (h : Ending arguments accepts { s with diagnostics := first } code after)
    (last : List String) : Ending arguments accepts s code { after with diagnostics := last } := by
  cases h with
  | rejected reject still => exact .rejected reject ⟨still.files, still.output⟩
  | uncompiled accept plain failed still =>
    exact .uncompiled accept plain failed ⟨still.files, still.output⟩
  | reported accept json failed reply deliverable delivered =>
    exact .reported accept json failed reply deliverable delivered
  | compiled accept succeeded reply deliverable delivered =>
    exact .compiled accept succeeded reply deliverable delivered
  | unwritten accept replies undeliverable still =>
    exact .unwritten accept replies undeliverable ⟨still.files, still.output⟩

/-- The JSON text of an outcome is a reply in JSON. -/
theorem isReply_spreadString (outcome : Except CompileError String) :
    IsReply true outcome (Json.spreadString (CompileResult.ofOutcome outcome).encode) := by
  cases outcome <;> exact CompileResult.readJson?_spreadString _

/-- Writing the outcome of compiling ends a run that accepts the settings and the graph. -/
theorem run_emitOutcome (s : Session) (arguments : Arguments) (accepts : Settings → Graph → Prop)
    {settings : Settings} {graph : Graph} (haccepts : accepts settings graph) :
    ∃ result after,
      (emitOutcome filter (.of arguments settings) (graph.compile Catalog.standard) :
        StateM Session _).run s = (result, after) ∧
      Ending arguments accepts s (exitCodeOf result) after := by
  unfold emitOutcome
  simp only [arguments.options_eq]
  cases hjson : arguments.asksJson settings with
  | true =>
    have hreply := isReply_spreadString (graph.compile Catalog.standard)
    rw [← hjson] at hreply
    obtain ⟨emitted, after, hemit, hends⟩ := run_emit filter s (arguments.destination settings)
      (Json.spreadString (CompileResult.ofOutcome (graph.compile Catalog.standard)).encode)
    simp only [if_true, run_bind_of_run hemit]
    cases hends with
    | @refused e _ undeliverable code still =>
      refine ⟨.error e, after, rfl, ?_⟩
      rw [exitCodeOf, code]
      exact .unwritten haccepts (by simp [hjson]) undeliverable still
    | written deliverable delivered =>
      refine ⟨_, after, rfl, ?_⟩
      cases hcompile : graph.compile Catalog.standard with
      | error e =>
        rw [hcompile] at hreply delivered
        exact .reported haccepts hjson hcompile hreply deliverable delivered
      | ok code =>
        rw [hcompile] at hreply delivered
        exact .compiled haccepts hcompile hreply deliverable delivered
  | false =>
    cases hcompile : graph.compile Catalog.standard with
    | error e =>
      exact ⟨_, s, rfl, .uncompiled haccepts hjson hcompile ⟨.refl s.tree, rfl⟩⟩
    | ok code =>
      have hreply : IsReply (arguments.asksJson settings) (.ok code) code := by
        rw [hjson]
        rfl
      obtain ⟨emitted, after, hemit, hends⟩ :=
        run_emit filter s (arguments.destination settings) code
      refine ⟨emitted, after, hemit, ?_⟩
      cases hends with
      | @refused e _ undeliverable code still =>
        rw [exitCodeOf, code]
        exact .unwritten haccepts (by simp [hcompile, Except.isOk, Except.toBool]) undeliverable
          still
      | written deliverable delivered =>
        exact .compiled haccepts hcompile hreply deliverable delivered

/-- Compiling once ends a run that has accepted its settings. -/
theorem run_compileOnce (s : Session) (arguments : Arguments) (settings : Settings) :
    ∃ result after,
      (compileOnce filter (.of arguments settings) : StateM Session _).run s = (result, after) ∧
      Ending arguments (fun other graph => other = settings ∧ Loads s.tree arguments other graph) s
        (exitCodeOf result) after := by
  obtain ⟨warned, hwarned⟩ := run_logAll filter s ((Document.loadFile arguments.input
    (s.tree.read arguments.input) Catalog.standard (arguments.policy settings)).events.map
      LoadEvent.toLog)
  have hinput : (CompileOptions.of arguments settings).input = arguments.input := rfl
  have hpolicy : (CompileOptions.of arguments settings).policy = arguments.policy settings := by
    rw [arguments.options_eq]
  rw [compileOnce, hinput, run_bind_of_run (run_readFile s arguments.input), hpolicy,
    run_bind_of_run hwarned]
  cases hloaded : (Document.loadFile arguments.input (s.tree.read arguments.input) Catalog.standard
    (arguments.policy settings)).result with
  | error fault =>
    refine ⟨_, _, rfl, .rejected ?_ ⟨.refl s.tree, rfl⟩⟩
    rintro _ graph ⟨rfl, hloads⟩
    cases hloaded.symm.trans hloads
  | ok graph =>
    obtain ⟨noted, hnoted⟩ := run_log filter { s with diagnostics := warned } ⟨.debug, stepTarget,
      "Compiling graph '" ++ graph.name ++ "' (" ++ countText graph.nodes.size ++ " nodes)"⟩
    obtain ⟨result, after, hrun, hends⟩ := run_emitOutcome filter { s with diagnostics := noted }
      arguments (fun other graph => other = settings ∧ Loads s.tree arguments other graph)
      ⟨rfl, hloaded⟩
    refine ⟨result, after, ?_, hends.noted _⟩
    rw [run_bind_of_run hnoted, hrun]

/-- A run exits with the code of its result, whose error is only noted. -/
theorem run_conclude (s : Session) (result : Except RunError Unit) :
    ∃ diagnostics, (conclude filter result : StateM Session Next).run s =
      (.exit (exitCodeOf result), { s with diagnostics }) := by
  cases result with
  | ok => exact ⟨s.diagnostics, rfl⟩
  | error e =>
    obtain ⟨diagnostics, hlog⟩ := run_log filter s ⟨.error, runTarget, e.message⟩
    refine ⟨diagnostics, ?_⟩
    rw [conclude, fail, run_bind_of_run hlog]
    rfl

/-- A run that has settings and a log filter, and does not watch, compiles once and exits. -/
theorem run_compileWith (s : Session) {arguments : Arguments} (hwatch : arguments.watch = false)
    (settings : Settings) :
    ∃ code after,
      (compileWith filter arguments settings : StateM Session Next).run s = (.exit code, after) ∧
        Ending arguments
          (fun other graph => other = settings ∧ Loads s.tree arguments other graph)
          s code after := by
  obtain ⟨started, hstarted⟩ := run_log filter s
    ⟨.info, runTarget, "Starting ordoplay_shaderc v0.1.0"⟩
  obtain ⟨result, after, hrun, hends⟩ := run_compileOnce filter { s with diagnostics := started }
    arguments settings
  obtain ⟨diagnostics, hconclude⟩ := run_conclude filter after result
  refine ⟨exitCodeOf result, { after with diagnostics }, ?_, hends.noted _⟩
  rw [compileWith, run_bind_of_run hstarted]
  simp only [hwatch, Bool.false_eq_true, if_false]
  rw [run_bind_of_run hrun, hconclude]

end Steps

/-- A log filter is chosen exactly if there is one. -/
theorem exists_chooseFilter_iff (environment : Option String) (settings : Settings) :
    (∃ filter, chooseFilter environment settings = .ok filter) ↔
      HasFilter environment settings := by
  cases environment with
  | none => simp [chooseFilter, HasFilter, exists_eq_ok_iff]
  | some text =>
    cases hread : LogFilter.ofText text with
    | error e => simp [chooseFilter, HasFilter, hread, exists_eq_ok_iff, Except.isOk, Except.toBool]
    | ok filter => simp [chooseFilter, HasFilter, hread, Except.isOk, Except.toBool]

/-- A run that does not watch exits in one of the ways in which a run can end. -/
theorem run_compileGraph (environment : Option String) {arguments : Arguments}
    (hwatch : arguments.watch = false) (s : Session) :
    ∃ code after,
      (compileGraph environment arguments : StateM Session Next).run s = (.exit code, after) ∧
        Ending arguments (Accepts environment arguments s.tree) s code after := by
  have hfilters := exists_chooseFilter_iff environment
  rw [compileGraph, run_bind_of_run (run_discoverSettings s arguments)]
  cases hsettings : s.tree.settingsFor arguments with
  | error e =>
    refine ⟨_, _, rfl, .rejected ?_ ⟨.refl s.tree, rfl⟩⟩
    intro settings graph haccepts
    cases hsettings.symm.trans haccepts.settings_eq
  | ok settings =>
    cases hchoose : chooseFilter environment settings with
    | error e =>
      simp only [hchoose]
      refine ⟨_, _, rfl, .rejected ?_ ⟨.refl s.tree, rfl⟩⟩
      intro other graph haccepts
      obtain rfl := Except.ok.inj (hsettings.symm.trans haccepts.settings_eq)
      obtain ⟨filter, hfilter⟩ := (hfilters settings).mpr haccepts.filter
      cases hchoose.symm.trans hfilter
    | ok filter =>
      have hfilter := (hfilters settings).mp ⟨filter, hchoose⟩
      have haccepts : Accepts environment arguments s.tree =
          fun other graph => other = settings ∧ Loads s.tree arguments other graph := by
        funext other graph
        apply propext
        constructor
        · intro h
          exact ⟨Except.ok.inj (h.settings_eq.symm.trans hsettings), h.loads⟩
        · rintro ⟨rfl, hloads⟩
          exact ⟨hsettings, hfilter, hloads⟩
      simp only [hchoose]
      rw [haccepts]
      exact run_compileWith filter s hwatch settings

/-! ### What the ending decides -/

/-- The settings and the graph that a run accepts are the only ones. -/
theorem accepts_unique {environment : Option String} {arguments : Arguments} {t : FileTree}
    {settings settings' : Settings} {graph graph' : Graph}
    (h : Accepts environment arguments t settings graph)
    (h' : Accepts environment arguments t settings' graph') :
    settings = settings' ∧ graph = graph' := by
  obtain rfl := Except.ok.inj (h.settings_eq.symm.trans h'.settings_eq)
  exact ⟨rfl, Except.ok.inj (h.loads.symm.trans h'.loads)⟩

namespace Ending

variable {arguments : Arguments} {accepts : Settings → Graph → Prop} {s after : Session}
  {code : UInt8}

/-- A run exits with 0, 1 or 2. -/
theorem code_mem (h : Ending arguments accepts s code after) : code = 0 ∨ code = 1 ∨ code = 2 := by
  cases h <;> simp

section Unique

variable (hunique : ∀ {settings settings' graph graph'}, accepts settings graph →
  accepts settings' graph' → settings = settings' ∧ graph = graph')

include hunique

/-- If the exit code is 2, or if it is 1 and the result was not asked for in JSON, nothing is
left behind. -/
theorem undisturbed (h : Ending arguments accepts s code after)
    (hcode : code = 2 ∨ code = 1 ∧ ∃ settings graph, accepts settings graph ∧
      arguments.asksJson settings = false) :
    s.Undisturbed after := by
  cases h with
  | rejected _ still => exact still
  | uncompiled _ _ _ still => exact still
  | unwritten _ _ _ still => exact still
  | compiled => simp at hcode
  | reported accept json =>
    obtain ⟨settings, graph, haccepts, hjson⟩ := hcode.resolve_left (by decide) |>.2
    obtain ⟨rfl, rfl⟩ := hunique accept haccepts
    simp [json] at hjson

/-- The exit code is 1 exactly if all is accepted, the graph does not compile, and a reply in JSON
can be delivered. -/
theorem code_eq_one_iff (h : Ending arguments accepts s code after) :
    code = 1 ↔ ∃ settings graph e, accepts settings graph ∧
      graph.compile Catalog.standard = .error e ∧
        (arguments.asksJson settings = true → s.CanDeliver (arguments.destination settings)) := by
  constructor
  · intro hcode
    cases h with
    | rejected => simp at hcode
    | unwritten => simp at hcode
    | compiled => simp at hcode
    | uncompiled accept plain failed => exact ⟨_, _, _, accept, failed, by simp [plain]⟩
    | reported accept _ failed _ deliverable =>
      exact ⟨_, _, _, accept, failed, fun _ => deliverable⟩
  · rintro ⟨settings, graph, e, haccepts, hfailed, hdeliverable⟩
    cases h with
    | rejected reject => exact absurd haccepts (reject settings graph)
    | uncompiled => rfl
    | reported => rfl
    | compiled accept succeeded =>
      obtain ⟨rfl, rfl⟩ := hunique accept haccepts
      cases succeeded.symm.trans hfailed
    | unwritten accept replies undeliverable =>
      obtain ⟨rfl, rfl⟩ := hunique accept haccepts
      refine absurd (hdeliverable ?_) undeliverable
      by_contra hplain
      simpa [hfailed, Except.isOk, Except.toBool] using replies (Bool.not_eq_true _ |>.mp hplain)

/-- The exit code is 0 exactly if all is accepted, the graph compiles, and the reply can be
delivered. -/
theorem code_eq_zero_iff (h : Ending arguments accepts s code after) :
    code = 0 ↔ ∃ settings graph shader, accepts settings graph ∧
      graph.compile Catalog.standard = .ok shader ∧
        s.CanDeliver (arguments.destination settings) := by
  constructor
  · intro hcode
    cases h with
    | compiled accept succeeded _ deliverable => exact ⟨_, _, _, accept, succeeded, deliverable⟩
    | _ => simp at hcode
  · rintro ⟨settings, graph, shader, haccepts, hsucceeded, hdeliverable⟩
    cases h with
    | compiled => rfl
    | rejected reject => exact absurd haccepts (reject settings graph)
    | uncompiled accept _ failed =>
      obtain ⟨rfl, rfl⟩ := hunique accept haccepts
      cases failed.symm.trans hsucceeded
    | reported accept _ failed =>
      obtain ⟨rfl, rfl⟩ := hunique accept haccepts
      cases failed.symm.trans hsucceeded
    | unwritten accept _ undeliverable =>
      obtain ⟨rfl, rfl⟩ := hunique accept haccepts
      exact absurd hdeliverable undeliverable

/-- If the exit code is 0, or if it is 1 and the result was asked for in JSON, the reply is
delivered. -/
theorem delivered (h : Ending arguments accepts s code after)
    {settings : Settings} {graph : Graph} (haccepts : accepts settings graph)
    (hcode : code = 0 ∨ code = 1 ∧ arguments.asksJson settings = true) :
    ∃ text, IsReply (arguments.asksJson settings) (graph.compile Catalog.standard) text ∧
      s.Delivered (arguments.destination settings) text after := by
  cases h with
  | rejected => simp at hcode
  | unwritten => simp at hcode
  | uncompiled accept plain =>
    obtain ⟨rfl, rfl⟩ := hunique accept haccepts
    simp [plain] at hcode
  | reported accept _ failed reply _ delivered =>
    obtain ⟨rfl, rfl⟩ := hunique accept haccepts
    exact ⟨_, failed ▸ reply, delivered⟩
  | compiled accept succeeded reply _ delivered =>
    obtain ⟨rfl, rfl⟩ := hunique accept haccepts
    exact ⟨_, succeeded ▸ reply, delivered⟩

end Unique

end Ending

/-- A run that compiles a graph once exits. The code is 1 if its inputs are accepted, the graph does
not compile, and a reply in JSON can be delivered; it is 0 if they are accepted, the graph compiles
and the reply can be delivered; else it is 2. With 2, and with 1 outside JSON, no file is created or
changed and nothing is printed. Otherwise the reply stands in the file that is its destination, and
no other file is created or changed, or it is printed as a line if it has no file. -/
theorem run_ends {line : List String} {arguments : Arguments}
    (hline : ofArguments line = .ok (.compile arguments)) (hwatch : arguments.watch = false)
    (hinit : arguments.initSettings = false) (environment : Option String) (s : Session) :
    ∃ code after,
      (run environment line : StateM Session Next).run s = (.exit code, after) ∧
      (code = 1 ↔ ∃ settings graph e, Accepts environment arguments s.tree settings graph ∧
        graph.compile Catalog.standard = .error e ∧
          (arguments.asksJson settings = true →
            s.CanDeliver (arguments.destination settings))) ∧
      (code = 0 ↔ ∃ settings graph shader, Accepts environment arguments s.tree settings graph ∧
        graph.compile Catalog.standard = .ok shader ∧
          s.CanDeliver (arguments.destination settings)) ∧
      (code = 0 ∨ code = 1 ∨ code = 2) ∧
      (code = 2 ∨ (code = 1 ∧ ∃ settings graph,
          Accepts environment arguments s.tree settings graph ∧
            arguments.asksJson settings = false) →
        s.tree.SameFiles after.tree ∧ after.printed = s.printed) ∧
      ∀ settings graph, Accepts environment arguments s.tree settings graph →
        code = 0 ∨ (code = 1 ∧ arguments.asksJson settings = true) →
          ∃ text, IsReply (arguments.asksJson settings) (graph.compile Catalog.standard) text ∧
            match arguments.destination settings with
            | some path => s.tree.Saved path text.toUTF8 after.tree ∧ after.printed = s.printed
            | none => s.tree.SameFiles after.tree ∧
                after.printed = s.printed ++ text ++ "\n" := by
  obtain ⟨code, after, hrun, hends⟩ := run_compileGraph environment hwatch s
  refine ⟨code, after, ?_, hends.code_eq_one_iff accepts_unique,
    hends.code_eq_zero_iff accepts_unique, hends.code_mem, ?_, ?_⟩
  · rw [run, hline]
    simpa only [hinit, Bool.false_eq_true, if_false] using hrun
  · intro hcode
    obtain ⟨hfiles, houtput⟩ := hends.undisturbed accepts_unique hcode
    exact ⟨hfiles, Session.printed_eq houtput⟩
  · intro settings graph haccepts hcode
    obtain ⟨text, hreply, hdelivered⟩ := hends.delivered accepts_unique haccepts hcode
    refine ⟨text, hreply, ?_⟩
    cases hdestination : arguments.destination settings with
    | some path =>
      rw [hdestination] at hdelivered
      exact ⟨hdelivered.1, Session.printed_eq hdelivered.2⟩
    | none =>
      rw [hdestination] at hdelivered
      exact ⟨hdelivered.1, Session.printed_append hdelivered.2⟩

/-- A tree with a graph without nodes, a graph that compiles, and settings with a directory for
shaders. -/
def workshop : FileTree :=
  ⟨[], [(["empty.ron"], .file "(name: \"Empty\")".toUTF8),
    (["metal.ron"], .file ("(name: \"Metal\", nodes: [" ++
      "(id: \"00000000-0000-0000-0000-000000000001\", kind: \"pbr_output\")])").toUTF8),
    (["shaders.ron"], .file "(output_dir: Some(\"out\"))".toUTF8)]⟩

/-- A session in the workshop whose results nobody reads. -/
def unread : Session :=
  { Session.start workshop "/" with printing := .error (.other "Broken pipe (os error 32)") }

/-- The arguments that ask for a reply in JSON about the graph without nodes. -/
def reportEmpty : Arguments :=
  ⟨"empty.ron", some "out/empty.json", none, false, true, false, false⟩

/-- The arguments that name the other graph, and possibly a settings file. -/
def compileMetal (settings : Option Path) : Arguments :=
  ⟨"metal.ron", none, settings, false, false, false, false⟩

/-- The default settings with a directory for shaders. -/
def shaderSettings : Settings :=
  { Settings.default with outputDirectory := some "out" }

/-- The graph without nodes is accepted and does not compile. -/
theorem accepts_reportEmpty :
    ∃ graph, Accepts none reportEmpty workshop .default graph ∧
      graph.compile Catalog.standard = .error .noOutputNode := by
  have hfails : (Document.loadFile "empty.ron" (workshop.read "empty.ron") Catalog.standard
      .permissive).result.map (·.compile Catalog.standard) = .ok (.error .noOutputNode) := by
    decide +kernel
  obtain ⟨graph, hgraph⟩ := exists_eq_ok_of_isOk (x := (Document.loadFile "empty.ron"
    (workshop.read "empty.ron") Catalog.standard .permissive).result) (by decide +kernel)
  rw [hgraph] at hfails
  exact ⟨graph, ⟨by decide +kernel, .inr (by decide +kernel), hgraph⟩, Except.ok.inj hfails⟩

/-- The other graph is accepted with the default settings and with a directory for shaders, and it
compiles. -/
theorem accepts_compileMetal :
    ∃ graph shader, Accepts none (compileMetal none) workshop .default graph ∧
      Accepts none (compileMetal (some "shaders.ron")) workshop shaderSettings graph ∧
        graph.compile Catalog.standard = .ok shader := by
  have hcompiles : (Document.loadFile "metal.ron" (workshop.read "metal.ron") Catalog.standard
      .permissive).result.map (fun graph => (graph.compile Catalog.standard).isOk) = .ok true := by
    decide +kernel
  obtain ⟨graph, hgraph⟩ := exists_eq_ok_of_isOk (x := (Document.loadFile "metal.ron"
    (workshop.read "metal.ron") Catalog.standard .permissive).result) (by decide +kernel)
  rw [hgraph] at hcompiles
  obtain ⟨shader, hshader⟩ := exists_eq_ok_of_isOk (Except.ok.inj hcompiles)
  exact ⟨graph, shader, ⟨by decide +kernel, .inr (by decide +kernel), hgraph⟩,
    ⟨by decide +kernel, .inr (by decide +kernel), hgraph⟩, hshader⟩

/-- In the workshop, a graph that does not compile leaves the message of the error in the file for
its reply in JSON. A graph that compiles is printed, or saved in the directory for shaders if the
settings name one. If it cannot be printed, the exit code is 2 and nothing is left behind. -/
theorem run_ends_workshop :
    (∃ after text,
      (run none ["empty.ron", "--json", "-o", "out/empty.json"] : StateM Session Next).run
        (.start workshop "/") = (.exit 1, after) ∧
      readJson? CompileResult.decode text = some ⟨"", some CompileError.noOutputNode.message⟩ ∧
      workshop.Saved "out/empty.json" text.toUTF8 after.tree ∧ after.printed = "") ∧
    ∃ graph shader, (Document.loadFile "metal.ron" (workshop.read "metal.ron") Catalog.standard
        .permissive).result = .ok graph ∧ graph.compile Catalog.standard = .ok shader ∧
      (∃ after, (run none ["metal.ron"] : StateM Session Next).run (.start workshop "/") =
          (.exit 0, after) ∧
        workshop.SameFiles after.tree ∧ after.printed = shader ++ "\n") ∧
      (∃ after, (run none ["metal.ron", "--config", "shaders.ron"] : StateM Session Next).run
          (.start workshop "/") = (.exit 0, after) ∧
        workshop.Saved "out/metal.wgsl" shader.toUTF8 after.tree ∧ after.printed = "") ∧
      ∃ after, (run none ["metal.ron"] : StateM Session Next).run unread = (.exit 2, after) ∧
        workshop.SameFiles after.tree ∧ after.printed = "" := by
  refine ⟨?_, ?_⟩
  · have hline : ofArguments ["empty.ron", "--json", "-o", "out/empty.json"] =
        .ok (.compile reportEmpty) := by decide +kernel
    have hsave : workshop.CanSave "out/empty.json" := by decide +kernel
    obtain ⟨graph, haccepts, hfailed⟩ := accepts_reportEmpty
    obtain ⟨code, after, hrun, hone, -, -, -, hdelivered⟩ :=
      run_ends hline rfl rfl none (.start workshop "/")
    have hcode : code = 1 := hone.mpr ⟨.default, graph, _, haccepts, hfailed, fun _ => hsave⟩
    obtain ⟨text, hreply, hsaved⟩ := hdelivered .default graph haccepts (.inr ⟨hcode, rfl⟩)
    rw [hfailed] at hreply
    exact ⟨after, text, hcode ▸ hrun, hreply, hsaved⟩
  · obtain ⟨graph, shader, haccepts, hplaced, hshader⟩ := accepts_compileMetal
    have hline : ofArguments ["metal.ron"] = .ok (.compile (compileMetal none)) := by
      decide +kernel
    have hreplied {text : String} (h : IsReply false (graph.compile Catalog.standard) text) :
        text = shader := Except.ok.inj (h.symm.trans hshader)
    refine ⟨graph, shader, haccepts.loads, hshader, ?_, ?_, ?_⟩
    · obtain ⟨code, after, hrun, -, hzero, -, -, hdelivered⟩ :=
        run_ends hline rfl rfl none (.start workshop "/")
      have hcode : code = 0 := hzero.mpr ⟨.default, graph, shader, haccepts, hshader, rfl⟩
      obtain ⟨text, hreply, hfiles, hprinted⟩ :=
        hdelivered .default graph haccepts (.inl hcode)
      obtain rfl := hreplied hreply
      exact ⟨after, hcode ▸ hrun, hfiles, hprinted⟩
    · have hline : ofArguments ["metal.ron", "--config", "shaders.ron"] =
          .ok (.compile (compileMetal (some "shaders.ron"))) := by decide +kernel
      have hplace : (compileMetal (some "shaders.ron")).destination shaderSettings =
          some "out/metal.wgsl" := by decide +kernel
      have hsave : workshop.CanSave "out/metal.wgsl" := by decide +kernel
      obtain ⟨code, after, hrun, -, hzero, -, -, hdelivered⟩ :=
        run_ends hline rfl rfl none (.start workshop "/")
      have hcode : code = 0 := by
        refine hzero.mpr ⟨shaderSettings, graph, shader, hplaced, hshader, ?_⟩
        rw [hplace]
        exact hsave
      obtain ⟨text, hreply, hsaved⟩ := hdelivered shaderSettings graph hplaced (.inl hcode)
      obtain rfl := hreplied hreply
      rw [hplace] at hsaved
      exact ⟨after, hcode ▸ hrun, hsaved⟩
    · obtain ⟨code, after, hrun, hone, hzero, hcodes, hstill, -⟩ :=
        run_ends hline rfl rfl none unread
      -- The graph compiles, so the code is not 1, and it cannot be printed, so the code is not 0.
      have hcode : code = 2 := by
        rcases hcodes with h | h | h
        · obtain ⟨settings, other, _, hother, -, hprinting⟩ := hzero.mp h
          obtain ⟨rfl, -⟩ := accepts_unique hother haccepts
          cases hprinting
        · obtain ⟨settings, other, e, hother, hfailed, -⟩ := hone.mp h
          obtain ⟨-, rfl⟩ := accepts_unique hother haccepts
          cases hfailed.symm.trans hshader
        · exact h
      obtain ⟨hfiles, hprinted⟩ := hstill (.inl hcode)
      exact ⟨after, hcode ▸ hrun, hfiles, hprinted⟩

end Command

end MaterialGraph
