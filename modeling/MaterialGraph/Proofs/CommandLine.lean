import Mathlib.Data.List.Induction
import MaterialGraph.Command.Arguments

/-!
# The grammar of command lines

A command line is made of groups: an option with the value behind it, a flag, or an input. A value
may be any text, also one that looks like an option. A line with a single input asks to compile it,
a request for help counts if at most one input comes before it, and no other line can be used.

Reading goes from group to group, so a line is described by what it has of each sort: its inputs,
its outputs and settings in their order, and the set of its flags. Groups of different sorts can
change places.
-/

namespace MaterialGraph.Command

/-- A flag of a command line. -/
inductive Flag where
  | strict
  | json
  | watch
  | initSettings
deriving DecidableEq, Repr

/-- The spelling of a flag. -/
def Flag.spelling : Flag → String
  | strict => "--strict"
  | json => "--json"
  | watch => "--watch"
  | initSettings => "--init-config"

/-- Arguments that are read together. -/
inductive Group where
  | output (long : Bool) (value : String)
  | settings (value : String)
  | flag (flag : Flag)
  | input (text : String) (undashed : text.toList.head? ≠ some '-')
deriving DecidableEq

namespace Group

/-- The arguments of a group. -/
def spelled : Group → List String
  | output long value => [if long then "--output" else "-o", value]
  | settings value => ["--config", value]
  | flag f => [f.spelling]
  | input text _ => [text]

/-- The input that a group is. -/
@[simp] def input? : Group → Option String
  | input text _ => some text
  | _ => none

/-- The output that a group names. -/
@[simp] def output? : Group → Option String
  | output _ value => some value
  | _ => none

/-- The settings file that a group names. -/
@[simp] def settings? : Group → Option String
  | settings value => some value
  | _ => none

end Group

/-- The command line of groups. -/
def line (groups : List Group) : List String :=
  groups.flatMap Group.spelled

/-- The inputs among groups. -/
def inputs (groups : List Group) : List String :=
  groups.filterMap Group.input?

/-- The outputs that groups name. -/
def outputs (groups : List Group) : List String :=
  groups.filterMap Group.output?

/-- The settings files that groups name. -/
def settingsFiles (groups : List Group) : List String :=
  groups.filterMap Group.settings?

/-- Whether arguments have a flag. -/
def hasFlag (a : Arguments) : Flag → Bool
  | .strict => a.strict
  | .json => a.json
  | .watch => a.watch
  | .initSettings => a.initSettings

/-- Groups describe arguments: they have one input, and of the outputs and settings files the last
one counts. -/
structure Describes (groups : List Group) (a : Arguments) : Prop where
  input : inputs groups = [a.input]
  output : a.output = (outputs groups).getLast?
  settings : a.settings = (settingsFiles groups).getLast?
  flags : ∀ f, hasFlag a f = true ↔ Group.flag f ∈ groups

/-! ### Reading groups -/

/-- What has been read after a further group. -/
def Partial.add (p : Partial) : Group → Partial
  | .output _ value => { p with output := some value }
  | .settings value => { p with settings := some value }
  | .flag .strict => { p with strict := true }
  | .flag .json => { p with json := true }
  | .flag .watch => { p with watch := true }
  | .flag .initSettings => { p with initSettings := true }
  | .input text _ => { p with input := some text }

/-- What has been read of groups. -/
def Partial.ofGroups (groups : List Group) : Partial where
  input := (inputs groups).getLast?
  output := (outputs groups).getLast?
  settings := (settingsFiles groups).getLast?
  strict := Group.flag .strict ∈ groups
  json := Group.flag .json ∈ groups
  watch := Group.flag .watch ∈ groups
  initSettings := Group.flag .initSettings ∈ groups

/-- Adding groups one after the other gives what has been read of all of them. -/
theorem Partial.foldl_add_start (groups : List Group) :
    groups.foldl Partial.add .start = .ofGroups groups := by
  induction groups using List.reverseRecOn with
  | nil => rfl
  | append_singleton groups g ih =>
    rw [List.foldl_append, List.foldl_cons, List.foldl_nil, ih]
    cases g with
    | flag f => cases f <;> simp [Partial.add, Partial.ofGroups, inputs, outputs, settingsFiles]
    | output | settings | input =>
      simp [Partial.add, Partial.ofGroups, inputs, outputs, settingsFiles]

/-- A text that does not begin with a dash is an input. -/
theorem kindOf_of_undashed {text : String} (h : text.toList.head? ≠ some '-') :
    kindOf text = .input := by
  have hdashed : ∀ option ∈ options, option.1.toList.head? = some '-' := by decide
  have hnone : options.lookup text = none := by
    rw [List.lookup_eq_none_iff]
    intro option hoption
    rw [bne_iff_ne]
    intro heq
    exact h (heq ▸ hdashed option hoption)
  rw [kindOf, hnone]
  simpa using h

/-- A group is read as one, unless it is an input behind another input. -/
theorem readFrom_spelled (p : Partial) (g : Group) (rest : List String)
    (h : g.input? = none ∨ p.input = none) :
    readFrom p (g.spelled ++ rest) = readFrom (p.add g) rest := by
  cases g with
  | output long value => cases long <;> rfl
  | settings value => rfl
  | flag f => cases f <;> rfl
  | input text undashed =>
    have hfree : p.input = none := by simpa using h
    simp [Group.spelled, readFrom, kindOf_of_undashed undashed, hfree, Partial.add]

/-- An input behind another input cannot be used. -/
theorem readFrom_spelled_extra (p : Partial) (g : Group) (rest : List String)
    (h : ¬ (g.input? = none ∨ p.input = none)) :
    ∃ text, readFrom p (g.spelled ++ rest) = .error (.extraInput text) := by
  rw [not_or] at h
  cases g with
  | input text undashed =>
    have htaken : p.input.isSome = true := Option.isSome_iff_ne_none.mpr h.2
    exact ⟨text, by simp [Group.spelled, readFrom, kindOf_of_undashed undashed, htaken]⟩
  | output | settings | flag => exact absurd rfl h.1

/-- The number of inputs that have been read or are still to come. -/
def inputCount (p : Partial) (groups : List Group) : Nat :=
  p.input.toList.length + (inputs groups).length

/-- Reading a group does not change this number, unless it is an input behind another input. -/
theorem inputCount_add (p : Partial) (g : Group) (groups : List Group)
    (h : g.input? = none ∨ p.input = none) :
    inputCount (p.add g) groups = inputCount p (g :: groups) := by
  cases g with
  | input text undashed =>
    have hfree : p.input = none := by simpa using h
    simp [inputCount, inputs, Partial.add, hfree, Nat.add_comm]
  | flag f => cases f <;> rfl
  | output | settings => rfl

/-- Groups are read one after the other if there is no second input among them. -/
theorem readFrom_line (p : Partial) (groups : List Group) (rest : List String)
    (h : inputCount p groups ≤ 1) :
    readFrom p (line groups ++ rest) = readFrom (groups.foldl Partial.add p) rest := by
  induction groups generalizing p with
  | nil => rfl
  | cons g groups ih =>
    have hstep : g.input? = none ∨ p.input = none := by
      cases hg : g.input? with
      | none => exact Or.inl rfl
      | some text =>
        rw [inputCount, inputs, List.filterMap_cons_some hg, List.length_cons] at h
        exact Or.inr (Option.toList_eq_nil_iff.mp (List.eq_nil_of_length_eq_zero (by omega)))
    rw [line, List.flatMap_cons, List.append_assoc, readFrom_spelled p g _ hstep]
    apply ih
    rw [inputCount_add p g groups hstep]
    exact h

/-- A second input among groups cannot be used. -/
theorem readFrom_line_extra (p : Partial) (groups : List Group) (rest : List String)
    (h : 1 < inputCount p groups) :
    ∃ text, readFrom p (line groups ++ rest) = .error (.extraInput text) := by
  induction groups generalizing p with
  | nil =>
    have hle := Option.length_toList_le (o := p.input)
    have hnil : inputCount p [] = p.input.toList.length := rfl
    omega
  | cons g groups ih =>
    rw [line, List.flatMap_cons, List.append_assoc]
    by_cases hstep : g.input? = none ∨ p.input = none
    · rw [readFrom_spelled p g _ hstep]
      apply ih
      rw [inputCount_add p g groups hstep]
      exact h
    · exact readFrom_spelled_extra p g _ hstep

/-- Arguments that cannot be used, whatever has been read before them. -/
def Stuck (arguments : List String) : Prop :=
  ∀ p, ∃ e, readFrom p arguments = .error e

/-- Arguments begin with a group or a request for help, or they cannot be used. -/
theorem exists_spelled_append (argument : String) (rest : List String) :
    (∃ g others, argument :: rest = Group.spelled g ++ others) ∨
      argument ∈ ["-h", "--help"] ∨ Stuck (argument :: rest) := by
  cases hlookup : options.lookup argument with
  | none =>
    by_cases hdash : argument.toList.head? = some '-'
    · have hkind : kindOf argument = .unknown := by simp [kindOf, hlookup, hdash]
      exact Or.inr (Or.inr fun p => ⟨.unknownArgument argument, by simp [readFrom, hkind]⟩)
    · exact Or.inl ⟨.input argument hdash, rest, rfl⟩
  | some kind =>
    have hmem : (argument, kind) ∈ options := by
      obtain ⟨before, after, hsplit, -⟩ := List.lookup_eq_some_iff.mp hlookup
      rw [hsplit]
      exact List.mem_append_right _ List.mem_cons_self
    simp only [options, List.mem_cons, Prod.mk.injEq, List.not_mem_nil, or_false] at hmem
    rcases hmem with h | h | h | h | h | h | h | h | h
    all_goals obtain ⟨rfl, -⟩ := h
    · exact Or.inr (Or.inl (by simp))
    · exact Or.inr (Or.inl (by simp))
    · cases rest with
      | nil => exact Or.inr (Or.inr fun p => ⟨.missingValue "--output", rfl⟩)
      | cons value others => exact Or.inl ⟨.output false value, others, rfl⟩
    · cases rest with
      | nil => exact Or.inr (Or.inr fun p => ⟨.missingValue "--output", rfl⟩)
      | cons value others => exact Or.inl ⟨.output true value, others, rfl⟩
    · cases rest with
      | nil => exact Or.inr (Or.inr fun p => ⟨.missingValue "--config", rfl⟩)
      | cons value others => exact Or.inl ⟨.settings value, others, rfl⟩
    · exact Or.inl ⟨.flag .strict, rest, rfl⟩
    · exact Or.inl ⟨.flag .json, rest, rfl⟩
    · exact Or.inl ⟨.flag .watch, rest, rfl⟩
    · exact Or.inl ⟨.flag .initSettings, rest, rfl⟩

/-- A command line is a line of groups, up to its end, a request for help, or arguments that cannot
be used. -/
theorem exists_line_append (arguments : List String) :
    ∃ groups rest, arguments = line groups ++ rest ∧
      (rest = [] ∨ (∃ spelling ∈ ["-h", "--help"], ∃ others, rest = spelling :: others) ∨
        Stuck rest) := by
  induction hlength : arguments.length using Nat.strongRecOn generalizing arguments with
  | ind n ih =>
    cases arguments with
    | nil => exact ⟨[], [], rfl, Or.inl rfl⟩
    | cons argument rest =>
      rcases exists_spelled_append argument rest with ⟨g, others, hsplit⟩ | hhelp | hstuck
      · have hshort : others.length < n := by
          have hpos : 0 < g.spelled.length := by cases g <;> simp [Group.spelled]
          rw [hsplit, List.length_append] at hlength
          omega
        obtain ⟨groups, tail, hothers, htail⟩ := ih _ hshort others rfl
        refine ⟨g :: groups, tail, ?_, htail⟩
        rw [hsplit, hothers, line, line, List.flatMap_cons, List.append_assoc]
      · exact ⟨[], argument :: rest, rfl, Or.inr (Or.inl ⟨argument, hhelp, rest, rfl⟩)⟩
      · exact ⟨[], argument :: rest, rfl, Or.inr (Or.inr hstuck)⟩

/-! ### What a command line asks for -/

/-- A request for help, behind groups with at most one input. -/
def AsksHelp (arguments : List String) : Prop :=
  ∃ groups spelling rest, spelling ∈ ["-h", "--help"] ∧ (inputs groups).length ≤ 1 ∧
    arguments = line groups ++ spelling :: rest

/-- Groups with at most one input are read before what follows them. -/
theorem ofArguments_line (groups : List Group) (rest : List String)
    (h : (inputs groups).length ≤ 1) :
    ofArguments (line groups ++ rest) = readFrom (.ofGroups groups) rest := by
  have hcount : inputCount .start groups = (inputs groups).length := Nat.zero_add _
  rw [ofArguments, readFrom_line _ _ _ (hcount ▸ h), Partial.foldl_add_start]

/-- Groups with more inputs cannot be used. -/
theorem ofArguments_line_extra (groups : List Group) (rest : List String)
    (h : ¬ (inputs groups).length ≤ 1) :
    ∃ text, ofArguments (line groups ++ rest) = .error (.extraInput text) := by
  have hcount : inputCount .start groups = (inputs groups).length := Nat.zero_add _
  exact readFrom_line_extra _ _ _ (by omega)

/-- A request for help stops the reading. -/
theorem readFrom_help (p : Partial) {spelling : String} (h : spelling ∈ ["-h", "--help"])
    (rest : List String) : readFrom p (spelling :: rest) = .ok .help := by
  simp only [List.mem_cons, List.not_mem_nil, or_false] at h
  rcases h with rfl | rfl
  · rfl
  · rfl

/-- Groups with one input describe the arguments that are read from them. -/
theorem finish_ofGroups {groups : List Group} {input : String} (h : inputs groups = [input]) :
    ∃ a, (Partial.ofGroups groups).finish = .ok (.compile a) ∧ Describes groups a := by
  refine ⟨⟨input, (outputs groups).getLast?, (settingsFiles groups).getLast?,
    Group.flag .strict ∈ groups, Group.flag .json ∈ groups, Group.flag .watch ∈ groups,
    Group.flag .initSettings ∈ groups⟩, ?_, h, rfl, rfl, ?_⟩
  · simp [Partial.finish, Partial.ofGroups, h]
  · intro f
    cases f <;> simp [hasFlag]

/-- Groups describe at most one list of arguments. -/
theorem Describes.unique {groups : List Group} {a b : Arguments} (ha : Describes groups a)
    (hb : Describes groups b) : a = b := by
  have hflags : ∀ f, hasFlag a f = hasFlag b f := by
    intro f
    rw [Bool.eq_iff_iff, ha.flags, hb.flags]
  have hinput : a.input = b.input := by simpa using ha.input.symm.trans hb.input
  have houtput := ha.output.trans hb.output.symm
  have hsettings := ha.settings.trans hb.settings.symm
  cases a
  cases b
  rw [Arguments.mk.injEq]
  exact ⟨hinput, houtput, hsettings, hflags .strict, hflags .json, hflags .watch,
    hflags .initSettings⟩

/-- A line of groups with one input asks to compile it. -/
theorem ofArguments_of_describes {groups : List Group} {a : Arguments} (h : Describes groups a) :
    ofArguments (line groups) = .ok (.compile a) := by
  have hread := ofArguments_line groups [] (by rw [h.input]; exact Nat.le_refl 1)
  obtain ⟨b, hfinish, hdescribes⟩ := finish_ofGroups h.input
  rw [List.append_nil, readFrom, hfinish] at hread
  rw [hread, hdescribes.unique h]

/-- A request for help is read as such. -/
theorem ofArguments_of_asksHelp {arguments : List String} (h : AsksHelp arguments) :
    ofArguments arguments = .ok .help := by
  obtain ⟨groups, spelling, rest, hspelling, hinputs, rfl⟩ := h
  rw [ofArguments_line groups _ hinputs]
  exact readFrom_help _ hspelling rest

/-- A command line asks to compile or for help, or it cannot be used. -/
theorem ofArguments_cases (arguments : List String) :
    (∃ groups a, arguments = line groups ∧ Describes groups a) ∨ AsksHelp arguments ∨
      ∃ e, ofArguments arguments = .error e := by
  obtain ⟨groups, rest, rfl, hrest⟩ := exists_line_append arguments
  by_cases hinputs : (inputs groups).length ≤ 1
  · rcases hrest with rfl | ⟨spelling, hspelling, others, rfl⟩ | hstuck
    · cases hinput : inputs groups with
      | nil =>
        refine Or.inr (Or.inr ⟨.missingInput, ?_⟩)
        rw [ofArguments_line groups _ hinputs]
        simp [readFrom, Partial.finish, Partial.ofGroups, hinput]
      | cons input more =>
        obtain rfl : more = [] := by
          rw [hinput, List.length_cons] at hinputs
          exact List.eq_nil_of_length_eq_zero (by omega)
        obtain ⟨a, -, ha⟩ := finish_ofGroups hinput
        exact Or.inl ⟨groups, a, List.append_nil _, ha⟩
    · exact Or.inr (Or.inl ⟨groups, spelling, others, hspelling, hinputs, rfl⟩)
    · rw [ofArguments_line groups _ hinputs]
      exact Or.inr (Or.inr (hstuck _))
  · obtain ⟨text, htext⟩ := ofArguments_line_extra groups rest hinputs
    exact Or.inr (Or.inr ⟨_, htext⟩)

/-- What a line asks to compile is what its groups describe. -/
theorem ofArguments_eq_compile_iff (arguments : List String) (a : Arguments) :
    ofArguments arguments = .ok (.compile a) ↔
      ∃ groups, arguments = line groups ∧ Describes groups a := by
  constructor
  · intro h
    rcases ofArguments_cases arguments with ⟨groups, b, rfl, hb⟩ | hhelp | ⟨e, he⟩
    · obtain rfl : b = a := by simpa [ofArguments_of_describes hb] using h
      exact ⟨groups, rfl, hb⟩
    · simp [ofArguments_of_asksHelp hhelp] at h
    · simp [he] at h
  · intro h
    obtain ⟨groups, rfl, ha⟩ := h
    exact ofArguments_of_describes ha

/-- What is read as a request for help is one. -/
theorem ofArguments_eq_help_iff (arguments : List String) :
    ofArguments arguments = .ok .help ↔ AsksHelp arguments := by
  constructor
  · intro h
    rcases ofArguments_cases arguments with ⟨groups, a, rfl, ha⟩ | hhelp | ⟨e, he⟩
    · simp [ofArguments_of_describes ha] at h
    · exact hhelp
    · simp [he] at h
  · exact ofArguments_of_asksHelp

/-- A line that asks neither to compile nor for help cannot be used. -/
theorem ofArguments_eq_error_iff (arguments : List String) :
    (∃ e, ofArguments arguments = .error e) ↔
      (∀ groups, arguments = line groups → (inputs groups).length ≠ 1) ∧ ¬ AsksHelp arguments := by
  constructor
  · intro h
    obtain ⟨e, he⟩ := h
    constructor
    · intro groups hline hone
      obtain ⟨input, hinput⟩ := List.length_eq_one_iff.mp hone
      obtain ⟨a, -, ha⟩ := finish_ofGroups hinput
      simp [hline, ofArguments_of_describes ha] at he
    · intro hhelp
      simp [ofArguments_of_asksHelp hhelp] at he
  · intro h
    rcases ofArguments_cases arguments with ⟨groups, a, hline, ha⟩ | hhelp | herror
    · exact absurd (by rw [ha.input]; rfl) (h.1 groups hline)
    · exact absurd hhelp h.2
    · exact herror

/-- Groups that are permuted, but for the order of outputs and that of settings files, leave the
same if there is at most one input among them. -/
theorem ofGroups_eq_of_perm {groups others : List Group} (hperm : others.Perm groups)
    (houtputs : outputs others = outputs groups)
    (hsettings : settingsFiles others = settingsFiles groups)
    (hinputs : (inputs groups).length ≤ 1) :
    Partial.ofGroups others = .ofGroups groups := by
  have hsame : inputs others = inputs groups := by
    have hpermuted : (inputs others).Perm (inputs groups) := hperm.filterMap _
    cases hinput : inputs groups with
    | nil =>
      rw [hinput] at hpermuted
      exact hpermuted.eq_nil
    | cons input more =>
      obtain rfl : more = [] := by
        rw [hinput, List.length_cons] at hinputs
        exact List.eq_nil_of_length_eq_zero (by omega)
      rw [hinput] at hpermuted
      exact hpermuted.eq_singleton
  simp only [Partial.ofGroups, hsame, houtputs, hsettings, hperm.mem_iff]

/-- Such groups ask for the same, and cannot be used for the same reason if there is at most one
input among them. -/
theorem ofArguments_of_perm {groups others : List Group} (hperm : others.Perm groups)
    (houtputs : outputs others = outputs groups)
    (hsettings : settingsFiles others = settingsFiles groups) (rest : List String) :
    (ofArguments (line others ++ rest)).toOption = (ofArguments (line groups ++ rest)).toOption ∧
      ((inputs groups).length ≤ 1 →
        ofArguments (line others ++ rest) = ofArguments (line groups ++ rest)) := by
  have hlength : (inputs others).length = (inputs groups).length :=
    (hperm.filterMap Group.input?).length_eq
  by_cases hinputs : (inputs groups).length ≤ 1
  · have hread : ofArguments (line others ++ rest) = ofArguments (line groups ++ rest) := by
      rw [ofArguments_line others rest (hlength ▸ hinputs), ofArguments_line groups rest hinputs,
        ofGroups_eq_of_perm hperm houtputs hsettings hinputs]
    exact ⟨congrArg Except.toOption hread, fun _ => hread⟩
  · obtain ⟨text, htext⟩ := ofArguments_line_extra groups rest hinputs
    obtain ⟨other, hother⟩ := ofArguments_line_extra others rest (hlength ▸ hinputs)
    refine ⟨?_, fun h => absurd h hinputs⟩
    rw [htext, hother]
    rfl

/-- A command line asks to compile exactly if it is made of groups with one input, which describe
what is asked for, and it asks for help exactly if a request for help follows groups with at most
one input. No other line can be used. Groups can be permuted, but for the order of outputs and that
of settings files: what is asked for stays the same, and with at most one input the error does,
too. -/
theorem ofArguments_reads_groups (arguments : List String) :
    (∀ a, ofArguments arguments = .ok (.compile a) ↔
      ∃ groups, arguments = line groups ∧ Describes groups a) ∧
    (ofArguments arguments = .ok .help ↔ AsksHelp arguments) ∧
    ((∃ e, ofArguments arguments = .error e) ↔
      (∀ groups, arguments = line groups → (inputs groups).length ≠ 1) ∧ ¬ AsksHelp arguments) ∧
    ∀ groups others rest, arguments = line groups ++ rest → others.Perm groups →
      outputs others = outputs groups → settingsFiles others = settingsFiles groups →
        (ofArguments (line others ++ rest)).toOption = (ofArguments arguments).toOption ∧
          ((inputs groups).length ≤ 1 →
            ofArguments (line others ++ rest) = ofArguments arguments) := by
  refine ⟨ofArguments_eq_compile_iff arguments, ofArguments_eq_help_iff arguments,
    ofArguments_eq_error_iff arguments, ?_⟩
  intro groups others rest hline hperm houtputs hsettings
  rw [hline]
  exact ofArguments_of_perm hperm houtputs hsettings rest

/-- Groups with two outputs, of which the first looks like an option, and an empty input. -/
def twoOutputs : List Group :=
  [.output false "--help", .input "" (by decide), .settings "-", .output true "b", .flag .json]

/-- The groups in another order, in which the outputs follow each other as before. -/
def twoOutputsMoved : List Group :=
  [.flag .json, .settings "-", .output false "--help", .output true "b", .input "" (by decide)]

/-- The second output counts in both orders. -/
theorem ofArguments_reads_twoOutputs :
    ∃ a, ofArguments ["-o", "--help", "", "--config", "-", "--output", "b", "--json"] =
        .ok (.compile a) ∧
      a = ⟨"", some "b", some "-", false, true, false, false⟩ ∧
      ofArguments ["--json", "--config", "-", "-o", "--help", "--output", "b", ""] =
        .ok (.compile a) := by
  obtain ⟨hcompile, -, -, hperm⟩ := ofArguments_reads_groups (line twoOutputs)
  have hread := (hcompile ⟨"", some "b", some "-", false, true, false, false⟩).mpr
    ⟨twoOutputs, rfl, rfl, rfl, rfl, by intro f; cases f <;> decide⟩
  have hsame := (hperm twoOutputs twoOutputsMoved [] rfl (by decide) rfl rfl).2 (by decide)
  exact ⟨_, hread, rfl, hsame.trans hread⟩

end MaterialGraph.Command
