import MaterialGraph.Proofs.RonDocument
import MaterialGraph.Proofs.Running

/-!
# Settings that are saved are found again

Settings are written as a RON record with the name of its type. Their texts come back whatever they
hold, and their number does as far as it is a 64-bit word. A file that was saved through a path is
read through this path, so the settings in it are found again: where the path is given, and also
where none is given but the path is that of the settings file beside the graph.
-/

namespace MaterialGraph

namespace Ron

/-! ### Words and flags -/

/-- A decimal digit has its value among the hexadecimal ones. -/
theorem hexValue?_of_isDigit {c : Char} (h : c.isDigit = true) :
    hexValue? c = some (digitValue c) ∧ digitValue c < 10 := by
  have hbounds := Char.isDigit_iff_toNat.mp h
  have hnine : '9'.toNat = '0'.toNat + 9 := rfl
  have hrange : '0' ≤ c ∧ c ≤ '9' := by
    rw [Char.le_def, Char.le_def, UInt32.le_iff_toNat_le, UInt32.le_iff_toNat_le]
    exact hbounds
  rw [hexValue?, if_pos hrange, digitValue]
  refine ⟨rfl, ?_⟩
  omega

/-- Decimal digits are read one after the other. -/
theorem valueInBase_ten {digits : List Char} (h : ∀ c ∈ digits, c.isDigit = true) (value : Nat) :
    valueInBase 10 digits value =
      some (digits.foldl (fun value digit => 10 * value + digitValue digit) value) := by
  induction digits generalizing value with
  | nil => rfl
  | cons c rest ih =>
    rw [List.forall_mem_cons] at h
    obtain ⟨hvalue, hlt⟩ := hexValue?_of_isDigit h.1
    have hmark : c ≠ '_' := by
      intro hc
      exact absurd (hc ▸ h.1) (by decide)
    rw [valueInBase, if_neg hmark, hvalue, Option.bind_some, if_pos hlt, ih h.2,
      List.foldl_cons, Nat.mul_comm]

/-- Digits are an integer without a sign. -/
theorem integerOfText?_digits {digits : List Char} (hne : digits ≠ [])
    (h : ∀ c ∈ digits, c.isDigit = true) :
    integerOfText? digits = some ⟨false, valueOfDigits digits, none⟩ := by
  have hspan : digits.span (fun c => (hexValue? c).isSome || c == '_') = (digits, []) := by
    have hall : ∀ c ∈ digits, ((hexValue? c).isSome || c == '_') = true := by
      intro c hc
      rw [(hexValue?_of_isDigit (h c hc)).1]
      rfl
    have happend : (digits ++ []).span (fun c => (hexValue? c).isSome || c == '_') =
        (digits, []) := span_append hall (by simp)
    rwa [List.append_nil] at happend
  have hbase : baseValue? 10 digits = some (valueOfDigits digits) := by
    obtain ⟨c, rest, rfl⟩ := List.exists_cons_of_ne_nil hne
    have hmark : c ≠ '_' := by
      intro hc
      exact absurd (hc ▸ h c List.mem_cons_self) (by decide)
    rw [baseValue?, if_neg hmark, valueInBase_ten h]
    rfl
  have hinteger : integerInBase false 10 true digits = some ⟨false, valueOfDigits digits, none⟩ := by
    simp only [integerInBase, hspan, hbase, Option.bind_some, List.isEmpty_nil, if_true]
  -- A sign or the letter of another base is no digit.
  have hother : ∀ c, c.isDigit = false → c ∉ digits := by
    intro c hc hmem
    rw [h c hmem] at hc
    contradiction
  have hsign : readSign digits = (false, digits) := by
    unfold readSign
    split
    · exact absurd List.mem_cons_self (hother '-' rfl)
    · exact absurd List.mem_cons_self (hother '+' rfl)
    · rfl
  rw [integerOfText?, hsign]
  dsimp only
  split
  · exact absurd (by simp) (hother 'b' rfl)
  · exact absurd (by simp) (hother 'o' rfl)
  · exact absurd (by simp) (hother 'x' rfl)
  · exact hinteger

/-- A 64-bit word is read as it was written. -/
theorem word?_digitsOf {n : Nat} (h : n < UInt64.size) : word? (.word (digitsOf n)) = some n := by
  have hread := integerOfText?_digits (digitsOf_ne_nil n) fun _ hc => isDigit_of_mem_digitsOf hc
  rw [valueOfDigits_digitsOf] at hread
  have hfits : IntegerWord.fits ⟨false, n, none⟩ 64 false = true := by
    simpa [IntegerWord.fits] using h
  simp [word?, hread, hfits]

/-- The tree of a word is legible. -/
theorem legible_word (room n : Nat) : Legible room (.word (digitsOf n)) := by
  have hdigits : ∀ c ∈ digitsOf n, c.isDigit = true := fun _ hc => isDigit_of_mem_digitsOf hc
  obtain ⟨c, rest, hsplit⟩ := List.exists_cons_of_ne_nil (digitsOf_ne_nil n)
  rw [hsplit] at hdigits ⊢
  apply Legible.word
  · simp [startsWord, hdigits c List.mem_cons_self]
  · intro d hd
    simp [continuesWord, continuesName_of_plain, Char.isAlphanum, hdigits d hd]

/-- The tree of a flag is legible. -/
theorem legible_flag (room : Nat) (value : Bool) :
    Legible room (DataSink.flag value : Ron) := by
  cases value with
  | false => exact .ident (by decide) (by decide)
  | true => exact .ident (by decide) (by decide)

/-- A flag is read as it was written. -/
theorem Shows.flag? {room : Nat} {place : Cursor} {value : Bool}
    (h : Shows room place (DataSink.flag value)) : DataSource.flag? place = some value := by
  obtain ⟨tree, budget, switches, unwrapped⟩ := place
  obtain ⟨rfl, -, -, -⟩ := h
  cases value with
  | false => rfl
  | true => rfl

/-- A word is read as it was written. -/
theorem Shows.word? {room : Nat} {place : Cursor} {n : Nat} (hn : n < UInt64.size)
    (h : Shows room place (DataSink.word n)) : DataSource.word? place = some n := by
  obtain ⟨tree, budget, switches, unwrapped⟩ := place
  obtain ⟨rfl, -, -, -⟩ := h
  exact word?_digitsOf hn

end Ron

namespace Settings

/-! ### The text of settings -/

/-- The fields of settings as they are written. -/
def written (s : Settings) : List (String × Ron) :=
  [("output_dir", DataSink.option (s.outputDirectory.map DataSink.text)),
    ("log_filter", DataSink.text s.logFilter),
    ("strict_validation", DataSink.flag s.strictValidation),
    ("watch_debounce_ms", DataSink.word s.watchMilliseconds),
    ("emit_json_result", DataSink.flag s.emitJsonResult)]

/-- The tree of settings bears the name of their type. -/
theorem withTypeName_encode (s : Settings) :
    Ron.withTypeName recordName s.encode =
      .struct (some (Ron.Name.ofString recordName)) (Ron.ofFields s.written) :=
  rfl

/-- The tree of settings is legible. -/
theorem legible_encode (s : Settings) :
    Ron.Legible Ron.nestingBudget (Ron.withTypeName recordName s.encode) := by
  have hdirectory : Ron.Legible (Ron.nestingBudget - 1)
      (DataSink.option (s.outputDirectory.map DataSink.text)) := by
    cases s.outputDirectory with
    | none => exact .ident (by decide) (by decide)
    | some directory => exact .option (.string _ directory)
  rw [withTypeName_encode]
  refine Ron.legible_struct (by simp; decide)
    ⟨List.cons_ne_nil _ _, by simp only [written, List.map]; decide, ?_⟩
  simp only [written, List.forall_mem_cons, List.not_mem_nil, false_implies, implies_true, and_true]
  exact ⟨hdirectory, .string _ _, Ron.legible_flag _ _, Ron.legible_word _ _, Ron.legible_flag _ _⟩

/-- Settings are read from a place that shows them. -/
theorem decode_of_shows {s : Settings} (hword : s.watchMilliseconds < UInt64.size)
    {place : Ron.Cursor} (h : Ron.Shows 3 place (Ron.withTypeName recordName s.encode)) :
    decode place = some s := by
  have hdeclared : Declared fields ["output_dir", "log_filter", "strict_validation",
      "watch_debounce_ms", "emit_json_result"] := by decide
  have hname : ∀ n ∈ some (Ron.Name.ofString recordName), n.text = recordName := by
    simp [Ron.Name.ofString]
  rw [withTypeName_encode] at h
  obtain ⟨row, hrecord, hrow⟩ := h.record? hname hdeclared
  have hrow : List.Forall₂ (Option.Rel (Ron.Shows 1)) row
      [some (DataSink.option (s.outputDirectory.map DataSink.text)),
        some (DataSink.text s.logFilter), some (DataSink.flag s.strictValidation),
        some (DataSink.word s.watchMilliseconds), some (DataSink.flag s.emitJsonResult)] := hrow
  simp only [List.forall₂_cons_right_iff, List.forall₂_nil_right_iff] at hrow
  obtain ⟨directory, _, hdirectory, ⟨filter, _, hfilter, ⟨strict, _, hstrict, ⟨milliseconds, _,
    hmilliseconds, ⟨json, _, hjson, rfl, rfl⟩, rfl⟩, rfl⟩, rfl⟩, rfl⟩ := hrow
  have hrecord : DataSource.record? recordName fields place =
      some [directory, filter, strict, milliseconds, json] := hrecord
  simp only [decode, hrecord,
    TextFormat.orElse_eq (F := Ron.textFormat) hdirectory TextFormat.optionOf_text,
    TextFormat.orElse_eq (F := Ron.textFormat) hfilter Ron.textFormat.text?_eq,
    TextFormat.orElse_eq (F := Ron.textFormat) hstrict Ron.Shows.flag?,
    TextFormat.orElse_eq (F := Ron.textFormat) hmilliseconds (Ron.Shows.word? hword),
    TextFormat.orElse_eq (F := Ron.textFormat) hjson Ron.Shows.flag?]
  rfl

/-- Settings that are written are read again. -/
theorem ofText?_toText {s : Settings} (hword : s.watchMilliseconds < UInt64.size) :
    ofText? s.toText = some s := by
  rw [ofText?, readRon?, toText, Ron.parse?_spreadString s.legible_encode, Option.bind_some]
  exact decode_of_shows hword ⟨rfl, (by decide : 3 ≤ Ron.nestingBudget), rfl, rfl⟩

/-- The bytes of a text are a text again. -/
theorem textOfBytes_toUTF8 (text : String) : textOfBytes text.toUTF8 = .ok text := by
  have hdecoded : String.fromUTF8? text.toUTF8 = some text := dif_pos text.isValidUTF8
  rw [textOfBytes, hdecoded]

/-- Settings are read from a file to which they were saved. -/
theorem ofFile_of_saved {s : Settings} (hword : s.watchMilliseconds < UInt64.size)
    {t after : FileTree} {path : Path} (h : t.Saved path s.toText.toUTF8 after) :
    ofFile path (after.read path) = .ok s := by
  rw [ofFile, h.read, Except.bind, textOfBytes_toUTF8]
  simp only [ofText?_toText hword, Option.elim_some]

end Settings

/-- A path through which bytes are read leads to a file. -/
theorem FileTree.isFile_of_read {t : FileTree} {path : Path} {content : ByteArray}
    (h : t.read path = .ok content) : t.isFile path = true := by
  obtain ⟨entry, hfind, hentry⟩ := bind_eq_ok_iff.mp h
  cases entry with
  | file => rw [isFile, hfind]
  | directory => cases hentry

namespace Command

/-! ### Saving and finding -/

/-- Settings are saved if their file can be written. -/
theorem run_saveSettings {settings : Settings} {path : Path} {s : Session} {tree : FileTree}
    (h : s.tree.write path settings.toText.toUTF8 = .ok tree) :
    (saveSettings settings path : StateM Session _).run s = (.ok (), { s with tree }) := by
  have hwrite : (Host.writeFile path settings.toText : StateM Session _).run s =
      (.ok (), { s with tree }) := by
    rw [run_writeFile, Session.change, h]
  rw [saveSettings, run_bind_of_run hwrite]
  rfl

/-- Settings are not saved if their file cannot be written. -/
theorem run_saveSettings_fault {settings : Settings} {path : Path} {s : Session}
    {fault : FileFault} (h : s.tree.write path settings.toText.toUTF8 = .error fault) :
    (saveSettings settings path : StateM Session _).run s =
      (.error (.inaccessible path fault), s) := by
  have hwrite : (Host.writeFile path settings.toText : StateM Session _).run s =
      (.error fault, s) := by
    rw [run_writeFile, Session.change, h]
  rw [saveSettings, run_bind_of_run hwrite]
  rfl

/-- Settings that are saved are in the file to which their path leads. -/
theorem saved_of_saveSettings {settings : Settings} {path : Path} {s after : Session}
    (h : (saveSettings settings path : StateM Session _).run s = (.ok (), after)) :
    s.tree.Saved path settings.toText.toUTF8 after.tree := by
  cases hwrite : s.tree.write path settings.toText.toUTF8 with
  | error fault =>
    rw [run_saveSettings_fault hwrite] at h
    cases h
  | ok tree =>
    rw [run_saveSettings hwrite] at h
    obtain rfl := (Prod.mk.inj h).2
    exact FileTree.saved_of_write hwrite

/-- The file to which a run writes the default settings: the one that is given, or else the one
beside the graph. -/
abbrev initPath (arguments : Arguments) : Path :=
  arguments.settings.getD (Settings.besides arguments.input)

/-- A run writes the default settings and succeeds if their file can be written. -/
theorem run_initSettings (environment : Option String) {arguments : Arguments} {s : Session}
    {tree : FileTree}
    (h : s.tree.write (initPath arguments) Settings.default.toText.toUTF8 = .ok tree) :
    ∃ diagnostics, (initSettings environment arguments : StateM Session Next).run s =
      (.exit 0, { s with tree, diagnostics }) := by
  obtain ⟨diagnostics, hlog⟩ := run_log ((chooseFilter environment .default).toOption.getD [])
    { s with tree } ⟨.info, stepTarget, "Wrote default settings to " ++
      quotedInMessage (initPath arguments)⟩
  refine ⟨diagnostics, ?_⟩
  rw [initSettings, run_bind_of_run (run_saveSettings h)]
  exact run_bind_of_run hlog

/-- A run fails if the file cannot be written. -/
theorem run_initSettings_fault (environment : Option String) {arguments : Arguments} {s : Session}
    {fault : FileFault}
    (h : s.tree.write (initPath arguments) Settings.default.toText.toUTF8 = .error fault) :
    ∃ diagnostics, (initSettings environment arguments : StateM Session Next).run s =
      (.exit 2, { s with diagnostics }) := by
  obtain ⟨diagnostics, hfail⟩ := run_conclude
    ((chooseFilter environment .default).toOption.getD []) s
    (.error (.settings (.inaccessible (initPath arguments) fault)))
  refine ⟨diagnostics, ?_⟩
  rw [initSettings, run_bind_of_run (run_saveSettings_fault h)]
  exact hfail

/-- The default settings that a run writes are in their file. -/
theorem saved_of_initSettings {environment : Option String} {arguments : Arguments}
    {s after : Session}
    (h : (initSettings environment arguments : StateM Session Next).run s = (.exit 0, after)) :
    s.tree.Saved (initPath arguments) Settings.default.toText.toUTF8 after.tree := by
  cases hwrite : s.tree.write (initPath arguments) Settings.default.toText.toUTF8 with
  | error fault =>
    obtain ⟨diagnostics, hrun⟩ := run_initSettings_fault environment hwrite
    have hcode : Next.exit 2 = .exit 0 := congrArg Prod.fst (hrun.symm.trans h)
    exact absurd (Next.exit.inj hcode) (by decide)
  | ok tree =>
    obtain ⟨diagnostics, hrun⟩ := run_initSettings environment hwrite
    obtain rfl : { s with tree, diagnostics } = after := congrArg Prod.snd (hrun.symm.trans h)
    exact FileTree.saved_of_write hwrite

/-- Where settings are saved, they are found. -/
theorem run_discoverSettings_of_saved {settings : Settings}
    (hword : settings.watchMilliseconds < UInt64.size) {t : FileTree} {after : Session}
    {input : Path} {explicit : Option Path}
    (h : t.Saved (explicit.getD (Settings.besides input)) settings.toText.toUTF8 after.tree) :
    (discoverSettings input explicit : StateM Session _).run after = (.ok settings, after) := by
  have hread := Settings.ofFile_of_saved hword h
  have hfile := FileTree.isFile_of_read h.read
  have hrun := run_discoverSettings after ⟨input, none, explicit, false, false, false, false⟩
  have hfound : after.tree.settingsFor ⟨input, none, explicit, false, false, false, false⟩ =
      .ok settings := by
    cases explicit with
    | some path => exact hread
    | none =>
      rw [Option.getD_none] at hread hfile
      simp only [FileTree.settingsFor, hfile, if_true]
      exact hread
  rw [hfound] at hrun
  exact hrun

/-- Settings that are saved to a file are found through its path, and without a path if the file is
the one beside the graph. After a run has written the default settings, the arguments of this run
lead to them. -/
theorem discoverSettings_finds_saved :
    (∀ (settings : Settings) (path : Path) (s after : Session),
      settings.watchMilliseconds < UInt64.size →
      (saveSettings settings path : StateM Session _).run s = (.ok (), after) →
      ∀ input : Path,
        (discoverSettings input (some path) : StateM Session _).run after =
            (.ok settings, after) ∧
          (path = Settings.besides input →
            (discoverSettings input none : StateM Session _).run after =
              (.ok settings, after))) ∧
      ∀ (environment : Option String) (arguments : Arguments) (s after : Session),
        (initSettings environment arguments : StateM Session Next).run s = (.exit 0, after) →
          (discoverSettings arguments.input arguments.settings : StateM Session _).run after =
            (.ok .default, after) := by
  constructor
  · intro settings path s after hword hsave input
    have hsaved := saved_of_saveSettings hsave
    constructor
    · exact run_discoverSettings_of_saved hword hsaved
    · intro hpath
      have hbeside : path = (none : Option Path).getD (Settings.besides input) := by
        rw [Option.getD_none, hpath]
      rw [hbeside] at hsaved
      exact run_discoverSettings_of_saved hword hsaved
  · intro environment arguments s after hinit
    have hword : Settings.default.watchMilliseconds < UInt64.size := by decide
    have hsaved := saved_of_initSettings hinit
    exact run_discoverSettings_of_saved hword hsaved

/-- A tree with a directory that has no files. -/
def emptyDirectory : FileTree :=
  ⟨[], [(["conf"], .directory)]⟩

/-- Settings with texts that need escapes and the largest word. -/
def oddSettings : Settings :=
  ⟨some "out \"put\"\\", "\x00\u0301\n'", true, UInt64.size - 1, false⟩

/-- These settings are found beside a graph whose path goes around, and the default ones where a run
has written them. -/
theorem discoverSettings_finds_oddSettings :
    (∃ after : Session,
      (saveSettings oddSettings "conf/../conf/shaderc.ron" : StateM Session _).run
          (.start emptyDirectory "/") = (.ok (), after) ∧
        (discoverSettings "conf/../conf//graph.ron" none : StateM Session _).run after =
          (.ok oddSettings, after)) ∧
      ∃ after : Session,
        (initSettings none ⟨"conf/graph.ron", none, none, false, false, false, true⟩ :
            StateM Session Next).run (.start emptyDirectory "/") = (.exit 0, after) ∧
          (discoverSettings "conf/graph.ron" none : StateM Session _).run after =
            (.ok .default, after) := by
  have hwritable : ∀ path ∈ ["conf/../conf/shaderc.ron", "conf/shaderc.ron"],
      (emptyDirectory.write path .empty).isOk = true := by decide +kernel
  have hwrite : ∀ path ∈ ["conf/../conf/shaderc.ron", "conf/shaderc.ron"], ∀ content,
      ∃ tree, emptyDirectory.write path content = .ok tree := by
    intro path hpath content
    obtain ⟨tree, htree⟩ := exists_eq_ok_of_isOk (hwritable path hpath)
    exact FileTree.exists_write htree content
  constructor
  · obtain ⟨tree, htree⟩ := hwrite _ List.mem_cons_self oddSettings.toText.toUTF8
    have hsave := run_saveSettings (s := .start emptyDirectory "/") htree
    obtain ⟨-, hbeside⟩ := discoverSettings_finds_saved.1 oddSettings _ _ _ (by decide) hsave
      "conf/../conf//graph.ron"
    exact ⟨_, hsave, hbeside (by decide +kernel)⟩
  · obtain ⟨tree, htree⟩ := hwrite "conf/shaderc.ron" (by simp) Settings.default.toText.toUTF8
    have hpath : initPath ⟨"conf/graph.ron", none, none, false, false, false, true⟩ =
        "conf/shaderc.ron" := by decide +kernel
    obtain ⟨diagnostics, hinit⟩ := run_initSettings none
      (s := .start emptyDirectory "/") (hpath ▸ htree)
    exact ⟨_, hinit, discoverSettings_finds_saved.2 _ _ _ _ hinit⟩

end Command

end MaterialGraph
