import MaterialGraph.Proofs.RonLexeme

/-!
# RON trees read back

A tree of words, names, texts, options, lists, tuples and bodies is read back from its spread text,
if its names are plain and it is not nested deeper than there is room. A value is read with whatever
follows it, so that lists, tuples and bodies are read item by item.
-/

namespace MaterialGraph.Ron

/-- Trees that can be read back where there is some room: number words and plain names, texts, and
what is built from such trees. Tuples and bodies are not empty. -/
inductive Legible : Nat → Ron → Prop where
  | word {room : Nat} {c : Char} {cs : List Char} (hstart : startsWord c = true)
      (hcs : ∀ d ∈ c :: cs, continuesWord d = true) : Legible room (.word (c :: cs))
  | ident {room : Nat} {name : Name} (hname : isPlainName name.text = true)
      (hsome : name ≠ Name.plain "Some") : Legible room (.ident name)
  | string (room : Nat) (s : String) : Legible room (.string s)
  | option {room : Nat} {content : Ron} (hcontent : Legible room content) :
      Legible (room + 1) (.option .single content)
  | list {room : Nat} {items : List Ron} (hitems : ∀ item ∈ items, Legible room item) :
      Legible (room + 1) (.list items)
  | tuple {room : Nat} {items : List Ron} (hne : items ≠ [])
      (hitems : ∀ item ∈ items, Legible room item) : Legible (room + 1) (.tuple none items)
  | struct {room : Nat} {name : Option Name} {entries : List (Name × Ron)}
      (hname : ∀ n ∈ name, isPlainName n.text = true ∧ n ≠ Name.plain "Some") (hne : entries ≠ [])
      (hnames : ∀ entry ∈ entries, isPlainName entry.1.text = true)
      (hvalues : ∀ entry ∈ entries, Legible room entry.2) :
      Legible (room + 1) (.struct name entries)

/-- A text that ends a value. -/
def Ends (rest : List Char) : Prop :=
  ∀ c ∈ rest.head?, c ∈ [',', ')']

/-- A tree is read back from its spread text where there is some room, at any level and before any
text that ends a value. -/
def ReadsBack (room : Nat) (t : Ron) : Prop :=
  ∀ level fuel rest, 2 * (spread level t).length ≤ fuel → Ends rest →
    readValue .off fuel room (spread level t ++ rest) = some (t, rest)

theorem Ends.stops {rest : List Char} (h : Ends rest) : Stops rest :=
  fun c hc => of_mem_of_all (h c hc) (by decide)

theorem ends_comma (rest : List Char) : Ends (',' :: rest) := by
  rintro c ⟨⟩
  decide

theorem ends_close (rest : List Char) : Ends (')' :: rest) := by
  rintro c ⟨⟩
  decide

/-- What ends a value is no blank. -/
theorem Ends.skipBlank_eq {rest : List Char} (h : Ends rest) : skipBlank rest = some rest := by
  cases rest with
  | nil => rfl
  | cons c rest =>
    have hc := h c rfl
    refine skipBlank_cons ?_ ?_ rest
    · exact of_mem_of_all hc (by decide)
    · exact of_mem_of_all hc (by decide)

/-! ### What follows an item -/

/-- Behind the last item of a tuple there is no comma. -/
theorem readSeparator_end (rest : List Char) :
    readSeparator ')' (')' :: rest) = some (.close, rest) :=
  rfl

/-- Behind the last line there is a comma. -/
theorem readSeparator_lastLine {close : Char} (hclose : close ∈ [']', ')']) (level : Nat)
    (rest : List Char) :
    readSeparator close (',' :: (newLine level ++ close :: rest)) = some (.close, rest) := by
  have hcomma : skipBlank (',' :: (newLine level ++ close :: rest)) =
      some (',' :: (newLine level ++ close :: rest)) := rfl
  have hskip : skipBlank (newLine level ++ close :: rest) = some (close :: rest) := by
    rw [skipBlank_newLine]
    refine skipBlank_cons ?_ ?_ rest
    · exact of_mem_of_all hclose (by decide)
    · exact of_mem_of_all hclose (by decide)
  have hne : close ≠ ',' := of_mem_of_all hclose (by decide)
  simp only [readSeparator, hcomma, Option.bind_some, hskip, if_true]

/-- A comma and blanks lead to the next item. -/
theorem readSeparator_item {close : Char} (hclose : close ∈ [']', ')']) {cs next : List Char}
    (hskip : skipBlank cs = some next) (hnext : Begins next) :
    readSeparator close (',' :: cs) = some (.item, next) := by
  obtain ⟨c, rest, rfl, hc⟩ := hnext
  have hcomma : skipBlank (',' :: cs) = some (',' :: cs) := rfl
  have hne : c ≠ close := by
    rintro rfl
    have hfirst : startsValue c = false := of_mem_of_all hclose (by decide)
    simp [hc] at hfirst
  have hne' : c ≠ ',' := by
    rintro rfl
    exact absurd hc (by decide)
  simp only [readSeparator, hcomma, Option.bind_some, hskip, if_neg hne]

/-! ### How a value begins -/

/-- A plain name begins a value. -/
theorem begins_spelling {name : Name} (hname : isPlainName name.text = true) :
    Begins name.spelling := by
  simp only [isPlainName, Bool.and_eq_true, Option.any_eq_true] at hname
  obtain ⟨⟨c, hc, halpha⟩, -⟩ := hname
  obtain ⟨cs, htext⟩ := List.head?_eq_some_iff.mp hc
  unfold Name.spelling
  split
  · exact ⟨'r', _, rfl, rfl⟩
  · exact ⟨c, cs, htext, by simp [startsValue, halpha]⟩

/-- The text of a legible tree begins with a value. -/
theorem Legible.begins {room : Nat} {t : Ron} (h : Legible room t) (level : Nat) :
    Begins (spread level t) := by
  cases h with
  | word hstart => exact ⟨_, _, rfl, by simp [startsValue, hstart]⟩
  | ident hname => exact begins_spelling hname
  | string | list | tuple | option => exact ⟨_, _, rfl, rfl⟩
  | @struct _ name _ hname =>
    cases name with
    | none => exact ⟨_, _, rfl, rfl⟩
    | some name => exact ((begins_spelling (hname name rfl).1).append _).append _

/-- The text of an option begins with its name. -/
theorem spread_option (level : Nat) (content : Ron) (rest : List Char) :
    spread level (.option .single content) ++ rest =
      (Name.plain "Some").spelling ++ '(' :: (spread level content ++ ')' :: rest) := by
  have hstart : optionStart = (Name.plain "Some").spelling ++ ['('] := rfl
  simp [spread, hstart]

/-- The text of a named body begins with its name. -/
theorem spread_struct (level : Nat) (name : Name) (entries : List (Name × Ron)) (rest : List Char) :
    spread level (.struct (some name) entries) ++ rest =
      name.spelling ++ '(' :: (spreadEntries level entries ++ ')' :: rest) := by
  simp [spread, nameText]

/-- An opening parenthesis ends a name. -/
theorem stops_open (rest : List Char) : Stops ('(' :: rest) := by
  rintro c ⟨⟩
  decide

/-- A name with a body is no entry. -/
theorem startsEntry_open {name : Name} (hname : isPlainName name.text = true) (cs : List Char) :
    startsEntry (name.spelling ++ '(' :: cs) = false := by
  have hskip : skipBlank ('(' :: cs) = some ('(' :: cs) := rfl
  simp [startsEntry, readName_spelling hname (stops_open cs), hskip]

/-- What begins no name is no entry. -/
theorem startsEntry_cons {c : Char} (hc : startsName c = false) (cs : List Char) :
    startsEntry (c :: cs) = false := by
  simp [startsEntry, readName_eq_none hc cs]

/-- A number word begins no name. -/
theorem startsName_of_startsWord {c : Char} (hc : startsWord c = true) : startsName c = false := by
  have hascii : c.toNat < 0x80 := by
    simp only [startsWord, Bool.or_eq_true, beq_iff_eq] at hc
    rcases hc with ((hdigit | rfl) | rfl) | rfl
    · exact toNat_lt_of_isAlphanum (by simp [Char.isAlphanum, hdigit])
    all_goals decide
  have hall : ∀ code < 0x80, startsWord (Char.ofNat code) = true →
      startsName (Char.ofNat code) = false := by decide
  rw [← Char.ofNat_toNat c] at hc ⊢
  exact hall c.toNat hascii hc

/-- A value is not taken for a named entry. -/
theorem Legible.startsEntry_eq_false {room : Nat} {t : Ron} (h : Legible room t) (level : Nat)
    {rest : List Char} (hrest : Ends rest) : startsEntry (spread level t ++ rest) = false := by
  cases h with
  | word hstart => exact startsEntry_cons (startsName_of_startsWord hstart) _
  | ident hname =>
    have hcolon : ∀ tail, rest ≠ ':' :: tail := by
      rintro tail rfl
      exact absurd (hrest ':' rfl) (by decide)
    simp only [spread, startsEntry, readName_spelling hname hrest.stops, Option.bind_some,
      hrest.skipBlank_eq]
    split
    · rename_i heq
      exact absurd (Option.some.inj heq) (hcolon _)
    · rfl
  | string | list | tuple => exact startsEntry_cons (by decide) _
  | option =>
    rw [spread_option]
    exact startsEntry_open (by decide) _
  | @struct _ name _ hname =>
    cases name with
    | none => exact startsEntry_cons (by decide) _
    | some name =>
      rw [spread_struct]
      exact startsEntry_open (hname name rfl).1 _

/-! ### Items and entries -/

section Steps

variable {fuel room : Nat} {close : Char} {cs behind next rest : List Char} {item : Ron}

/-- The last item is read, and then the end. -/
theorem readItems_last (hitem : readValue .off fuel room cs = some (item, behind))
    (hend : readSeparator close behind = some (.close, rest)) :
    readItems .off (fuel + 1) (room + 1) close cs = some ([item], .close, rest) := by
  simp [readItems, hitem, hend]

/-- An item is read, and then the others. -/
theorem readItems_cons {items : List Ron} {following : Following}
    (hitem : readValue .off fuel room cs = some (item, behind))
    (hcomma : readSeparator close behind = some (.item, next))
    (hnext : readItems .off fuel (room + 1) close next = some (items, following, rest)) :
    readItems .off (fuel + 1) (room + 1) close cs = some (item :: items, following, rest) := by
  simp [readItems, hitem, hcomma, hnext]

variable {name : Name} (hname : isPlainName name.text = true)

include hname

/-- The last entry is read, and then the end. -/
theorem readEntries_last (hcs : Begins cs)
    (hvalue : readValue .off fuel room cs = some (item, behind))
    (hend : readSeparator ')' behind = some (.close, rest)) :
    readEntries .off (fuel + 1) (room + 1) (name.spelling ++ ':' :: ' ' :: cs) =
      some ([(name, item)], rest) := by
  have hcolon : skipBlank (':' :: ' ' :: cs) = some (':' :: ' ' :: cs) := rfl
  simp [readEntries, readName_spelling_colon hname, hcolon, expectChar, hcs.skipBlank_space, hvalue,
    hend]

/-- An entry is read, and then the others. -/
theorem readEntries_cons {entries : List (Name × Ron)} (hcs : Begins cs)
    (hvalue : readValue .off fuel room cs = some (item, behind))
    (hcomma : readSeparator ')' behind = some (.item, next))
    (hnext : readEntries .off fuel (room + 1) next = some (entries, rest)) :
    readEntries .off (fuel + 1) (room + 1) (name.spelling ++ ':' :: ' ' :: cs) =
      some ((name, item) :: entries, rest) := by
  have hcolon : skipBlank (':' :: ' ' :: cs) = some (':' :: ' ' :: cs) := rfl
  simp [readEntries, readName_spelling_colon hname, hcolon, expectChar, hcs.skipBlank_space, hvalue,
    hcomma, hnext]

end Steps

/-- The items of a tuple begin with a value. -/
theorem begins_spreadTuple {room : Nat} {item : Ron} (hitem : Legible room item) (items : List Ron)
    (level : Nat) : Begins (spreadTuple level (item :: items)) := by
  cases items with
  | nil => exact hitem.begins level
  | cons next items => exact (hitem.begins level).append _

/-- The items of a tuple are not taken for named entries. -/
theorem startsEntry_spreadTuple {room : Nat} {item : Ron} (hitem : Legible room item)
    (items : List Ron) (level : Nat) (rest : List Char) :
    startsEntry (spreadTuple level (item :: items) ++ ')' :: rest) = false := by
  cases items with
  | nil => exact hitem.startsEntry_eq_false level (ends_close rest)
  | cons next items =>
    simp only [spreadTuple, List.append_assoc, List.cons_append]
    exact hitem.startsEntry_eq_false level (ends_comma _)

/-- The items of a tuple are read back. -/
theorem readItems_spreadTuple {room : Nat} {item : Ron} {items : List Ron}
    (hitem : ReadsBack room item) (hitems : ∀ other ∈ items, ReadsBack room other)
    (hlegible : ∀ other ∈ items, Legible room other) (level : Nat) {fuel : Nat} (rest : List Char)
    (hfuel : 2 * (spreadTuple level (item :: items)).length + 1 ≤ fuel) :
    readItems .off fuel (room + 1) ')' (spreadTuple level (item :: items) ++ ')' :: rest) =
      some (item :: items, .close, rest) := by
  induction items generalizing item fuel with
  | nil =>
    obtain ⟨fuel, rfl⟩ : ∃ less, fuel = less + 1 := ⟨fuel - 1, by omega⟩
    simp only [spreadTuple] at hfuel ⊢
    exact readItems_last (hitem level fuel _ (by omega) (ends_close rest)) (readSeparator_end rest)
  | cons next items ih =>
    rw [List.forall_mem_cons] at hitems hlegible
    have htext : spreadTuple level (item :: next :: items) =
        spread level item ++ ',' :: ' ' :: spreadTuple level (next :: items) := rfl
    rw [htext] at hfuel ⊢
    simp only [List.length_append, List.length_cons, List.append_assoc, List.cons_append] at hfuel ⊢
    obtain ⟨fuel, rfl⟩ : ∃ less, fuel = less + 1 := ⟨fuel - 1, by omega⟩
    have hbegins := (begins_spreadTuple hlegible.1 items level).append (')' :: rest)
    exact readItems_cons (hitem level fuel _ (by omega) (ends_comma _))
      (readSeparator_item (by decide) hbegins.skipBlank_space hbegins)
      (ih hitems.1 hitems.2 hlegible.2 (by omega))

/-- What follows the comma behind the first item of a list. -/
def itemsAfter (level : Nat) : List Ron → List Char
  | [] => newLine level
  | items => spreadItems level items

/-- The items of a list begin with the first of them, on a line of its own. -/
theorem spreadItems_cons (level : Nat) (item : Ron) (items : List Ron) :
    spreadItems level (item :: items) =
      newLine (level + 1) ++ (spread (level + 1) item ++ ',' :: itemsAfter level items) := by
  cases items with
  | nil => simp [spreadItems, itemsAfter]
  | cons next items => simp [spreadItems, itemsAfter]

/-- The items of a list are read back. -/
theorem readItems_spreadItems {room : Nat} {item : Ron} {items : List Ron}
    (hitem : ReadsBack room item) (hitems : ∀ other ∈ items, ReadsBack room other)
    (hlegible : ∀ other ∈ items, Legible room other) (level : Nat) {fuel : Nat} (rest : List Char)
    (hfuel : 2 * (spread (level + 1) item ++ ',' :: itemsAfter level items).length ≤ fuel) :
    readItems .off fuel (room + 1) ']'
      (spread (level + 1) item ++ ',' :: (itemsAfter level items ++ ']' :: rest)) =
        some (item :: items, .close, rest) := by
  induction items generalizing item fuel with
  | nil =>
    simp only [itemsAfter, List.length_append, List.length_cons] at hfuel ⊢
    obtain ⟨fuel, rfl⟩ : ∃ less, fuel = less + 1 := ⟨fuel - 1, by omega⟩
    exact readItems_last (hitem (level + 1) fuel _ (by omega) (ends_comma _))
      (readSeparator_lastLine (by decide) level rest)
  | cons next items ih =>
    rw [List.forall_mem_cons] at hitems hlegible
    have htext : itemsAfter level (next :: items) = _ := spreadItems_cons level next items
    simp only [htext, List.length_append, List.length_cons, List.append_assoc,
      List.cons_append] at hfuel ⊢
    obtain ⟨fuel, rfl⟩ : ∃ less, fuel = less + 1 := ⟨fuel - 1, by omega⟩
    have hbegins := (hlegible.1.begins (level + 1)).append
      (',' :: (itemsAfter level items ++ ']' :: rest))
    have hskip : skipBlank (newLine (level + 1) ++ _) = _ :=
      (skipBlank_newLine (level + 1) _).trans hbegins.skipBlank_eq
    refine readItems_cons (hitem (level + 1) fuel _ (by omega) (ends_comma _))
      (readSeparator_item (by decide) hskip hbegins) (ih hitems.1 hitems.2 hlegible.2 ?_)
    rw [List.length_append, List.length_cons]
    omega

/-- What follows the comma behind the first entry of a body. -/
def entriesAfter (level : Nat) : List (Name × Ron) → List Char
  | [] => newLine level
  | entries => spreadEntries level entries

/-- The entries of a body begin with the first of them, on a line of its own. -/
theorem spreadEntries_cons (level : Nat) (name : Name) (value : Ron) (entries : List (Name × Ron)) :
    spreadEntries level ((name, value) :: entries) =
      newLine (level + 1) ++ (name.spelling ++ ':' :: ' ' ::
        (spread (level + 1) value ++ ',' :: entriesAfter level entries)) := by
  cases entries with
  | nil => simp [spreadEntries, entriesAfter]
  | cons next entries => simp [spreadEntries, entriesAfter]

/-- The entries of a body are read back. -/
theorem readEntries_spreadEntries {room : Nat} {name : Name} {value : Ron}
    {entries : List (Name × Ron)} (hname : isPlainName name.text = true)
    (hvalue : ReadsBack room value) (hlegible : Legible room value)
    (hnames : ∀ entry ∈ entries, isPlainName entry.1.text = true)
    (hvalues : ∀ entry ∈ entries, ReadsBack room entry.2)
    (hlegibles : ∀ entry ∈ entries, Legible room entry.2) (level : Nat) {fuel : Nat}
    (rest : List Char)
    (hfuel : 2 * (spread (level + 1) value ++ ',' :: entriesAfter level entries).length ≤ fuel) :
    readEntries .off fuel (room + 1) (name.spelling ++ ':' :: ' ' ::
      (spread (level + 1) value ++ ',' :: (entriesAfter level entries ++ ')' :: rest))) =
        some ((name, value) :: entries, rest) := by
  induction entries generalizing name value fuel with
  | nil =>
    simp only [entriesAfter, List.length_append, List.length_cons] at hfuel ⊢
    obtain ⟨fuel, rfl⟩ : ∃ less, fuel = less + 1 := ⟨fuel - 1, by omega⟩
    exact readEntries_last hname ((hlegible.begins _).append _)
      (hvalue (level + 1) fuel _ (by omega) (ends_comma _))
      (readSeparator_lastLine (by decide) level rest)
  | cons next entries ih =>
    obtain ⟨nextName, nextValue⟩ := next
    rw [List.forall_mem_cons] at hnames hvalues hlegibles
    have htext : entriesAfter level ((nextName, nextValue) :: entries) = _ :=
      spreadEntries_cons level nextName nextValue entries
    simp only [htext, List.length_append, List.length_cons, List.append_assoc,
      List.cons_append] at hfuel ⊢
    obtain ⟨fuel, rfl⟩ : ∃ less, fuel = less + 1 := ⟨fuel - 1, by omega⟩
    have hbegins := (begins_spelling hnames.1).append (':' :: ' ' ::
      (spread (level + 1) nextValue ++ ',' :: (entriesAfter level entries ++ ')' :: rest)))
    have hskip : skipBlank (newLine (level + 1) ++ _) = _ :=
      (skipBlank_newLine (level + 1) _).trans hbegins.skipBlank_eq
    have hnextValue : ReadsBack room nextValue := hvalues.1
    refine readEntries_cons hname ((hlegible.begins _).append _)
      (hvalue (level + 1) fuel _ (by omega) (ends_comma _))
      (readSeparator_item (by decide) hskip hbegins)
      (ih hnames.1 hnextValue hlegibles.1 hnames.2 hvalues.2 hlegibles.2 ?_)
    rw [List.length_append, List.length_cons]
    omega

/-! ### Values -/

/-- What begins a value is not what another text begins with. -/
theorem Begins.ne_cons {cs : List Char} (h : Begins cs) {c : Char} (hc : startsValue c = false)
    (tail : List Char) : cs ≠ c :: tail := by
  rintro rfl
  obtain ⟨d, _, hcons, hd⟩ := h
  obtain ⟨rfl, -⟩ := List.cons.inj hcons
  simp [hc] at hd

/-- A leaf that begins with no name is read as such. -/
theorem readValue_leaf {fuel room : Nat} {c : Char} {cs rest : List Char} {t : Ron}
    (hname : startsName c = false) (hc : c ∉ ['(', '[', '\x7b'])
    (hleaf : readLeaf fuel (c :: cs) = some (t, rest)) :
    readValue .off (fuel + 1) room (c :: cs) = some (t, rest) := by
  simp only [List.mem_cons, List.not_mem_nil, or_false, not_or] at hc
  rw [readValue.eq_def]
  simp only [readName_eq_none hname]
  split
  · rename_i heq
    exact absurd (List.cons.inj heq).1 hc.1
  · rename_i heq
    exact absurd (List.cons.inj heq).1 hc.1
  · rename_i heq
    exact absurd (List.cons.inj heq).1 hc.2.1
  · rename_i heq
    exact absurd (List.cons.inj heq).1 hc.2.2
  · exact hleaf

/-- A number word is read back. -/
theorem readValue_word (fuel room : Nat) {c : Char} {cs rest : List Char}
    (hstart : startsWord c = true) (hcs : ∀ d ∈ c :: cs, continuesWord d = true)
    (hrest : Ends rest) :
    readValue .off (fuel + 1) room (c :: cs ++ rest) = some (.word (c :: cs), rest) := by
  have hspan : (c :: (cs ++ rest)).span continuesWord = (c :: cs, rest) :=
    span_append hcs hrest.stops.continuesWord
  have hother : ∀ d ∈ ['(', '[', '\x7b', '"', 'r'], d ≠ c := by
    rintro d hd rfl
    have hfirst : startsWord d = false := of_mem_of_all hd (by decide)
    simp [hstart] at hfirst
  rw [List.cons_append]
  refine readValue_leaf (startsName_of_startsWord hstart) (fun hc => ?_) ?_
  · exact hother c (List.mem_append_left ['"', 'r'] hc) rfl
  · have hquote : c ≠ '"' := (hother '"' (by simp)).symm
    have hraw : c ≠ 'r' := (hother 'r' (by simp)).symm
    simp only [readLeaf, hquote, hraw, decide_false, Bool.or_self, Bool.false_eq_true, if_false,
      hstart, if_true, hspan]

/-- A name is read back. -/
theorem readValue_ident (fuel room : Nat) {name : Name} {rest : List Char}
    (hname : isPlainName name.text = true) (hsome : name ≠ Name.plain "Some") (hrest : Ends rest) :
    readValue .off (fuel + 1) room (name.spelling ++ rest) = some (.ident name, rest) := by
  rw [readValue.eq_def]
  simp only [readName_spelling hname hrest.stops, hrest.skipBlank_eq, Option.bind_some,
    if_neg hsome]
  split
  · exact absurd (hrest '(' rfl) (by decide)
  · rfl

/-- A text is read back. -/
theorem readValue_string {fuel : Nat} (room : Nat) (s : String) (rest : List Char)
    (hfuel : s.toList.length < fuel) :
    readValue .off (fuel + 1) room (quotedText s ++ rest) = some (.string s, rest) := by
  have htext : quotedText s ++ rest =
      '"' :: (s.toList.flatMap (quotedChar .escaped) ++ '"' :: rest) := by
    simp [quotedText, quoted]
  have hread : readText fuel ('"' :: (s.toList.flatMap (quotedChar .escaped) ++ '"' :: rest)) =
      .ok (s.toList, rest) := readQuoted_flatMap s.toList rest hfuel
  rw [htext]
  refine readValue_leaf (by decide) (by decide) ?_
  simp only [readLeaf, hread, decide_true, Bool.true_or, if_true, Except.toOption, Option.map_some,
    String.ofList_toList]

/-- An option is read as what stands in its parentheses. -/
theorem readValue_option {fuel room : Nat} {cs rest : List Char} {item : Ron} (hbegins : Begins cs)
    (hitems : readItems .off fuel room ')' cs = some ([item], .close, rest)) :
    readValue .off (fuel + 2) room ((Name.plain "Some").spelling ++ '(' :: cs) =
      some (.option .single item, rest) := by
  have hopen : skipBlank ('(' :: cs) = some ('(' :: cs) := rfl
  have hname : readName ((Name.plain "Some").spelling ++ '(' :: cs) = _ :=
    readName_spelling (by decide) (stops_open cs)
  rw [readValue.eq_def]
  simp only [hname, hopen, Option.bind_some, if_true]
  have hoff : (!Switches.off.unwrapVariants) = true := rfl
  rw [readOption, hbegins.skipBlank_eq, Option.bind_some, if_pos hoff, hitems]
  rfl

/-- A list without items is read back. -/
theorem readValue_list_nil (fuel room : Nat) (rest : List Char) :
    readValue .off (fuel + 1) room ('[' :: ']' :: rest) = some (.list [], rest) := by
  rw [readValue.eq_def]
  simp only [readName_eq_none (show startsName '[' = false by decide)]
  rfl

/-- A list is read as its items. -/
theorem readValue_list {fuel room : Nat} {cs next rest : List Char} {items : List Ron}
    (hskip : skipBlank cs = some next) (hbegins : Begins next)
    (hitems : readItems .off fuel room ']' next = some (items, .close, rest)) :
    readValue .off (fuel + 1) room ('[' :: cs) = some (.list items, rest) := by
  have hclose : ∀ tail, next ≠ ']' :: tail := hbegins.ne_cons (by decide)
  rw [readValue.eq_def]
  simp only [readName_eq_none (show startsName '[' = false by decide), hskip, Option.bind_some,
    hitems, if_true]

/-- A body without named entries is read as its items. -/
theorem readBody_tuple {fuel room : Nat} {cs rest : List Char} {items : List Ron}
    (hbegins : Begins cs) (hentry : startsEntry cs = false)
    (hitems : readItems .off fuel room ')' cs = some (items, .close, rest)) :
    readBody .off (fuel + 1) room none cs = some (.tuple none items, rest) := by
  -- The case of an empty body is passed over because of this fact.
  have hclose : ∀ tail, cs ≠ ')' :: tail := hbegins.ne_cons (by decide)
  rw [readBody.eq_def]
  simp only [hbegins.skipBlank_eq, Option.bind_some, hentry, Bool.false_eq_true, if_false, hitems,
    bodyOfItems?, Option.map_some]

/-- A body of named entries is read as them. -/
theorem readBody_entries {fuel room level : Nat} {cs rest : List Char} {name : Name}
    {entries : List (Name × Ron)} (typeName : Option Name) (hname : isPlainName name.text = true)
    (hentries : readEntries .off fuel room (name.spelling ++ ':' :: cs) = some (entries, rest)) :
    readBody .off (fuel + 1) room typeName (newLine level ++ (name.spelling ++ ':' :: cs)) =
      some (.struct typeName entries, rest) := by
  have hcolon : skipBlank (':' :: cs) = some (':' :: cs) := rfl
  have hentry : startsEntry (name.spelling ++ ':' :: cs) = true := by
    simp [startsEntry, readName_spelling_colon hname, hcolon]
  have hskip : skipBlank (newLine level ++ (name.spelling ++ ':' :: cs)) = _ :=
    (skipBlank_newLine level _).trans ((begins_spelling hname).append _).skipBlank_eq
  rw [readBody.eq_def]
  simp only [hskip, Option.bind_some, hentry, if_true, hentries, Option.map_some]

/-- What is in parentheses behind a name is read as a body. -/
theorem readValue_named (fuel room : Nat) {name : Name} (cs : List Char)
    (hname : isPlainName name.text = true) (hsome : name ≠ Name.plain "Some") :
    readValue .off (fuel + 1) room (name.spelling ++ '(' :: cs) =
      readBody .off fuel room (some name) cs := by
  have hopen : skipBlank ('(' :: cs) = some ('(' :: cs) := rfl
  rw [readValue.eq_def]
  simp only [readName_spelling hname (stops_open cs), hopen, Option.bind_some, if_neg hsome]

/-- What is in parentheses without a name is read as a body. -/
theorem readValue_body (fuel room : Nat) {cs : List Char} (hcs : ∀ tail, cs ≠ ')' :: tail) :
    readValue .off (fuel + 1) room ('(' :: cs) = readBody .off fuel room none cs := by
  rw [readValue.eq_def]
  simp only [readName_eq_none (show startsName '(' = false by decide)]

/-- A legible tree is read back. -/
theorem Legible.readsBack {room : Nat} {t : Ron} (h : Legible room t) : ReadsBack room t := by
  induction h with
  | word hstart hcs =>
    intro level fuel rest hfuel hrest
    simp only [spread, List.length_cons] at hfuel ⊢
    obtain ⟨fuel, rfl⟩ : ∃ less, fuel = less + 1 := ⟨fuel - 1, by omega⟩
    exact readValue_word fuel _ hstart hcs hrest
  | @ident room name hname hsome =>
    intro level fuel rest hfuel hrest
    have hlength : 0 < name.spelling.length := by
      obtain ⟨c, cs, hcons, -⟩ := begins_spelling hname
      simp [hcons]
    simp only [spread] at hfuel ⊢
    obtain ⟨fuel, rfl⟩ : ∃ less, fuel = less + 1 := ⟨fuel - 1, by omega⟩
    exact readValue_ident fuel room hname hsome hrest
  | string room s =>
    intro level fuel rest hfuel hrest
    have hlength := length_lt_quotedText s
    simp only [spread] at hfuel ⊢
    obtain ⟨fuel, rfl⟩ : ∃ less, fuel = less + 1 := ⟨fuel - 1, by omega⟩
    exact readValue_string room s rest (by omega)
  | @option room content hcontent ih =>
    intro level fuel rest hfuel hrest
    have hbegins := (hcontent.begins level).append (')' :: rest)
    have hlength := congrArg List.length (spread_option level content [])
    simp only [List.append_nil, List.length_append, List.length_cons, List.length_nil] at hlength
    obtain ⟨fuel, rfl⟩ : ∃ less, fuel = less + 2 := ⟨fuel - 2, by omega⟩
    have hitems : readItems .off fuel (room + 1) ')' (spreadTuple level [content] ++ ')' :: rest) =
        some ([content], .close, rest) :=
      readItems_spreadTuple ih (by simp) (by simp) level rest (by simp only [spreadTuple]; omega)
    rw [spread_option]
    exact readValue_option hbegins hitems
  | @list room items hitems ih =>
    intro level fuel rest hfuel hrest
    cases items with
    | nil =>
      simp only [spread, spreadItems, List.length_append, List.length_cons] at hfuel ⊢
      obtain ⟨fuel, rfl⟩ : ∃ less, fuel = less + 1 := ⟨fuel - 1, by omega⟩
      exact readValue_list_nil fuel _ rest
    | cons item items =>
      rw [List.forall_mem_cons] at hitems ih
      simp only [spread, spreadItems_cons, List.length_append, List.length_cons, List.append_assoc,
        List.cons_append, List.nil_append] at hfuel ⊢
      obtain ⟨fuel, rfl⟩ : ∃ less, fuel = less + 1 := ⟨fuel - 1, by omega⟩
      have hbegins := (hitems.1.begins (level + 1)).append
        (',' :: (itemsAfter level items ++ ']' :: rest))
      refine readValue_list ((skipBlank_newLine _ _).trans hbegins.skipBlank_eq) hbegins ?_
      refine readItems_spreadItems ih.1 ih.2 hitems.2 level rest ?_
      rw [List.length_append, List.length_cons]
      omega
  | @tuple room items hne hitems ih =>
    intro level fuel rest hfuel hrest
    obtain ⟨item, items, rfl⟩ := List.exists_cons_of_ne_nil hne
    rw [List.forall_mem_cons] at hitems ih
    simp only [spread, nameText, Option.elim_none, List.nil_append, List.length_append,
      List.length_cons, List.append_assoc, List.cons_append] at hfuel ⊢
    obtain ⟨fuel, rfl⟩ : ∃ less, fuel = less + 2 := ⟨fuel - 2, by omega⟩
    have hbegins := (begins_spreadTuple hitems.1 items level).append (')' :: rest)
    have hentry := startsEntry_spreadTuple hitems.1 items level rest
    rw [readValue_body _ _ (hbegins.ne_cons (by decide))]
    refine readBody_tuple hbegins hentry ?_
    exact readItems_spreadTuple ih.1 ih.2 hitems.2 level rest (by omega)
  | @struct room typeName entries hname hne hnames hvalues ih =>
    intro level fuel rest hfuel hrest
    obtain ⟨⟨name, value⟩, entries, rfl⟩ := List.exists_cons_of_ne_nil hne
    rw [List.forall_mem_cons] at hnames hvalues ih
    simp only [spread, spreadEntries_cons, List.length_append, List.length_cons, List.append_assoc,
      List.cons_append, List.nil_append] at hfuel ⊢
    obtain ⟨fuel, rfl⟩ : ∃ less, fuel = less + 2 := ⟨fuel - 2, by omega⟩
    have hvalue : ReadsBack room value := ih.1
    have hentries : readEntries .off fuel (room + 1) (name.spelling ++ ':' :: ' ' ::
        (spread (level + 1) value ++ ',' :: (entriesAfter level entries ++ ')' :: rest))) = _ :=
      readEntries_spreadEntries hnames.1 hvalue hvalues.1 hnames.2 ih.2 hvalues.2 level rest
        (by rw [List.length_append, List.length_cons]; omega)
    have hbody : readBody .off (fuel + 1) (room + 1) typeName (newLine (level + 1) ++ _) = _ :=
      readBody_entries typeName hnames.1 hentries
    cases typeName with
    | none =>
      rw [nameText, Option.elim_none, List.nil_append, readValue_body _ _ (by simp [newLine])]
      exact hbody
    | some typeName =>
      rw [nameText, Option.elim_some, readValue_named _ _ _ (hname _ rfl).1 (hname _ rfl).2]
      exact hbody

/-- A legible tree is read back from its spread text. -/
theorem parse?_spreadString {t : Ron} (h : Legible nestingBudget t) :
    parse? (spreadString t) = some ⟨.off, t⟩ := by
  have hread := h.readsBack 0 (2 * (spread 0 t).length + 2) [] (by omega) (by simp [Ends])
  have hbegins := h.begins 0
  have hheaders : readHeaders ((spread 0 t).length + 1) .off (spread 0 t) =
      some (.off, spread 0 t) := by
    rw [readHeaders.eq_def]
    simp only
    split
    · rename_i heq
      exact absurd heq (hbegins.ne_cons (by decide) _)
    · rfl
  rw [List.append_nil] at hread
  simp only [parse?, spreadString, String.toList_ofList, hbegins.skipBlank_eq,
    Option.bind_eq_bind, Option.bind_some, hheaders, hread]
  rfl

end MaterialGraph.Ron
