import MaterialGraph.File.Tree
import MaterialGraph.Proofs.Failing

/-!
# Saving a file

Of a tree only its files are compared here: a place either holds a file with some bytes or it holds
none. Making directories keeps every file. Writing a file through a path puts it at the place to
which the path leads afterwards, and keeps the file at every other place. Whether a file can be
saved does not depend on its bytes.
-/

namespace MaterialGraph

namespace FileTree

variable {t made after : FileTree} {p : Path} {place other : Location} {content : ByteArray}

/-- The bytes of the file that stands at a place. -/
def fileAt? (t : FileTree) (place : Location) : Option ByteArray :=
  match t.entry? place with
  | some (.file content) => some content
  | _ => none

/-- Every place holds in the second tree the file that it holds in the first, or none in both. -/
def SameFiles (t after : FileTree) : Prop :=
  ∀ place, after.fileAt? place = t.fileAt? place

/-- The path leads to a file with the bytes, and every other place holds the file it held before. -/
structure Saved (t : FileTree) (p : Path) (content : ByteArray) (after : FileTree) : Prop where
  read : after.read p = .ok content
  others : ∀ place, after.locate p ≠ .ok place → after.fileAt? place = t.fileAt? place

/-- Make the directory that a path lies in, if its text names one. -/
def makeAround (t : FileTree) (p : Path) : Except FileFault FileTree :=
  if (p.parent?.getD "").isEmpty then .ok t else t.makeDirectories (p.parent?.getD "")

/-- The directory that the path lies in can be made, and then any bytes be written. -/
def CanSave (t : FileTree) (p : Path) : Prop :=
  ∃ made, t.makeAround p = .ok made ∧ ∀ content, ∃ after, made.write p content = .ok after

/-- A tree has the same files as itself. -/
theorem SameFiles.refl (t : FileTree) : t.SameFiles t :=
  fun _ => rfl

/-- Two changes that keep every file keep every file together. -/
theorem SameFiles.trans (h : t.SameFiles made) (h' : made.SameFiles after) : t.SameFiles after :=
  fun place => (h' place).trans (h place)

/-! ### Putting an entry at a place -/

/-- What `put` does to the list of a tree in which something stands at the place. -/
theorem lookup_map_replace (entries : List (Location × FileEntry)) (place other : Location)
    (entry : FileEntry) :
    (entries.map fun (name, old) => if name == place then (name, entry) else (name, old)).lookup
        other
      = if other = place then (entries.lookup other).map fun _ => entry
        else entries.lookup other := by
  induction entries with
  | nil => simp
  | cons e rest ih =>
    obtain ⟨name, old⟩ := e
    rw [List.map_cons, List.lookup_cons]
    cases hname : other == name with
    | true =>
      obtain rfl := eq_of_beq hname
      by_cases hplace : other = place <;> simp [hplace]
    | false =>
      by_cases hplace : name = place <;> simp [List.lookup_cons, hname, hplace] at ih ⊢
      · subst hplace
        simp [hname, ih]
      · exact ih

/-- An entry that is put at a place other than the root stands there, and every other place keeps
its entry. -/
theorem entry?_put (t : FileTree) (entry : FileEntry) (hplace : place ≠ []) (other : Location) :
    FileTree.entry? (t.put place entry) other =
      if other = place then some entry else t.entry? other := by
  by_cases hroot : other = []
  · simp [FileTree.entry?, hroot, hplace.symm]
  have hlookup : (t.put place entry).entries.lookup other =
      if other = place then some entry else t.entries.lookup other := by
    rw [put]
    split
    · next hany =>
      obtain ⟨⟨name, old⟩, hmem, hname⟩ := List.any_eq_true.mp hany
      obtain rfl : name = place := eq_of_beq hname
      obtain ⟨found, hfound⟩ := Option.isSome_iff_exists.mp
        (List.lookup_isSome_iff.mpr ⟨(name, old), hmem, BEq.rfl⟩)
      rw [lookup_map_replace]
      split
      · next heq => rw [heq, hfound, Option.map_some]
      · rfl
    · next hany =>
      have hnone : t.entries.lookup place = none := by
        refine List.lookup_eq_none_iff.mpr fun e he => bne_iff_ne.mpr fun heq => hany ?_
        exact List.any_eq_true.mpr ⟨e, he, beq_iff_eq.mpr heq.symm⟩
      rw [List.lookup_append]
      split
      · next heq => simp [heq, hnone]
      · next hne => simp [List.lookup_cons, beq_eq_false_iff_ne.mpr hne]
  simpa [FileTree.entry?, hroot] using hlookup

/-- A place without a directory is not the root. -/
theorem ne_nil_of_not_hasDirectory (h : t.hasDirectory place = false) : place ≠ [] := by
  rintro rfl
  simp [hasDirectory, FileTree.entry?] at h

/-- A file where no directory stands leaves the directories as they are. -/
theorem hasDirectory_put_file (h : t.hasDirectory place = false) (content : ByteArray)
    (other : Location) :
    (t.put place (.file content)).hasDirectory other = t.hasDirectory other := by
  have hplace := ne_nil_of_not_hasDirectory h
  rw [hasDirectory, entry?_put t _ hplace]
  by_cases heq : other = place
  · simp [heq, h]
  · simp [heq, hasDirectory]

/-! ### Making directories -/

/-- A directory where nothing stands leaves the files as they are. -/
theorem sameFiles_put_directory (h : t.entry? place = none) :
    t.SameFiles (t.put place .directory) := by
  have hplace : place ≠ [] := by
    rintro rfl
    simp [FileTree.entry?] at h
  intro other
  rw [fileAt?, entry?_put t _ hplace]
  by_cases heq : other = place
  · simp [heq, fileAt?, h]
  · simp [heq, fileAt?]

/-- Making a directory keeps every file. -/
theorem sameFiles_makeDirectory (h : t.makeDirectory p = .ok after) : t.SameFiles after := by
  rw [makeDirectory] at h
  split at h
  · simp at h
  · split at h
    · simp at h
    · next target _ =>
      obtain ⟨place, -, h⟩ := bind_eq_ok_iff.mp h
      split at h
      · simp at h
      · next hnone =>
        obtain rfl := Except.ok.inj h
        exact sameFiles_put_directory (Option.not_isSome_iff_eq_none.mp hnone)

/-- Making a directory with those around it that are missing keeps every file. -/
theorem sameFiles_makeWithin {paths : List Path} (h : t.makeWithin paths = .ok after) :
    t.SameFiles after := by
  fun_induction makeWithin t paths generalizing after with
  | case1 =>
    obtain rfl := Except.ok.inj h
    exact .refl t
  | case2 =>
    obtain rfl := Except.ok.inj h
    exact .refl t
  | case3 p outer _ made hmade =>
    obtain rfl := Except.ok.inj h
    exact sameFiles_makeDirectory hmade
  | case4 p outer _ _ ih =>
    obtain ⟨made, houter, h⟩ := bind_eq_ok_iff.mp h
    split at h
    · obtain rfl := Except.ok.inj h
      exact ih houter
    · exact (ih houter).trans (sameFiles_makeDirectory h)
  | case5 =>
    obtain rfl := Except.ok.inj h
    exact .refl t
  | case6 => simp at h

/-- Making the directory that a path lies in keeps every file. -/
theorem sameFiles_makeAround (h : t.makeAround p = .ok after) : t.SameFiles after := by
  rw [makeAround] at h
  split at h
  · obtain rfl := Except.ok.inj h
    exact .refl t
  · exact sameFiles_makeWithin h

/-! ### Writing through a path -/

/-- Following segments in two parts is following the second from where the first leads. -/
theorem walk_append (t : FileTree) (place : Location) (before rest : List String) :
    t.walk place (before ++ rest) = (t.walk place before).bind (t.walk · rest) := by
  fun_induction walk t place before with
  | case1 => rfl
  | _ => simp_all [walk, Except.bind]

/-- A file where no directory stands does not stop any walk that went through without it. -/
theorem walk_put_file {start : Location} {steps : List String} (h : t.hasDirectory place = false)
    (hwalk : t.walk start steps = .ok other) :
    (t.put place (.file content)).walk start steps = .ok other := by
  have hplace := ne_nil_of_not_hasDirectory h
  have hgrows (place' : Location) (hsome : (t.entry? place').isSome = true) :
      (FileTree.entry? (t.put place (.file content)) place').isSome = true := by
    rw [entry?_put t _ hplace]
    split <;> simp [hsome]
  fun_induction walk t start steps with
  | case1 => simpa [walk] using hwalk
  | case2 => simp at hwalk
  | case3 start segment rest hstart hidle ih =>
    simpa [walk, hasDirectory_put_file h, hstart, hidle] using ih hwalk
  | case4 start rest hstart _ ih =>
    simpa [walk, hasDirectory_put_file h, hstart] using ih hwalk
  | case5 start segment rest hstart hactive hup hsome ih =>
    simpa [walk, hasDirectory_put_file h, hstart, hactive, hup, hgrows _ hsome] using ih hwalk
  | case6 => simp at hwalk

/-- A target without slashes at its end has the segments of its path. -/
theorem segments_of_target? {target : Target} (h : target? p = some target)
    (hslashed : target.slashed = false) :
    segments p = target.around ++ [target.last] ∧ target.last ≠ "" := by
  simp only [target?] at h
  split at h
  · simp at h
  · next last around hdrop =>
    obtain rfl := Option.some.inj h
    rcases hreversed : (segments p).reverse with _ | ⟨first, rest⟩
    · simp [hreversed] at hdrop
    · have hfirst : first ≠ "" := by simpa [hreversed] using hslashed
      obtain ⟨rfl, rfl⟩ : first = last ∧ rest = around := by
        simpa [hreversed, List.dropWhile_cons, hfirst] using hdrop
      refine ⟨?_, hfirst⟩
      rw [← List.reverse_reverse (segments p), hreversed, List.reverse_cons]

/-- An entry does not change where relative paths start. -/
theorem base_put (t : FileTree) (place : Location) (entry : FileEntry) :
    (t.put place entry).base = t.base := by
  rw [put]
  split <;> rfl

/-- A path leads to the file that has been put at the place of its target. -/
theorem locate_put_file {target : Target} (hne : ¬p.isEmpty) (htarget : target? p = some target)
    (hslashed : target.slashed = false) (hplace : t.placeOf p target = .ok place)
    (hfree : t.hasDirectory place = false) :
    (t.put place (.file content)).locate p = .ok place := by
  obtain ⟨hsegments, hlast⟩ := segments_of_target? htarget hslashed
  obtain ⟨directory, haround, hplace⟩ := bind_eq_ok_iff.mp hplace
  split at hplace
  · next hdirectory =>
    have hstart : (t.put place (.file content)).startOf p = t.startOf p := by
      simp only [startOf, base_put]
    have hself : (FileTree.entry? (t.put place (.file content)) place).isSome = true := by
      simp [entry?_put t _ (ne_nil_of_not_hasDirectory hfree)]
    rw [locate, if_neg hne, hsegments, walk_append, hstart, walk_put_file hfree haround]
    simp only [Except.bind, walk, hasDirectory_put_file hfree, hdirectory, hlast]
    split at hplace
    · obtain rfl := Except.ok.inj hplace
      simp [hdirectory] at hfree
    · next hdot =>
      split at hplace
      · next hup => simpa [hdot, hup] using hplace
      · next hup =>
        obtain rfl := Except.ok.inj hplace
        simp [hdot, hup, hself]
  · simp at hplace

/-- A file that can be written can be written with any bytes. It then stands where no directory
stood, and the path leads there. -/
theorem exists_place_of_write (h : t.write p content = .ok after) :
    ∃ place, t.hasDirectory place = false ∧
      ∀ content, t.write p content = .ok (t.put place (.file content)) ∧
        (t.put place (.file content)).locate p = .ok place := by
  rw [write] at h
  split at h
  · simp at h
  · next hne =>
    split at h
    · simp at h
    · next target htarget =>
      obtain ⟨place, hplace, h⟩ := bind_eq_ok_iff.mp h
      split at h
      · simp at h
      · next hfree =>
        simp only [Bool.or_eq_true, not_or, Bool.not_eq_true] at hfree
        refine ⟨place, hfree.2, fun content => ⟨?_, ?_⟩⟩
        · simp [write, hne, htarget, hplace, Except.bind, hfree]
        · exact locate_put_file hne htarget hfree.1 hplace hfree.2

/-- Whether a file can be written does not depend on its bytes. -/
theorem exists_write (h : t.write p content = .ok after) (other : ByteArray) :
    ∃ after', t.write p other = .ok after' := by
  obtain ⟨place, -, hwrite⟩ := exists_place_of_write h
  exact ⟨_, (hwrite other).1⟩

/-- Writing a file through a path saves it there. -/
theorem saved_of_write (h : t.write p content = .ok after) : t.Saved p content after := by
  obtain ⟨place, hfree, hwrite⟩ := exists_place_of_write h
  obtain ⟨hput, hlocate⟩ := hwrite content
  obtain rfl : t.put place (.file content) = after := Except.ok.inj (hput.symm.trans h)
  have hentry := entry?_put t (.file content) (ne_nil_of_not_hasDirectory hfree)
  constructor
  · simp [read, find, hlocate, Except.bind, hentry]
  · intro other hother
    have hne : other ≠ place := fun heq => hother (heq ▸ hlocate)
    simp [fileAt?, hentry, hne]

/-- Trying it with some bytes tells whether a file can be saved. -/
theorem canSave_iff (t : FileTree) (p : Path) (content : ByteArray) :
    t.CanSave p ↔
      ((t.makeAround p).bind fun made => made.write p content).isOk = true := by
  rw [← exists_eq_ok_iff]
  constructor
  · rintro ⟨made, hmade, hwrite⟩
    obtain ⟨after, hafter⟩ := hwrite content
    exact ⟨after, bind_eq_ok_iff.mpr ⟨made, hmade, hafter⟩⟩
  · rintro ⟨after, hafter⟩
    obtain ⟨made, hmade, hwrite⟩ := bind_eq_ok_iff.mp hafter
    exact ⟨made, hmade, exists_write hwrite⟩

/-- Whether a file can be saved is decided by trying it with no bytes. -/
instance (t : FileTree) (p : Path) : Decidable (t.CanSave p) :=
  decidable_of_iff _ (t.canSave_iff p .empty).symm

/-- What is saved in a tree is saved for every tree with the same files. -/
theorem SameFiles.saved (h : t.SameFiles made) (hsaved : made.Saved p content after) :
    t.Saved p content after :=
  ⟨hsaved.read, fun place hplace => (hsaved.others place hplace).trans (h place)⟩

end FileTree

end MaterialGraph
