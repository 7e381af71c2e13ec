import PlayerSession.Disk
import PlayerSession.Proofs.Json.Reading
import PlayerSession.Proofs.Text.Pieces

/-! Files in a directory that is there.  The path of such a file leads to the directory and then to the
name, so reading and appending come down to the entry at one place.  A walk passes through directories
only, so whatever is written to a file, the directory is still found where it was. -/

namespace PlayerSession

/-! ### Paths -/

namespace Path

/-- The names on a path. -/
def names (s : String) : List String := (Text.split '/' s).filter (· ≠ "")

/-- The path of a directory, taken apart.  The empty one is the working directory. -/
def ofDirectory (base : String) : Path := ⟨base.toList.head? = some '/', names base, false⟩

/-- A name that stands for the entry of that name. -/
structure PlainName (name : String) : Prop where
  slash : '/' ∉ name.toList
  null : '\x00' ∉ name.toList
  ne_empty : name ≠ ""
  ne_dot : name ≠ "."
  ne_dots : name ≠ ".."

/-- The path of the file `name` in the directory `base` is one that the disk takes. -/
structure Fits (base name : String) : Prop where
  null : '\x00' ∉ base.toList
  nameSize : name.utf8ByteSize ≤ 255
  pathSize : (join base name).utf8ByteSize < 4096

variable {base name : String}

theorem names_of_no_slash (hSlash : '/' ∉ name.toList) (hEmpty : name ≠ "") : names name = [name] := by
  rw [names, Text.split, Text.pieces_of_not_mem hSlash, List.map_singleton, String.ofList_toList]
  simp [hEmpty]

theorem names_cut {front : List Char} {s : String} (h : s.toList = front ++ '/' :: name.toList) :
    names s = names (String.ofList front) ++ names name := by
  rw [names, names, names, Text.split, Text.split, Text.split, h, Text.pieces_append_cons,
    String.toList_ofList, List.map_append, List.filter_append]

/-- The characters of a path are those of the directory, a slash unless there is one, and the name. -/
theorem join_cases (base name : String) :
    base = "" ∧ join base name = name ∨
      base ≠ "" ∧ ∃ mark, (join base name).toList = base.toList ++ (mark ++ name.toList) ∧
        (mark = ['/'] ∨ mark = [] ∧ base.toList.getLast? = some '/') := by
  by_cases hEmpty : base = ""
  · exact .inl ⟨hEmpty, if_pos hEmpty⟩
  refine .inr ⟨hEmpty, ?_⟩
  by_cases hSlash : base.toList.getLast? = some '/'
  · refine ⟨[], ?_, .inr ⟨rfl, hSlash⟩⟩
    rw [join, if_neg hEmpty, if_pos hSlash, String.toList_append]
    rfl
  · refine ⟨['/'], ?_, .inl rfl⟩
    rw [join, if_neg hEmpty, if_neg hSlash, String.toList_append, String.toList_append,
      List.append_assoc]
    rfl

theorem names_join (hName : PlainName name) : names (join base name) = names base ++ [name] := by
  have hSingle := names_of_no_slash hName.slash hName.ne_empty
  rcases join_cases base name with ⟨rfl, hJoin⟩ | ⟨-, mark, hJoin, rfl | ⟨rfl, hSlash⟩⟩
  · rw [hJoin, hSingle]
    rfl
  · rw [names_cut hJoin, hSingle, String.ofList_toList]
  · obtain ⟨front, hFront⟩ := List.getLast?_eq_some_iff.mp hSlash
    have hBase : names base = names (String.ofList front) ++ names "" := names_cut hFront
    have hAll : (join base name).toList = front ++ '/' :: name.toList := by
      rw [hJoin, hFront, List.append_assoc]
      rfl
    rw [names_cut hAll, hSingle, hBase]
    exact congrArg (· ++ [name]) (List.append_nil _).symm

theorem null_not_mem_join (hName : PlainName name) (hFits : Fits base name) :
    '\x00' ∉ (join base name).toList := by
  have hNull := hName.null
  have hBase := hFits.null
  rcases join_cases base name with ⟨-, hJoin⟩ | ⟨-, mark, hJoin, rfl | ⟨rfl, -⟩⟩
  · rw [hJoin]
    exact hNull
  · rw [hJoin]
    simp [hNull, hBase]
  · rw [hJoin]
    simp [hNull, hBase]

theorem head?_join (hName : PlainName name) :
    (join base name).toList.head? = some '/' ↔ base.toList.head? = some '/' := by
  rcases join_cases base name with ⟨rfl, hJoin⟩ | ⟨hBase, mark, hJoin, -⟩
  · rw [hJoin]
    constructor
    · intro hHead
      exact absurd (List.mem_of_mem_head? hHead) hName.slash
    · intro hHead
      cases hHead
  · have hNonempty : base.toList ≠ [] := fun hNil => hBase (String.toList_inj.mp hNil)
    rw [hJoin, List.head?_append_of_ne_nil _ hNonempty]

theorem getLast?_join (hName : PlainName name) : (join base name).toList.getLast? ≠ some '/' := by
  have hLast : name.toList.getLast? ≠ some '/' := fun hSlash =>
    hName.slash (List.mem_of_mem_getLast? hSlash)
  have hNonempty : name.toList ≠ [] := fun hNil => hName.ne_empty (String.toList_inj.mp hNil)
  rcases join_cases base name with ⟨-, hJoin⟩ | ⟨-, mark, hJoin, -⟩
  · rw [hJoin]
    exact hLast
  · rw [hJoin, ← List.append_assoc, List.getLast?_append_of_ne_nil _ hNonempty]
    exact hLast

/-- The path of a file in a directory, taken apart. -/
theorem ofText_join (hName : PlainName name) (hFits : Fits base name) :
    ofText (join base name) =
      .ok ⟨(ofDirectory base).absolute, names base ++ [name], false⟩ := by
  have hNames : names (join base name) = names base ++ [name] := names_join hName
  have hNonempty : join base name ≠ "" := by
    intro hEmpty
    rw [hEmpty] at hNames
    exact List.append_ne_nil_of_right_ne_nil _ (List.cons_ne_nil name []) hNames.symm
  have hAbsolute : decide ((join base name).toList.head? = some '/') = (ofDirectory base).absolute :=
    decide_eq_decide.mpr (head?_join hName)
  have hFile : decide ((join base name).toList.getLast? = some '/') = false :=
    decide_eq_false (getLast?_join hName)
  rw [ofText, if_neg (null_not_mem_join hName hFits), if_neg hNonempty,
    if_neg (Nat.not_le.mpr hFits.pathSize), hAbsolute, hFile, ← names, hNames]

theorem parts_of_ofText {s : String} {p : Path} (h : ofText s = .ok p) :
    p.absolute = (ofDirectory s).absolute ∧ p.components = names s := by
  unfold ofText at h
  split at h
  · cases h
  split at h
  · cases h
  split at h
  · cases h
  · cases h
    exact ⟨rfl, rfl⟩

end Path

namespace Disk

open PlayerSession.Path

variable {d : Disk} {place place' : Place} {e : Entry}

/-! ### Entries -/

theorem entry?_set_self (hPlace : place ≠ []) : entry? (d.set place e) place = some e := by
  unfold entry?
  rw [if_neg hPlace, set, List.lookup_cons_self]

theorem lookup_filter_ne (hNe : place' ≠ place) (entries : List (Place × Entry)) :
    (entries.filter (·.1 ≠ place)).lookup place' = entries.lookup place' := by
  induction entries with
  | nil => rfl
  | cons entry entries ih =>
    by_cases hHere : entry.1 = place
    · have hOther : (place' == entry.1) = false := by simpa [hHere] using hNe
      rw [List.filter_cons_of_neg (by simpa using hHere), ih, List.lookup_cons, hOther]
    · rw [List.filter_cons_of_pos (by simpa using hHere), List.lookup_cons, List.lookup_cons, ih]

/-- A change at one place leaves the others as they are. -/
theorem entry?_set_of_ne (hNe : place' ≠ place) : entry? (d.set place e) place' = d.entry? place' := by
  unfold entry?
  split
  · rfl
  · rw [set, List.lookup_cons]
    simp only [beq_eq_false_iff_ne.mpr hNe]
    exact lookup_filter_ne hNe d.entries

/-! ### Walks -/

theorem requireDirectory_eq_ok_iff {u : Unit} :
    d.requireDirectory place = .ok u ↔ d.entry? place = some .directory := by
  unfold requireDirectory
  split
  · simp_all
  · simp_all
  · simp_all

theorem walk_append (front back : List String) :
    d.walk place (front ++ back) = d.walk place front >>= fun place => d.walk place back := by
  induction front generalizing place with
  | nil => rfl
  | cons c front ih =>
    simp only [List.cons_append, walk, bind, Except.bind]
    cases d.requireDirectory place with
    | error fault => rfl
    | ok u =>
      dsimp only
      split
      · exact ih
      split
      · exact ih
      cases requireName c with
      | error fault => rfl
      | ok u =>
        dsimp only
        split
        · exact ih
        · rfl

/-- A walk passes through directories only, so what is put where none stands does not stop it. -/
theorem walk_set (hFree : d.entry? place ≠ some .directory) (hPlace : place ≠ []) {from' goal : Place}
    {cs : List String} (h : d.walk from' cs = .ok goal) : (d.set place e).walk from' cs = .ok goal := by
  induction cs generalizing from' with
  | nil => exact h
  | cons c cs ih =>
    obtain ⟨u, hDirectory, hNext⟩ := bind_eq_ok_iff.mp h
    have hEntry := requireDirectory_eq_ok_iff.mp hDirectory
    have hNe : from' ≠ place := by
      rintro rfl
      exact hFree hEntry
    have hStill : (d.set place e).requireDirectory from' = .ok u := by
      rw [requireDirectory_eq_ok_iff, entry?_set_of_ne hNe, hEntry]
    refine bind_eq_ok_iff.mpr ⟨u, hStill, ?_⟩
    split at hNext
    · rename_i hDot
      rw [if_pos hDot]
      exact ih hNext
    rename_i hDot
    rw [if_neg hDot]
    split at hNext
    · rename_i hDots
      rw [if_pos hDots]
      exact ih hNext
    rename_i hDots
    rw [if_neg hDots]
    obtain ⟨u, hName, hNext⟩ := bind_eq_ok_iff.mp hNext
    refine bind_eq_ok_iff.mpr ⟨u, hName, ?_⟩
    split at hNext
    · rename_i hSome
      have hThere : Option.isSome <| entry? (d.set place e) (from' ++ [c]) := by
        by_cases hSame : from' ++ [c] = place
        · rw [hSame, entry?_set_self hPlace]
          rfl
        · rw [entry?_set_of_ne hSame]
          exact hSome
      rw [if_pos hThere]
      exact ih hNext
    · cases hNext

/-! ### Files in a directory -/

/-- The directory `base` is on the disk, at `place`. -/
structure Reaches (d : Disk) (base : String) (place : Place) : Prop where
  walk : d.walk (d.start (ofDirectory base)) (names base) = .ok place
  directory : d.entry? place = some .directory

variable {base name : String} {content old : Bytes}

/-- The directory stays where it is when something is put where no directory stands. -/
theorem Reaches.set (h : d.Reaches base place) (hFree : d.entry? place' ≠ some .directory)
    (hPlace : place' ≠ []) : (d.set place' e).Reaches base place where
  walk := walk_set hFree hPlace h.walk
  directory := by
    have hNe : place ≠ place' := by
      rintro rfl
      exact hFree h.directory
    rw [entry?_set_of_ne hNe, h.directory]

variable (hReach : d.Reaches base place) (hName : PlainName name) (hFits : Fits base name)

theorem requireName_of_fits (hFits : Fits base name) : requireName name = .ok () :=
  if_neg (Nat.not_lt.mpr hFits.nameSize)

include hReach hName hFits

theorem walk_join :
    d.walk (d.start ⟨(ofDirectory base).absolute, names base ++ [name], false⟩) (names base ++ [name]) =
      if (d.entry? (place ++ [name])).isSome then .ok (place ++ [name]) else .error .notFound := by
  rw [walk_append]
  show d.walk (d.start (ofDirectory base)) (names base) >>= (fun place => d.walk place [name]) = _
  rw [hReach.walk]
  show d.walk place [name] = _
  have hDirectory : d.requireDirectory place = .ok () :=
    requireDirectory_eq_ok_iff.mpr hReach.directory
  simp only [Disk.walk, hDirectory, requireName_of_fits hFits, if_neg hName.ne_dot,
    if_neg hName.ne_dots, bind, Except.bind]
  rfl

theorem find_of_entry (hEntry : d.entry? (place ++ [name]) = some e) :
    d.find (join base name) = .ok e := by
  have hWalk := walk_join hReach hName hFits
  rw [hEntry] at hWalk
  simp only [find, ofText_join hName hFits, hWalk, hEntry, bind, Except.bind, Option.isSome_some,
    if_true]
  rfl

theorem find_of_nothing (hEntry : d.entry? (place ++ [name]) = none) :
    d.find (join base name) = .error .notFound := by
  have hWalk := walk_join hReach hName hFits
  rw [hEntry] at hWalk
  simp only [find, ofText_join hName hFits, hWalk, bind, Except.bind, Option.isSome_none]
  rfl

theorem read_of_file (hEntry : d.entry? (place ++ [name]) = some (.file content)) :
    d.read (join base name) = .ok content := by
  rw [read, find_of_entry hReach hName hFits hEntry]
  rfl

theorem read_of_nothing (hEntry : d.entry? (place ++ [name]) = none) :
    d.read (join base name) = .error .notFound := by
  rw [read, find_of_nothing hReach hName hFits hEntry]
  rfl

theorem placeForFile_join : d.placeForFile (join base name) = .ok (place ++ [name]) := by
  have hDirectory : d.requireDirectory place = .ok () :=
    requireDirectory_eq_ok_iff.mpr hReach.directory
  have hPlain : ¬ (name = "." ∨ name = ".." ∨ false = true) := by
    simp [hName.ne_dot, hName.ne_dots]
  have hWalk : d.walk (d.start ⟨(ofDirectory base).absolute, names base ++ [name], false⟩)
      (names base) = .ok place := hReach.walk
  simp only [placeForFile, ofText_join hName hFits, List.getLast?_concat, List.dropLast_concat, hWalk,
    hDirectory, if_neg hPlain, requireName_of_fits hFits, bind, Except.bind]
  rfl

theorem append_of_file (hEntry : d.entry? (place ++ [name]) = some (.file old)) :
    d.append (join base name) content = .ok (d.set (place ++ [name]) (.file (old ++ content))) := by
  simp only [append, placeForFile_join hReach hName hFits, hEntry, bind, Except.bind]
  rfl

theorem append_of_nothing (hEntry : d.entry? (place ++ [name]) = none) :
    d.append (join base name) content = .ok (d.set (place ++ [name]) (.file content)) := by
  simp only [append, placeForFile_join hReach hName hFits, hEntry, bind, Except.bind]
  rfl

end Disk

end PlayerSession
