import PlayerSession.Proofs.Text.Pieces
import PlayerSession.Store.Directory

/-! Tables line by line.  Content that is empty or ends with a line end keeps its lines when more is
written behind it, and the lines of what is written follow them.  Reading goes on from one list of lines
to the next with the numbers of the lines, and what it finds on a line does not depend on the number
except that a fault names it. -/

namespace PlayerSession

/-- The fault in a table where `n` lines stand in front. -/
def StoreFault.behind (n : Nat) : StoreFault → StoreFault
  | .malformed line fault => .malformed (line + n) fault
  | fault => fault

namespace Table

variable {session text : String} {line : Bytes}

/-! ### Lines -/

/-- The content is empty or ends with a line end, so that what is written behind it begins a line. -/
def EndsLine (content : Bytes) : Prop := content = [] ∨ content.getLast? = some 10

theorem lines_concat (content : Bytes) : lines (content ++ [10]) = Text.pieces 10 content := by
  simp [lines, Text.pieces_append_cons, Text.pieces]

theorem lines_append {content : Bytes} (hEnd : EndsLine content) (more : Bytes) :
    lines (content ++ more) = lines content ++ lines more := by
  rcases hEnd with rfl | hLast
  · rfl
  · obtain ⟨front, rfl⟩ := List.getLast?_eq_some_iff.mp hLast
    rw [lines_concat, List.append_assoc, List.singleton_append]
    simp only [lines, Text.pieces_append_cons]
    have hNe := Text.pieces_ne_nil (10 : UInt8) more
    rw [List.getLast?_append_of_ne_nil _ hNe, List.dropLast_append_of_ne_nil hNe]
    split
    · rfl
    · rfl

theorem length_lines {content : Bytes} (hEnd : EndsLine content) :
    (lines content).length = content.count 10 := by
  rcases hEnd with rfl | hLast
  · rfl
  · obtain ⟨front, rfl⟩ := List.getLast?_eq_some_iff.mp hLast
    rw [lines_concat, Text.length_pieces, List.count_append]
    rfl

/-! ### Reading -/

theorem readLine_eq_of_no_text (hText : line.text? = none) (n : Nat) :
    readLine session n line = .error (.disk .notText) := by
  have hText : String.fromUTF8? ⟨line.toArray⟩ = none := hText
  rw [readLine, hText]

theorem readLine_eq_of_text (hText : line.text? = some text) (n : Nat) :
    readLine session n line =
      if Text.Blank text then .ok none
      else (readText session (Text.trim text)).mapError (.malformed n) := by
  have hText : String.fromUTF8? ⟨line.toArray⟩ = some text := hText
  rw [readLine, hText]

theorem readLine_add (n m : Nat) (line : Bytes) :
    readLine session (n + m) line = (readLine session n line).mapError (.behind m) := by
  unfold readLine
  split
  · rfl
  · split
    · rfl
    · cases readText session (Text.trim _) <;> rfl

theorem readLines_add (n m : Nat) (all : List Bytes) :
    readLines session (n + m) all = (readLines session n all).mapError (.behind m) := by
  induction all generalizing n with
  | nil => rfl
  | cons line rest ih =>
    rw [readLines, readLines, readLine_add, Nat.add_right_comm, ih]
    cases readLine session n line with
    | error fault => rfl
    | ok record? => cases readLines session (n + 1) rest <;> rfl

/-- Lines are read after others with the numbers that follow theirs. -/
theorem readLines_append (n : Nat) (front back : List Bytes) :
    readLines session n (front ++ back) = do
      let first ← readLines session n front
      let second ← readLines session (n + front.length) back
      return first ++ second := by
  induction front generalizing n with
  | nil =>
    show readLines session n back = _
    cases readLines session n back <;> rfl
  | cons line front ih =>
    have hNext : n + 1 + front.length = n + (line :: front).length := by
      rw [List.length_cons]
      omega
    rw [List.cons_append, readLines, readLines, ih, hNext]
    cases readLine session n line with
    | error fault => rfl
    | ok record? =>
      cases readLines session (n + 1) front with
      | error fault => rfl
      | ok first =>
        cases readLines session (n + (line :: front).length) back with
        | error fault => rfl
        | ok second => simp [bind, Except.bind, pure, Except.pure]

theorem read_append {content : Bytes} (hEnd : EndsLine content) (more : Bytes) :
    read session (content ++ more) = do
      let first ← read session content
      let second ← (read session more).mapError (.behind (content.count 10))
      return first ++ second := by
  unfold read
  rw [lines_append hEnd, readLines_append, length_lines hEnd, readLines_add]

end Table

namespace DirectoryStore

variable {s : DirectoryStore} {d : Disk} {table : String} {content : Bytes}

/-- The file of a table is there, with this content. -/
def Holds (s : DirectoryStore) (d : Disk) (table : String) (content : Bytes) : Prop :=
  ∃ path, s.pathOf table = .ok path ∧ d.read path = .ok content

theorem items_of_holds (h : s.Holds d table content) (session : String) :
    s.items d table session = Table.read session content := by
  obtain ⟨path, hPath, hRead⟩ := h
  simp only [items, hPath, hRead, bind, Except.bind]

/-- A disk where the table `t` of the store in `base` holds `content`. -/
def sampleDisk (content : Bytes) : Disk where
  entries := [(["base"], .directory), (["base", "t.jsonl"], .file content)]

theorem holds_sampleDisk (content : Bytes) : Holds ⟨"base"⟩ (sampleDisk content) "t" content :=
  ⟨"base/t.jsonl", by decide +kernel, rfl⟩

/-- The text of an event of the session `a`. -/
def sampleEvent : String := "\x7b\"event\":\"init\",\"sessionId\":\"a\",\"timestamp\":1\x7d"

end DirectoryStore

end PlayerSession
