import PlayerSession.Proofs.Json.Lexemes

/-! JSON texts as they are spelled: values with white space between any two tokens.  The text of a spelling
is read as the tree that the spelling stands for. -/

namespace PlayerSession.Json

/-! ### Spellings -/

/-- The name of a member as it is spelled, with the colon behind it. -/
structure NameSpelling where
  before : Space
  parts : List TextPart
  after : Space

def NameSpelling.chars (name : NameSpelling) : List Char :=
  name.before.chars ++ (quotedChars name.parts ++ (name.after.chars ++ [':']))

mutual

/-- A value as it is spelled. -/
inductive Spelling where
  | null
  | boolean (b : Bool)
  | number (n : NumberSpelling)
  | text (parts : List TextPart)
  | emptyArray (inner : Space)
  | array (items : ItemsSpelling)
  | emptyObject (inner : Space)
  | object (members : MembersSpelling)

/-- The items of an array as they are spelled.  There is at least one. -/
inductive ItemsSpelling where
  | last (before : Space) (value : Spelling) (after : Space)
  | item (before : Space) (value : Spelling) (after : Space) (rest : ItemsSpelling)

/-- The members of an object as they are spelled.  There is at least one. -/
inductive MembersSpelling where
  | last (name : NameSpelling) (before : Space) (value : Spelling) (after : Space)
  | member (name : NameSpelling) (before : Space) (value : Spelling) (after : Space)
    (rest : MembersSpelling)

end

mutual

def Spelling.chars : Spelling → List Char
  | .null => ['n', 'u', 'l', 'l']
  | .boolean b => (Value.boolean b).chars
  | .number n => n.chars
  | .text parts => quotedChars parts
  | .emptyArray inner => '[' :: (inner.chars ++ [']'])
  | .array items => '[' :: (items.chars ++ [']'])
  | .emptyObject inner => '{' :: (inner.chars ++ ['}'])
  | .object members => '{' :: (members.chars ++ ['}'])

def ItemsSpelling.chars : ItemsSpelling → List Char
  | .last before value after => before.chars ++ (value.chars ++ after.chars)
  | .item before value after rest =>
    before.chars ++ (value.chars ++ (after.chars ++ ',' :: rest.chars))

def MembersSpelling.chars : MembersSpelling → List Char
  | .last name before value after => name.chars ++ (before.chars ++ (value.chars ++ after.chars))
  | .member name before value after rest =>
    name.chars ++ (before.chars ++ (value.chars ++ (after.chars ++ ',' :: rest.chars)))

end

mutual

/-- The tree that a spelling stands for. -/
def Spelling.doc : Spelling → Doc
  | .null => .null
  | .boolean b => .boolean b
  | .number n => .number n.numeral.value?
  | .text parts => .text (spelledText parts)
  | .emptyArray _ => .array .close
  | .array items => .array items.doc
  | .emptyObject _ => .object .close
  | .object members => .object members.doc

def ItemsSpelling.doc : ItemsSpelling → Items
  | .last _ value _ => .item value.doc .close
  | .item _ value _ rest => .item value.doc rest.doc

def MembersSpelling.doc : MembersSpelling → Members
  | .last name _ value _ => .member (spelledText name.parts) value.doc .close
  | .member name _ value _ rest => .member (spelledText name.parts) value.doc rest.doc

end

/-- A text spells a tree: a value that stands for it, with nothing around it but white space. -/
def Spells (s : String) (d : Doc) : Prop :=
  ∃ (before after : Space) (value : Spelling),
    s.toList = before.chars ++ (value.chars ++ after.chars) ∧ value.doc = d

/-! ### Reading what is spelled -/

/-- What a text brings the building of a tree to. -/
def State.run (st : State) (cs : List Char) : State := (tokens cs).foldl State.step st

namespace State

variable {st : State} {t : Token} {cs more : List Char} {stack : List Frame}

theorem run_nil : st.run [] = st := by
  rw [run, tokens]
  rfl

theorem run_space (w : Space) : st.run (w.chars ++ cs) = st.run cs := by
  rw [run, tokens_space]
  rfl

theorem run_blank (w : Space) : st.run w.chars = st := by
  rw [← List.append_nil w.chars, run_space, run_nil]

theorem run_of_tokens (h : tokens cs = t :: tokens more) : st.run cs = (st.step t).run more := by
  rw [run, h]
  rfl

theorem run_mark {c : Char} (hSpace : isSpace c = false) (hMark : ∀ more, scanToken c more = (t, more)) :
    st.run (c :: cs) = (st.step t).run cs := run_of_tokens (tokens_mark cs hSpace hMark)

theorem run_name (name : NameSpelling) :
    st.run (name.chars ++ more) = ((st.step (.text (spelledText name.parts))).step .colon).run more := by
  rw [NameSpelling.chars, List.append_assoc, List.append_assoc, List.append_assoc, run_space,
    run_of_tokens (tokens_quotedChars _ _), run_space]
  exact run_of_tokens (tokens_colon more)

end State

variable {more : List Char}

theorem delimited_space (w : Space) (hMore : Delimited more) : Delimited (w.chars ++ more) := by
  obtain ⟨chars, hBlank⟩ := w
  cases chars with
  | nil => exact hMore
  | cons c chars =>
    have hSpace := hBlank c List.mem_cons_self
    simp only [isSpace, Bool.or_eq_true, decide_eq_true_eq] at hSpace
    refine delimited_cons ?_
    rcases hSpace with ((rfl | rfl) | rfl) | rfl
    all_goals decide

/-- A value does not begin with the bracket that closes an array. -/
theorem Spelling.exists_tokens (v : Spelling) (hMore : Delimited more) :
    ∃ t ts, tokens (v.chars ++ more) = t :: ts ∧ t ≠ .closeArray := by
  cases v with
  | null => exact ⟨_, _, tokens_null more, nofun⟩
  | boolean b => exact ⟨_, _, tokens_boolean b more, nofun⟩
  | number n => exact ⟨_, _, tokens_numberChars n hMore, nofun⟩
  | text parts => exact ⟨_, _, tokens_quotedChars parts more, nofun⟩
  | emptyArray | array =>
    rw [Spelling.chars]
    exact ⟨.openArray, _, tokens_mark _ rfl fun _ => rfl, nofun⟩
  | emptyObject | object =>
    rw [Spelling.chars]
    exact ⟨.openObject, _, tokens_mark _ rfl fun _ => rfl, nofun⟩

theorem ItemsSpelling.exists_tokens (items : ItemsSpelling) (hMore : Delimited more) :
    ∃ t ts, tokens (items.chars ++ more) = t :: ts ∧ t ≠ .closeArray := by
  cases items with
  | last before value after =>
    rw [ItemsSpelling.chars, List.append_assoc, List.append_assoc, tokens_space]
    exact value.exists_tokens (delimited_space after hMore)
  | item before value after rest =>
    rw [ItemsSpelling.chars, List.append_assoc, List.append_assoc, List.append_assoc, tokens_space]
    exact value.exists_tokens (delimited_space after (delimited_cons (by decide)))

theorem State.run_firstItem {cs : List Char} {stack : List Frame}
    (h : ∃ t ts, tokens cs = t :: ts ∧ t ≠ .closeArray) :
    (State.firstItem stack).run cs = (State.value (.array [] :: stack)).run cs := by
  obtain ⟨t, ts, hTokens, hNe⟩ := h
  rw [run, run, hTokens, List.foldl_cons, List.foldl_cons, step_firstItem hNe]

theorem MembersSpelling.run_firstName (members : MembersSpelling) (stack : List Frame) :
    (State.firstName stack).run (members.chars ++ more) =
      (State.nextName [] stack).run (members.chars ++ more) := by
  cases members with
  | last name before value after | member name before value after rest =>
    rw [MembersSpelling.chars, List.append_assoc, State.run_name, State.run_name]
    rfl

mutual

/-- The text of a value builds the tree of the value, whatever is open around it. -/
theorem Spelling.run_chars (v : Spelling) (stack : List Frame) {more : List Char}
    (hMore : Delimited more) :
    (State.value stack).run (v.chars ++ more) = (State.complete v.doc stack).run more := by
  match v with
  | .null => exact State.run_of_tokens (tokens_null more)
  | .boolean b => exact State.run_of_tokens (tokens_boolean b more)
  | .number n => exact State.run_of_tokens (tokens_numberChars n hMore)
  | .text parts => exact State.run_of_tokens (tokens_quotedChars parts more)
  | .emptyArray inner =>
    rw [Spelling.chars, List.cons_append, List.append_assoc,
      State.run_mark (t := .openArray) rfl fun _ => rfl, State.run_space]
    exact State.run_mark (t := .closeArray) rfl fun _ => rfl
  | .array items =>
    rw [Spelling.chars, List.cons_append, List.append_assoc,
      State.run_mark (t := .openArray) rfl fun _ => rfl]
    -- the items do not begin with a closing bracket, so the first is read like any other
    show (State.firstItem stack).run (items.chars ++ ']' :: more) = _
    rw [State.run_firstItem (items.exists_tokens (delimited_cons (by decide)))]
    exact items.run_chars [] stack more
  | .emptyObject inner =>
    rw [Spelling.chars, List.cons_append, List.append_assoc,
      State.run_mark (t := .openObject) rfl fun _ => rfl, State.run_space]
    exact State.run_mark (t := .closeObject) rfl fun _ => rfl
  | .object members =>
    rw [Spelling.chars, List.cons_append, List.append_assoc,
      State.run_mark (t := .openObject) rfl fun _ => rfl]
    show (State.firstName stack).run (members.chars ++ '}' :: more) = _
    rw [members.run_firstName]
    exact members.run_chars [] stack more

theorem ItemsSpelling.run_chars (items : ItemsSpelling) (done : List Doc) (stack : List Frame)
    (more : List Char) :
    (State.value (.array done :: stack)).run (items.chars ++ ']' :: more) =
      (State.complete (.array (.ofReversed done items.doc)) stack).run more := by
  match items with
  | .last before value after =>
    rw [ItemsSpelling.chars, List.append_assoc, List.append_assoc, State.run_space,
      value.run_chars _ (delimited_space after (delimited_cons (by decide))), State.run_space]
    exact State.run_mark (t := .closeArray) rfl fun _ => rfl
  | .item before value after rest =>
    rw [ItemsSpelling.chars, List.append_assoc, List.append_assoc, List.append_assoc, List.cons_append,
      State.run_space, value.run_chars _ (delimited_space after (delimited_cons (by decide))),
      State.run_space, State.run_of_tokens (tokens_comma _)]
    exact rest.run_chars (value.doc :: done) stack more

theorem MembersSpelling.run_chars (members : MembersSpelling) (done : List (Option String × Doc))
    (stack : List Frame) (more : List Char) :
    (State.nextName done stack).run (members.chars ++ '}' :: more) =
      (State.complete (.object (.ofReversed done members.doc)) stack).run more := by
  match members with
  | .last name before value after =>
    rw [MembersSpelling.chars, List.append_assoc, List.append_assoc, List.append_assoc,
      State.run_name, State.run_space]
    show (State.value (.object done (spelledText name.parts) :: stack)).run _ = _
    rw [value.run_chars _ (delimited_space after (delimited_cons (by decide))), State.run_space]
    exact State.run_mark (t := .closeObject) rfl fun _ => rfl
  | .member name before value after rest =>
    rw [MembersSpelling.chars, List.append_assoc, List.append_assoc, List.append_assoc,
      List.append_assoc, List.cons_append, State.run_name, State.run_space]
    show (State.value (.object done (spelledText name.parts) :: stack)).run _ = _
    rw [value.run_chars _ (delimited_space after (delimited_cons (by decide))), State.run_space,
      State.run_of_tokens (tokens_comma _)]
    exact rest.run_chars ((spelledText name.parts, value.doc) :: done) stack more

end

theorem ofText_of_spells {s : String} {d : Doc} (h : Spells s d) : Tree.ofText s = ⟨d, true⟩ := by
  obtain ⟨before, after, value, hChars, rfl⟩ := h
  have hAfter : Delimited after.chars := by
    have hSpace := delimited_space after delimited_nil
    rwa [List.append_nil] at hSpace
  have hRun : (State.value []).run s.toList = .ended value.doc true := by
    rw [hChars, State.run_space, value.run_chars [] hAfter, State.run_blank]
    rfl
  exact Tree.ofTokens_of_ended hRun

end PlayerSession.Json
