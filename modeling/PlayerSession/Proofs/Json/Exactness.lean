import PlayerSession.Proofs.Json.Spelling

/-! What is read of a text is what it spells, and nothing else is read to the end of a text.  A token that
is no broken one comes with its spelling, and what goes wrong once stays wrong, so a run of the tokens that
ends well can be followed from one state to the next.  Between its brackets a value has fewer characters
than with them, which is what the induction is on. -/

namespace PlayerSession.Json

/-! ### Tokens -/

/-- What a token is spelled with.  Anything spells a broken one. -/
def Token.SpelledBy : Token → List Char → Prop
  | .openArray, cs => cs = ['[']
  | .closeArray, cs => cs = [']']
  | .openObject, cs => cs = ['\x7b']
  | .closeObject, cs => cs = ['\x7d']
  | .comma, cs => cs = [',']
  | .colon, cs => cs = [':']
  | .null, cs => cs = ['n', 'u', 'l', 'l']
  | .boolean b, cs => cs = (Value.boolean b).chars
  | .number value, cs => ∃ n : NumberSpelling, cs = n.chars ∧ n.numeral.value? = value
  | .text value, cs => ∃ parts, cs = quotedChars parts ∧ spelledText parts = value
  | .brokenText _, _ | .broken _, _ => True

variable {st : State} {t : Token} {cs rest : List Char} {stack : List Frame} {d : Doc} {n : Nat}

theorem eq_append_of_afterWord {word : List Char} (h : afterWord word cs = .ok rest) :
    cs = word ++ rest := by
  fun_induction afterWord word cs with
  | case1 =>
    cases h
    rfl
  | case3 word w cs ih => rw [ih h, List.cons_append]
  | case2 | case4 => cases h

theorem exists_word {word : List Char} {c : Char} (hSpelled : t.SpelledBy (c :: word)) :
    ∃ lexeme, (wordToken t word cs).1.SpelledBy lexeme ∧
      c :: cs = lexeme ++ (wordToken t word cs).2 := by
  unfold wordToken
  split
  · rename_i tail hWord
    refine ⟨c :: word, hSpelled, ?_⟩
    rw [eq_append_of_afterWord hWord, List.cons_append]
  · exact ⟨c :: cs, trivial, (List.append_nil _).symm⟩

/-- A token is spelled with what is scanned of it. -/
theorem exists_lexeme (c : Char) (rest : List Char) :
    ∃ lexeme, (scanToken c rest).1.SpelledBy lexeme ∧ c :: rest = lexeme ++ (scanToken c rest).2 := by
  unfold scanToken
  split
  · exact ⟨_, rfl, rfl⟩
  · exact ⟨_, rfl, rfl⟩
  · exact ⟨_, rfl, rfl⟩
  · exact ⟨_, rfl, rfl⟩
  · exact ⟨_, rfl, rfl⟩
  · exact ⟨_, rfl, rfl⟩
  · unfold textToken
    split
    · rename_i pieces tail hScan
      obtain ⟨parts, hChars, hPieces⟩ := exists_parts hScan
      refine ⟨quotedChars parts, ⟨parts, rfl, ?_⟩, ?_⟩
      · rw [hPieces]
        rfl
      · rw [hChars, quotedChars, List.cons_append, List.append_assoc]
        rfl
    · exact ⟨_, trivial, (List.append_nil _).symm⟩
  · exact exists_word rfl
  · exact exists_word rfl
  · exact exists_word rfl
  · split
    · unfold numberToken
      split
      · rename_i numeral tail hScan
        obtain ⟨number, hChars, rfl⟩ := exists_number hScan
        exact ⟨number.chars, ⟨number, rfl, rfl⟩, hChars⟩
      · exact ⟨_, trivial, (List.append_nil _).symm⟩
    · exact ⟨_, trivial, (List.append_nil _).symm⟩

/-- A text is white space alone, or a token follows the white space. -/
theorem exists_token (cs : List Char) :
    (∃ w : Space, cs = w.chars) ∨
      ∃ (w : Space) (t : Token) (lexeme rest : List Char), cs = w.chars ++ (lexeme ++ rest) ∧
        t.SpelledBy lexeme ∧ tokens cs = t :: tokens rest := by
  obtain ⟨w, tail, rfl, hHead⟩ := exists_space cs
  cases tail with
  | nil => exact .inl ⟨w, List.append_nil _⟩
  | cons c tail =>
    obtain ⟨lexeme, hSpelled, hChars⟩ := exists_lexeme c tail
    refine .inr ⟨w, _, lexeme, _, congrArg (w.chars ++ ·) hChars, hSpelled, ?_⟩
    have hSpace : isSpace c = false := hHead c rfl
    rw [tokens_space, tokens, hSpace]
    rfl

namespace State

theorem exists_abandon (doc : Doc) (stack : List Frame) : ∃ d, abandon doc stack = .ended d false := by
  induction stack generalizing doc with
  | nil => exact ⟨doc, rfl⟩
  | cons frame stack ih =>
    cases frame with
    | array done => exact ih _
    | object done name => exact ih _

theorem foldl_ended (ts : List Token) (doc : Doc) :
    ts.foldl step (.ended doc false) = .ended doc false := by
  induction ts with
  | nil => rfl
  | cons t ts ih => exact ih

/-- A text that has gone wrong does not get right again. -/
theorem run_abandon_ne (doc : Doc) (stack : List Frame) (cs : List Char) :
    (abandon doc stack).run cs ≠ .ended d true := by
  obtain ⟨d', hAbandon⟩ := exists_abandon doc stack
  rw [hAbandon, run, foldl_ended]
  intro hEq
  cases hEq

/-- Where a value is still under way the next token is to come. -/
theorem exists_step (h : st.run cs = .ended d true) (hOpen : st ≠ .ended d true) :
    ∃ (w : Space) (t : Token) (lexeme rest : List Char), cs = w.chars ++ (lexeme ++ rest) ∧
      t.SpelledBy lexeme ∧ (st.step t).run rest = .ended d true := by
  rcases exists_token cs with ⟨w, rfl⟩ | ⟨w, t, lexeme, rest, hChars, hSpelled, hTokens⟩
  · rw [run_blank] at h
    exact absurd h hOpen
  · exact ⟨w, t, lexeme, rest, hChars, hSpelled, (run_of_tokens hTokens).symm.trans h⟩

theorem afterItem_cases {done : List Doc} (h : (State.afterItem done stack).run cs = .ended d true) :
    ∃ (after : Space) (rest : List Char),
      cs = after.chars ++ ',' :: rest ∧ (State.value (.array done :: stack)).run rest = .ended d true ∨
      cs = after.chars ++ ']' :: rest ∧
        (State.complete (.array (.ofReversed done .close)) stack).run rest = .ended d true := by
  obtain ⟨w, t, lexeme, rest, rfl, hSpelled, hRun⟩ := exists_step h nofun
  cases t with
  | comma =>
    cases hSpelled
    exact ⟨w, rest, .inl ⟨rfl, hRun⟩⟩
  | closeArray =>
    cases hSpelled
    exact ⟨w, rest, .inr ⟨rfl, hRun⟩⟩
  | openArray | openObject | closeObject | colon | null | boolean | number | text | brokenText
  | broken => exact absurd hRun (run_abandon_ne _ _ _)

theorem afterMember_cases {done : List (Option String × Doc)}
    (h : (State.afterMember done stack).run cs = .ended d true) :
    ∃ (after : Space) (rest : List Char),
      cs = after.chars ++ ',' :: rest ∧ (State.nextName done stack).run rest = .ended d true ∨
      cs = after.chars ++ '}' :: rest ∧
        (State.complete (.object (.ofReversed done .close)) stack).run rest = .ended d true := by
  obtain ⟨w, t, lexeme, rest, rfl, hSpelled, hRun⟩ := exists_step h nofun
  cases t with
  | comma =>
    cases hSpelled
    exact ⟨w, rest, .inl ⟨rfl, hRun⟩⟩
  | closeObject =>
    cases hSpelled
    exact ⟨w, rest, .inr ⟨rfl, hRun⟩⟩
  | openArray | openObject | closeArray | colon | null | boolean | number | text | brokenText
  | broken => exact absurd hRun (run_abandon_ne _ _ _)

theorem firstItem_cases (h : (State.firstItem stack).run cs = .ended d true) :
    (∃ (inner : Space) (rest : List Char), cs = inner.chars ++ ']' :: rest ∧
      (State.complete (.array .close) stack).run rest = .ended d true) ∨
      (State.value (.array [] :: stack)).run cs = .ended d true := by
  rcases exists_token cs with ⟨w, rfl⟩ | ⟨w, t, lexeme, rest, hChars, hSpelled, hTokens⟩
  · rw [run_blank] at h
    cases h
  · by_cases hClose : t = .closeArray
    · subst hClose
      cases hSpelled
      exact .inl ⟨w, rest, hChars, (run_of_tokens hTokens).symm.trans h⟩
    · exact .inr ((run_firstItem ⟨t, _, hTokens, hClose⟩).symm.trans h)

theorem exists_colon {done : List (Option String × Doc)} {name : Option String}
    (h : (State.colon done name stack).run cs = .ended d true) :
    ∃ (w : Space) (rest : List Char), cs = w.chars ++ ':' :: rest ∧
      (State.value (.object done name :: stack)).run rest = .ended d true := by
  obtain ⟨w, t, lexeme, rest, rfl, hSpelled, hRun⟩ := exists_step h nofun
  cases t with
  | colon =>
    cases hSpelled
    exact ⟨w, rest, rfl, hRun⟩
  | openArray | openObject | closeArray | closeObject | comma | null | boolean | number | text
  | brokenText | broken => exact absurd hRun (run_abandon_ne _ _ _)

/-- A name is spelled in front of the value of a member. -/
theorem exists_name {done : List (Option String × Doc)}
    (h : (State.nextName done stack).run cs = .ended d true) :
    ∃ (name : NameSpelling) (rest : List Char), cs = name.chars ++ rest ∧
      (State.value (.object done (spelledText name.parts) :: stack)).run rest = .ended d true := by
  obtain ⟨w, t, lexeme, rest, rfl, hSpelled, hRun⟩ := exists_step h nofun
  cases t with
  | text value =>
    obtain ⟨parts, rfl, rfl⟩ := hSpelled
    obtain ⟨w', rest', rfl, hValue⟩ := exists_colon hRun
    refine ⟨⟨w, parts, w'⟩, rest', ?_, hValue⟩
    simp only [NameSpelling.chars, List.append_assoc, List.singleton_append]
  | openArray | openObject | closeArray | closeObject | comma | colon | null | boolean | number
  | brokenText | broken => exact absurd hRun (run_abandon_ne _ _ _)

theorem firstName_cases (h : (State.firstName stack).run cs = .ended d true) :
    (∃ (inner : Space) (rest : List Char), cs = inner.chars ++ '}' :: rest ∧
      (State.complete (.object .close) stack).run rest = .ended d true) ∨
      (State.nextName [] stack).run cs = .ended d true := by
  rcases exists_token cs with ⟨w, rfl⟩ | ⟨w, t, lexeme, rest, hChars, hSpelled, hTokens⟩
  · rw [run_blank] at h
    cases h
  · by_cases hClose : t = .closeObject
    · subst hClose
      cases hSpelled
      exact .inl ⟨w, rest, hChars, (run_of_tokens hTokens).symm.trans h⟩
    · refine .inr ?_
      rw [run_of_tokens hTokens] at h ⊢
      cases t with
      | closeObject => exact absurd rfl hClose
      | openArray | closeArray | openObject | comma | colon | null | boolean | number | text
      | brokenText | broken => exact h

end State

/-- In a text of at most `n` characters, what is read as a value is spelled as one. -/
def ValuesSpelled (d : Doc) (n : Nat) : Prop :=
  ∀ cs stack, cs.length ≤ n → (State.value stack).run cs = .ended d true →
    ∃ (before : Space) (value : Spelling) (rest : List Char),
      cs = before.chars ++ (value.chars ++ rest) ∧
        (State.complete value.doc stack).run rest = .ended d true

theorem exists_items (h : ValuesSpelled d n) (cs : List Char) (done : List Doc) (stack : List Frame)
    (hLength : cs.length ≤ n) (hRun : (State.value (.array done :: stack)).run cs = .ended d true) :
    ∃ (items : ItemsSpelling) (rest : List Char), cs = items.chars ++ ']' :: rest ∧
      (State.complete (.array (.ofReversed done items.doc)) stack).run rest = .ended d true := by
  obtain ⟨before, value, tail, rfl, hAfter⟩ := h cs _ hLength hRun
  obtain ⟨after, rest, ⟨rfl, hMore⟩ | ⟨rfl, hClosed⟩⟩ := State.afterItem_cases hAfter
  · -- behind a comma there are more items, on fewer characters
    have hShorter : rest.length ≤ n := by
      simp only [List.length_append, List.length_cons] at hLength
      omega
    obtain ⟨items, rest', rfl, hItems⟩ := exists_items h rest (value.doc :: done) stack hShorter hMore
    refine ⟨.item before value after items, rest', ?_, hItems⟩
    simp only [ItemsSpelling.chars, List.append_assoc, List.cons_append]
  · refine ⟨.last before value after, rest, ?_, hClosed⟩
    simp only [ItemsSpelling.chars, List.append_assoc]
termination_by cs.length

theorem exists_members (h : ValuesSpelled d n) (cs : List Char) (done : List (Option String × Doc))
    (stack : List Frame) (hLength : cs.length ≤ n)
    (hRun : (State.nextName done stack).run cs = .ended d true) :
    ∃ (members : MembersSpelling) (rest : List Char), cs = members.chars ++ '}' :: rest ∧
      (State.complete (.object (.ofReversed done members.doc)) stack).run rest = .ended d true := by
  obtain ⟨name, tail, rfl, hNamed⟩ := State.exists_name hRun
  have hTail : tail.length ≤ n := by
    rw [List.length_append] at hLength
    omega
  obtain ⟨before, value, tail', rfl, hAfter⟩ := h tail _ hTail hNamed
  obtain ⟨after, rest, ⟨rfl, hMore⟩ | ⟨rfl, hClosed⟩⟩ := State.afterMember_cases hAfter
  · have hShorter : rest.length ≤ n := by
      simp only [List.length_append, List.length_cons] at hTail
      omega
    obtain ⟨members, rest', rfl, hMembers⟩ :=
      exists_members h rest ((spelledText name.parts, value.doc) :: done) stack hShorter hMore
    refine ⟨.member name before value after members, rest', ?_, hMembers⟩
    simp only [MembersSpelling.chars, List.append_assoc, List.cons_append]
  · refine ⟨.last name before value after, rest, ?_, hClosed⟩
    simp only [MembersSpelling.chars, List.append_assoc]
termination_by cs.length

/-- One more character: a value is spelled by its token, or by what is spelled between its brackets. -/
theorem ValuesSpelled.succ (h : ValuesSpelled d n) : ValuesSpelled d (n + 1) := by
  intro cs stack hLength hRun
  obtain ⟨before, t, lexeme, rest, rfl, hSpelled, hNext⟩ := State.exists_step hRun nofun
  refine ⟨before, ?_⟩
  cases t with
  | null =>
    cases hSpelled
    exact ⟨.null, rest, rfl, hNext⟩
  | boolean b =>
    cases hSpelled
    exact ⟨.boolean b, rest, rfl, hNext⟩
  | number value =>
    obtain ⟨number, rfl, rfl⟩ := hSpelled
    exact ⟨.number number, rest, rfl, hNext⟩
  | text value =>
    obtain ⟨parts, rfl, rfl⟩ := hSpelled
    exact ⟨.text parts, rest, rfl, hNext⟩
  | openArray =>
    cases hSpelled
    have hRest : rest.length ≤ n := by
      simp only [List.length_append, List.length_singleton] at hLength
      omega
    rcases State.firstItem_cases hNext with ⟨inner, rest', rfl, hClosed⟩ | hItems
    · refine ⟨.emptyArray inner, rest', ?_, hClosed⟩
      simp only [Spelling.chars, List.append_assoc, List.cons_append, List.nil_append]
    · obtain ⟨items, rest', rfl, hClosed⟩ := exists_items h rest [] stack hRest hItems
      refine ⟨.array items, rest', ?_, hClosed⟩
      simp only [Spelling.chars, List.append_assoc, List.cons_append, List.nil_append]
  | openObject =>
    cases hSpelled
    have hRest : rest.length ≤ n := by
      simp only [List.length_append, List.length_singleton] at hLength
      omega
    rcases State.firstName_cases hNext with ⟨inner, rest', rfl, hClosed⟩ | hMembers
    · refine ⟨.emptyObject inner, rest', ?_, hClosed⟩
      simp only [Spelling.chars, List.append_assoc, List.cons_append, List.nil_append]
    · obtain ⟨members, rest', rfl, hClosed⟩ := exists_members h rest [] stack hRest hMembers
      refine ⟨.object members, rest', ?_, hClosed⟩
      simp only [Spelling.chars, List.append_assoc, List.cons_append, List.nil_append]
  | closeArray | closeObject | comma | colon | brokenText | broken =>
    -- no value begins so
    exact absurd hNext (State.run_abandon_ne _ _ _)

theorem valuesSpelled (d : Doc) (n : Nat) : ValuesSpelled d n := by
  induction n with
  | zero =>
    intro cs stack hLength hRun
    rw [List.length_eq_zero_iff.mp (Nat.le_zero.mp hLength), State.run_nil] at hRun
    cases hRun
  | succ n ih => exact ih.succ

theorem State.eq_ended_of_finish {st : State} (h : st.finish = .ended d true) : st = .ended d true := by
  have hAbandon : ∀ doc stack, State.abandon doc stack ≠ .ended d true := by
    intro doc stack hEq
    obtain ⟨d', hEnded⟩ := State.exists_abandon doc stack
    rw [hEnded] at hEq
    cases hEq
  cases st with
  | ended => exact h
  | value | firstItem | afterItem | firstName | nextName | colon | afterMember =>
    exact absurd h (hAbandon _ _)

theorem Tree.ended_of_ofTokens {ts : List Token} (h : Tree.ofTokens ts = ⟨d, true⟩) :
    ts.foldl State.step (.value []) = .ended d true := by
  unfold Tree.ofTokens at h
  split at h
  · rename_i doc alone hFinish
    cases h
    exact State.eq_ended_of_finish hFinish
  · cases h

theorem State.eq_of_run_ended {doc : Doc} (h : (State.ended doc true).run cs = .ended d true) :
    doc = d ∧ ∃ after : Space, cs = after.chars := by
  rcases exists_token cs with ⟨w, rfl⟩ | ⟨w, t, lexeme, rest, -, -, hTokens⟩
  · rw [run_blank] at h
    cases h
    exact ⟨rfl, w, rfl⟩
  · rw [run, hTokens, List.foldl_cons] at h
    have hEnded : (tokens rest).foldl step (.ended doc false) = .ended d true := h
    rw [foldl_ended] at hEnded
    cases hEnded

/-- The texts that are read to their end, with nothing behind the value, are those that spell its
tree. -/
theorem spells_iff {s : String} : Spells s d ↔ Tree.ofText s = ⟨d, true⟩ := by
  constructor
  · exact ofText_of_spells
  · intro h
    have hRun : (State.value []).run s.toList = .ended d true := Tree.ended_of_ofTokens h
    obtain ⟨before, value, rest, hChars, hRest⟩ := valuesSpelled d _ s.toList [] le_rfl hRun
    obtain ⟨hDoc, after, rfl⟩ := State.eq_of_run_ended hRest
    exact ⟨before, after, value, hChars, hDoc⟩

end PlayerSession.Json
