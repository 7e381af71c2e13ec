import PlayerSession.Proofs.Json.Doubles
import PlayerSession.Proofs.Json.Strings

/-! Values as they are written and as they are read.  A text that was written has the tokens of its value,
and the fold over these tokens builds the tree of the value, so reading the text sees every part of the
value where it was put.  This asks of the integers alone that they have 64 bits. -/

namespace PlayerSession.Json

mutual

/-- The integers of a value have 64 bits. -/
def Value.Legible : Value → Prop
  | .null | .boolean _ | .text _ | .real _ => True
  | .integer n => FitsWord n
  | .array items => ItemsLegible items
  | .object members => MembersLegible members

def ItemsLegible : List Value → Prop
  | [] => True
  | v :: rest => v.Legible ∧ ItemsLegible rest

def MembersLegible : List (String × Value) → Prop
  | [] => True
  | (_, v) :: rest => v.Legible ∧ MembersLegible rest

end

theorem itemsLegible_iff {items : List Value} : ItemsLegible items ↔ ∀ v ∈ items, v.Legible := by
  induction items with
  | nil => exact ⟨fun _ => nofun, fun _ => trivial⟩
  | cons v rest ih => rw [ItemsLegible, List.forall_mem_cons, ih]

theorem membersLegible_iff {members : List (String × Value)} :
    MembersLegible members ↔ ∀ m ∈ members, m.2.Legible := by
  induction members with
  | nil => exact ⟨fun _ => nofun, fun _ => trivial⟩
  | cons m rest ih => rw [MembersLegible, List.forall_mem_cons, ih]

/-! ### Tokens -/

mutual

/-- The tokens that a value is written with. -/
def Value.tokens : Value → List Token
  | .null => [.null]
  | .boolean b => [.boolean b]
  | .integer n => [.number (some (.whole n))]
  | .real x => [realToken x]
  | .text s => [.text (some s)]
  | .array items => .openArray :: (itemsTokens items ++ [.closeArray])
  | .object members => .openObject :: (membersTokens members ++ [.closeObject])

def itemsTokens : List Value → List Token
  | [] => []
  | [v] => v.tokens
  | v :: v' :: rest => v.tokens ++ .comma :: itemsTokens (v' :: rest)

def membersTokens : List (String × Value) → List Token
  | [] => []
  | [(name, v)] => .text (some name) :: .colon :: v.tokens
  | (name, v) :: m :: rest =>
    .text (some name) :: .colon :: (v.tokens ++ .comma :: membersTokens (m :: rest))

end

theorem delimited_cons {c : Char} {more : List Char}
    (h : c.isDigit = false ∧ c ≠ '.' ∧ c ≠ 'e' ∧ c ≠ 'E') : Delimited (c :: more) := by
  rintro _ ⟨⟩
  exact h

theorem tokens_boolean (b : Bool) (more : List Char) :
    tokens ((Value.boolean b).chars ++ more) = .boolean b :: tokens more := by
  cases b with
  | true =>
    rw [Value.chars, if_pos rfl, List.cons_append, tokens]
    rfl
  | false =>
    rw [Value.chars, if_neg (by decide), List.cons_append, tokens]
    rfl

/-- A mark is a token, whatever stands behind it. -/
theorem tokens_mark {c : Char} {t : Token} (more : List Char) (hSpace : isSpace c = false)
    (hMark : ∀ more, scanToken c more = (t, more)) : tokens (c :: more) = t :: tokens more := by
  rw [tokens, hSpace, hMark]
  rfl

theorem tokens_comma (more : List Char) : tokens (',' :: more) = .comma :: tokens more :=
  tokens_mark more rfl fun _ => rfl

theorem tokens_colon (more : List Char) : tokens (':' :: more) = .colon :: tokens more :=
  tokens_mark more rfl fun _ => rfl

mutual

/-- A value that was written has its tokens, up to what stands behind it. -/
theorem Value.tokens_chars (v : Value) (hLegible : v.Legible) {more : List Char}
    (hMore : Delimited more) : Json.tokens (v.chars ++ more) = v.tokens ++ Json.tokens more := by
  cases v with
  | null => exact tokens_null more
  | boolean b => exact tokens_boolean b more
  | integer n =>
    rw [Value.chars]
    exact tokens_integerChars hLegible hMore
  | real x =>
    rw [Value.chars]
    exact tokens_realChars x hMore
  | text s =>
    rw [Value.chars]
    exact tokens_textChars s more
  | array items =>
    rw [Value.chars, Value.tokens, List.cons_append, List.append_assoc, List.singleton_append,
      tokens_mark (t := .openArray) _ rfl fun _ => rfl,
      tokens_itemsChars items hLegible (delimited_cons (by decide)),
      tokens_mark (t := .closeArray) _ rfl fun _ => rfl, List.cons_append, List.append_assoc]
    rfl
  | object members =>
    rw [Value.chars, Value.tokens, List.cons_append, List.append_assoc, List.singleton_append,
      tokens_mark (t := .openObject) _ rfl fun _ => rfl,
      tokens_membersChars members hLegible (delimited_cons (by decide)),
      tokens_mark (t := .closeObject) _ rfl fun _ => rfl, List.cons_append, List.append_assoc]
    rfl

theorem tokens_itemsChars (items : List Value) (hLegible : ItemsLegible items) {more : List Char}
    (hMore : Delimited more) :
    tokens (itemsChars items ++ more) = itemsTokens items ++ tokens more := by
  match items with
  | [] => rfl
  | [v] =>
    rw [itemsChars, itemsTokens]
    exact Value.tokens_chars v hLegible.1 hMore
  | v :: v' :: rest =>
    rw [itemsChars, itemsTokens, List.append_assoc, List.cons_append,
      Value.tokens_chars v hLegible.1 (delimited_cons (by decide)), tokens_comma,
      tokens_itemsChars (v' :: rest) hLegible.2 hMore, List.append_assoc, List.cons_append]

theorem tokens_membersChars (members : List (String × Value)) (hLegible : MembersLegible members)
    {more : List Char} (hMore : Delimited more) :
    tokens (membersChars members ++ more) = membersTokens members ++ tokens more := by
  match members with
  | [] => rfl
  | [(name, v)] =>
    rw [membersChars, membersTokens, List.append_assoc, List.cons_append, tokens_textChars,
      tokens_colon, Value.tokens_chars v hLegible.1 hMore]
    rfl
  | (name, v) :: m :: rest =>
    rw [membersChars, membersTokens, List.append_assoc, List.cons_append, List.append_assoc,
      List.cons_append, tokens_textChars, tokens_colon,
      Value.tokens_chars v hLegible.1 (delimited_cons (by decide)), tokens_comma,
      tokens_membersChars (m :: rest) hLegible.2 hMore]
    simp only [List.cons_append, List.append_assoc]

end

/-! ### Trees -/

/-- The tree that the text of a double has. -/
def realDoc (x : Float) : Doc := if x.isFinite then .number (realNumber x) else .null

mutual

/-- The tree that the text of a value has. -/
def Value.doc : Value → Doc
  | .null => .null
  | .boolean b => .boolean b
  | .integer n => .number (some (.whole n))
  | .real x => realDoc x
  | .text s => .text (some s)
  | .array items => .array (itemsDoc items)
  | .object members => .object (membersDoc members)

def itemsDoc : List Value → Items
  | [] => .close
  | v :: rest => .item v.doc (itemsDoc rest)

def membersDoc : List (String × Value) → Members
  | [] => .close
  | (name, v) :: rest => .member (some name) v.doc (membersDoc rest)

end

/-- A value does not begin with the bracket that closes an array. -/
theorem Value.exists_tokens (v : Value) : ∃ t ts, v.tokens = t :: ts ∧ t ≠ .closeArray := by
  cases v with
  | null | boolean | integer | text | array | object => exact ⟨_, _, rfl, nofun⟩
  | real x =>
    refine ⟨_, _, rfl, ?_⟩
    unfold realToken
    split <;> nofun

theorem exists_itemsTokens {items : List Value} (h : items ≠ []) :
    ∃ t ts, itemsTokens items = t :: ts ∧ t ≠ .closeArray := by
  match items with
  | [] => exact absurd rfl h
  | [v] => exact v.exists_tokens
  | v :: v' :: rest =>
    obtain ⟨t, ts, hEq, hNe⟩ := v.exists_tokens
    rw [itemsTokens, hEq]
    exact ⟨t, _, rfl, hNe⟩

theorem exists_membersTokens {members : List (String × Value)} (h : members ≠ []) :
    ∃ name ts, membersTokens members = .text name :: ts := by
  match members with
  | [] => exact absurd rfl h
  | [(name, v)] => exact ⟨_, _, rfl⟩
  | (name, v) :: m :: rest => exact ⟨_, _, rfl⟩

theorem State.step_firstItem {t : Token} (h : t ≠ .closeArray) (stack : List Frame) :
    step (.firstItem stack) t = step (.value (.array [] :: stack)) t := by
  cases t with
  | closeArray => exact absurd rfl h
  | openArray | openObject | closeObject | comma | colon | null | boolean | number | text
  | brokenText | broken => rfl

theorem step_realToken (x : Float) (stack : List Frame) :
    State.step (.value stack) (realToken x) = .complete (realDoc x) stack := by
  unfold realToken realDoc
  split <;> rfl

mutual

/-- The tokens of a value build its tree, whatever is open around it. -/
theorem Value.foldl_tokens (v : Value) (stack : List Frame) :
    v.tokens.foldl State.step (.value stack) = .complete v.doc stack := by
  match v with
  | .null | .boolean _ | .integer _ | .text _ => rfl
  | .real x => exact step_realToken x stack
  | .array items =>
    by_cases hEmpty : items = []
    · rw [hEmpty]
      rfl
    · obtain ⟨t, ts, hEq, hNe⟩ := exists_itemsTokens hEmpty
      have hItems := foldl_itemsTokens items hEmpty [] stack
      rw [hEq, List.cons_append, List.foldl_cons] at hItems
      rw [Value.tokens, hEq, List.foldl_cons, List.cons_append, List.foldl_cons]
      show (ts ++ [Token.closeArray]).foldl State.step (State.step (.firstItem stack) t) = _
      rw [State.step_firstItem hNe]
      exact hItems
  | .object members =>
    by_cases hEmpty : members = []
    · rw [hEmpty]
      rfl
    · obtain ⟨name, ts, hEq⟩ := exists_membersTokens hEmpty
      have hMembers := foldl_membersTokens members hEmpty [] stack
      rw [hEq] at hMembers
      rw [Value.tokens, hEq]
      exact hMembers

theorem foldl_itemsTokens (items : List Value) (hNonempty : items ≠ []) (done : List Doc)
    (stack : List Frame) :
    (itemsTokens items ++ [Token.closeArray]).foldl State.step (.value (.array done :: stack)) =
      .complete (.array (.ofReversed done (itemsDoc items))) stack := by
  match items with
  | [] => exact absurd rfl hNonempty
  | [v] =>
    rw [itemsTokens, List.foldl_append, Value.foldl_tokens v]
    rfl
  | v :: v' :: rest =>
    rw [itemsTokens, List.append_assoc, List.foldl_append, Value.foldl_tokens v]
    exact foldl_itemsTokens (v' :: rest) (List.cons_ne_nil v' rest) (v.doc :: done) stack

theorem foldl_membersTokens (members : List (String × Value)) (hNonempty : members ≠ [])
    (done : List (Option String × Doc)) (stack : List Frame) :
    (membersTokens members ++ [Token.closeObject]).foldl State.step (.nextName done stack) =
      .complete (.object (.ofReversed done (membersDoc members))) stack := by
  match members with
  | [] => exact absurd rfl hNonempty
  | [(name, v)] =>
    have hValue := Value.foldl_tokens v (.object done (some name) :: stack)
    rw [membersTokens]
    show (v.tokens ++ [Token.closeObject]).foldl State.step
      (.value (.object done (some name) :: stack)) = _
    rw [List.foldl_append, hValue]
    rfl
  | (name, v) :: m :: rest =>
    have hValue := Value.foldl_tokens v (.object done (some name) :: stack)
    rw [membersTokens]
    show (v.tokens ++ Token.comma :: membersTokens (m :: rest) ++ [Token.closeObject]).foldl
      State.step (.value (.object done (some name) :: stack)) = _
    rw [List.append_assoc, List.foldl_append, hValue]
    exact foldl_membersTokens (m :: rest) (List.cons_ne_nil m rest) ((some name, v.doc) :: done) stack

end

theorem Tree.ofTokens_of_ended {ts : List Token} {doc : Doc} {alone : Bool}
    (h : ts.foldl State.step (.value []) = .ended doc alone) : ofTokens ts = ⟨doc, alone⟩ := by
  rw [ofTokens, h]
  rfl

/-- The text of a value is read as the tree of the value, with nothing behind it. -/
theorem Value.ofText_render {v : Value} (h : v.Legible) : Tree.ofText v.render = ⟨v.doc, true⟩ := by
  have hTokens := v.tokens_chars h delimited_nil
  rw [List.append_nil, Json.tokens, List.append_nil] at hTokens
  rw [Tree.ofText, Value.render, String.toList_ofList, hTokens]
  exact Tree.ofTokens_of_ended (v.foldl_tokens [])

/-- What is read of the text of a value is what is read of its tree. -/
theorem Value.decode_render {α : Type} {read : Doc → Reading α} {v : Value} (h : v.Legible) {a : α} :
    decode read v.render = .ok a ↔ read v.doc = .ok a := by
  rw [decode_eq_ok_iff, Value.ofText_render h, and_iff_left rfl]

/-- The items of an array that was written are read one after the other. -/
theorem fold_itemsDoc {σ α : Type} {toValue : α → Value} {step : σ → Doc → Reading σ} {next : σ → α → σ}
    {all : List α} (h : ∀ s, ∀ a ∈ all, step s (toValue a).doc = .ok (next s a)) (s : σ) :
    (itemsDoc (all.map toValue)).fold step s = .ok (all.foldl next s) := by
  induction all generalizing s with
  | nil => rfl
  | cons a rest ih =>
    obtain ⟨hFirst, hRest⟩ := List.forall_mem_cons.mp fun b hMem s => h s b hMem
    rw [List.map_cons, itemsDoc, Items.fold, hFirst]
    exact ih (fun s b hMem => hRest b hMem s) (next s a)

theorem readsBack_iff {x : Float} : ReadsBack x ↔ (realDoc x).asReal = .ok x :=
  Value.decode_render (v := .real x) trivial

end PlayerSession.Json
