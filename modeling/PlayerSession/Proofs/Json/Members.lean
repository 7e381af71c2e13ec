import PlayerSession.Proofs.Json.Exactness
import PlayerSession.Proofs.Json.Fields

/-! The members of an object as a list.  What a text spells can be passed over, so the members of an object
that is spelled are a list to its end.  A field that may be filled once is filled by the members of its
name, wherever they stand among the others. -/

namespace PlayerSession.Json

deriving instance DecidableEq for Doc, Items, Members
deriving instance DecidableEq for Tree

/-- A member: its name, or none where the name holds half of a surrogate pair, and its value. -/
abbrev Member := Option String × Doc

def Members.ofList : List Member → Members
  | [] => .close
  | m :: ms => .member m.1 m.2 (ofList ms)

/-- A text spells an object with these members, in this order. -/
def BearsMembers (s : String) (ms : List Member) : Prop := Spells s (.object (.ofList ms))

instance (s : String) (ms : List Member) : Decidable (BearsMembers s ms) :=
  decidable_of_iff _ spells_iff.symm

/-! ### Passing over -/

mutual

theorem Spelling.skip_doc (v : Spelling) : v.doc.skip = .ok () := by
  match v with
  | .null | .boolean _ | .number _ | .text _ | .emptyArray _ | .emptyObject _ => rfl
  | .array items => exact items.skip_doc
  | .object members => exact members.skip_doc

theorem ItemsSpelling.skip_doc (items : ItemsSpelling) : items.doc.skip = .ok () := by
  match items with
  | .last _ value _ =>
    rw [ItemsSpelling.doc, Items.skip, value.skip_doc]
    rfl
  | .item _ value _ rest =>
    rw [ItemsSpelling.doc, Items.skip, value.skip_doc]
    exact rest.skip_doc

theorem MembersSpelling.skip_doc (members : MembersSpelling) : members.doc.skip = .ok () := by
  match members with
  | .last _ _ value _ =>
    rw [MembersSpelling.doc, Members.skip, value.skip_doc]
    rfl
  | .member _ _ value _ rest =>
    rw [MembersSpelling.doc, Members.skip, value.skip_doc]
    exact rest.skip_doc

end

/-- Whatever is spelled can be passed over, of any depth. -/
theorem Spells.skip {s : String} {d : Doc} (h : Spells s d) : d.skip = .ok () := by
  obtain ⟨-, -, value, -, rfl⟩ := h
  exact value.skip_doc

variable {ms ms' foreign : List Member} {m : Member}

theorem Members.skip_ofList_iff :
    (Members.ofList ms).skip = .ok () ↔ ∀ m ∈ ms, m.2.skip = .ok () := by
  induction ms with
  | nil => exact ⟨fun _ => nofun, fun _ => rfl⟩
  | cons m ms ih =>
    rw [List.forall_mem_cons, ← ih, ofList, Members.skip, bind_eq_ok_iff]
    constructor
    · rintro ⟨⟨⟩, hSkip⟩
      exact hSkip
    · intro hSkip
      exact ⟨(), hSkip⟩

theorem Members.exists_ofList (members : Members) (h : members.skip = .ok ()) :
    ∃ ms, members = .ofList ms := by
  match members with
  | .close => exact ⟨[], rfl⟩
  | .stop reason => cases h
  | .member name value rest =>
    obtain ⟨-, -, hRest⟩ := bind_eq_ok_iff.mp h
    obtain ⟨ms, rfl⟩ := rest.exists_ofList hRest
    exact ⟨(name, value) :: ms, rfl⟩

theorem BearsMembers.skip {s : String} (h : BearsMembers s ms) : ∀ m ∈ ms, m.2.skip = .ok () :=
  Members.skip_ofList_iff.mp (Spells.skip h)

/-- An object that can be read to the end of its text has its members spelled there. -/
theorem exists_bearsMembers {s : String} (hObject : IsObject s) (hAlone : (Tree.ofText s).alone) :
    ∃ ms, BearsMembers s ms := by
  obtain ⟨members, hDoc⟩ := Doc.isObject_iff.mp hObject
  have hSpells : Spells s (.object members) := spells_iff.mpr (by rw [← hDoc, ← hAlone])
  obtain ⟨ms, rfl⟩ := members.exists_ofList hSpells.skip
  exact ⟨ms, hSpells⟩

/-! ### Fields -/

section Fields

variable {α : Type} {name : String} {read : Doc → Reading α} {before after : Option α}

/-- The values of the members with a name. -/
def valuesOf (name : String) (ms : List Member) : List Doc :=
  (ms.filter fun m => m.1 = some name).map (·.2)

/-- What a member does to a field: it fills it if it has its name, and leaves it alone otherwise. -/
def Taken (name : String) (read : Doc → Reading α) (m : Member) (before after : Option α) : Prop :=
  if m.1 = some name then before = none ∧ ∃ a, read m.2 = .ok a ∧ after = some a
  else after = before

/-- What members do to a field: one of them fills it, or none. -/
def Gathered (name : String) (read : Doc → Reading α) (ms : List Member) (before after : Option α) :
    Prop :=
  match valuesOf name ms with
  | [] => after = before
  | [d] => before = none ∧ ∃ a, read d = .ok a ∧ after = some a
  | _ => False

theorem taken_of_ne (h : m.1 ≠ some name) : Taken name read m before after ↔ after = before := by
  rw [Taken, if_neg h]

theorem valuesOf_cons_self (d : Doc) : valuesOf name ((some name, d) :: ms) = d :: valuesOf name ms := by
  rw [valuesOf, List.filter_cons_of_pos (by simp)]
  rfl

theorem valuesOf_cons_of_ne (h : m.1 ≠ some name) : valuesOf name (m :: ms) = valuesOf name ms := by
  rw [valuesOf, List.filter_cons_of_neg (by simpa using h)]
  rfl

theorem valuesOf_append : valuesOf name (ms ++ ms') = valuesOf name ms ++ valuesOf name ms' := by
  rw [valuesOf, List.filter_append, List.map_append]
  rfl

theorem valuesOf_of_foreign (h : ∀ m ∈ ms, m.1 ≠ some name) : valuesOf name ms = [] := by
  rw [valuesOf, List.filter_eq_nil_iff.mpr fun m hMem => by simpa using h m hMem]
  rfl

/-- The members of a list fill a field one after the other. -/
theorem gathered_cons_iff :
    Gathered name read (m :: ms) before after ↔
      ∃ between, Taken name read m before between ∧ Gathered name read ms between after := by
  obtain ⟨name', d⟩ := m
  by_cases hName : name' = some name
  · subst hName
    unfold Gathered Taken
    simp only [valuesOf_cons_self, if_true]
    cases valuesOf name ms with
    | nil =>
      constructor
      · rintro ⟨hBefore, a, hRead, rfl⟩
        exact ⟨some a, ⟨hBefore, a, hRead, rfl⟩, rfl⟩
      · rintro ⟨between, hTaken, rfl⟩
        exact hTaken
    | cons d' more =>
      -- a second value finds the field filled by the first
      constructor
      · nofun
      · rintro ⟨between, ⟨-, a, -, rfl⟩, hMore⟩
        cases more with
        | nil => cases hMore.1
        | cons d'' more => exact hMore
  · have hValues : valuesOf name ((name', d) :: ms) = valuesOf name ms := valuesOf_cons_of_ne hName
    unfold Gathered Taken
    simp only [hValues, if_neg hName, exists_eq_left]

/-- Neither the order of the members nor members of other names matter to a field. -/
theorem gathered_iff_of_perm (hPerm : ms'.Perm (ms ++ foreign))
    (hForeign : ∀ m ∈ foreign, m.1 ≠ some name) :
    Gathered name read ms' before after ↔ Gathered name read ms before after := by
  have hValues : (valuesOf name ms').Perm (valuesOf name ms) := by
    have hSame := (hPerm.filter fun m => m.1 = some name).map (·.2)
    have hAppend : (valuesOf name ms').Perm (valuesOf name (ms ++ foreign)) := hSame
    rwa [valuesOf_append, valuesOf_of_foreign hForeign, List.append_nil] at hAppend
  unfold Gathered
  rcases hEq : valuesOf name ms with _ | ⟨d, _ | ⟨d', more⟩⟩
  · rw [hEq] at hValues
    rw [hValues.eq_nil]
  · rw [hEq] at hValues
    rw [List.perm_singleton.mp hValues]
  · have hLength := hValues.length_eq
    rw [hEq] at hLength
    rcases hEq' : valuesOf name ms' with _ | ⟨e, _ | ⟨e', more'⟩⟩
    · rw [hEq'] at hLength
      cases hLength
    · rw [hEq'] at hLength
      cases hLength
    · rfl

end Fields

end PlayerSession.Json
