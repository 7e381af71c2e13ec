import PlayerSession.Proofs.Json.Reading

/-! The fields of a record and where they stand in its text.  An object holds a field in the member of
its name, and an array in the item of its position.  A field that may come only once is read from there,
and a field that may be null is missing where nothing or null stands. -/

namespace PlayerSession.Json

/-- The value of the first member with a name. -/
def Members.find? (name : String) : Members → Option Doc
  | .close | .stop _ => none
  | .member name' value rest => if name' = some name then some value else rest.find? name

def Items.get? : Items → Nat → Option Doc
  | .close, _ | .stop _, _ => none
  | .item value _, 0 => some value
  | .item _ rest, position + 1 => rest.get? position

/-- The value that stands for a field of a record. -/
def Doc.field? (name : String) (position : Nat) : Doc → Option Doc
  | .object members => members.find? name
  | .array items => items.get? position
  | _ => none

/-- Nothing stands for a field, or null. -/
def Unset (value : Option Doc) : Prop := ∀ d ∈ value, d = .null

/-- What was found of a field is what is read where it stands. -/
abbrev ReadAs {α : Type} (read : Doc → Reading α) : Option Doc → Option α → Prop :=
  Option.Rel fun d a => read d = .ok a

variable {α σ : Type} {read : Doc → Reading α} {d : Doc}

theorem Doc.asOption_eq_none_iff : d.asOption read = .ok none ↔ d = .null := by
  cases d with
  | null => exact ⟨fun _ => rfl, fun _ => rfl⟩
  | boolean | number | text | array | object | stop => simp [asOption, map_eq_ok_iff]

theorem Doc.read_of_asOption {a : α} (h : d.asOption read = .ok (some a)) : read d = .ok a := by
  cases d with
  | null => cases h
  | boolean | number | text | array | object | stop =>
    obtain ⟨b, hRead, hSame⟩ := map_eq_ok_iff.mp h
    rw [hRead, Option.some.inj hSame]

/-- A field that may be null has no value exactly where it is unset. -/
theorem ReadAs.join_eq_none_iff {value : Option Doc} {found : Option (Option α)}
    (h : ReadAs (Doc.asOption read) value found) : found.join = none ↔ Unset value := by
  cases h with
  | none => exact ⟨fun _ => nofun, fun _ => rfl⟩
  | @some d a hRead =>
    constructor
    · rintro rfl _ ⟨⟩
      exact Doc.asOption_eq_none_iff.mp hRead
    · intro hUnset
      have hNone : d.asOption read = .ok none := Doc.asOption_eq_none_iff.mpr (hUnset d rfl)
      exact Except.ok.inj (hRead.symm.trans hNone)

theorem ReadAs.exists_of_join {value : Option Doc} {found : Option (Option α)} {a : α}
    (h : ReadAs (Doc.asOption read) value found) (hJoin : found.join = some a) :
    ∃ d ∈ value, read d = .ok a := by
  cases h with
  | none => cases hJoin
  | @some d b hRead =>
    have hValue : b = some a := hJoin
    exact ⟨d, rfl, Doc.read_of_asOption (hValue ▸ hRead)⟩

/-! ### Objects -/

/-- A step that fills the field `get` from members of one name, once, and leaves it alone otherwise. -/
structure Fills (step : σ → String → Doc → Reading σ) (name : String) (get : σ → Option α)
    (read : Doc → Reading α) : Prop where
  own : ∀ {s s' value}, step s name value = .ok s' →
    get s = none ∧ ∃ a, read value = .ok a ∧ get s' = some a
  other : ∀ {s s' name' value}, name' ≠ name → step s name' value = .ok s' → get s' = get s

/-- What a member comes to that fills a field. -/
theorem return_fill_eq_ok_iff {name : String} {field : Option α} {read : Reading α}
    {update : Option α → σ} {s : σ} :
    (do return update (← fill name field read)) = .ok s ↔
      field = none ∧ ∃ a, read = .ok a ∧ update (some a) = s := by
  rw [bind_eq_ok_iff]
  simp only [fill_eq_ok_iff]
  constructor
  · rintro ⟨_, ⟨hField, a, hRead, rfl⟩, ⟨⟩⟩
    exact ⟨hField, a, hRead, rfl⟩
  · rintro ⟨hField, a, hRead, rfl⟩
    exact ⟨_, ⟨hField, a, hRead, rfl⟩, rfl⟩

namespace Fills

variable {step : σ → String → Doc → Reading σ} {name : String} {get : σ → Option α}
  {members : Members} {s s' : σ}

theorem of_update (update : σ → Option α → σ)
    (hStep : ∀ s value, step s name value = do return update s (← fill name (get s) (read value)))
    (hGet : ∀ s a, get (update s a) = a)
    (hOther : ∀ {s s' name' value}, name' ≠ name → step s name' value = .ok s' → get s' = get s) :
    Fills step name get read where
  own h := by
    rw [hStep] at h
    obtain ⟨hNone, a, hRead, rfl⟩ := return_fill_eq_ok_iff.mp h
    exact ⟨hNone, a, hRead, hGet _ _⟩
  other := hOther

theorem fold_of_some (h : Fills step name get read) {a : α} (hSome : get s = some a)
    (hFold : members.fold step s = .ok s') : get s' = some a := by
  fun_induction Members.fold step s members with
  | case1 s =>
    cases hFold
    exact hSome
  | case2 => cases hFold
  | case3 => cases hFold
  | case4 s name' value rest ih =>
    obtain ⟨t, hStep, hRest⟩ := bind_eq_ok_iff.mp hFold
    by_cases hName : name' = name
    · -- a second member of the name is refused, since the first has filled the field
      rw [hName] at hStep
      cases hSome.symm.trans (h.own hStep).1
    · exact ih t ((h.other hName hStep).trans hSome) hRest

/-- A field is read from the first member of its name, and not filled where there is none. -/
theorem readAs_of_fold (h : Fills step name get read) (hNone : get s = none)
    (hFold : members.fold step s = .ok s') : ReadAs read (members.find? name) (get s') := by
  fun_induction Members.fold step s members with
  | case1 s =>
    cases hFold
    rw [hNone]
    exact .none
  | case2 => cases hFold
  | case3 => cases hFold
  | case4 s name' value rest ih =>
    obtain ⟨t, hStep, hRest⟩ := bind_eq_ok_iff.mp hFold
    rw [Members.find?]
    by_cases hName : name' = name
    · rw [hName] at hStep
      obtain ⟨-, a, hRead, hFilled⟩ := h.own hStep
      rw [hName, if_pos rfl, h.fold_of_some hFilled hRest]
      exact .some hRead
    · rw [if_neg fun hSame => hName (Option.some.inj hSame)]
      exact ih t ((h.other hName hStep).trans hNone) hRest

end Fills

/-! ### Arrays -/

/-- A field that may be left out is the next item, and the items after it follow. -/
theorem Items.readAs_of_optional {items rest : Items} {found : Option α}
    (h : items.optional read = .ok (found, rest)) :
    ReadAs read (items.get? 0) found ∧ ∀ position, rest.get? position = items.get? (position + 1) := by
  obtain ⟨next, hNext, hFound⟩ := bind_eq_ok_iff.mp h
  cases items with
  | close =>
    cases hNext
    cases hFound
    exact ⟨.none, fun _ => rfl⟩
  | stop reason => cases hNext
  | item value tail =>
    cases hNext
    obtain ⟨a, hRead, hReturn⟩ := bind_eq_ok_iff.mp hFound
    cases hReturn
    exact ⟨.some hRead, fun _ => rfl⟩

end PlayerSession.Json
