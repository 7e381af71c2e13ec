import PlayerSession.Json.Decode

/-! Laws of reading a value out of a tree: what it takes for steps in a row to succeed, and that a value
which can be read as a string or as a number can also be passed over. -/

namespace PlayerSession

theorem bind_eq_ok_iff {ε α β : Type} {x : Except ε α} {f : α → Except ε β} {b : β} :
    x >>= f = .ok b ↔ ∃ a, x = .ok a ∧ f a = .ok b := by
  cases x with
  | ok a => simp [bind, Except.bind]
  | error e => simp [bind, Except.bind]

theorem bind_eq_error_iff {ε α β : Type} {x : Except ε α} {f : α → Except ε β} {e : ε} :
    x >>= f = .error e ↔ x = .error e ∨ ∃ a, x = .ok a ∧ f a = .error e := by
  cases x with
  | ok a => simp [bind, Except.bind]
  | error e' => simp [bind, Except.bind]

theorem map_eq_ok_iff {ε α β : Type} {x : Except ε α} {f : α → β} {b : β} :
    x.map f = .ok b ↔ ∃ a, x = .ok a ∧ f a = b := by
  cases x with
  | ok a => simp [Except.map]
  | error e => simp [Except.map]

theorem mapError_eq_ok_iff {ε ε' α : Type} {x : Except ε α} {f : ε → ε'} {a : α} :
    x.mapError f = .ok a ↔ x = .ok a := by
  cases x with
  | ok b =>
    constructor
    · intro h
      cases h
      rfl
    · intro h
      cases h
      rfl
  | error e => exact ⟨nofun, nofun⟩

theorem mapError_eq_error_iff {ε ε' α : Type} {x : Except ε α} {f : ε → ε'} {e : ε'} :
    x.mapError f = .error e ↔ ∃ e', x = .error e' ∧ f e' = e := by
  cases x with
  | ok a =>
    constructor
    · nofun
    · rintro ⟨e', hError, -⟩
      cases hError
  | error e' =>
    constructor
    · intro h
      cases h
      exact ⟨e', rfl, rfl⟩
    · rintro ⟨e'', hError, rfl⟩
      cases hError
      rfl

theorem mapError_ne_error {ε ε' α : Type} {x : Except ε α} {f : ε → ε'} {e' : ε'} (h : ∀ e, f e ≠ e') :
    x.mapError f ≠ .error e' := by
  intro hError
  obtain ⟨e, -, hSame⟩ := mapError_eq_error_iff.mp hError
  exact h e hSame

namespace Json

variable {α : Type} {a : α} {d : Doc}

theorem Doc.refuse_ne_ok (d : Doc) (wanted : Wanted) : d.refuse wanted ≠ .ok a := by
  intro h
  obtain ⟨found, -, hThrow⟩ := bind_eq_ok_iff.mp h
  cases hThrow

/-- What is read from nothing but plain values can be passed over. -/
theorem Doc.skip_of_read {read : Doc → Reading α} {wanted : Wanted}
    (hArray : ∀ items, read (.array items) = (Doc.array items).refuse wanted)
    (hObject : ∀ members, read (.object members) = (Doc.object members).refuse wanted)
    (hStop : ∀ reason, read (.stop reason) = (Doc.stop reason).refuse wanted)
    (h : read d = .ok a) : d.skip = .ok () := by
  cases d with
  | null | boolean | number | text => rfl
  | array items => exact absurd (hArray items ▸ h) (Doc.refuse_ne_ok _ _)
  | object members => exact absurd (hObject members ▸ h) (Doc.refuse_ne_ok _ _)
  | stop reason => exact absurd (hStop reason ▸ h) (Doc.refuse_ne_ok _ _)

theorem Doc.skip_of_asText {s : String} (h : d.asText = .ok s) : d.skip = .ok () :=
  skip_of_read (fun _ => rfl) (fun _ => rfl) (fun _ => rfl) h

theorem Doc.skip_of_asReal {x : Float} (h : d.asReal = .ok x) : d.skip = .ok () :=
  skip_of_read (fun _ => rfl) (fun _ => rfl) (fun _ => rfl) h

theorem Doc.skip_of_asSigned {n : Int64} (h : d.asSigned = .ok n) : d.skip = .ok () := by
  obtain ⟨m, hWhole, -⟩ := map_eq_ok_iff.mp h
  exact skip_of_read (fun _ => rfl) (fun _ => rfl) (fun _ => rfl) hWhole

theorem Doc.asWhole_eq_ok_iff {wanted : Wanted} {low high n : Int} :
    d.asWhole wanted low high = .ok n ↔ d = .number (some (.whole n)) ∧ low ≤ n ∧ n ≤ high := by
  unfold asWhole
  split
  · rename_i m
    constructor
    · intro h
      split at h
      · rename_i hRange
        cases h
        exact ⟨rfl, hRange⟩
      · cases h
    · rintro ⟨⟨⟩, hRange⟩
      rw [if_pos hRange]
  · rename_i hOther
    constructor
    · intro h
      exact absurd h (refuse_ne_ok d wanted)
    · rintro ⟨hNumber, -⟩
      exact absurd hNumber (hOther n)

theorem Doc.asSize_eq_ok_iff {i : Nat} :
    d.asSize = .ok i ↔ d = .number (some (.whole i)) ∧ i < UInt64.size := by
  rw [asSize, map_eq_ok_iff, UInt64.size]
  simp only [asWhole_eq_ok_iff]
  constructor
  · rintro ⟨n, ⟨rfl, hLow, hHigh⟩, rfl⟩
    refine ⟨?_, by omega⟩
    rw [Int.toNat_of_nonneg hLow]
  · rintro ⟨rfl, hSize⟩
    exact ⟨i, ⟨rfl, by omega, by omega⟩, Int.toNat_natCast i⟩

theorem fill_eq_ok_iff {name : String} {field filled : Option α} {read : Reading α} :
    fill name field read = .ok filled ↔ field = none ∧ ∃ a, read = .ok a ∧ some a = filled := by
  cases field with
  | none => simp [fill, map_eq_ok_iff]
  | some b => simp [fill]

theorem require_eq_ok_iff {name : String} {field : Option α} :
    require name field = .ok a ↔ field = some a := by
  cases field with
  | none => simp [require]
  | some b => simp [require]

/-- A field that may not be left out is the next item of the array. -/
theorem Items.required_eq_ok_iff {items rest : Items} {record : String} {position fields : Nat}
    {read : Doc → Reading α} :
    items.required record position fields read = .ok (a, rest) ↔
      ∃ value, items = .item value rest ∧ read value = .ok a := by
  cases items with
  | close => simp [required, optional, next, bind, Except.bind, pure, Except.pure, throw, throwThe,
      MonadExceptOf.throw]
  | stop reason => simp [required, optional, next, bind, Except.bind]
  | item value tail =>
    cases hRead : read value with
    | error fault => simp [required, optional, next, bind, Except.bind, hRead]
    | ok b =>
      simp only [required, optional, next, bind, Except.bind, pure, Except.pure, hRead,
        Except.ok.injEq, Prod.mk.injEq, item.injEq]
      constructor
      · rintro ⟨rfl, rfl⟩
        exact ⟨value, ⟨rfl, rfl⟩, hRead⟩
      · rintro ⟨_, ⟨rfl, rfl⟩, hSame⟩
        cases hRead.symm.trans hSame
        exact ⟨rfl, rfl⟩

theorem decode_eq_ok_iff {read : Doc → Reading α} {s : String} :
    decode read s = .ok a ↔ read (Tree.ofText s).doc = .ok a ∧ (Tree.ofText s).alone = true := by
  simp only [decode, bind_eq_ok_iff]
  constructor
  · rintro ⟨b, hRead, hAlone⟩
    split at hAlone
    · rename_i hTrue
      cases hAlone
      exact ⟨hRead, hTrue⟩
    · cases hAlone
  · rintro ⟨hRead, hAlone⟩
    exact ⟨a, hRead, by rw [if_pos hAlone]; rfl⟩

def Doc.isObject : Doc → Bool
  | .object _ => true
  | _ => false

theorem Doc.isObject_iff : d.isObject = true ↔ ∃ members, d = .object members := by
  cases d <;> simp [isObject]

/-- The value of a text is an object. -/
def IsObject (s : String) : Prop := (Tree.ofText s).doc.isObject

instance (s : String) : Decidable (IsObject s) :=
  inferInstanceAs (Decidable ((Tree.ofText s).doc.isObject = true))

end Json

end PlayerSession
