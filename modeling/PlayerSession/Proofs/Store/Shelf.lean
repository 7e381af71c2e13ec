import PlayerSession.Proofs.Store.Deeds

/-! Runs over stores in memory.  A handle goes back to the one that its store was made with, and all that is
done through the handles of a store makes one history of deeds.  What an action is answered follows from
the deeds before it to its own store, so what is done to another store changes no answer. -/

namespace PlayerSession.Shelf

/-! ### Handles -/

/-- The handle that an action goes through and what it does to the store of the handle. -/
def Action.deed? : Action → Option (Nat × Deed)
  | .create | .share _ => none
  | .insert handle table records => some (handle, .insert table records)
  | .setFailing handle failing => some (handle, .setFailing failing)
  | .lookups handle => some (handle, .lookups)
  | .items handle table session => some (handle, .items table session)

/-- The handle that an action needs. -/
def Action.handle? : Action → Option Nat
  | .create => none
  | .share handle | .insert handle .. | .setFailing handle _ | .lookups handle | .items handle .. =>
    some handle

/-- The origin of the handle that an action makes, where `origins` are those of the handles so far: the
handle itself if its store is made with it, and otherwise the origin of the handle that it shares. -/
def Action.origin? (origins : List Nat) : Action → Option Nat
  | .create => some origins.length
  | .share handle => origins[handle]?
  | _ => none

/-- For each handle that some actions make, in order, the handle that its store was made with. -/
def origins (past : List Action) : List Nat :=
  past.foldl (fun origins a => origins ++ (a.origin? origins).toList) []

/-- What an action does to the store that was made with the handle `root`. -/
def deedTo (origins : List Nat) (root : Nat) (a : Action) : Option Deed := do
  let (handle, deed) ← a.deed?
  if origins[handle]? = some root then some deed else none

/-- What some actions do to the store that was made with the handle `root`, through whatever handle. -/
def deeds (root : Nat) (past : List Action) : List Deed := past.filterMap (deedTo (origins past) root)

/-- What an action is answered after others: a new handle comes behind those made before, and a deed to
a store is answered from the deeds to that store.  There is no answer without the handle. -/
def expected (past : List Action) (a : Action) : Option Answer :=
  match a.deed? with
  | some (handle, deed) => (origins past)[handle]?.map fun root => Deed.reply (deeds root past) deed
  | none => (a.origin? (origins past)).map fun _ => .handle (origins past).length

/-- Every handle that one of the actions needs was made by those before it. -/
def Grounded (actions : List Action) : Prop :=
  ∀ i a, actions[i]? = some a → ∀ handle ∈ a.handle?, handle < (origins (actions.take i)).length

instance (actions : List Action) : Decidable (Grounded actions) :=
  decidable_of_iff (∀ i < actions.length, ∀ a ∈ actions[i]?, ∀ handle ∈ a.handle?,
      handle < (origins (actions.take i)).length)
    ⟨fun h i a hAt => h i (List.getElem?_eq_some_iff.mp hAt).1 a hAt, fun h i _ a hAt => h i a hAt⟩

/-- The answer to an action, if that does something to the store that was made with the handle `root`. -/
def answerTo (origins : List Nat) (root : Nat) (entry : Action × Answer) : Option Answer :=
  (deedTo origins root entry.1).map fun _ => entry.2

/-- The answers to what is done to the store that was made with the handle `root`. -/
def answersTo (root : Nat) (actions : List Action) (answers : List Answer) : List Answer :=
  (actions.zip answers).filterMap (answerTo (origins actions) root)

section Handles

variable {past : List Action} {a : Action} {handle root : Nat} {deed : Deed}

theorem origins_concat (past : List Action) (a : Action) :
    origins (past ++ [a]) = origins past ++ (a.origin? (origins past)).toList := by
  rw [origins, List.foldl_append]
  rfl

theorem exists_origins_append (past more : List Action) :
    ∃ new, origins (past ++ more) = origins past ++ new := by
  induction more using List.reverseRecOn with
  | nil => exact ⟨[], by simp⟩
  | append_singleton more a ih =>
    obtain ⟨new, hNew⟩ := ih
    rw [← List.append_assoc, origins_concat, hNew, List.append_assoc]
    exact ⟨_, rfl⟩

/-- The origin of a handle is one of the handles. -/
theorem lt_of_mem_origins (h : root ∈ origins past) : root < (origins past).length := by
  induction past using List.reverseRecOn generalizing root with
  | nil => cases h
  | append_singleton past a ih =>
    rw [origins_concat] at h ⊢
    rw [List.length_append]
    rcases List.mem_append.mp h with hOld | hNew
    · exact Nat.lt_add_right _ (ih hOld)
    · cases a with
      | create => simp_all [Action.origin?]
      | share handle =>
        have hOrigin : (origins past)[handle]? = some root := Option.mem_toList.mp hNew
        exact Nat.lt_add_right _ (ih (List.mem_of_getElem? hOrigin))
      | insert | setFailing | lookups | items => cases hNew

theorem origin?_of_deed (h : a.deed? = some (handle, deed)) (origins : List Nat) :
    a.origin? origins = none := by
  cases a with
  | create | share => cases h
  | insert | setFailing | lookups | items => rfl

theorem handle?_of_deed (h : a.deed? = some (handle, deed)) : a.handle? = some handle := by
  cases a with
  | create | share => cases h
  | insert | setFailing | lookups | items => cases h; rfl

theorem deedTo_eq_some_iff {origins : List Nat} :
    deedTo origins root a = some deed ↔
      ∃ handle, a.deed? = some (handle, deed) ∧ origins[handle]? = some root := by
  unfold deedTo
  cases a.deed? with
  | none => simp
  | some d =>
    obtain ⟨handle, deed'⟩ := d
    by_cases hRoot : origins[handle]? = some root
    · simp [hRoot, eq_comm]
    · simp [hRoot]

/-- New handles change nothing for an action that needs none of them. -/
theorem deedTo_append {origins : List Nat} (h : ∀ handle ∈ a.handle?, handle < origins.length)
    (new : List Nat) : deedTo (origins ++ new) root a = deedTo origins root a := by
  ext deed
  rw [deedTo_eq_some_iff, deedTo_eq_some_iff]
  refine exists_congr fun handle => and_congr_right fun hDeed => ?_
  rw [List.getElem?_append_left (h handle (handle?_of_deed hDeed))]

/-- The actions need handles that they make. -/
def Known (past : List Action) : Prop :=
  ∀ a ∈ past, ∀ handle ∈ a.handle?, handle < (origins past).length

theorem Known.deeds_eq (h : Known past) (new : List Nat) :
    past.filterMap (deedTo (origins past ++ new) root) = deeds root past :=
  List.filterMap_congr fun a hMem => deedTo_append (h a hMem) new

theorem Known.deeds_concat (h : Known past) (a : Action) :
    deeds root (past ++ [a]) = deeds root past ++ (deedTo (origins past) root a).toList := by
  have hLast : deedTo (origins (past ++ [a])) root a = deedTo (origins past) root a := by
    cases hDeed : a.deed? with
    | none => simp [deedTo, hDeed]
    | some d => rw [origins_concat, origin?_of_deed hDeed, Option.toList_none, List.append_nil]
  rw [deeds, List.filterMap_append, origins_concat, h.deeds_eq, ← origins_concat,
    List.filterMap_cons, hLast]
  cases deedTo (origins past) root a <;> rfl

theorem Known.concat (h : Known past) (ha : ∀ handle ∈ a.handle?, handle < (origins past).length) :
    Known (past ++ [a]) := by
  have hLength : (origins past).length ≤ (origins (past ++ [a])).length := by
    rw [origins_concat, List.length_append]
    exact Nat.le_add_right _ _
  intro b hMem handle hHandle
  rcases List.mem_append.mp hMem with hOld | hNew
  · exact Nat.lt_of_lt_of_le (h b hOld handle hHandle) hLength
  · cases List.mem_singleton.mp hNew
    exact Nat.lt_of_lt_of_le (ha handle hHandle) hLength

/-- Nothing was done to a store whose first handle is still to be made. -/
theorem deeds_new (past : List Action) : deeds (origins past).length past = [] := by
  refine List.filterMap_eq_nil_iff.mpr fun a _ => ?_
  refine Option.eq_none_iff_forall_ne_some.mpr fun deed hDeed => ?_
  obtain ⟨handle, -, hRoot⟩ := deedTo_eq_some_iff.mp hDeed
  exact Nat.lt_irrefl _ (lt_of_mem_origins (List.mem_of_getElem? hRoot))

theorem isSome_expected_iff :
    (expected past a).isSome ↔ ∀ handle ∈ a.handle?, handle < (origins past).length := by
  cases a <;> simp [expected, Action.deed?, Action.origin?, Action.handle?]

end Handles

/-! ### Shelves -/

/-- The shelf is what the actions make of an empty one, where the store that was made with the handle
`root` is at `place root`. -/
structure Reflects (past : List Action) (place : Nat → Nat) (s : Shelf) : Prop where
  known : Known past
  handles : s.handles = (origins past).map place
  apart : ∀ root ∈ origins past, ∀ root' ∈ origins past, place root = place root' → root = root'
  stores : ∀ root ∈ origins past, s.stores[place root]? = some (after (deeds root past))

section Shelves

variable {past : List Action} {place : Nat → Nat} {s s' : Shelf} {a : Action} {handle root : Nat}
  {deed : Deed} {answer : Answer} {m : MemoryStore}

theorem Reflects.empty : Reflects [] id {} where
  known := by simp [Known]
  handles := rfl
  apart := by simp [origins]
  stores := by simp [origins]

theorem Reflects.store? (h : Reflects past place s) (handle : Nat) :
    s.store? handle = (origins past)[handle]?.map fun root => after (deeds root past) := by
  rw [Shelf.store?, h.handles, List.getElem?_map]
  cases hRoot : (origins past)[handle]? with
  | none => rfl
  | some root => exact h.stores root (List.mem_of_getElem? hRoot)

theorem update_self (h : s.store? handle = some m) : s.update handle m = s := by
  obtain ⟨place, hPlace, hStore⟩ := Option.bind_eq_some_iff.mp h
  obtain ⟨hLess, rfl⟩ := List.getElem?_eq_some_iff.mp hStore
  rw [update, hPlace]
  simp

theorem act_of_deed (h : a.deed? = some (handle, deed)) :
    s.act a = (s.store? handle).map fun m =>
      ((perform m deed).1, s.update handle (perform m deed).2) := by
  cases a with
  | create | share => cases h
  | insert | setFailing | items =>
    cases h
    simp only [act, perform]
    cases s.store? handle <;> rfl
  | lookups =>
    cases h
    cases hStore : s.store? handle with
    | none => simp [act, hStore]
    | some m => simp [act, hStore, perform, update_self hStore]

theorem Reflects.answer_act (h : Reflects past place s) (a : Action) :
    (s.act a).map (·.1) = expected past a := by
  cases hDeed : a.deed? with
  | some d =>
    obtain ⟨handle, deed⟩ := d
    simp only [act_of_deed hDeed, expected, hDeed, h.store?, Option.map_map]
    cases (origins past)[handle]? with
    | none => rfl
    | some root => exact congrArg (some ·.1) (perform_after (deeds root past) deed)
  | none =>
    cases a with
    | create => simp [act, expected, Action.deed?, Action.origin?, h.handles]
    | share handle =>
      simp only [act, expected, Action.deed?, Action.origin?, h.handles, List.getElem?_map]
      cases (origins past)[handle]? <;> simp
    | insert | setFailing | lookups | items => cases hDeed

theorem Reflects.create (h : Reflects past place s) :
    ∃ place, Reflects (past ++ [.create]) place
      { stores := s.stores ++ [{}], handles := s.handles ++ [s.stores.length] } := by
  have hOrigins : origins (past ++ [.create]) = origins past ++ [(origins past).length] :=
    origins_concat past .create
  have hDeeds : ∀ root, deeds root (past ++ [.create]) = deeds root past := fun root =>
    (h.known.deeds_concat .create).trans (List.append_nil _)
  have hBelow : ∀ root ∈ origins past, place root < s.stores.length := fun root hRoot =>
    (List.getElem?_eq_some_iff.mp (h.stores root hRoot)).1
  -- the new handle is its own origin, and its store is put behind the others
  let place' := Function.update place (origins past).length s.stores.length
  have hOld : ∀ root ∈ origins past, place' root = place root := fun root hRoot =>
    Function.update_of_ne (Nat.ne_of_lt (lt_of_mem_origins hRoot)) _ _
  have hNew : place' (origins past).length = s.stores.length := Function.update_self _ _ _
  refine ⟨place', ?_, ?_, ?_, ?_⟩
  · exact h.known.concat fun handle hHandle => by cases hHandle
  · rw [hOrigins, List.map_append, List.map_singleton, hNew, List.map_congr_left hOld, h.handles]
  · intro root hRoot root' hRoot' hPlace
    rw [hOrigins, List.mem_append, List.mem_singleton] at hRoot hRoot'
    rcases hRoot with hRoot | rfl <;> rcases hRoot' with hRoot' | rfl
    · rw [hOld root hRoot, hOld root' hRoot'] at hPlace
      exact h.apart root hRoot root' hRoot' hPlace
    · rw [hOld root hRoot, hNew] at hPlace
      exact absurd (hBelow root hRoot) (hPlace ▸ Nat.lt_irrefl _)
    · rw [hOld root' hRoot', hNew] at hPlace
      exact absurd (hBelow root' hRoot') (hPlace ▸ Nat.lt_irrefl _)
    · rfl
  · intro root hRoot
    rw [hOrigins, List.mem_append, List.mem_singleton] at hRoot
    rw [hDeeds]
    rcases hRoot with hRoot | rfl
    · rw [hOld root hRoot, List.getElem?_append_left (hBelow root hRoot)]
      exact h.stores root hRoot
    · rw [hNew, deeds_new, List.getElem?_concat_length]
      rfl

theorem Reflects.share (h : Reflects past place s) (hRoot : (origins past)[handle]? = some root) :
    Reflects (past ++ [.share handle]) place { s with handles := s.handles ++ [place root] } := by
  have hOrigins : origins (past ++ [.share handle]) = origins past ++ [root] := by
    rw [origins_concat, Action.origin?, hRoot, Option.toList_some]
  have hMem : ∀ root', root' ∈ origins (past ++ [.share handle]) ↔ root' ∈ origins past := by
    intro root'
    rw [hOrigins, List.mem_append, List.mem_singleton]
    exact or_iff_left_of_imp fun hSame => hSame ▸ List.mem_of_getElem? hRoot
  have hHandle : handle < (origins past).length := (List.getElem?_eq_some_iff.mp hRoot).1
  refine ⟨?_, ?_, ?_, ?_⟩
  · exact h.known.concat fun handle' hNeeds => by cases hNeeds; exact hHandle
  · rw [hOrigins, List.map_append, List.map_singleton, h.handles]
  · simpa only [hMem] using h.apart
  · intro root' hRoot'
    rw [h.known.deeds_concat (.share handle)]
    have hNothing : deeds root' past = deeds root' past ++ (none : Option Deed).toList :=
      (List.append_nil _).symm
    exact (h.stores root' ((hMem root').mp hRoot')).trans (congrArg (some <| after ·) hNothing)

/-- A deed changes the store that it is done to, and no other. -/
theorem Reflects.update_perform (h : Reflects past place s) (hDeed : a.deed? = some (handle, deed))
    (hRoot : (origins past)[handle]? = some root) :
    Reflects (past ++ [a]) place (s.update handle (perform (after (deeds root past)) deed).2) := by
  have hOrigins : origins (past ++ [a]) = origins past := by
    rw [origins_concat, origin?_of_deed hDeed, Option.toList_none, List.append_nil]
  have hHandle : s.handles[handle]? = some (place root) := by
    rw [h.handles, List.getElem?_map, hRoot, Option.map_some]
  have hMem : root ∈ origins past := List.mem_of_getElem? hRoot
  rw [update, hHandle]
  refine ⟨?_, ?_, ?_, ?_⟩
  · refine h.known.concat fun handle' hNeeds => ?_
    cases (handle?_of_deed hDeed).symm.trans hNeeds
    exact (List.getElem?_eq_some_iff.mp hRoot).1
  · rw [hOrigins]
    exact h.handles
  · rw [hOrigins]
    exact h.apart
  · intro root' hRoot'
    rw [hOrigins] at hRoot'
    rw [h.known.deeds_concat]
    by_cases hSame : root = root'
    · subst hSame
      have hTo : deedTo (origins past) root a = some deed :=
        deedTo_eq_some_iff.mpr ⟨handle, hDeed, hRoot⟩
      have hBelow := (List.getElem?_eq_some_iff.mp (h.stores root hMem)).1
      rw [hTo, List.getElem?_set_self hBelow, perform_after]
      rfl
    · have hTo : deedTo (origins past) root' a = none := by
        refine Option.eq_none_iff_forall_ne_some.mpr fun deed' hDeed' => ?_
        obtain ⟨handle', hDeed', hRoot''⟩ := deedTo_eq_some_iff.mp hDeed'
        cases hDeed.symm.trans hDeed'
        exact hSame (Option.some_inj.mp (hRoot.symm.trans hRoot''))
      have hPlace : place root ≠ place root' := fun hPlace =>
        hSame (h.apart root hMem root' hRoot' hPlace)
      rw [hTo, List.getElem?_set_ne hPlace, Option.toList_none, List.append_nil]
      exact h.stores root' hRoot'

/-- What an action makes of a shelf is what the actions before it and the action make of an empty one. -/
theorem Reflects.act (h : Reflects past place s) (hAct : s.act a = some (answer, s')) :
    ∃ place, Reflects (past ++ [a]) place s' := by
  cases hDeed : a.deed? with
  | some d =>
    obtain ⟨handle, deed⟩ := d
    rw [act_of_deed hDeed, h.store?, Option.map_map] at hAct
    obtain ⟨root, hRoot, hAct⟩ := Option.map_eq_some_iff.mp hAct
    cases hAct
    exact ⟨place, h.update_perform hDeed hRoot⟩
  | none =>
    cases a with
    | create =>
      cases hAct
      exact h.create
    | share handle =>
      obtain ⟨p, hPlace, hAct⟩ := Option.bind_eq_some_iff.mp hAct
      rw [h.handles, List.getElem?_map] at hPlace
      obtain ⟨root, hRoot, rfl⟩ := Option.map_eq_some_iff.mp hPlace
      cases hAct
      exact ⟨place, h.share hRoot⟩
    | insert | setFailing | lookups | items => cases hDeed

end Shelves

/-! ### Runs -/

section Runs

variable {past actions : List Action} {place : Nat → Nat} {s s' : Shelf} {a : Action}
  {answers : List Answer}

theorem run_cons_eq_some_iff :
    s.run (a :: actions) = some (answers, s') ↔
      ∃ answer s₁ more, s.act a = some (answer, s₁) ∧ s₁.run actions = some (more, s') ∧
        answers = answer :: more := by
  constructor
  · intro h
    obtain ⟨⟨answer, s₁⟩, hAct, h⟩ := Option.bind_eq_some_iff.mp h
    obtain ⟨⟨more, s₂⟩, hRun, h⟩ := Option.bind_eq_some_iff.mp h
    cases h
    exact ⟨answer, s₁, more, hAct, hRun, rfl⟩
  · rintro ⟨answer, s₁, more, hAct, hRun, rfl⟩
    simp [run, hAct, hRun]

theorem Reflects.expected_of_act {answer : Answer} (h : Reflects past place s)
    (hAct : s.act a = some (answer, s')) : expected past a = some answer := by
  rw [← h.answer_act, hAct, Option.map_some]

theorem Reflects.exists_run_iff (h : Reflects past place s) :
    (∃ answers s', s.run actions = some (answers, s')) ↔
      ∀ i a, actions[i]? = some a →
        ∀ handle ∈ a.handle?, handle < (origins (past ++ actions.take i)).length := by
  induction actions generalizing past place s with
  | nil => simp [run]
  | cons a actions ih =>
    have hStep : (∃ answer s₁, s.act a = some (answer, s₁)) ↔
        ∀ handle ∈ a.handle?, handle < (origins past).length := by
      rw [← isSome_expected_iff, ← h.answer_act, Option.isSome_map, Option.isSome_iff_exists,
        Prod.exists]
    constructor
    · rintro ⟨answers, s', hRun⟩ i b hAt
      obtain ⟨answer, s₁, more, hAct, hMore, -⟩ := run_cons_eq_some_iff.mp hRun
      cases i with
      | zero =>
        cases hAt
        rw [List.take_zero, List.append_nil]
        exact hStep.mp ⟨answer, s₁, hAct⟩
      | succ i =>
        obtain ⟨place₁, h₁⟩ := h.act hAct
        rw [List.take_succ_cons, List.append_cons]
        exact ih h₁ |>.mp ⟨more, s', hMore⟩ i b hAt
    · intro hAll
      have hFirst := hAll 0 a rfl
      rw [List.take_zero, List.append_nil] at hFirst
      obtain ⟨answer, s₁, hAct⟩ := hStep.mpr hFirst
      obtain ⟨place₁, h₁⟩ := h.act hAct
      obtain ⟨more, s', hMore⟩ := (ih h₁).mpr fun i b hAt => by
        have hLater := hAll (i + 1) b hAt
        rwa [List.take_succ_cons, List.append_cons] at hLater
      exact ⟨answer :: more, s', run_cons_eq_some_iff.mpr ⟨answer, s₁, more, hAct, hMore, rfl⟩⟩

theorem Reflects.answers_run (h : Reflects past place s)
    (hRun : s.run actions = some (answers, s')) :
    answers.length = actions.length ∧
      ∀ i a, actions[i]? = some a → answers[i]? = expected (past ++ actions.take i) a := by
  induction actions generalizing past place s answers with
  | nil =>
    cases hRun
    simp
  | cons a actions ih =>
    obtain ⟨answer, s₁, more, hAct, hMore, rfl⟩ := run_cons_eq_some_iff.mp hRun
    obtain ⟨place₁, h₁⟩ := h.act hAct
    obtain ⟨hLength, hAnswers⟩ := ih h₁ hMore
    refine ⟨by simp [hLength], fun i b hAt => ?_⟩
    cases i with
    | zero =>
      cases hAt
      rw [List.take_zero, List.append_nil, h.expected_of_act hAct]
      rfl
    | succ i =>
      rw [List.take_succ_cons, List.append_cons]
      exact hAnswers i b hAt

/-- The answers to what is done to a store are those of its own history. -/
theorem Reflects.answersTo_run (h : Reflects past place s)
    (hRun : s.run actions = some (answers, s')) (root : Nat) :
    (actions.zip answers).filterMap (answerTo (origins (past ++ actions)) root) =
      Deed.replies (deeds root past)
        (actions.filterMap (deedTo (origins (past ++ actions)) root)) := by
  induction actions generalizing past place s answers with
  | nil => rfl
  | cons a actions ih =>
    obtain ⟨answer, s₁, more, hAct, hMore, rfl⟩ := run_cons_eq_some_iff.mp hRun
    obtain ⟨place₁, h₁⟩ := h.act hAct
    have hExpected := h.expected_of_act hAct
    have hNeeds : ∀ handle ∈ a.handle?, handle < (origins past).length :=
      isSome_expected_iff.mp (hExpected ▸ rfl)
    have hTo : deedTo (origins (past ++ a :: actions)) root a = deedTo (origins past) root a := by
      obtain ⟨new, hNew⟩ := exists_origins_append past (a :: actions)
      rw [hNew, deedTo_append hNeeds]
    have hRest := ih h₁ hMore
    rw [← List.append_cons, h.known.deeds_concat] at hRest
    cases hDeed : deedTo (origins past) root a with
    | none =>
      have hAnswer : answerTo (origins (past ++ a :: actions)) root (a, answer) = none := by
        rw [answerTo, hTo, hDeed, Option.map_none]
      rw [List.zip_cons_cons, List.filterMap_cons_none hAnswer,
        List.filterMap_cons_none (hTo.trans hDeed), hRest, hDeed, Option.toList_none, List.append_nil]
    | some deed =>
      have hAnswer : answerTo (origins (past ++ a :: actions)) root (a, answer) = some answer := by
        rw [answerTo, hTo, hDeed, Option.map_some]
      rw [List.zip_cons_cons, List.filterMap_cons_some hAnswer,
        List.filterMap_cons_some (hTo.trans hDeed), hRest, hDeed, Option.toList_some, Deed.replies]
      -- the deed is answered from the deeds before it to the same store
      obtain ⟨handle, hDeed, hRoot⟩ := deedTo_eq_some_iff.mp hDeed
      simp only [expected, hDeed, hRoot, Option.map_some, Option.some_inj] at hExpected
      rw [hExpected]

end Runs

/-- A run over any number of handles goes through exactly when no action needs a handle that is still to be
made, and every action is then answered as the actions before it tell.  In two runs that do the same to a
store, through whatever handles and whatever they do to other stores, it gives the same answers. -/
theorem answers_told_by_history :
    (∀ actions, (∃ answers s, run {} actions = some (answers, s)) ↔ Grounded actions) ∧
    (∀ actions answers s, run {} actions = some (answers, s) →
      answers.length = actions.length ∧
        ∀ i a, actions[i]? = some a → answers[i]? = expected (actions.take i) a) ∧
    ∀ actions answers s actions' answers' s' root root',
      run {} actions = some (answers, s) → run {} actions' = some (answers', s') →
      deeds root actions = deeds root' actions' →
      answersTo root actions answers = answersTo root' actions' answers' := by
  refine ⟨fun actions => Reflects.empty.exists_run_iff, fun actions answers s hRun =>
    Reflects.empty.answers_run hRun, ?_⟩
  intro actions answers s actions' answers' s' root root' hRun hRun' hDeeds
  have hTold : answersTo root actions answers = Deed.replies [] (deeds root actions) :=
    Reflects.empty.answersTo_run hRun root
  have hTold' : answersTo root' actions' answers' = Deed.replies [] (deeds root' actions') :=
    Reflects.empty.answersTo_run hRun' root'
  rw [hTold, hTold', hDeeds]

/-- A store with a handle that is shared and shared again, and another store. -/
def sampleRun : List Action :=
  [.create, .create, .share 0, .share 2,
    .insert 3 "t" (sampleSession ["init"]), .items 0 "t" "123-214-234", .items 1 "t" "123-214-234",
    .setFailing 2 true, .items 0 "t" "123-214-234", .insert 1 "u" [], .items 1 "u" "", .lookups 3]

/-- The same of the first store, with nothing done to the other. -/
def quietRun : List Action :=
  [.create, .insert 0 "t" (sampleSession ["init"]), .items 0 "t" "123-214-234", .setFailing 0 true,
    .items 0 "t" "123-214-234", .lookups 0]

theorem sampleRun_answers :
    ∃ answers s quiet s', run {} sampleRun = some (answers, s) ∧ run {} quietRun = some (quiet, s') ∧
      answers[5]? = some (.items (.ok (sampleSession ["init"]))) ∧
      answers[6]? = some (.items (.error (.tableNotFound "t"))) ∧
      answers[8]? = some (.items (.error (.other "simulated load failure"))) ∧
      answers[10]? = some (.items (.ok [])) ∧
      answers[11]? = some (.lookups ["t", "t"]) ∧
      answersTo 0 sampleRun answers = answersTo 0 quietRun quiet := by
  obtain ⟨hThrough, hAnswers, hSame⟩ := answers_told_by_history
  have hGrounded : Grounded sampleRun := by decide +kernel
  have hQuiet : Grounded quietRun := by decide +kernel
  obtain ⟨answers, s, hRun⟩ := (hThrough sampleRun).mpr hGrounded
  obtain ⟨quiet, s', hRun'⟩ := (hThrough quietRun).mpr hQuiet
  have hTold := (hAnswers sampleRun answers s hRun).2
  have hDeeds : deeds 0 sampleRun = deeds 0 quietRun := by decide +kernel
  refine ⟨answers, s, quiet, s', hRun, hRun', ?_, ?_, ?_, ?_, ?_,
    hSame _ _ _ _ _ _ 0 0 hRun hRun' hDeeds⟩
  · exact hTold 5 _ rfl
  · exact hTold 6 _ rfl
  · exact hTold 8 _ rfl
  · exact hTold 10 _ rfl
  · exact hTold 11 _ rfl

end PlayerSession.Shelf
