import PlayerSession.Proofs.Check.Visited

/-! The route of a check: the events that it looks at, which are the first meaningful event and those
that it visits after it.  The outcome of a check is that of judging its route.  Judging a route stops at
one of its events and needs none of those after it, and it hands on the places of the events as they
are, so that events at other places give the same outcome with another place. -/

namespace PlayerSession

/-- The event at another place. -/
def Located.move (f : Nat → Nat) (e : Located) : Located := { e with index := f e.index }

/-- The violation at another place. -/
def Violation.move (f : Nat → Nat) (v : Violation) : Violation := { v with index := f v.index }

@[simp] theorem Located.move_kind (f : Nat → Nat) (e : Located) : (e.move f).kind = e.kind := rfl

theorem Located.mem_ofKinds {kinds : List Kind} {e : Located} :
    e ∈ ofKinds kinds ↔ kinds[e.index]? = some e.kind := by
  rw [ofKinds, List.mem_map]
  constructor
  · rintro ⟨⟨k, i⟩, hIn, rfl⟩
    exact List.mem_zipIdx_iff_getElem?.mp hIn
  · intro h
    exact ⟨(e.kind, e.index), List.mem_zipIdx_iff_getElem?.mpr h, rfl⟩

theorem Located.index_lt_of_mem {kinds : List Kind} {e : Located} (h : e ∈ ofKinds kinds) :
    e.index < kinds.length :=
  (List.getElem?_eq_some_iff.mp (mem_ofKinds.mp h)).1

theorem Located.ofKinds_append (kinds more : List Kind) :
    ofKinds (kinds ++ more) = ofKinds kinds ++ (ofKinds more).map (·.move (kinds.length + ·)) := by
  simp only [ofKinds, List.zipIdx_append, List.map_append, Nat.zero_add, List.map_map]
  rw [List.zipIdx_eq_map_add (l := more) (i := kinds.length), List.map_map]
  rfl

/-! ### Runs -/

namespace Scan

variable {g : Grammar} {s : Scan} {current : Kind} {events before after : List Located}
  {v : Violation}

theorem run_map_move (g : Grammar) (f : Nat → Nat) (s : Scan) (current : Kind)
    (events : List Located) :
    run g s current (events.map (·.move f)) = (run g s current events).mapError (·.move f) := by
  induction events generalizing s current with
  | nil => rfl
  | cons e events ih =>
    simp only [List.map_cons, run, Located.move_kind]
    cases s.step g current e.kind with
    | ok s' => exact ih s' e.kind
    | error b => rfl

theorem run_append_of_error (h : run g s current before = .error v) :
    run g s current (before ++ after) = .error v := by
  induction before generalizing s current with
  | nil => cases h
  | cons e before ih =>
    simp only [List.cons_append, run] at h ⊢
    cases hStep : s.step g current e.kind with
    | ok s' =>
      rw [hStep] at h
      exact ih h
    | error b =>
      rw [hStep] at h
      exact h

/-- A run stops at one of its events, and it would stop there if no event followed. -/
theorem exists_stop_of_run (h : run g s current events = .error v) :
    ∃ before e after, events = before ++ e :: after ∧ v.index = e.index ∧
      run g s current (before ++ [e]) = .error v := by
  induction events generalizing s current with
  | nil => cases h
  | cons e events ih =>
    simp only [run] at h
    cases hStep : s.step g current e.kind with
    | ok s' =>
      rw [hStep] at h
      obtain ⟨before, d, after, rfl, hIndex, hRun⟩ := ih h
      refine ⟨e :: before, d, after, rfl, hIndex, ?_⟩
      simp only [List.cons_append, run, hStep]
      exact hRun
    | error b =>
      rw [hStep] at h
      refine ⟨[], e, events, rfl, ?_, ?_⟩
      · cases h
        rfl
      · simp only [List.nil_append, run, hStep]
        exact h

end Scan

namespace Grammar

variable {g : Grammar} {kinds : List Kind} {events before after : List Located} {e : Located}
  {v : Violation}

/-! ### Judging a route -/

/-- The first event and those that are visited after it. -/
def route (g : Grammar) : List Located → List Located
  | [] => []
  | first :: rest => first :: g.visited rest

/-- The outcome of a check that looks at these events. -/
def judge (g : Grammar) : List Located → Except Violation Unit
  | [] => .ok ()
  | first :: rest =>
    if first.kind = g.initial then (Scan.run g {} first.kind rest).map fun _ => ()
    else .error ⟨first.index, .initialNotFirst g.initial g.wildcards.keys⟩

theorem check_eq_judge (g : Grammar) (kinds : List Kind) :
    g.check kinds = g.judge (g.route (g.meaningful (Located.ofKinds kinds))) := by
  unfold check
  cases g.meaningful (Located.ofKinds kinds) <;> rfl

theorem judge_cons_eq_error_iff {first : Located} {rest : List Located} :
    g.judge (first :: rest) = .error v ↔
      first.kind ≠ g.initial ∧
          v = ⟨first.index, .initialNotFirst g.initial g.wildcards.keys⟩ ∨
        first.kind = g.initial ∧ Scan.run g {} first.kind rest = .error v := by
  by_cases hFirst : first.kind = g.initial
  · simp only [judge, hFirst, if_true]
    cases Scan.run g {} g.initial rest <;> simp [Except.map]
  · simp [judge, hFirst, eq_comm]

theorem judge_cons_eq_ok_iff {first : Located} {rest : List Located} :
    g.judge (first :: rest) = .ok () ↔ first.kind = g.initial ∧ g.Obeys (rest.map (·.kind)) := by
  have hRun := Scan.run_eq_ok_iff (.initial g) g.obeys_nil rest
  rw [lastVisited_nil, List.nil_append] at hRun
  by_cases hFirst : first.kind = g.initial
  · simp only [judge, hFirst, if_true, true_and, ← hRun]
    cases Scan.run g {} g.initial rest <;> simp [Except.map]
  · simp [judge, hFirst]

theorem judge_map_move (g : Grammar) (f : Nat → Nat) (events : List Located) :
    g.judge (events.map (·.move f)) = (g.judge events).mapError (·.move f) := by
  cases events with
  | nil => rfl
  | cons first rest =>
    simp only [List.map_cons, judge, Located.move_kind, Scan.run_map_move]
    split
    · cases Scan.run g {} first.kind rest <;> rfl
    · rfl

theorem judge_append_of_error (h : g.judge before = .error v) :
    g.judge (before ++ after) = .error v := by
  cases before with
  | nil => cases h
  | cons first rest =>
    rw [List.cons_append, judge_cons_eq_error_iff]
    exact (judge_cons_eq_error_iff.mp h).imp_right fun ⟨hFirst, hRun⟩ =>
      ⟨hFirst, Scan.run_append_of_error hRun⟩

/-- The judgement of a route stops at one of its events, and it would stop there if no event
followed. -/
theorem exists_stop_of_judge (h : g.judge events = .error v) :
    ∃ before e after, events = before ++ e :: after ∧ v.index = e.index ∧
      g.judge (before ++ [e]) = .error v := by
  cases events with
  | nil => cases h
  | cons first rest =>
    rcases judge_cons_eq_error_iff.mp h with ⟨hNe, rfl⟩ | ⟨hFirst, hRun⟩
    · exact ⟨[], first, rest, rfl, rfl, judge_cons_eq_error_iff.mpr (.inl ⟨hNe, rfl⟩)⟩
    · obtain ⟨before, e, after, rfl, hIndex, hStop⟩ := Scan.exists_stop_of_run hRun
      exact ⟨first :: before, e, after, rfl, hIndex,
        judge_cons_eq_error_iff.mpr (.inr ⟨hFirst, hStop⟩)⟩

/-- What stops behind the first part of a route stops at an event of the second part. -/
theorem exists_mem_of_judge_append (hBefore : g.judge before = .ok ())
    (h : g.judge (before ++ after) = .error v) : ∃ e ∈ after, v.index = e.index := by
  obtain ⟨front, e, back, hSplit, hIndex, hStop⟩ := exists_stop_of_judge h
  rcases List.append_eq_append_iff.mp hSplit with ⟨rest, -, rfl⟩ | ⟨rest, rfl, hRest⟩
  · exact ⟨e, by simp, hIndex⟩
  · cases rest with
    | nil =>
      obtain rfl : e :: back = after := hRest
      exact ⟨e, List.mem_cons_self, hIndex⟩
    | cons d rest =>
      -- a stop in the first part would be one without the second part too
      obtain ⟨rfl, -⟩ := List.cons_eq_cons.mp hRest
      rw [List.append_cons, judge_append_of_error hStop] at hBefore
      cases hBefore

/-! ### Routes -/

theorem route_sublist (g : Grammar) (events : List Located) : (g.route events).Sublist events := by
  cases events with
  | nil => exact .slnil
  | cons first rest =>
    refine List.Sublist.cons_cons first ?_
    rcases List.eq_nil_or_concat' rest with rfl | ⟨rest, last, rfl⟩
    · exact .slnil
    · rw [visited_concat]
      exact List.filter_sublist.append_right [last]

/-- Events behind one that is not skipped go on the route behind those that were on it. -/
theorem exists_route_append (hLast : ∀ e ∈ before.getLast?, e.kind ∉ g.skipped)
    (after : List Located) :
    ∃ more, more.Sublist after ∧ g.route (before ++ after) = g.route before ++ more := by
  rcases List.eq_nil_or_concat' after with rfl | ⟨after, last, rfl⟩
  · exact ⟨[], .slnil, by simp⟩
  cases before with
  | nil => exact ⟨_, g.route_sublist _, rfl⟩
  | cons first rest =>
    refine ⟨after.filter g.heeds ++ [last], List.filter_sublist.append_right _, ?_⟩
    -- the end of the first part is visited as the last event, and it would be heeded anywhere
    have hRest : g.visited rest = rest.filter g.heeds := by
      rcases List.eq_nil_or_concat' rest with rfl | ⟨rest, d, rfl⟩
      · rfl
      · have hHeeds : g.heeds d = true := heeds_iff.mpr (hLast d (by simp [List.getLast?_cons]))
        rw [visited_concat, List.filter_append, List.filter_cons_of_pos hHeeds, List.filter_nil]
    rw [List.cons_append, route, route, hRest, ← List.append_assoc, visited_concat,
      List.filter_append, List.append_assoc, List.cons_append]

/-- What is on a route up to one of its events is the route of the events up to that one. -/
theorem exists_route_upto (h : g.route events = before ++ e :: after) :
    ∃ pre post, events = pre ++ e :: post ∧ g.route (pre ++ [e]) = before ++ [e] := by
  cases events with
  | nil => simp [route] at h
  | cons first rest =>
    cases before with
    | nil =>
      cases h
      exact ⟨[], rest, rfl, rfl⟩
    | cons d before =>
      obtain ⟨rfl, hVisited⟩ := List.cons_eq_cons.mp h
      obtain ⟨pre, post, rfl, -, rfl⟩ := exists_visited_eq_append_iff.mp ⟨after, hVisited⟩
      refine ⟨first :: pre, post, rfl, ?_⟩
      rw [List.cons_append, route, visited_concat, List.cons_append]

/-- The place of a violation is the place of a meaningful event. -/
theorem exists_mem_of_check (h : g.check kinds = .error v) :
    ∃ e ∈ g.meaningful (Located.ofKinds kinds), v.index = e.index := by
  rw [check_eq_judge] at h
  obtain ⟨before, e, after, hRoute, hIndex, -⟩ := exists_stop_of_judge h
  refine ⟨e, (g.route_sublist _).subset ?_, hIndex⟩
  rw [hRoute]
  exact List.mem_append_right before List.mem_cons_self

theorem index_lt_of_check (h : g.check kinds = .error v) : v.index < kinds.length := by
  obtain ⟨e, he, hIndex⟩ := exists_mem_of_check h
  rw [hIndex]
  exact Located.index_lt_of_mem (List.mem_of_mem_filter he)

end Grammar

end PlayerSession
