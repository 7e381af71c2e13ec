import PlayerSession.Proofs.Check.Trail

/-! The events that a check visits.  `visited` keeps the last event and, of the others, those that are
not skipped; `meaningful` keeps the events that are no wildcards, with the places they have in the
sequence.  A check therefore accepts a sequence when the trail of its visited kinds obeys the rules,
and otherwise reports where the visit stops. -/

namespace PlayerSession

namespace Grammar

variable {g : Grammar}

/-- Whether an event is of a kind that is not skipped. -/
def heeds (g : Grammar) (e : Located) : Bool := e.kind ∉ g.skipped

@[simp] theorem heeds_iff {e : Located} : g.heeds e = true ↔ e.kind ∉ g.skipped := by
  simp [heeds]

theorem map_kind_filter_heeds (g : Grammar) (events : List Located) :
    (events.filter g.heeds).map (·.kind) = (events.map (·.kind)).filter (· ∉ g.skipped) := by
  rw [List.filter_map]
  rfl

/-! ### Visited events -/

theorem visited_concat (g : Grammar) (events : List Located) (e : Located) :
    g.visited (events ++ [e]) = events.filter g.heeds ++ [e] := by
  induction events with
  | nil => rfl
  | cons d events ih =>
    obtain ⟨d', rest, hRest⟩ : ∃ d' rest, events ++ [e] = d' :: rest :=
      List.exists_cons_of_ne_nil (by simp)
    rw [List.cons_append, hRest, visited, ← hRest, ih]
    by_cases hSkip : d.kind ∈ g.skipped
    · rw [if_pos hSkip, List.filter_cons_of_neg (by simpa using hSkip)]
    · rw [if_neg hSkip, List.filter_cons_of_pos (by simpa using hSkip), List.cons_append]

/-- An event is visited when it is not skipped or the last one, and then after the events before it
that are not skipped. -/
theorem exists_visited_eq_append_iff {events before : List Located} {e : Located} :
    (∃ after, g.visited events = before ++ e :: after) ↔
      ∃ pre post, events = pre ++ e :: post ∧ (e.kind ∉ g.skipped ∨ post = []) ∧
        before = pre.filter g.heeds := by
  rcases List.eq_nil_or_concat' events with rfl | ⟨events, last, rfl⟩
  · simp [visited]
  simp only [visited_concat, concat_eq_append_cons_iff]
  constructor
  · rintro ⟨after, ⟨rfl, rfl, rfl⟩ | ⟨after, rfl, h⟩⟩
    · exact ⟨events, [], .inl ⟨rfl, rfl, rfl⟩, .inr rfl, rfl⟩
    · obtain ⟨pre, post, rfl, rfl, hPost⟩ := List.filter_eq_append_iff.mp h
      obtain ⟨skips, post, rfl, hSkips, hHeeds, -⟩ := List.filter_eq_cons_iff.mp hPost
      refine ⟨pre ++ skips, post ++ [last], .inr ⟨post, rfl, by simp⟩,
        .inl (by simpa using hHeeds), ?_⟩
      rw [List.filter_append, List.filter_eq_nil_iff.mpr hSkips, List.append_nil]
  · rintro ⟨pre, post, ⟨rfl, rfl, rfl⟩ | ⟨post, rfl, rfl⟩, hVisit, rfl⟩
    · exact ⟨[], .inl ⟨rfl, rfl, rfl⟩⟩
    · have hHeeds : g.heeds e = true := by simpa using hVisit
      refine ⟨post.filter g.heeds ++ [last], .inr ⟨post.filter g.heeds, rfl, ?_⟩⟩
      rw [List.filter_append, List.filter_cons_of_pos hHeeds]

/-- The trail of the visits of a list of kinds: those that are not skipped, and the last one. -/
def trail (g : Grammar) (kinds : List Kind) : List Kind :=
  kinds.dropLast.filter (· ∉ g.skipped) ++ kinds.getLast?.toList

@[simp] theorem trail_nil (g : Grammar) : g.trail [] = [] := rfl

theorem trail_concat (g : Grammar) (kinds : List Kind) (k : Kind) :
    g.trail (kinds ++ [k]) = kinds.filter (· ∉ g.skipped) ++ [k] := by
  simp [trail]

theorem map_kind_visited (g : Grammar) (events : List Located) :
    (g.visited events).map (·.kind) = g.trail (events.map (·.kind)) := by
  rcases List.eq_nil_or_concat' events with rfl | ⟨events, last, rfl⟩
  · rfl
  · rw [visited_concat, List.map_append, List.map_append, List.map_singleton, trail_concat,
      map_kind_filter_heeds]

/-- Only the last kind of a trail may be skipped. -/
theorem trail_eq_append (g : Grammar) (kinds : List Kind) :
    g.trail kinds =
      kinds.filter (· ∉ g.skipped) ++ kinds.getLast?.toList.filter (· ∈ g.skipped) := by
  rcases List.eq_nil_or_concat' kinds with rfl | ⟨kinds, last, rfl⟩
  · rfl
  · by_cases hSkip : last ∈ g.skipped <;> simp [trail_concat, hSkip]

/-- Between a list of kinds and its trail no kind is lost but those that are skipped. -/
theorem filter_trail {q : Kind → Bool} (hq : ∀ k, q k = true → k ∉ g.skipped) (kinds : List Kind) :
    (g.trail kinds).filter q = kinds.filter q := by
  rw [trail_eq_append, List.filter_append, List.filter_filter, List.filter_filter]
  have hLast : kinds.getLast?.toList.filter (fun k => q k && decide (k ∈ g.skipped)) = [] := by
    refine List.filter_eq_nil_iff.mpr fun k _ hk => ?_
    simp only [Bool.and_eq_true, decide_eq_true_eq] at hk
    exact hq k hk.1 hk.2
  rw [hLast, List.append_nil]
  refine List.filter_congr fun k _ => ?_
  cases hk : q k with
  | false => rfl
  | true => simpa using hq k hk

theorem count_trail {k : Kind} (hk : k ∉ g.skipped) (kinds : List Kind) :
    (g.trail kinds).count k = kinds.count k := by
  have hKept : ∀ l : List Kind, (l.filter (· ∉ g.skipped)).count k = l.count k := fun l =>
    List.count_filter (decide_eq_true hk)
  rw [← hKept (g.trail kinds), filter_trail (by simp), hKept]

theorem mem_of_trail_eq_append {kinds before after : List Kind} {next k : Kind}
    (h : g.trail kinds = before ++ next :: after) (hk : k ∈ before) : k ∈ kinds ∧ k ∉ g.skipped := by
  rcases List.eq_nil_or_concat' kinds with rfl | ⟨kinds, last, rfl⟩
  · simp at h
  · rw [trail_concat] at h
    have hIn : k ∈ kinds.filter (· ∉ g.skipped) := by
      rcases concat_eq_append_cons_iff.mp h with ⟨hBefore, -⟩ | ⟨after', -, hBefore⟩
      · rwa [hBefore]
      · rw [hBefore]
        exact List.mem_append_left _ hk
    obtain ⟨hMem, hSkip⟩ := List.mem_filter.mp hIn
    exact ⟨List.mem_append_left _ hMem, of_decide_eq_true hSkip⟩

/-! ### Meaningful events -/

theorem map_kind_ofKinds (kinds : List Kind) : (Located.ofKinds kinds).map (·.kind) = kinds := by
  simp only [Located.ofKinds, List.map_map]
  exact List.zipIdx_map_fst 0 kinds

theorem map_kind_meaningful (g : Grammar) (kinds : List Kind) :
    (g.meaningful (Located.ofKinds kinds)).map (·.kind) = kinds.filter (· ∉ g.wildcards) := by
  conv => rhs; rw [← map_kind_ofKinds kinds, List.filter_map]
  rfl

/-- A meaningful event is found in the sequence at its place, after the meaningful events before it. -/
theorem meaningful_eq_append_cons {kinds : List Kind} {before after : List Located} {e : Located}
    (h : g.meaningful (Located.ofKinds kinds) = before ++ e :: after) :
    ∃ pre post, kinds = pre ++ e.kind :: post ∧ e.index = pre.length ∧
      before = g.meaningful (Located.ofKinds pre) := by
  obtain ⟨pre, post, hSplit, rfl, hPost⟩ := List.filter_eq_append_iff.mp h
  obtain ⟨wild, post, rfl, hWild, -, -⟩ := List.filter_eq_cons_iff.mp hPost
  have hSplit : kinds.zipIdx.map (fun d => (⟨d.2, d.1⟩ : Located)) = (pre ++ wild) ++ e :: post := by
    rw [List.append_assoc]
    exact hSplit
  obtain ⟨left, right, hZip, hLeft, hRight⟩ := List.map_eq_append_iff.mp hSplit
  obtain ⟨pre', right', rfl, rfl, rfl⟩ := List.zipIdx_eq_append_iff.mp hZip
  obtain ⟨entry, _, hEntry, rfl, -⟩ := List.map_eq_cons_iff.mp hRight
  obtain ⟨k, post', rfl, rfl, -⟩ := List.zipIdx_eq_cons_iff.mp hEntry
  refine ⟨pre', post', rfl, by simp, ?_⟩
  have hPre : Located.ofKinds pre' = pre ++ wild := hLeft
  rw [hPre, meaningful, List.filter_append, List.filter_eq_nil_iff.mpr hWild, List.append_nil]

/-! ### Outcomes -/

/-- A sequence is accepted when nothing in it is meaningful, or when it opens with the initial kind and
the visited kinds after it obey the rules. -/
theorem check_eq_ok_iff {kinds : List Kind} :
    g.check kinds = .ok () ↔
      ∀ first rest, g.meaningful (Located.ofKinds kinds) = first :: rest →
        first.kind = g.initial ∧ g.Obeys ((g.visited rest).map (·.kind)) := by
  unfold check
  cases g.meaningful (Located.ofKinds kinds) with
  | nil => simp
  | cons first rest =>
    have hRun := Scan.run_eq_ok_iff (.initial g) g.obeys_nil (g.visited rest)
    rw [lastVisited_nil, List.nil_append] at hRun
    have hMap : (Scan.run g {} g.initial (g.visited rest)).map (fun _ => ()) = .ok () ↔
        ∃ s', Scan.run g {} g.initial (g.visited rest) = .ok s' := by
      cases Scan.run g {} g.initial (g.visited rest) <;> simp [Except.map]
    by_cases hFirst : first.kind = g.initial
    · simp only [hFirst, if_true, hMap, hRun]
      constructor
      · intro h first' rest' he
        cases he
        exact ⟨hFirst, h⟩
      · intro h
        exact (h first rest rfl).2
    · simp [hFirst]

theorem check_eq_ok_iff_trail {kinds : List Kind} :
    g.check kinds = .ok () ↔
      ∀ first rest, kinds.filter (· ∉ g.wildcards) = first :: rest →
        first = g.initial ∧ g.Obeys (g.trail rest) := by
  rw [check_eq_ok_iff, ← map_kind_meaningful]
  simp only [map_kind_visited]
  constructor
  · intro h first rest hKinds
    obtain ⟨e, events, hEvents, rfl, rfl⟩ := List.map_eq_cons_iff.mp hKinds
    exact h e events hEvents
  · intro h e events hEvents
    exact h e.kind (events.map (·.kind)) (by rw [hEvents, List.map_cons])

/-- A sequence is refused at its first meaningful event when that is not of the initial kind, and
otherwise where the visit of the events after it stops. -/
theorem check_eq_error_iff {kinds : List Kind} {v : Violation} :
    g.check kinds = .error v ↔
      ∃ first rest, g.meaningful (Located.ofKinds kinds) = first :: rest ∧
        (first.kind ≠ g.initial ∧
            v = ⟨first.index, .initialNotFirst g.initial g.wildcards.keys⟩ ∨
          first.kind = g.initial ∧ g.Stops [] (g.visited rest) v) := by
  unfold check
  cases g.meaningful (Located.ofKinds kinds) with
  | nil => simp
  | cons first rest =>
    have hRun := Scan.run_eq_error_iff (.initial g) g.obeys_nil (g.visited rest) v
    rw [lastVisited_nil] at hRun
    have hMap : (Scan.run g {} g.initial (g.visited rest)).map (fun _ => ()) = .error v ↔
        Scan.run g {} g.initial (g.visited rest) = .error v := by
      cases Scan.run g {} g.initial (g.visited rest) <;> simp [Except.map]
    by_cases hFirst : first.kind = g.initial
    · simp only [hFirst, if_true, hMap, hRun]
      constructor
      · intro h
        exact ⟨first, rest, rfl, .inr ⟨hFirst, h⟩⟩
      · rintro ⟨first', rest', he, ⟨hNe, -⟩ | ⟨-, h⟩⟩
        · cases he
          exact absurd hFirst hNe
        · cases he
          exact h
    · simp only [hFirst, if_false, Except.error.injEq]
      refine ⟨fun h => ⟨first, rest, rfl, .inl ⟨hFirst, h.symm⟩⟩, ?_⟩
      rintro ⟨first', rest', he, ⟨-, rfl⟩ | ⟨hEq, -⟩⟩
      · cases he
        rfl
      · cases he
        exact absurd hEq hFirst

end Grammar

end PlayerSession
