import PlayerSession.Proofs.Check.Visited

/-! The rules of a check, said of places.  `Visits` says which places of a sequence of meaningful events
are visited, `BreaksAt` which rules the event at a visited place breaks, with what stands at the other
places, and `Judged` what is reported.  The main statement, `check_eq_iff_judged`, is that a check
reports exactly that. -/

namespace PlayerSession

/-! ### The latest place before another -/

/-- `e` stands at the latest place before `j` that satisfies `Q`. -/
def LatestBefore (Q : Nat → Located → Prop) (j : Nat) (e : Located) : Prop :=
  ∃ k < j, Q k e ∧ ∀ k' d, k < k' → k' < j → ¬ Q k' d

section LatestBefore

variable {Q : Nat → Located → Prop} {j : Nat} {d e : Located}

theorem not_latestBefore_zero : ¬ LatestBefore Q 0 e := by
  rintro ⟨k, hk, -⟩
  exact Nat.not_lt_zero k hk

theorem latestBefore_succ (hQ : ∀ x, Q j x ↔ x = d) : LatestBefore Q (j + 1) e ↔ e = d := by
  constructor
  · rintro ⟨k, hk, hQk, hLate⟩
    rcases Nat.lt_succ_iff_lt_or_eq.mp hk with hLess | rfl
    · exact absurd ((hQ d).mpr rfl) (hLate j d hLess (Nat.lt_succ_self j))
    · exact (hQ e).mp hQk
  · rintro rfl
    exact ⟨j, Nat.lt_succ_self j, (hQ e).mpr rfl, fun k' _ h1 h2 => by omega⟩

theorem latestBefore_succ_of_not (hQ : ∀ x, ¬ Q j x) :
    LatestBefore Q (j + 1) e ↔ LatestBefore Q j e := by
  constructor
  · rintro ⟨k, hk, hQk, hLate⟩
    have hNe : k ≠ j := by
      rintro rfl
      exact hQ e hQk
    exact ⟨k, by omega, hQk, fun k' x h1 h2 => hLate k' x h1 (by omega)⟩
  · rintro ⟨k, hk, hQk, hLate⟩
    refine ⟨k, by omega, hQk, fun k' x h1 h2 hx => ?_⟩
    by_cases hEq : k' = j
    · subst hEq
      exact hQ x hx
    · exact hLate k' x h1 (by omega) hx

end LatestBefore

namespace Grammar

/-! ### Rules at places -/

/-- Place `j` of `events` is visited and `e` stands there: it is the first place, the kind there is not
skipped, or it is the last place. -/
def Visits (g : Grammar) (events : List Located) (j : Nat) (e : Located) : Prop :=
  events[j]? = some e ∧ (j = 0 ∨ e.kind ∉ g.skipped ∨ j + 1 = events.length)

/-- Place `j` is visited after the first place, and the kind there belongs to the pairing. -/
def VisitsPaired (g : Grammar) (p : Pairing) (events : List Located) (j : Nat) (e : Located) : Prop :=
  1 ≤ j ∧ g.Visits events j e ∧ p.Has e.kind

/-- The event `e` at place `j` breaks a rule. -/
inductive BreaksAt (g : Grammar) (events : List Located) (j : Nat) (e : Located) : Breach → Prop
  /-- A once-only kind that was visited before, after the first place. -/
  | duplicate {k : Nat} {d : Located} : e.kind ∈ g.onceOnly → 1 ≤ k → k < j → g.Visits events k d →
      d.kind = e.kind → BreaksAt g events j e (.duplicateSingleOccurrence e.kind)
  /-- A kind without an entry. -/
  | unknown : ¬ g.Declares e.kind → BreaksAt g events j e (.unknownKind e.kind)
  /-- The kind `pause` where the latest kind of the pairing is not `play`. -/
  | pause {p : Pairing} : g.pairing = some p → e.kind = p.pause →
      (¬ ∃ d, LatestBefore (g.VisitsPaired p events) j d ∧ d.kind = p.play) →
      BreaksAt g events j e (.unpairedPlayPause e.kind p.play)
  /-- The kind `play` where the latest kind of the pairing is `play`. -/
  | play {p : Pairing} : g.pairing = some p → e.kind = p.play → e.kind ≠ p.pause →
      (∃ d, LatestBefore (g.VisitsPaired p events) j d ∧ d.kind = p.play) →
      BreaksAt g events j e (.unpairedPlayPause e.kind p.pause)
  /-- A kind that the event visited before it forbids. -/
  | forbidden {c : Located} : LatestBefore (g.Visits events) j c → g.Forbids c.kind e.kind →
      BreaksAt g events j e (.forbiddenTransition c.kind e.kind)

/-- No visited event after the first place and before place `j` breaks a rule. -/
def CleanBefore (g : Grammar) (events : List Located) (j : Nat) : Prop :=
  ∀ k d, 1 ≤ k → k < j → g.Visits events k d → ∀ b, ¬ g.BreaksAt events k d b

/-- What is reported of a sequence of meaningful events. -/
inductive Judged (g : Grammar) (events : List Located) : Except Violation Unit → Prop
  /-- Nothing is meaningful. -/
  | empty : events = [] → Judged g events (.ok ())
  /-- The first event is not of the initial kind. -/
  | unopened {first : Located} {rest : List Located} : events = first :: rest →
      first.kind ≠ g.initial →
      Judged g events (.error ⟨first.index, .initialNotFirst g.initial g.wildcards.keys⟩)
  /-- No visited event breaks a rule. -/
  | clean {first : Located} {rest : List Located} : events = first :: rest → first.kind = g.initial →
      g.CleanBefore events events.length → Judged g events (.ok ())
  /-- Place `j` is the first one where a rule is broken, and `b` the first rule broken there. -/
  | broken {first e : Located} {rest : List Located} {j : Nat} {b : Breach} : events = first :: rest →
      first.kind = g.initial → 1 ≤ j → g.Visits events j e → g.CleanBefore events j →
      Breach.IsFirst (g.BreaksAt events j e) b → Judged g events (.error ⟨e.index, b⟩)

/-! ### Places and trails -/

/-- The trail of the visits before the last event of a sequence, up to place `j` of the events after
the first. -/
def trailBefore (g : Grammar) (rest : List Located) (j : Nat) : List Kind :=
  ((rest.take j).filter g.heeds).map (·.kind)

section Places

variable {g : Grammar} {first d e : Located} {rest : List Located} {j : Nat} {b : Breach}

theorem trailBefore_zero : g.trailBefore rest 0 = [] := rfl

theorem trailBefore_succ (hd : rest[j]? = some d) (hHeeds : g.heeds d = true) :
    g.trailBefore rest (j + 1) = g.trailBefore rest j ++ [d.kind] := by
  simp [trailBefore, List.take_add_one, hd, hHeeds]

theorem trailBefore_succ_of_not (hd : rest[j]? = some d) (hHeeds : ¬ g.heeds d = true) :
    g.trailBefore rest (j + 1) = g.trailBefore rest j := by
  simp [trailBefore, List.take_add_one, hd, hHeeds]

theorem visits_zero : g.Visits (first :: rest) 0 e ↔ e = first := by
  simp [Visits, eq_comm]

theorem visits_succ : g.Visits (first :: rest) (j + 1) e ↔
    rest[j]? = some e ∧ (g.heeds e = true ∨ j + 1 = rest.length) := by
  simp [Visits]

theorem visits_succ_of_lt (hj : j + 1 < rest.length) (hd : rest[j]? = some d) :
    g.Visits (first :: rest) (j + 1) e ↔ g.heeds d = true ∧ e = d := by
  rw [visits_succ, hd, Option.some_inj]
  constructor
  · rintro ⟨rfl, hHeeds | hLast⟩
    · exact ⟨hHeeds, rfl⟩
    · omega
  · rintro ⟨hHeeds, rfl⟩
    exact ⟨rfl, .inl hHeeds⟩

theorem mem_trailBefore_iff (first : Located) (hj : j < rest.length) {kind : Kind} :
    kind ∈ g.trailBefore rest j ↔
      ∃ k d, 1 ≤ k ∧ k < j + 1 ∧ g.Visits (first :: rest) k d ∧ d.kind = kind := by
  constructor
  · intro h
    obtain ⟨d, hd, rfl⟩ := List.mem_map.mp h
    obtain ⟨hTake, hHeeds⟩ := List.mem_filter.mp hd
    obtain ⟨k, hk, rfl⟩ := List.mem_take_iff_getElem.mp hTake
    refine ⟨k + 1, _, by omega, by omega, visits_succ.mpr ⟨?_, .inl hHeeds⟩, rfl⟩
    exact List.getElem?_eq_getElem (by omega)
  · rintro ⟨k, d, hLow, hHigh, hVisits, rfl⟩
    obtain ⟨k, rfl⟩ : ∃ k', k = k' + 1 := ⟨k - 1, by omega⟩
    obtain ⟨hd, hHeeds | hLast⟩ := visits_succ.mp hVisits
    · have hTake : d ∈ rest.take j :=
        List.mem_iff_getElem?.mpr ⟨k, by rw [List.getElem?_take_of_lt (by omega), hd]⟩
      exact List.mem_map.mpr ⟨d, List.mem_filter.mpr ⟨hTake, hHeeds⟩, rfl⟩
    · omega

/-- The event visited before place `j + 1` has the kind that the trail up to `j` ends in. -/
theorem latestBefore_visits_iff (hFirst : first.kind = g.initial) (hj : j < rest.length)
    {kind : Kind} :
    (∃ c, LatestBefore (g.Visits (first :: rest)) (j + 1) c ∧ c.kind = kind) ↔
      g.lastVisited (g.trailBefore rest j) = kind := by
  induction j with
  | zero => simp [latestBefore_succ fun _ => visits_zero, hFirst, trailBefore_zero]
  | succ j ih =>
    have hd : rest[j]? = some rest[j] := List.getElem?_eq_getElem (by omega)
    have hVisits : ∀ x, g.Visits (first :: rest) (j + 1) x ↔ g.heeds rest[j] = true ∧ x = rest[j] :=
      fun _ => visits_succ_of_lt hj hd
    by_cases hHeeds : g.heeds rest[j] = true
    · have hLatest : ∀ c, LatestBefore (g.Visits (first :: rest)) (j + 1 + 1) c ↔ c = rest[j] :=
        fun c => latestBefore_succ fun x => by rw [hVisits, and_iff_right hHeeds]
      rw [trailBefore_succ hd hHeeds, lastVisited_concat]
      simp only [hLatest, exists_eq_left]
    · have hLatest : ∀ c, LatestBefore (g.Visits (first :: rest)) (j + 1 + 1) c ↔
          LatestBefore (g.Visits (first :: rest)) (j + 1) c :=
        fun c => latestBefore_succ_of_not fun x hx => hHeeds ((hVisits x).mp hx).1
      rw [trailBefore_succ_of_not hd hHeeds, ← ih (by omega)]
      simp only [hLatest]

/-- The latest event of the pairing before place `j + 1` has the latest such kind of the trail. -/
theorem latestBefore_visitsPaired_iff (first : Located) (p : Pairing) (hj : j < rest.length)
    {kind : Kind} :
    (∃ d, LatestBefore (g.VisitsPaired p (first :: rest)) (j + 1) d ∧ d.kind = kind) ↔
      p.latest? (g.trailBefore rest j) = some kind := by
  induction j with
  | zero =>
    have hNone : ∀ x, ¬ g.VisitsPaired p (first :: rest) 0 x := by
      rintro x ⟨hLow, -⟩
      omega
    simp [latestBefore_succ_of_not hNone, not_latestBefore_zero, trailBefore_zero]
  | succ j ih =>
    have hd : rest[j]? = some rest[j] := List.getElem?_eq_getElem (by omega)
    have hVisits : ∀ x, g.VisitsPaired p (first :: rest) (j + 1) x ↔
        g.heeds rest[j] = true ∧ x = rest[j] ∧ p.Has x.kind := by
      intro x
      rw [VisitsPaired, visits_succ_of_lt hj hd, and_assoc]
      exact and_iff_right (by omega)
    by_cases hHeeds : g.heeds rest[j] = true
    · rw [trailBefore_succ hd hHeeds, Pairing.latest?_concat]
      by_cases hHas : p.Has rest[j].kind
      · have hLatest : ∀ c, LatestBefore (g.VisitsPaired p (first :: rest)) (j + 1 + 1) c ↔
            c = rest[j] := by
          refine fun c => latestBefore_succ fun x => ?_
          rw [hVisits, and_iff_right hHeeds]
          exact ⟨And.left, fun hx => ⟨hx, hx ▸ hHas⟩⟩
        simp only [hLatest, exists_eq_left, if_pos hHas, Option.some_inj]
      · have hLatest : ∀ c, LatestBefore (g.VisitsPaired p (first :: rest)) (j + 1 + 1) c ↔
            LatestBefore (g.VisitsPaired p (first :: rest)) (j + 1) c := by
          refine fun c => latestBefore_succ_of_not fun x hx => ?_
          obtain ⟨-, rfl, hx⟩ := (hVisits x).mp hx
          exact hHas hx
        rw [if_neg hHas, ← ih (by omega)]
        simp only [hLatest]
    · have hLatest : ∀ c, LatestBefore (g.VisitsPaired p (first :: rest)) (j + 1 + 1) c ↔
          LatestBefore (g.VisitsPaired p (first :: rest)) (j + 1) c :=
        fun c => latestBefore_succ_of_not fun x hx => hHeeds ((hVisits x).mp hx).1
      rw [trailBefore_succ_of_not hd hHeeds, ← ih (by omega)]
      simp only [hLatest]

theorem breaksAt_iff (hFirst : first.kind = g.initial) (hj : j < rest.length) :
    g.BreaksAt (first :: rest) (j + 1) e b ↔ g.Breaks (g.trailBefore rest j) e.kind b := by
  constructor
  · intro h
    cases h with
    | duplicate hOnce hLow hHigh hVisits hKind =>
      exact .duplicate hOnce ((mem_trailBefore_iff first hj).mpr ⟨_, _, hLow, hHigh, hVisits, hKind⟩)
    | unknown hNot => exact .unknown hNot
    | pause hp hKind hLatest =>
      exact .pause hp hKind (mt (latestBefore_visitsPaired_iff first _ hj).mpr hLatest)
    | play hp hKind hNe hLatest =>
      exact .play hp hKind hNe ((latestBefore_visitsPaired_iff first _ hj).mp hLatest)
    | forbidden hLatest hForbids =>
      rw [← (latestBefore_visits_iff hFirst hj).mp ⟨_, hLatest, rfl⟩] at hForbids ⊢
      exact .forbidden hForbids
  · intro h
    cases h with
    | duplicate hOnce hIn =>
      obtain ⟨k, d, hLow, hHigh, hVisits, hKind⟩ := (mem_trailBefore_iff first hj).mp hIn
      exact .duplicate hOnce hLow hHigh hVisits hKind
    | unknown hNot => exact .unknown hNot
    | pause hp hKind hLatest =>
      exact .pause hp hKind (mt (latestBefore_visitsPaired_iff first _ hj).mp hLatest)
    | play hp hKind hNe hLatest =>
      exact .play hp hKind hNe ((latestBefore_visitsPaired_iff first _ hj).mpr hLatest)
    | forbidden hForbids =>
      obtain ⟨c, hLatest, hKind⟩ := (latestBefore_visits_iff hFirst hj).mpr rfl
      rw [← hKind] at hForbids ⊢
      exact .forbidden hLatest hForbids

theorem isFirst_breaksAt_iff (hFirst : first.kind = g.initial) (hj : j < rest.length) :
    Breach.IsFirst (g.BreaksAt (first :: rest) (j + 1) e) b ↔
      Breach.IsFirst (g.Breaks (g.trailBefore rest j) e.kind) b := by
  simp only [Breach.IsFirst, breaksAt_iff hFirst hj]

theorem cleanBefore_succ {events : List Located} (hj : 1 ≤ j) :
    g.CleanBefore events (j + 1) ↔
      g.CleanBefore events j ∧ ∀ d, g.Visits events j d → ∀ b, ¬ g.BreaksAt events j d b := by
  constructor
  · intro h
    exact ⟨fun k d hLow hHigh => h k d hLow (by omega), fun d => h j d hj (by omega)⟩
  · rintro ⟨hBefore, hHere⟩ k d hLow hHigh
    rcases Nat.lt_succ_iff_lt_or_eq.mp hHigh with hLess | rfl
    · exact hBefore k d hLow hLess
    · exact hHere d

theorem cleanBefore_iff (hFirst : first.kind = g.initial) (hj : j < rest.length) :
    g.CleanBefore (first :: rest) (j + 1) ↔ g.Obeys (g.trailBefore rest j) := by
  induction j with
  | zero =>
    refine ⟨fun _ => g.obeys_nil, fun _ k d hLow hHigh => ?_⟩
    omega
  | succ j ih =>
    have hd : rest[j]? = some rest[j] := List.getElem?_eq_getElem (by omega)
    rw [cleanBefore_succ (by omega), ih (by omega)]
    simp only [visits_succ_of_lt hj hd, breaksAt_iff hFirst (Nat.lt_of_succ_lt hj)]
    by_cases hHeeds : g.heeds rest[j] = true
    · rw [trailBefore_succ hd hHeeds, obeys_concat]
      simp only [hHeeds, true_and, forall_eq]
    · rw [trailBefore_succ_of_not hd hHeeds]
      exact and_iff_left fun d hd' => absurd hd'.1 hHeeds

theorem cleanBefore_length_iff (hFirst : first.kind = g.initial) :
    g.CleanBefore (first :: rest) (first :: rest).length ↔
      g.Obeys ((g.visited rest).map (·.kind)) := by
  rcases List.eq_nil_or_concat' rest with rfl | ⟨rest, last, rfl⟩
  · refine ⟨fun _ => g.obeys_nil, fun _ k d hLow hHigh => ?_⟩
    simp at hHigh
    omega
  · have hj : rest.length < (rest ++ [last]).length := by simp
    have hVisits : ∀ d, g.Visits (first :: (rest ++ [last])) (rest.length + 1) d ↔ d = last := by
      intro d
      rw [visits_succ, List.getElem?_concat_length, Option.some_inj]
      exact ⟨fun h => h.1.symm, fun h => ⟨h.symm, .inr (by simp)⟩⟩
    have hTrail : (g.visited (rest ++ [last])).map (·.kind) =
        g.trailBefore (rest ++ [last]) rest.length ++ [last.kind] := by
      simp [visited_concat, trailBefore]
    rw [hTrail, obeys_concat, ← cleanBefore_iff hFirst hj, List.length_cons, List.length_append,
      List.length_singleton, cleanBefore_succ (by omega)]
    simp only [hVisits, breaksAt_iff hFirst hj, forall_eq]

/-- The visit of the events after the first stops at the first place where a rule is broken. -/
theorem stops_visited_iff (hFirst : first.kind = g.initial) {v : Violation} :
    g.Stops [] (g.visited rest) v ↔
      ∃ j e, 1 ≤ j ∧ g.Visits (first :: rest) j e ∧ v.index = e.index ∧
        g.CleanBefore (first :: rest) j ∧
        Breach.IsFirst (g.BreaksAt (first :: rest) j e) v.breach := by
  constructor
  · rintro ⟨before, e, after, hVisited, hIndex, hBefore, hBreach⟩
    obtain ⟨pre, post, rfl, hVisit, rfl⟩ := exists_visited_eq_append_iff.mp ⟨after, hVisited⟩
    have hj : pre.length < (pre ++ e :: post).length := by simp
    have hTrail : [] ++ (pre.filter g.heeds).map (·.kind) =
        g.trailBefore (pre ++ e :: post) pre.length := by simp [trailBefore]
    rw [hTrail] at hBefore hBreach
    refine ⟨pre.length + 1, e, by omega, visits_succ.mpr ⟨by simp, ?_⟩, hIndex,
      (cleanBefore_iff hFirst hj).mpr hBefore, (isFirst_breaksAt_iff hFirst hj).mpr hBreach⟩
    rcases hVisit with hHeeds | rfl
    · exact .inl (heeds_iff.mpr hHeeds)
    · exact .inr (by simp)
  · rintro ⟨j, e, hLow, hVisits, hIndex, hClean, hBreach⟩
    obtain ⟨j, rfl⟩ : ∃ j', j = j' + 1 := ⟨j - 1, by omega⟩
    obtain ⟨he, hVisit⟩ := visits_succ.mp hVisits
    obtain ⟨hj, rfl⟩ := List.getElem?_eq_some_iff.mp he
    have hSplit : rest = rest.take j ++ rest[j] :: rest.drop (j + 1) := by simp
    have hVisit : rest[j].kind ∉ g.skipped ∨ rest.drop (j + 1) = [] :=
      hVisit.imp heeds_iff.mp fun hLast => List.drop_eq_nil_of_le (by omega)
    obtain ⟨after, hVisited⟩ := exists_visited_eq_append_iff.mpr
      ⟨rest.take j, rest.drop (j + 1), hSplit, hVisit, rfl⟩
    exact ⟨_, _, after, hVisited, hIndex, (cleanBefore_iff hFirst hj).mp hClean,
      (isFirst_breaksAt_iff hFirst hj).mp hBreach⟩

end Places

/-- A check reports what the rules at the places of its meaningful events say. -/
theorem check_eq_iff_judged (g : Grammar) (kinds : List Kind) (outcome : Except Violation Unit) :
    g.check kinds = outcome ↔ g.Judged (g.meaningful (Located.ofKinds kinds)) outcome := by
  constructor
  · rintro rfl
    cases hCheck : g.check kinds with
    | ok =>
      cases hEvents : g.meaningful (Located.ofKinds kinds) with
      | nil => exact .empty rfl
      | cons first rest =>
        obtain ⟨hFirst, hObeys⟩ := check_eq_ok_iff.mp hCheck first rest hEvents
        exact .clean rfl hFirst ((cleanBefore_length_iff hFirst).mpr hObeys)
    | error v =>
      obtain ⟨first, rest, hEvents, hOutcome⟩ := check_eq_error_iff.mp hCheck
      rw [hEvents]
      rcases hOutcome with ⟨hFirst, rfl⟩ | ⟨hFirst, hStops⟩
      · exact .unopened rfl hFirst
      · obtain ⟨j, e, hLow, hVisits, hIndex, hClean, hBreach⟩ := (stops_visited_iff hFirst).mp hStops
        obtain ⟨index, b⟩ := v
        cases hIndex
        exact .broken rfl hFirst hLow hVisits hClean hBreach
  · intro h
    cases h with
    | empty hEvents =>
      refine check_eq_ok_iff.mpr fun first rest h => ?_
      rw [hEvents] at h
      cases h
    | unopened hEvents hFirst =>
      exact check_eq_error_iff.mpr ⟨_, _, hEvents, .inl ⟨hFirst, rfl⟩⟩
    | clean hEvents hFirst hClean =>
      refine check_eq_ok_iff.mpr fun first rest h => ?_
      cases hEvents.symm.trans h
      rw [hEvents] at hClean
      exact ⟨hFirst, (cleanBefore_length_iff hFirst).mp hClean⟩
    | broken hEvents hFirst hLow hVisits hClean hBreach =>
      rw [hEvents] at hVisits hClean hBreach
      exact check_eq_error_iff.mpr ⟨_, _, hEvents, .inr ⟨hFirst,
        (stops_visited_iff hFirst).mpr ⟨_, _, hLow, hVisits, rfl, hClean, hBreach⟩⟩⟩

end Grammar

end PlayerSession
