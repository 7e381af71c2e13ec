import Mathlib.Data.Fin.VecNotation
import Mathlib.Data.List.Sort
import PlayerSession.Grammar.Reference
import PlayerSession.Proofs.Check.Route

/-! Noise in a sequence: wildcards anywhere, and skipped kinds between meaningful events.  An event is on
the route of a sequence when it is meaningful and not skipped, or the first meaningful event, or the
last.  No noise is any of these, and it does not change which of the other events are.  The route of a
sequence with noise is therefore the route of the sequence without it, at other places, and a check of
it has the same outcome there. -/

namespace PlayerSession

/-! ### Events in their order -/

/-- `d` stands at an earlier place than `e`. -/
def Located.Before (d e : Located) : Prop := d.index < e.index

instance : Std.Irrefl Located.Before := ⟨fun e => Nat.lt_irrefl e.index⟩

instance : Std.Antisymm Located.Before := ⟨fun _ _ h h' => absurd h' (Nat.lt_asymm h)⟩

theorem Located.pairwise_ofKinds (kinds : List Kind) : (ofKinds kinds).Pairwise Before := by
  have hIndex : (kinds.zipIdx.map Prod.snd).Pairwise (· < ·) := by
    rw [List.zipIdx_map_snd]
    exact List.pairwise_lt_range'
  rw [ofKinds, List.pairwise_map]
  exact (List.pairwise_map.mp hIndex).imp id

namespace Grammar

variable {g : Grammar} {kinds padded : List Kind} {events : List Located} {d e : Located}

theorem mem_meaningful_iff :
    e ∈ g.meaningful (Located.ofKinds kinds) ↔
      kinds[e.index]? = some e.kind ∧ e.kind ∉ g.wildcards := by
  rw [meaningful, List.mem_filter, Located.mem_ofKinds, decide_eq_true_eq]

theorem pairwise_meaningful (g : Grammar) (kinds : List Kind) :
    (g.meaningful (Located.ofKinds kinds)).Pairwise Located.Before :=
  (Located.pairwise_ofKinds kinds).filter _

theorem mem_route_cons_concat {first last : Located} {mid : List Located} :
    e ∈ g.route (first :: (mid ++ [last])) ↔
      e = first ∨ e ∈ mid ∧ e.kind ∉ g.skipped ∨ e = last := by
  rw [route, visited_concat, List.mem_cons, List.mem_append, List.mem_filter, List.mem_singleton,
    heeds_iff]

theorem index_le_of_pairwise_cons {first : Located} {rest : List Located}
    (h : (first :: rest).Pairwise Located.Before) (hd : d ∈ first :: rest) :
    first.index ≤ d.index := by
  rcases List.mem_cons.mp hd with rfl | hd
  · exact Nat.le_refl _
  · exact Nat.le_of_lt ((List.pairwise_cons.mp h).1 d hd)

theorem index_lt_of_pairwise_concat {last : Located} {front : List Located}
    (h : (front ++ [last]).Pairwise Located.Before) (hd : d ∈ front) : d.index < last.index :=
  (List.pairwise_append.mp h).2.2 d hd last List.mem_cons_self

theorem index_le_of_pairwise_concat {last : Located} {front : List Located}
    (h : (front ++ [last]).Pairwise Located.Before) (hd : d ∈ front ++ [last]) :
    d.index ≤ last.index := by
  rcases List.mem_append.mp hd with hd | hd
  · exact Nat.le_of_lt (index_lt_of_pairwise_concat h hd)
  · exact Nat.le_of_eq (congrArg _ (List.mem_singleton.mp hd))

/-- On a route are the events that are not skipped, the first one and the last one. -/
theorem mem_route_iff (h : events.Pairwise Located.Before) :
    e ∈ g.route events ↔
      e ∈ events ∧
        (e.kind ∉ g.skipped ∨ (∀ d ∈ events, e.index ≤ d.index) ∨
          ∀ d ∈ events, d.index ≤ e.index) := by
  cases events with
  | nil => simp [route]
  | cons first rest =>
    have hLow : ∀ d ∈ first :: rest, first.index ≤ d.index := fun d =>
      index_le_of_pairwise_cons h
    rcases List.eq_nil_or_concat' rest with rfl | ⟨mid, last, rfl⟩
    · constructor
      · intro he
        obtain rfl : e = first := List.mem_singleton.mp he
        exact ⟨he, .inr (.inl hLow)⟩
      · exact And.left
    · have hHigh : ∀ d ∈ first :: (mid ++ [last]), d.index ≤ last.index := fun d =>
        @index_le_of_pairwise_concat d last (first :: mid) h
      rw [mem_route_cons_concat]
      constructor
      · rintro (rfl | ⟨hMid, hHeeds⟩ | rfl)
        · exact ⟨List.mem_cons_self, .inr (.inl hLow)⟩
        · exact ⟨by simp [hMid], .inl hHeeds⟩
        · exact ⟨by simp, .inr (.inr hHigh)⟩
      · rintro ⟨he, hOn⟩
        rcases List.mem_cons.mp he with rfl | he
        · exact .inl rfl
        · rcases List.mem_append.mp he with hMid | hEq
          · -- an event between the two ends is neither the first nor the last
            have hAfter : first.index < e.index :=
              (List.pairwise_cons.mp h).1 e (List.mem_append_left _ hMid)
            have hBefore : e.index < last.index :=
              index_lt_of_pairwise_concat (List.pairwise_cons.mp h).2 hMid
            rcases hOn with hHeeds | hLeast | hGreatest
            · exact .inr (.inl ⟨hMid, hHeeds⟩)
            · exact absurd (hLeast first List.mem_cons_self) (Nat.not_le_of_lt hAfter)
            · exact absurd (hGreatest last (by simp)) (Nat.not_le_of_lt hBefore)
          · exact .inr (.inr (List.mem_singleton.mp hEq))

/-! ### Sequences with noise -/

/-- `pos` puts the events of `kinds` into `padded` in their order.  What else `padded` holds is noise:
wildcards, and skipped kinds strictly between two events of `kinds` that are no wildcards, and so
strictly between the first and the last of these. -/
structure Pads (g : Grammar) (kinds padded : List Kind)
    (pos : Fin kinds.length → Fin padded.length) : Prop where
  ascending : StrictMono pos
  kept : ∀ i, padded[pos i] = kinds[i]
  noise : ∀ j, (∀ i, pos i ≠ j) →
    padded[j] ∈ g.wildcards ∨
      padded[j] ∈ g.skipped ∧
        ∃ a b, kinds[a] ∉ g.wildcards ∧ kinds[b] ∉ g.wildcards ∧ pos a < j ∧ j < pos b

/-- A map of the places of a list as a map of numbers. -/
def placeIn {m n : Nat} (pos : Fin m → Fin n) (i : Nat) : Nat :=
  if h : i < m then pos ⟨i, h⟩ else i

theorem placeIn_val {m n : Nat} (pos : Fin m → Fin n) (i : Fin m) : placeIn pos i = pos i :=
  dif_pos i.isLt

theorem exists_place_of_mem (he : e ∈ g.meaningful (Located.ofKinds kinds)) :
    ∃ i : Fin kinds.length, e = ⟨i, kinds[i]⟩ ∧ kinds[i] ∉ g.wildcards := by
  obtain ⟨hKind, hWild⟩ := mem_meaningful_iff.mp he
  obtain ⟨hIndex, hGet⟩ := List.getElem?_eq_some_iff.mp hKind
  refine ⟨⟨e.index, hIndex⟩, ?_, ?_⟩
  · show e = ⟨e.index, kinds[e.index]⟩
    rw [hGet]
  · show kinds[e.index] ∉ g.wildcards
    rwa [hGet]

theorem mem_meaningful_of_place (i : Fin kinds.length) (hWild : kinds[i] ∉ g.wildcards) :
    ⟨i, kinds[i]⟩ ∈ g.meaningful (Located.ofKinds kinds) :=
  mem_meaningful_iff.mpr ⟨List.getElem?_eq_getElem i.isLt, hWild⟩

namespace Pads

variable {pos : Fin kinds.length → Fin padded.length}

theorem move_place (h : g.Pads kinds padded pos) (i : Fin kinds.length) :
    (⟨i, kinds[i]⟩ : Located).move (placeIn pos) = ⟨pos i, padded[pos i]⟩ := by
  rw [h.kept i, Located.move, placeIn_val]

theorem move_mem (h : g.Pads kinds padded pos) (he : e ∈ g.meaningful (Located.ofKinds kinds)) :
    e.move (placeIn pos) ∈ g.meaningful (Located.ofKinds padded) := by
  obtain ⟨i, rfl, hWild⟩ := exists_place_of_mem he
  rw [h.move_place]
  exact mem_meaningful_of_place (pos i) (by rwa [h.kept i])

theorem placeIn_le_iff (h : g.Pads kinds padded pos)
    (hd : d ∈ g.meaningful (Located.ofKinds kinds)) (he : e ∈ g.meaningful (Located.ofKinds kinds)) :
    placeIn pos d.index ≤ placeIn pos e.index ↔ d.index ≤ e.index := by
  obtain ⟨i, rfl, -⟩ := exists_place_of_mem hd
  obtain ⟨j, rfl, -⟩ := exists_place_of_mem he
  rw [placeIn_val, placeIn_val]
  exact h.ascending.le_iff_le

/-- A meaningful event of `padded` comes from one of `kinds`, or it is skipped and stands between two
that do. -/
theorem mem_cases (h : g.Pads kinds padded pos) (he : e ∈ g.meaningful (Located.ofKinds padded)) :
    (∃ d ∈ g.meaningful (Located.ofKinds kinds), d.move (placeIn pos) = e) ∨
      e.kind ∈ g.skipped ∧
        ∃ a ∈ g.meaningful (Located.ofKinds kinds), ∃ b ∈ g.meaningful (Located.ofKinds kinds),
          placeIn pos a.index < e.index ∧ e.index < placeIn pos b.index := by
  obtain ⟨j, rfl, hWild⟩ := exists_place_of_mem he
  by_cases hImage : ∃ i, pos i = j
  · obtain ⟨i, rfl⟩ := hImage
    refine .inl ⟨_, mem_meaningful_of_place i (by rwa [← h.kept i]), h.move_place i⟩
  · rcases h.noise j fun i hi => hImage ⟨i, hi⟩ with hNoise | ⟨hSkip, a, b, ha, hb, hLow, hHigh⟩
    · exact absurd hNoise hWild
    · refine .inr ⟨hSkip, _, mem_meaningful_of_place a ha, _, mem_meaningful_of_place b hb, ?_, ?_⟩
      · rwa [placeIn_val]
      · rwa [placeIn_val]

theorem mem_route_iff_exists_move (h : g.Pads kinds padded pos) :
    e ∈ g.route (g.meaningful (Located.ofKinds padded)) ↔
      ∃ d ∈ g.route (g.meaningful (Located.ofKinds kinds)), d.move (placeIn pos) = e := by
  rw [mem_route_iff (g.pairwise_meaningful padded)]
  simp only [mem_route_iff (g.pairwise_meaningful kinds)]
  constructor
  · rintro ⟨he, hOn⟩
    rcases h.mem_cases he with ⟨d, hd, rfl⟩ | ⟨hSkip, a, ha, b, hb, hLow, hHigh⟩
    · refine ⟨d, ⟨hd, ?_⟩, rfl⟩
      rcases hOn with hHeeds | hLeast | hGreatest
      · exact .inl hHeeds
      · exact .inr (.inl fun c hc => (h.placeIn_le_iff hd hc).mp (hLeast _ (h.move_mem hc)))
      · exact .inr (.inr fun c hc => (h.placeIn_le_iff hc hd).mp (hGreatest _ (h.move_mem hc)))
    · -- a skipped kind with events on both sides is on no route
      rcases hOn with hHeeds | hLeast | hGreatest
      · exact absurd hSkip hHeeds
      · exact absurd (hLeast _ (h.move_mem ha)) (Nat.not_le_of_lt hLow)
      · exact absurd (hGreatest _ (h.move_mem hb)) (Nat.not_le_of_lt hHigh)
  · rintro ⟨d, ⟨hd, hOn⟩, rfl⟩
    refine ⟨h.move_mem hd, ?_⟩
    rcases hOn with hHeeds | hLeast | hGreatest
    · exact .inl hHeeds
    · refine .inr (.inl fun c hc => ?_)
      rcases h.mem_cases hc with ⟨b, hb, rfl⟩ | ⟨-, a, ha, -, -, hLow, -⟩
      · exact (h.placeIn_le_iff hd hb).mpr (hLeast b hb)
      · exact Nat.le_trans ((h.placeIn_le_iff hd ha).mpr (hLeast a ha)) (Nat.le_of_lt hLow)
    · refine .inr (.inr fun c hc => ?_)
      rcases h.mem_cases hc with ⟨a, ha, rfl⟩ | ⟨-, -, -, b, hb, -, hHigh⟩
      · exact (h.placeIn_le_iff ha hd).mpr (hGreatest a ha)
      · exact Nat.le_trans (Nat.le_of_lt hHigh) ((h.placeIn_le_iff hb hd).mpr (hGreatest b hb))

theorem pairwise_map_move (h : g.Pads kinds padded pos) (hEvents : events.Pairwise Located.Before)
    (hIn : ∀ e ∈ events, e ∈ g.meaningful (Located.ofKinds kinds)) :
    (events.map (·.move (placeIn pos))).Pairwise Located.Before := by
  rw [List.pairwise_map]
  refine hEvents.imp_of_mem fun {d e} hd he hLess => ?_
  show placeIn pos d.index < placeIn pos e.index
  have hIff := h.placeIn_le_iff (hIn e he) (hIn d hd)
  have hLess : d.index < e.index := hLess
  omega

/-- Noise adds nothing to the route of a sequence. -/
theorem route_eq_map_move (h : g.Pads kinds padded pos) :
    g.route (g.meaningful (Located.ofKinds padded)) =
      (g.route (g.meaningful (Located.ofKinds kinds))).map (·.move (placeIn pos)) := by
  -- both sides stand in the order of places, so the same events make the same list
  have hPadded := (g.pairwise_meaningful padded).sublist (g.route_sublist _)
  have hMoved := h.pairwise_map_move ((g.pairwise_meaningful kinds).sublist (g.route_sublist _))
    (g.route_sublist _).subset
  apply hPadded.eq_of_mem_iff hMoved
  intro e
  rw [h.mem_route_iff_exists_move, List.mem_map]

theorem check_eq_mapError_move (h : g.Pads kinds padded pos) :
    g.check padded = (g.check kinds).mapError (·.move (placeIn pos)) := by
  rw [check_eq_judge, check_eq_judge, h.route_eq_map_move, judge_map_move]

end Pads

/-- A sequence with noise is accepted exactly when it is without the noise, and otherwise the violation
is the same, at the place that its event has among the noise. -/
theorem check_padded {pos : Fin kinds.length → Fin padded.length}
    (h : g.Pads kinds padded pos) :
    (g.check padded = .ok () ↔ g.check kinds = .ok ()) ∧
      ∀ v, g.check kinds = .error v →
        ∃ hIndex : v.index < kinds.length,
          g.check padded = .error ⟨pos ⟨v.index, hIndex⟩, v.breach⟩ := by
  rw [h.check_eq_mapError_move]
  constructor
  · cases g.check kinds <;> simp [Except.mapError]
  · intro v hCheck
    have hIndex : v.index < kinds.length := index_lt_of_check hCheck
    refine ⟨hIndex, ?_⟩
    rw [hCheck]
    show Except.error (v.move (placeIn pos)) = _
    rw [Violation.move, ← placeIn_val pos ⟨v.index, hIndex⟩]

theorem reference_check_padded :
    reference.Pads ["init", "loading", "stopped", "playing"]
        ["metadata", "init", "warning", "loading", "stopped", "heartbeat", "metadata", "playing",
          "metadata"]
        ![⟨1, by decide⟩, ⟨3, by decide⟩, ⟨4, by decide⟩, ⟨7, by decide⟩] ∧
      reference.check ["init", "loading", "stopped", "playing"] =
        .error ⟨3, .forbiddenTransition "stopped" "playing"⟩ ∧
      reference.check ["metadata", "init", "warning", "loading", "stopped", "heartbeat", "metadata",
          "playing", "metadata"] =
        .error ⟨7, .forbiddenTransition "stopped" "playing"⟩ := by
  have hPads : reference.Pads ["init", "loading", "stopped", "playing"]
      ["metadata", "init", "warning", "loading", "stopped", "heartbeat", "metadata", "playing",
        "metadata"]
      ![⟨1, by decide⟩, ⟨3, by decide⟩, ⟨4, by decide⟩, ⟨7, by decide⟩] :=
    { ascending := by unfold StrictMono; decide
      kept := by decide
      noise := by decide +kernel }
  have hCheck : reference.check ["init", "loading", "stopped", "playing"] =
      .error ⟨3, .forbiddenTransition "stopped" "playing"⟩ := by decide +kernel
  obtain ⟨_, hPadded⟩ := (check_padded hPads).2 _ hCheck
  exact ⟨hPads, hCheck, hPadded⟩

end Grammar

end PlayerSession
