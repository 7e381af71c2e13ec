import PlayerSession.Grammar.Reference
import PlayerSession.Proofs.Check.Route

/-! Checks of a sequence and of the sequences that go on from it.  The last event of a sequence is
visited even when it is skipped elsewhere, so a sequence may be refused at its end and accepted with
more events behind it.  Where the last meaningful event is not skipped, a violation in a sequence stays
the violation whatever follows, and a sequence without one has none before the events that follow. -/

namespace PlayerSession

namespace Grammar

variable {g : Grammar} {kinds more : List Kind} {v : Violation}

/-- The last kind that is no wildcard, if there is one, is not skipped. -/
def EndsHeeded (g : Grammar) (kinds : List Kind) : Prop :=
  ∀ k ∈ (kinds.filter (· ∉ g.wildcards)).getLast?, k ∉ g.skipped

instance (g : Grammar) (kinds : List Kind) : Decidable (g.EndsHeeded kinds) :=
  inferInstanceAs (Decidable (∀ k ∈ (kinds.filter (· ∉ g.wildcards)).getLast?, k ∉ g.skipped))

/-- The route of a longer sequence is that of its first part and then events behind that part. -/
theorem exists_route_ofKinds_append (hEnd : g.EndsHeeded kinds) (more : List Kind) :
    ∃ behind, (∀ e ∈ behind, kinds.length ≤ e.index) ∧
      g.route (g.meaningful (Located.ofKinds (kinds ++ more))) =
        g.route (g.meaningful (Located.ofKinds kinds)) ++ behind := by
  have hLast : ∀ e ∈ (g.meaningful (Located.ofKinds kinds)).getLast?, e.kind ∉ g.skipped := by
    intro e he
    refine hEnd e.kind ?_
    rw [← map_kind_meaningful, List.getLast?_map]
    exact Option.mem_map_of_mem _ he
  obtain ⟨behind, hSublist, hRoute⟩ := exists_route_append hLast
    (g.meaningful ((Located.ofKinds more).map (·.move (kinds.length + ·))))
  refine ⟨behind, fun e he => ?_, ?_⟩
  · obtain ⟨d, -, rfl⟩ := List.mem_map.mp (List.mem_of_mem_filter (hSublist.subset he))
    exact Nat.le_add_right kinds.length d.index
  · rw [← hRoute, Located.ofKinds_append]
    simp only [meaningful, List.filter_append]

theorem check_append_of_error (hEnd : g.EndsHeeded kinds) (h : g.check kinds = .error v) :
    g.check (kinds ++ more) = .error v := by
  obtain ⟨behind, -, hRoute⟩ := exists_route_ofKinds_append hEnd more
  rw [check_eq_judge] at h ⊢
  rw [hRoute]
  exact judge_append_of_error h

/-- A sequence without a violation has none before the events that follow. -/
theorem length_le_of_check_append (hEnd : g.EndsHeeded kinds) (hCheck : g.check kinds = .ok ())
    (h : g.check (kinds ++ more) = .error v) : kinds.length ≤ v.index := by
  obtain ⟨behind, hBehind, hRoute⟩ := exists_route_ofKinds_append hEnd more
  rw [check_eq_judge] at hCheck h
  rw [hRoute] at h
  obtain ⟨e, he, hIndex⟩ := exists_mem_of_judge_append hCheck h
  rw [hIndex]
  exact hBehind e he

/-- A violation stays when the events after it are taken away. -/
theorem check_take_of_error (h : g.check kinds = .error v) :
    g.check (kinds.take (v.index + 1)) = .error v := by
  rw [check_eq_judge] at h
  obtain ⟨before, e, after, hRoute, hIndex, hStop⟩ := exists_stop_of_judge h
  obtain ⟨pre, post, hEvents, hUpto⟩ := exists_route_upto hRoute
  have hKind : e.kind ∉ g.wildcards := by
    have he : e ∈ g.meaningful (Located.ofKinds kinds) := by
      rw [hEvents]
      exact List.mem_append_right pre List.mem_cons_self
    exact of_decide_eq_true (List.mem_filter.mp he).2
  -- `left` are all events before the one where the judgement stops, wildcards among them
  obtain ⟨left, right, rfl, hLeft, rfl⟩ := meaningful_eq_append_cons hEvents
  have hTake : (left ++ e.kind :: right).take (v.index + 1) = left ++ [e.kind] := by
    rw [hIndex, hLeft, List.append_cons, List.take_left']
    simp
  have hMeaningful : g.meaningful (Located.ofKinds (left ++ [e.kind])) =
      g.meaningful (Located.ofKinds left) ++ [e] := by
    have hOne : (Located.ofKinds [e.kind]).map (·.move (left.length + ·)) = [e] := by
      show [(⟨left.length + 0, e.kind⟩ : Located)] = [e]
      rw [Nat.add_zero, ← hLeft]
    rw [Located.ofKinds_append, hOne]
    simp [meaningful, hKind]
  rw [hTake, check_eq_judge, hMeaningful, hUpto]
  exact hStop

/-- Where the last meaningful event of a sequence is not skipped, its check settles that of every longer
sequence up to its end.  And a violation is settled by the events up to its place. -/
theorem check_settled_by_prefix (g : Grammar) :
    (∀ kinds more, g.EndsHeeded kinds →
      (∀ v, g.check (kinds ++ more) = .error v ∧ v.index < kinds.length ↔
        g.check kinds = .error v) ∧
      (g.check (kinds ++ more) = .ok () → g.check kinds = .ok ())) ∧
    ∀ kinds v, g.check kinds = .error v → g.check (kinds.take (v.index + 1)) = .error v := by
  refine ⟨fun kinds more hEnd => ⟨fun v => ⟨?_, ?_⟩, ?_⟩, fun kinds v => check_take_of_error⟩
  · rintro ⟨hLong, hIndex⟩
    cases hCheck : g.check kinds with
    | ok =>
      have hLength := length_le_of_check_append hEnd hCheck hLong
      omega
    | error w => rw [← hLong, check_append_of_error hEnd hCheck]
  · intro hCheck
    exact ⟨check_append_of_error hEnd hCheck, index_lt_of_check hCheck⟩
  · intro hLong
    cases hCheck : g.check kinds with
    | ok => rfl
    | error w =>
      rw [check_append_of_error hEnd hCheck] at hLong
      cases hLong

theorem reference_settled_by_loading :
    reference.EndsHeeded ["metadata", "init", "loading", "loading"] ∧
      ∀ more, reference.check (["metadata", "init", "loading", "loading"] ++ more) =
        .error ⟨3, .duplicateSingleOccurrence "loading"⟩ := by
  have hEnd : reference.EndsHeeded ["metadata", "init", "loading", "loading"] := by decide +kernel
  have hCheck : reference.check ["metadata", "init", "loading", "loading"] =
      .error ⟨3, .duplicateSingleOccurrence "loading"⟩ := by decide +kernel
  exact ⟨hEnd, fun more =>
    (((reference.check_settled_by_prefix.1 _ more hEnd).1 _).mpr hCheck).1⟩

/-- A sequence that ends in a skipped kind may be refused, and accepted with an event behind it. -/
example : ¬ reference.EndsHeeded ["init", "error", "heartbeat"] ∧
    reference.check ["init", "error", "heartbeat"] =
      .error ⟨2, .forbiddenTransition "error" "heartbeat"⟩ ∧
    reference.check ["init", "error", "heartbeat", "stopped"] = .ok () := by
  decide +kernel

end Grammar

end PlayerSession
