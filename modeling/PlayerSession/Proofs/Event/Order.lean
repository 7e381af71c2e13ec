import PlayerSession.Event

/-! The order of time.  Events are arranged by their timestamps, and the events of one time keep the order
in which they were found. -/

namespace PlayerSession

/-- The events are those that were found, in the order of time. -/
structure Arranged (events found : List EventRecord) : Prop where
  perm : events.Perm found
  ascending : events.Pairwise fun a b => a.timestamp ≤ b.timestamp
  /-- The events of one time are in the order in which they were found. -/
  stable : ∀ t, events.filter (·.timestamp = t) = found.filter (·.timestamp = t)

theorem Arranged.eq_nil {events : List EventRecord} (h : Arranged events []) : events = [] :=
  h.perm.eq_nil

theorem timestamp_le_trans (a b c : EventRecord) (hab : decide (a.timestamp ≤ b.timestamp))
    (hbc : decide (b.timestamp ≤ c.timestamp)) : decide (a.timestamp ≤ c.timestamp) :=
  decide_eq_true (Int64.le_trans (of_decide_eq_true hab) (of_decide_eq_true hbc))

theorem timestamp_le_total (a b : EventRecord) :
    decide (a.timestamp ≤ b.timestamp) || decide (b.timestamp ≤ a.timestamp) := by
  rw [Bool.or_eq_true, decide_eq_true_iff, decide_eq_true_iff]
  exact Int64.le_total _ _

/-- The events of one time keep their order: they are ascending as they stand, and sorting keeps every
ascending sublist. -/
theorem filter_chronological (found : List EventRecord) (t : Int64) :
    (chronological found).filter (·.timestamp = t) = found.filter (·.timestamp = t) := by
  have hAscending : (found.filter (·.timestamp = t)).Pairwise fun a b =>
      decide (a.timestamp ≤ b.timestamp) = true := by
    refine List.pairwise_of_forall_mem_list fun a ha b hb => decide_eq_true ?_
    rw [of_decide_eq_true (List.mem_filter.mp ha).2, of_decide_eq_true (List.mem_filter.mp hb).2]
    exact Int64.le_refl t
  have hSublist : (found.filter (·.timestamp = t)).Sublist (chronological found) :=
    List.sublist_mergeSort timestamp_le_trans timestamp_le_total hAscending List.filter_sublist
  have hFiltered := hSublist.filter (·.timestamp = t)
  rw [List.filter_filter] at hFiltered
  simp only [Bool.and_self] at hFiltered
  refine (hFiltered.eq_of_length ?_).symm
  exact ((List.mergeSort_perm found _).symm.filter _).length_eq

theorem arranged_chronological (found : List EventRecord) :
    Arranged (chronological found) found where
  perm := List.mergeSort_perm found _
  ascending := (List.pairwise_mergeSort timestamp_le_trans timestamp_le_total found).imp
    of_decide_eq_true
  stable := filter_chronological found

/-! ### One order for every arrangement -/

section Ascending

variable {events events' : List EventRecord}

theorem mem_of_same_times (hSame : ∀ t, events.filter (·.timestamp = t) =
    events'.filter (·.timestamp = t)) {e : EventRecord} (hMem : e ∈ events) : e ∈ events' := by
  have hFiltered : e ∈ events.filter (·.timestamp = e.timestamp) :=
    List.mem_filter.mpr ⟨hMem, decide_eq_true rfl⟩
  rw [hSame] at hFiltered
  exact (List.mem_filter.mp hFiltered).1

theorem timestamp_head_le {e first : EventRecord}
    (h : (first :: events).Pairwise fun a b => a.timestamp ≤ b.timestamp)
    (hMem : e ∈ first :: events) : first.timestamp ≤ e.timestamp := by
  rcases List.mem_cons.mp hMem with rfl | hRest
  · exact Int64.le_refl _
  · exact List.rel_of_pairwise_cons h hRest

/-- Ascending events are settled by the events of each time.  The first events of both lists have the
same time, and so they are the same. -/
theorem eq_of_same_times (h : events.Pairwise fun a b => a.timestamp ≤ b.timestamp)
    (h' : events'.Pairwise fun a b => a.timestamp ≤ b.timestamp)
    (hSame : ∀ t, events.filter (·.timestamp = t) = events'.filter (·.timestamp = t)) :
    events = events' := by
  induction events generalizing events' with
  | nil =>
    cases events' with
    | nil => rfl
    | cons first' rest' =>
      cases mem_of_same_times (fun t => (hSame t).symm) List.mem_cons_self
  | cons first rest ih =>
    cases events' with
    | nil => cases mem_of_same_times hSame List.mem_cons_self
    | cons first' rest' =>
      have hTime : first.timestamp = first'.timestamp := by
        refine Int64.le_antisymm ?_ ?_
        · exact timestamp_head_le h
            (mem_of_same_times (fun t => (hSame t).symm) List.mem_cons_self)
        · exact timestamp_head_le h' (mem_of_same_times hSame List.mem_cons_self)
      have hFirst : first = first' := by
        have hHeads := hSame first.timestamp
        rw [List.filter_cons, List.filter_cons, if_pos (decide_eq_true rfl),
          if_pos (decide_eq_true hTime.symm)] at hHeads
        exact (List.cons.inj hHeads).1
      subst hFirst
      have hRests : ∀ t, rest.filter (·.timestamp = t) = rest'.filter (·.timestamp = t) := by
        intro t
        have hBoth := hSame t
        rw [List.filter_cons, List.filter_cons] at hBoth
        split at hBoth
        · exact (List.cons.inj hBoth).2
        · exact hBoth
      rw [ih (List.Pairwise.of_cons h) (List.Pairwise.of_cons h') hRests]

end Ascending

/-- The events that were found have one order of time. -/
theorem Arranged.unique {events events' found : List EventRecord} (h : Arranged events found)
    (h' : Arranged events' found) : events = events' :=
  eq_of_same_times h.ascending h'.ascending fun t => (h.stable t).trans (h'.stable t).symm

/-- The same events in another order, in which the events of one time stand as they did. -/
structure Rearranged (events found : List EventRecord) : Prop where
  perm : events.Perm found
  stable : ∀ t, events.filter (·.timestamp = t) = found.filter (·.timestamp = t)

theorem Arranged.rearranged {events found : List EventRecord} (h : Arranged events found) :
    Rearranged events found :=
  ⟨h.perm, h.stable⟩

/-- The order of time does not depend on the order in which the events were found, but for events of
the same time. -/
theorem chronological_of_rearranged {events found : List EventRecord} (h : Rearranged events found) :
    chronological events = chronological found := by
  have hEvents := arranged_chronological events
  have hFound := arranged_chronological found
  refine eq_of_same_times hEvents.ascending hFound.ascending fun t => ?_
  rw [hEvents.stable, hFound.stable, h.stable]

end PlayerSession
