import PlayerSession.Grammar.Reference
import PlayerSession.Proofs.Event.Order
import PlayerSession.Report

/-! Reports and the order in which the events of a session are found.  A report is made of the events in
the order of time alone, so it is the same for every order in which they may be found that leaves the
events of one time as they stand, and a report on the events of a report says nothing new. -/

namespace PlayerSession.SessionReport

variable {g : Grammar} {sessionId : String} {events found : List EventRecord}

theorem events_build : (build g sessionId found).events = chronological found := rfl

/-- A report looks at its events in the order of time and in no other. -/
theorem build_eq_of_chronological (h : chronological events = chronological found) :
    build g sessionId events = build g sessionId found := by
  unfold build
  rw [h]

/-- A report does not depend on the order in which the events were found, it holds them in the order of
time, and it is the report on its own events. -/
theorem build_of_rearranged (g : Grammar) (sessionId : String) (h : Rearranged events found) :
    build g sessionId events = build g sessionId found ∧
      Arranged (build g sessionId found).events found ∧
      build g sessionId (build g sessionId found).events = build g sessionId found := by
  refine ⟨build_eq_of_chronological (chronological_of_rearranged h), ?_, ?_⟩
  · rw [events_build]
    exact arranged_chronological found
  · refine build_eq_of_chronological ?_
    rw [events_build]
    exact chronological_of_rearranged (arranged_chronological found).rearranged

/-- Events that were stored late, two of them of one time. -/
def lateEvents : List EventRecord :=
  [{ event := "loaded", sessionId := "s", timestamp := 3 },
    { event := "loading", sessionId := "s", timestamp := 2 },
    { event := "metadata", sessionId := "s", timestamp := 2 },
    { event := "init", sessionId := "s", timestamp := Int64.minValue }]

/-- The same events, stored in time. -/
def promptEvents : List EventRecord :=
  [{ event := "init", sessionId := "s", timestamp := Int64.minValue },
    { event := "loading", sessionId := "s", timestamp := 2 },
    { event := "metadata", sessionId := "s", timestamp := 2 },
    { event := "loaded", sessionId := "s", timestamp := 3 }]

theorem build_lateEvents :
    Rearranged lateEvents promptEvents ∧
      build .reference "s" lateEvents = build .reference "s" promptEvents ∧
      (build .reference "s" lateEvents).events = promptEvents := by
  have hRearranged : Rearranged lateEvents promptEvents := by
    refine ⟨by decide +kernel, fun t => ?_⟩
    by_cases hLow : Int64.minValue = t
    · subst hLow
      decide +kernel
    by_cases hTwo : 2 = t
    · subst hTwo
      decide +kernel
    by_cases hThree : 3 = t
    · subst hThree
      decide +kernel
    simp [lateEvents, promptEvents, hLow, hTwo, hThree]
  have hPrompt : chronological promptEvents = promptEvents :=
    List.mergeSort_of_pairwise (by decide +kernel)
  obtain ⟨hSame, -⟩ := build_of_rearranged .reference "s" hRearranged
  refine ⟨hRearranged, hSame, ?_⟩
  rw [hSame, events_build, hPrompt]

end PlayerSession.SessionReport
