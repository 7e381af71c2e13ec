import PlayerSession.Grammar.Reference
import PlayerSession.Proofs.Http.Answer

/-! The status of an answer.  It tells paths that are not under `/session` from those that are, methods
other than `GET` from it, and paths that name a session from those that do not.  There is one exception:
behind `/session/` and a single segment, `HEAD` is no other method than `GET`. -/

namespace PlayerSession.Http

variable {s : Service} {d : Disk} {r : Request} {path method : String} {segment : List Char}
  {response : Response}

/-- The path has a single segment behind `/session/`, and the segment stands for text. -/
def NamesSession (path : String) : Prop :=
  ∃ segment session, IsSegment path segment ∧ segmentText? segment = some session

/-- The status tells what is wrong with a path and a method, the path first. -/
structure Classified (path method : String) (status : Nat) : Prop where
  notFound : status = 404 ↔ ¬ UnderSession path
  notAllowed : UnderSession path → (status = 405 ↔ method ≠ "GET")
  ok : UnderSession path → method = "GET" → NamesSession path → status = 200
  badRequest : UnderSession path → method = "GET" → ¬ NamesSession path → status = 400

theorem IsSegment.namesSession_iff (h : IsSegment path segment) :
    NamesSession path ↔ ∃ session, segmentText? segment = some session := by
  constructor
  · rintro ⟨segment', session, hSegment, hText⟩
    exact ⟨session, h.eq hSegment ▸ hText⟩
  · rintro ⟨session, hText⟩
    exact ⟨segment, session, h, hText⟩

theorem classified_routeStatus (h : ∀ segment, ¬ IsSegment path segment) (method : String) :
    Classified path method (routeStatus path method) := by
  have hNames : ¬ NamesSession path := fun ⟨segment, _, hSegment, _⟩ => h segment hSegment
  by_cases hUnder : UnderSession path
  · rw [routeStatus_of_under hUnder]
    by_cases hGet : method = "GET"
    · rw [if_pos hGet]
      exact ⟨by simp [hUnder], by simp [hGet], fun _ _ hIs => absurd hIs hNames, fun _ _ _ => rfl⟩
    · rw [if_neg hGet]
      exact ⟨by simp [hUnder], by simp [hGet], fun _ hIs => absurd hIs hGet,
        fun _ hIs => absurd hIs hGet⟩
  · rw [routeStatus_of_not_under hUnder]
    exact ⟨by simp [hUnder], fun hIs => absurd hIs hUnder, fun hIs => absurd hIs hUnder,
      fun hIs => absurd hIs hUnder⟩

theorem classified_refused (h : IsSegment path segment) (hMethod : method ≠ "GET") :
    Classified path method 405 :=
  ⟨by simp [h.underSession], by simp [hMethod], fun _ hGet => absurd hGet hMethod,
    fun _ hGet => absurd hGet hMethod⟩

/-- Where a single segment is asked for with a method that reads, the status is that of `GET`. -/
theorem classified_read (h : IsSegment path segment) :
    Classified path "GET" (if (segmentText? segment).isSome then 200 else 400) := by
  have hNames := h.namesSession_iff
  rw [← Option.isSome_iff_exists] at hNames
  split
  · rename_i hText
    exact ⟨by simp [h.underSession], by simp, fun _ _ _ => rfl,
      fun _ _ hNot => absurd (hNames.mpr hText) hNot⟩
  · rename_i hText
    exact ⟨by simp [h.underSession], by simp, fun _ _ hIs => absurd (hNames.mp hIs) hText,
      fun _ _ _ => rfl⟩

theorem Answered.classified_of_reads (h : Answered s d r response) (hReads : r.Reads)
    (hSegment : IsSegment (pathOf r.target) segment) :
    Classified (pathOf r.target) "GET" response.status := by
  have hRead := classified_read hSegment
  cases hText : segmentText? segment with
  | none =>
    rw [hText] at hRead
    rw [h.eq_undecodable hSegment hReads hText]
    exact hRead
  | some session =>
    rw [hText] at hRead
    rw [h.eq_reported hSegment hReads hText]
    exact hRead

theorem Answered.classified (h : Answered s d r response)
    (hHead : ¬ (r.method = "HEAD" ∧ ∃ segment, IsSegment (pathOf r.target) segment)) :
    Classified (pathOf r.target) r.method response.status := by
  by_cases hSegment : ∃ segment, IsSegment (pathOf r.target) segment
  · obtain ⟨segment, hSegment⟩ := hSegment
    by_cases hReads : r.Reads
    · have hGet : r.method = "GET" := hReads.resolve_right fun hIs => hHead ⟨hIs, segment, hSegment⟩
      rw [hGet]
      exact h.classified_of_reads hReads hSegment
    · cases h with
      | elsewhere hNone => exact absurd hSegment (hNone segment)
      | refused => exact classified_refused hSegment (mt .inl hReads)
      | undecodable _ _ hIs => exact absurd hIs hReads
      | reported _ _ _ hIs => exact absurd hIs hReads
  · cases h with
    | elsewhere hNone =>
      rw [status_statusResponse]
      exact classified_routeStatus hNone r.method
    | refused segment hIs => exact absurd ⟨segment, hIs⟩ hSegment
    | undecodable segment hIs => exact absurd ⟨segment, hIs⟩ hSegment
    | reported segment _ hIs => exact absurd ⟨segment, hIs⟩ hSegment

/-- The status tells what is wrong with every request but those that ask with `HEAD` for a single
segment, and those have the status of `GET`. -/
theorem handle_classified_iff (s : Service) (d : Disk) (r : Request) :
    (Classified (pathOf r.target) r.method (s.handle d r).1.status ↔
      ¬ (r.method = "HEAD" ∧ ∃ segment, IsSegment (pathOf r.target) segment)) ∧
    (r.method = "HEAD" → (∃ segment, IsSegment (pathOf r.target) segment) →
      Classified (pathOf r.target) "GET" (s.handle d r).1.status) := by
  rw [s.handle_fst, Response.status_sent]
  have hAnswered := s.answered d r
  have hGet : r.method = "HEAD" → (∃ segment, IsSegment (pathOf r.target) segment) →
      Classified (pathOf r.target) "GET" (s.answer d r).1.status := by
    rintro hHead ⟨segment, hSegment⟩
    exact hAnswered.classified_of_reads (.inr hHead) hSegment
  refine ⟨⟨?_, hAnswered.classified⟩, hGet⟩
  rintro hClassified ⟨hHead, segment, hSegment⟩
  have hRefused : (s.answer d r).1.status = 405 :=
    (hClassified.notAllowed hSegment.underSession).mpr (by rw [hHead]; decide)
  exact ((hGet hHead ⟨segment, hSegment⟩).notAllowed hSegment.underSession).mp hRefused rfl

/-- The headers of a report are answered as if `HEAD` were `GET`. -/
theorem head_not_classified :
    ¬ Classified (pathOf "/session/x") "HEAD"
      ((⟨.reference, {}⟩ : Service).handle {} ⟨"HEAD", "/session/x", []⟩).1.status := by
  have hPath : pathOf "/session/x" = "/session/" ++ "x" := by decide
  have hStatus : ((⟨.reference, {}⟩ : Service).handle {} ⟨"HEAD", "/session/x", []⟩).1.status =
      200 := by decide +kernel
  intro h
  have hRefused := (h.notAllowed (.inr ⟨"x", hPath⟩)).mpr (by decide)
  rw [hStatus] at hRefused
  cases hRefused

end PlayerSession.Http
