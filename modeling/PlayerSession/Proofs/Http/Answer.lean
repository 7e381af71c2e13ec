import Mathlib.Data.List.TakeWhile
import PlayerSession.Http.Service

/-! What a request is answered with.  The path decides first: it is under `/session` or it is not, and
under `/session` it names a single segment or it does not.  A single segment is a session, if it stands
for text, and the method decides last.  `Answered` has a case for each of these ways, and every answer is
one of its cases. -/

namespace PlayerSession.Http

variable {path method : String} {segment : List Char}

/-- The path is `/session`, or goes on behind `/session/`. -/
def UnderSession (path : String) : Prop :=
  path = "/session" ∨ ∃ rest : String, path = "/session/" ++ rest

/-- The segment is all that the path has behind `/session/`. -/
structure IsSegment (path : String) (segment : List Char) : Prop where
  spelled : path.toList = sessionRoot ++ segment
  ne_nil : segment ≠ []
  single : '/' ∉ segment

theorem sessionSegment?_eq_some_iff :
    sessionSegment? path = some segment ↔ IsSegment path segment := by
  unfold sessionSegment?
  dsimp only
  constructor
  · intro h
    split at h
    · rename_i hRoot
      obtain ⟨rest, hRest⟩ := List.isPrefixOf_iff_prefix.mp hRoot
      rw [← hRest, List.drop_left] at h
      split at h
      · rename_i hSegment
        cases h
        exact ⟨hRest.symm, hSegment.1, hSegment.2⟩
      · cases h
    · cases h
  · rintro ⟨hSpelled, hNe, hSingle⟩
    have hRoot : sessionRoot.isPrefixOf path.toList :=
      List.isPrefixOf_iff_prefix.mpr ⟨segment, hSpelled.symm⟩
    rw [if_pos hRoot, hSpelled, List.drop_left, if_pos ⟨hNe, hSingle⟩]

theorem sessionSegment?_eq_none_iff :
    sessionSegment? path = none ↔ ∀ segment, ¬ IsSegment path segment := by
  simp only [Option.eq_none_iff_forall_not_mem, Option.mem_def, sessionSegment?_eq_some_iff]

theorem IsSegment.eq {segment' : List Char} (h : IsSegment path segment)
    (h' : IsSegment path segment') : segment = segment' :=
  List.append_cancel_left (h.spelled.symm.trans h'.spelled)

theorem toList_append_ofList (s : String) (cs : List Char) :
    (s ++ String.ofList cs).toList = s.toList ++ cs := by
  rw [String.toList_append, String.toList_ofList]

theorem isPrefixOf_sessionRoot_iff :
    sessionRoot.isPrefixOf path.toList ↔ ∃ rest : String, path = "/session/" ++ rest := by
  rw [List.isPrefixOf_iff_prefix]
  constructor
  · rintro ⟨rest, hRest⟩
    exact ⟨String.ofList rest,
      String.toList_inj.mp (hRest.symm.trans (toList_append_ofList _ rest).symm)⟩
  · rintro ⟨rest, rfl⟩
    exact ⟨rest.toList, String.toList_append.symm⟩

theorem IsSegment.underSession (h : IsSegment path segment) : UnderSession path :=
  .inr (isPrefixOf_sessionRoot_iff.mp (List.isPrefixOf_iff_prefix.mpr ⟨segment, h.spelled.symm⟩))

/-- Slashes at the end of `/session` change nothing: one of them already puts the path under
`/session/`. -/
theorem isSessionPath_iff : IsSessionPath path ↔ UnderSession path := by
  unfold IsSessionPath UnderSession
  rw [isPrefixOf_sessionRoot_iff]
  constructor
  · rintro (hTrimmed | hUnder)
    · let isSlash : Char → Bool := fun c => c = '/'
      have hSplit : path.toList =
          "/session".toList ++ (path.toList.reverse.takeWhile isSlash).reverse := by
        rw [← hTrimmed, ← List.reverse_append, List.takeWhile_append_dropWhile, List.reverse_reverse]
      cases hSlashes : (path.toList.reverse.takeWhile isSlash).reverse with
      | nil =>
        rw [hSlashes, List.append_nil] at hSplit
        exact .inl (String.toList_inj.mp hSplit)
      | cons c rest =>
        have hMem : c ∈ path.toList.reverse.takeWhile isSlash := by
          rw [← List.mem_reverse, hSlashes]
          exact List.mem_cons_self
        have hSlash : isSlash c := List.mem_takeWhile_imp hMem
        refine .inr ⟨String.ofList rest, String.toList_inj.mp ?_⟩
        rw [toList_append_ofList, hSplit, hSlashes, of_decide_eq_true hSlash]
        rfl
    · exact .inr hUnder
  · rintro (rfl | hUnder)
    · exact .inl (by decide)
    · exact .inr hUnder

theorem routeStatus_of_not_under (h : ¬ UnderSession path) (method : String) :
    routeStatus path method = 404 :=
  if_pos (mt isSessionPath_iff.mp h)

theorem routeStatus_of_under (h : UnderSession path) (method : String) :
    routeStatus path method = if method = "GET" then 400 else 405 := by
  rw [routeStatus, if_neg (not_not_intro (isSessionPath_iff.mpr h)), ite_not]

/-- The request asks for a session: by its method a report may be answered. -/
def Request.Reads (r : Request) : Prop := r.method = "GET" ∨ r.method = "HEAD"

instance (r : Request) : Decidable r.Reads := inferInstanceAs (Decidable (_ ∨ _))

/-- What a service may answer a request with. -/
inductive Answered (s : Service) (d : Disk) (r : Request) : Response → Prop
  /-- The path names no single segment. -/
  | elsewhere : (∀ segment, ¬ IsSegment (pathOf r.target) segment) →
      Answered s d r (statusResponse (routeStatus (pathOf r.target) r.method))
  /-- The method is none that reads. -/
  | refused (segment : List Char) : IsSegment (pathOf r.target) segment → ¬ r.Reads →
      Answered s d r { statusResponse 405 with
        headers := (statusResponse 405).headers ++ [("allow", "GET,HEAD")] }
  /-- The segment stands for no text. -/
  | undecodable (segment : List Char) : IsSegment (pathOf r.target) segment → r.Reads →
      segmentText? segment = none → Answered s d r undecodableResponse
  /-- The segment stands for the session. -/
  | reported (segment : List Char) (session : String) : IsSegment (pathOf r.target) segment →
      r.Reads → segmentText? segment = some session →
      Answered s d r (respond 200 (s.report d r.host? session).1.toValue)

theorem Service.answered (s : Service) (d : Disk) (r : Request) :
    Answered s d r (s.answer d r).1 := by
  unfold Service.answer
  dsimp only
  split
  · rename_i hNone
    exact .elsewhere (sessionSegment?_eq_none_iff.mp hNone)
  · rename_i segment hSome
    have hSegment := sessionSegment?_eq_some_iff.mp hSome
    split
    · rename_i hReads
      split
      · exact .undecodable segment hSegment hReads ‹_›
      · exact .reported segment _ hSegment hReads ‹_›
    · rename_i hReads
      have hStatus : routeStatus (pathOf r.target) r.method = 405 := by
        rw [routeStatus_of_under hSegment.underSession, if_neg (mt .inl hReads)]
      rw [hStatus]
      exact .refused segment hSegment hReads

section

variable {s : Service} {d : Disk} {r : Request} {response : Response} {session : String}

theorem Answered.eq_undecodable (h : Answered s d r response)
    (hSegment : IsSegment (pathOf r.target) segment) (hReads : r.Reads)
    (hText : segmentText? segment = none) : response = undecodableResponse := by
  cases h with
  | elsewhere hNone => exact absurd hSegment (hNone segment)
  | refused _ _ hNot => exact absurd hReads hNot
  | undecodable => rfl
  | reported _ _ hSame _ hSome =>
    rw [← hSegment.eq hSame, hText] at hSome
    cases hSome

theorem Answered.eq_reported (h : Answered s d r response)
    (hSegment : IsSegment (pathOf r.target) segment) (hReads : r.Reads)
    (hText : segmentText? segment = some session) :
    response = respond 200 (s.report d r.host? session).1.toValue := by
  cases h with
  | elsewhere hNone => exact absurd hSegment (hNone segment)
  | refused _ _ hNot => exact absurd hReads hNot
  | undecodable _ hSame _ hNone =>
    rw [← hSegment.eq hSame, hText] at hNone
    cases hNone
  | reported _ _ hSame _ hSome =>
    rw [← hSegment.eq hSame, hText] at hSome
    cases hSome
    rfl

end

theorem Service.handle_fst (s : Service) (d : Disk) (r : Request) :
    (s.handle d r).1 = (s.answer d r).1.sent (r.method = "HEAD") := by
  unfold Service.handle
  cases s.answer d r
  rfl

theorem status_statusResponse (status : Nat) : (statusResponse status).status = status := rfl

theorem Response.status_sent (response : Response) (headersOnly : Bool) :
    (response.sent headersOnly).status = response.status := rfl

end PlayerSession.Http
