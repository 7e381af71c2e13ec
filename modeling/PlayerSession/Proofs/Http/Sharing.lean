import PlayerSession.Grammar.Reference
import PlayerSession.Proofs.Http.Answer

/-! What every answer promises: pages from anywhere may read it, it is JSON, and where there is no report
it says its status in words.  The answers that the service makes keep the promise.  A segment that stands
for no text is answered before the service sees it, and that answer does not. -/

namespace PlayerSession.Http

open Json

variable {s : Service} {d : Disk} {r : Request} {response : Response}

/-- The response has the header once, with this value. -/
def Response.Carries (response : Response) (name value : String) : Prop :=
  response.headers.filter (·.1 = name) = [(name, value)]

/-- The response stands for this body.  It is sent with it, or with its length alone where only the
headers are asked for. -/
structure Response.StandsFor (response : Response) (method body : String) : Prop where
  length : response.Carries "content-length" (toString body.utf8ByteSize)
  body : response.body = if method = "HEAD" then "" else body

/-- The body of an answer that is no report. -/
def statusBody (status : Nat) : String :=
  "\x7b\"message\":\"" ++ reason status ++ "\"\x7d"

/-- The response is JSON that pages from anywhere may read, and if it is no report it says its status. -/
structure Promised (method : String) (response : Response) : Prop where
  origin : response.Carries "access-control-allow-origin" "*"
  allowedHeaders : response.Carries "access-control-allow-headers" "Content-Type, Origin"
  allowedMethods : response.Carries "access-control-allow-methods" "GET, OPTIONS"
  contentType : response.Carries "content-type" "application/json"
  status : response.status ≠ 200 → response.StandsFor method (statusBody response.status)

/-- A session is asked for by a segment that stands for no text. -/
def Undecodable (r : Request) : Prop :=
  r.Reads ∧ ∃ segment, IsSegment (pathOf r.target) segment ∧ segmentText? segment = none

/-- The headers of a JSON response, and perhaps the methods that would have been answered. -/
def MadeHere (response : Response) : Prop :=
  ∃ extra, response.headers = sharingHeaders ++ [("content-type", "application/json")] ++ extra ∧
    ∀ h ∈ extra, h.1 = "allow"

theorem filter_extra {extra : List (String × String)} (hExtra : ∀ h ∈ extra, h.1 = "allow")
    {name : String} (hAllow : name ≠ "allow") : extra.filter (·.1 = name) = [] := by
  refine List.filter_eq_nil_iff.mpr fun h hMem hName => ?_
  exact hAllow ((of_decide_eq_true hName).symm.trans (hExtra h hMem))

theorem carries_sent (h : MadeHere response) {name value : String} (hAllow : name ≠ "allow")
    (hLength : name ≠ "content-length") (headersOnly : Bool)
    (hHere : (sharingHeaders ++ [("content-type", "application/json")]).filter (·.1 = name) =
      [(name, value)]) :
    (response.sent headersOnly).Carries name value := by
  obtain ⟨extra, hHeaders, hExtra⟩ := h
  have hLast (length : String) : [("content-length", length)].filter (·.1 = name) = [] := by
    simp [Ne.symm hLength]
  unfold Response.Carries Response.sent
  dsimp only
  rw [hHeaders, List.filter_append, List.filter_append, hHere, filter_extra hExtra hAllow, hLast]
  rfl

theorem standsFor_sent (h : MadeHere response) (method : String) :
    (response.sent (method = "HEAD")).StandsFor method response.body := by
  obtain ⟨extra, hHeaders, hExtra⟩ := h
  have hNone : extra.filter (·.1 = "content-length") = [] := filter_extra hExtra (by decide)
  have hHere : (sharingHeaders ++ [("content-type", "application/json")]).filter
      (·.1 = "content-length") = [] := by decide
  constructor
  · unfold Response.Carries Response.sent
    dsimp only
    rw [hHeaders, List.filter_append, List.filter_append, hHere, hNone]
    rfl
  · simp [Response.sent]

theorem promised_sent (h : MadeHere response) (method : String)
    (hBody : response.status ≠ 200 → response.body = statusBody response.status) :
    Promised method (response.sent (method = "HEAD")) where
  origin := carries_sent h (by decide) (by decide) _ (by decide)
  allowedHeaders := carries_sent h (by decide) (by decide) _ (by decide)
  allowedMethods := carries_sent h (by decide) (by decide) _ (by decide)
  contentType := carries_sent h (by decide) (by decide) _ (by decide)
  status := fun hStatus => by
    rw [Response.status_sent, ← hBody hStatus]
    exact standsFor_sent h method

theorem body_statusResponse {status : Nat} (h : status = 400 ∨ status = 404 ∨ status = 405) :
    (statusResponse status).body = statusBody status := by
  rcases h with rfl | rfl | rfl <;> decide

theorem routeStatus_cases (path method : String) :
    routeStatus path method = 400 ∨ routeStatus path method = 404 ∨
      routeStatus path method = 405 := by
  unfold routeStatus
  split
  · exact .inr (.inl rfl)
  · split
    · exact .inr (.inr rfl)
    · exact .inl rfl

theorem not_promised_undecodable (method : String) (headersOnly : Bool) :
    ¬ Promised method (undecodableResponse.sent headersOnly) := by
  intro h
  have hNone : (undecodableResponse.sent headersOnly).headers.filter
      (·.1 = "access-control-allow-origin") = [] := by
    unfold Response.sent undecodableResponse
    rfl
  cases hNone.symm.trans h.origin

theorem Answered.promised (h : Answered s d r response) (hDecodable : ¬ Undecodable r) :
    Promised r.method (response.sent (r.method = "HEAD")) := by
  cases h with
  | elsewhere =>
    refine promised_sent ⟨[], rfl, by simp⟩ _ fun _ => ?_
    rw [status_statusResponse]
    exact body_statusResponse (routeStatus_cases _ _)
  | refused => exact promised_sent ⟨_, rfl, by simp⟩ _ fun _ => body_statusResponse (by decide)
  | undecodable segment hSegment hReads hText =>
    exact absurd ⟨hReads, segment, hSegment, hText⟩ hDecodable
  | reported => exact promised_sent ⟨[], rfl, by simp⟩ _ fun hStatus => absurd rfl hStatus

/-- Every request is answered as promised, but for those that ask for a session by a segment that stands
for no text. -/
theorem promised_iff_not_undecodable (s : Service) (d : Disk) (r : Request) :
    Promised r.method (s.handle d r).1 ↔ ¬ Undecodable r := by
  rw [s.handle_fst]
  constructor
  · intro hPromised hUndecodable
    obtain ⟨hReads, segment, hSegment, hText⟩ := hUndecodable
    rw [(s.answered d r).eq_undecodable hSegment hReads hText] at hPromised
    exact not_promised_undecodable _ _ hPromised
  · exact (s.answered d r).promised

/-- A byte that begins no character is the name of no session. -/
theorem stray_byte_not_promised :
    ¬ Promised "GET" ((⟨.reference, {}⟩ : Service).handle {} ⟨"GET", "/session/%FF", []⟩).1 := by
  have hUndecodable : ((⟨.reference, {}⟩ : Service).handle {} ⟨"GET", "/session/%FF", []⟩).1 =
      undecodableResponse.sent false := by decide +kernel
  rw [hUndecodable]
  exact not_promised_undecodable _ _

end PlayerSession.Http
