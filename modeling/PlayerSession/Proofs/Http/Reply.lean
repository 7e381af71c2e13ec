import PlayerSession.Grammar.Reference
import PlayerSession.Proofs.Check.Route
import PlayerSession.Proofs.Event.Order
import PlayerSession.Proofs.Event.RoundTrip
import PlayerSession.Proofs.Http.Answer
import PlayerSession.Proofs.Store.Found
import PlayerSession.Proofs.Text.Line

/-! What `GET /session/` and the name of a session is answered with.  The host of the request and the
settings choose a table, the store has records of the session there or has none to give, and the reply
holds the records in the order of time, with the verdict on that very order.  There is one such reply to a
request, and its text is read as an object with these members and no others. -/

namespace PlayerSession

open Json

namespace Http

variable {s : Service} {d : Disk} {headers : List (String × Bytes)}

/-! ### The host of a request -/

/-- The name of a header does not depend on capital letters. -/
def IsHostName (name : String) : Prop := name.map Char.toLower = "host"

instance (name : String) : Decidable (IsHostName name) := inferInstanceAs (Decidable (_ = _))

/-- The host that the headers give: the text of the first header for it, if its bytes are plain. -/
inductive GivesHost (headers : List (String × Bytes)) : Option String → Prop
  | plain (before after : List (String × Bytes)) (name host : String) :
      headers = before ++ (name, .ofText host) :: after → (∀ h ∈ before, ¬ IsHostName h.1) →
      IsHostName name → (Bytes.ofText host).all isPlainByte → GivesHost headers (some host)
  | obscured (before after : List (String × Bytes)) (name : String) (value : Bytes) :
      headers = before ++ (name, value) :: after → (∀ h ∈ before, ¬ IsHostName h.1) →
      IsHostName name → ¬ value.all isPlainByte → GivesHost headers none
  | absent : (∀ h ∈ headers, ¬ IsHostName h.1) → GivesHost headers none

theorem toNat_lt_of_plain {b : UInt8} (h : isPlainByte b) : b.toNat < 0x80 := by
  simp only [isPlainByte, Bool.or_eq_true, Bool.and_eq_true, decide_eq_true_eq,
    UInt8.le_iff_toNat_le] at h
  rcases h with rfl | ⟨-, hHigh⟩
  · decide
  · exact Nat.lt_succ_of_le (Nat.le_succ_of_le hHigh)

theorem utf8EncodeChar_of_plain {b : UInt8} (h : isPlainByte b) :
    String.utf8EncodeChar (Char.ofNat b.toNat) = [b] := by
  have hLow := toNat_lt_of_plain h
  have hValue : (Char.ofNat b.toNat).val.toNat = b.toNat := by
    have hValid : b.toNat.isValidChar := .inl (by omega)
    rw [Char.ofNat, dif_pos hValid]
    rfl
  rw [String.utf8EncodeChar, hValue]
  simp only [if_pos (Nat.le_of_lt_succ hLow), UInt8.ofNat_toNat]

theorem ofText_of_plain {value : Bytes} (h : value.all isPlainByte) :
    Bytes.ofText (String.ofList (value.map fun b => Char.ofNat b.toNat)) = value := by
  rw [Bytes.ofText_eq_flatMap, String.toList_ofList, List.flatMap_map]
  induction value with
  | nil => rfl
  | cons b rest ih =>
    rw [List.all_cons, Bool.and_eq_true] at h
    rw [List.flatMap_cons, utf8EncodeChar_of_plain h.1, ih h.2]
    rfl

theorem find?_host {before after : List (String × Bytes)} {name : String} {value : Bytes}
    (hBefore : ∀ h ∈ before, ¬ IsHostName h.1) (hName : IsHostName name) :
    (before ++ (name, value) :: after).find? (fun h => h.1.map Char.toLower = "host") =
      some (name, value) := by
  have hFront : before.find? (fun h => h.1.map Char.toLower = "host") = none :=
    List.find?_eq_none.mpr fun h hMem hHost => hBefore h hMem (of_decide_eq_true hHost)
  have hHost : decide (name.map Char.toLower = "host") := decide_eq_true hName
  rw [List.find?_append, hFront, Option.none_or]
  exact List.find?_cons_of_pos hHost

theorem givesHost (r : Request) : GivesHost r.headers r.host? := by
  unfold Request.host?
  cases hFind : r.headers.find? fun h => h.1.map Char.toLower = "host" with
  | none =>
    refine .absent fun h hMem hHost => ?_
    exact List.find?_eq_none.mp hFind h hMem (decide_eq_true hHost)
  | some h =>
    obtain ⟨name, value⟩ := h
    obtain ⟨hName, before, after, hHeaders, hBefore⟩ := List.find?_eq_some_iff_append.mp hFind
    have hBefore : ∀ h ∈ before, ¬ IsHostName h.1 := by
      intro h hMem hHost
      have hNot := hBefore h hMem
      rw [show h.1.map Char.toLower = "host" from hHost] at hNot
      cases hNot
    show GivesHost r.headers (if value.all isPlainByte then _ else none)
    split
    · rename_i hPlain
      have hText := ofText_of_plain hPlain
      rw [← hText] at hHeaders
      refine .plain before after name _ hHeaders hBefore (of_decide_eq_true hName) ?_
      rw [hText]
      exact hPlain
    · rename_i hPlain
      exact .obscured before after name value hHeaders hBefore (of_decide_eq_true hName) hPlain

/-- The headers give the host that the request was sent to, and no other. -/
theorem givesHost_iff {r : Request} {host : Option String} :
    GivesHost r.headers host ↔ r.host? = host := by
  constructor
  · intro h
    unfold Request.host?
    cases h with
    | plain before after name host hHeaders hBefore hName hPlain =>
      have hText := Bytes.text?_ofText (String.ofList ((Bytes.ofText host).map fun b =>
        Char.ofNat b.toNat))
      rw [ofText_of_plain hPlain, Bytes.text?_ofText] at hText
      rw [hHeaders, find?_host hBefore hName]
      show (if (Bytes.ofText host).all isPlainByte then _ else none) = some host
      rw [if_pos hPlain, ← hText]
    | obscured before after name value hHeaders hBefore hName hPlain =>
      rw [hHeaders, find?_host hBefore hName]
      exact if_neg hPlain
    | absent hNone =>
      have hFind : r.headers.find? (fun h => h.1.map Char.toLower = "host") = none :=
        List.find?_eq_none.mpr fun h hMem hHost => hNone h hMem (of_decide_eq_true hHost)
      rw [hFind]
      rfl
  · rintro rfl
    exact givesHost r

/-! ### The reply -/

/-- What a reply says about the events behind them: that they obey the grammar, or that they do not, with
the reason and the place among them. -/
inductive Judged (g : Grammar) (events : List EventRecord) : List (String × Value) → Prop
  | obeyed : g.check (events.map (·.event)) = .ok () → Judged g events [("valid", .boolean true)]
  | broken (v : Violation) : g.check (events.map (·.event)) = .error v →
      v.index < events.length → Judged g events
        [("valid", .boolean false),
          ("message", .text ("Faulty event sequence: " ++ v.breach.message)),
          ("invalidEventIndex", .integer v.index)]

/-- The events of a reply and what it says about them, to a request for a session on a host. -/
structure Reports (s : Service) (d : Disk) (host : Option String) (session : String)
    (events : List EventRecord) (judgement : List (String × Value)) : Prop where
  found : ∃ records,
    s.lookup.Finds d (s.lookup.tableName.getD (tableForHost host)) session records ∧
      Arranged events records
  own : ∀ r ∈ events, r.sessionId = session
  judged : Judged s.grammar events judgement
  nothing : s.lookup.Fails d (s.lookup.tableName.getD (tableForHost host)) session →
    events = [] ∧ judgement = [("valid", .boolean true)]

/-- The text of a reply. -/
def replyText (session : String) (events : List EventRecord) (judgement : List (String × Value)) :
    String :=
  Value.render (.object (("sessionId", .text session) ::
    ("Events", .array (events.map EventRecord.toValue)) :: judgement))

theorem exists_judged (g : Grammar) (session : String) (records : List EventRecord) :
    ∃ judgement, Judged g (chronological records) judgement ∧
      (SessionReport.build g session records).toValue.render =
        replyText session (chronological records) judgement := by
  cases hCheck : g.check ((chronological records).map (·.event)) with
  | ok =>
    refine ⟨_, .obeyed hCheck, ?_⟩
    simp only [SessionReport.toValue, SessionReport.build, Grammar.verdict, hCheck]
    rfl
  | error v =>
    have hIndex := Grammar.index_lt_of_check hCheck
    rw [List.length_map] at hIndex
    refine ⟨_, .broken v hCheck hIndex, ?_⟩
    simp only [SessionReport.toValue, SessionReport.build, Grammar.verdict, hCheck]
    rfl

theorem Judged.of_nil {g : Grammar} {judgement : List (String × Value)} (h : Judged g [] judgement) :
    judgement = [("valid", .boolean true)] := by
  cases h with
  | obeyed => rfl
  | broken v hCheck => cases hCheck

section Unique

variable {g : Grammar} {host : Option String} {session : String} {events events' : List EventRecord}
  {judgement judgement' : List (String × Value)}

theorem Judged.unique (h : Judged g events judgement) (h' : Judged g events judgement') :
    judgement = judgement' := by
  cases h with
  | obeyed hCheck =>
    cases h' with
    | obeyed => rfl
    | broken v hBroken => cases hCheck.symm.trans hBroken
  | broken v hCheck =>
    cases h' with
    | obeyed hObeyed => cases hCheck.symm.trans hObeyed
    | broken v' hCheck' =>
      cases hCheck.symm.trans hCheck'
      rfl

/-- There is one reply to a request for a session on a host. -/
theorem Reports.unique (h : Reports s d host session events judgement)
    (h' : Reports s d host session events' judgement') : events = events' ∧ judgement = judgement' := by
  obtain ⟨records, hFinds, hArranged⟩ := h.found
  obtain ⟨records', hFinds', hArranged'⟩ := h'.found
  obtain rfl := hFinds.unique hFinds'
  obtain rfl := hArranged.unique hArranged'
  exact ⟨rfl, h.judged.unique h'.judged⟩

end Unique

theorem exists_reports (s : Service) (d : Disk) (host : Option String) (session : String) :
    ∃ events judgement, Reports s d host session events judgement ∧
      (s.report d host session).1.toValue.render = replyText session events judgement := by
  let records := (s.lookup.events d session (tableForHost host)).1.getD []
  have hFinds : s.lookup.Finds d (s.lookup.tableName.getD (tableForHost host)) session records :=
    s.lookup.finds_events d session (tableForHost host)
  have hArranged := arranged_chronological records
  obtain ⟨judgement, hJudged, hText⟩ := exists_judged s.grammar session records
  refine ⟨chronological records, judgement, ⟨⟨records, hFinds, hArranged⟩, ?_, hJudged, ?_⟩, hText⟩
  · intro r hr
    exact hFinds.sessionId r (hArranged.perm.mem_iff.mp hr)
  · intro hFails
    rw [hFinds.eq_nil hFails] at hArranged hJudged ⊢
    rw [hArranged.eq_nil] at hJudged ⊢
    exact ⟨rfl, hJudged.of_nil⟩

/-! ### The text of a reply -/

section Text

variable {g : Grammar} {host : Option String} {session : String} {events : List EventRecord}
  {judgement : List (String × Value)}

theorem Judged.legible (h : Judged g events judgement) (hSize : events.length ≤ UInt64.size) :
    MembersLegible judgement := by
  cases h with
  | obeyed => exact ⟨trivial, trivial⟩
  | broken v _ hIndex =>
    have hWord : FitsWord v.index := by
      rw [UInt64.size] at hSize
      constructor <;> omega
    exact ⟨trivial, trivial, hWord, trivial⟩

theorem legible_events (events : List EventRecord) :
    ItemsLegible (events.map EventRecord.toValue) :=
  itemsLegible_iff.mpr (List.forall_mem_map.mpr fun r _ => r.legible_toValue)

/-- Events that were written are read as the events, if their doubles read back. -/
theorem fold_events (h : ∀ r ∈ events, r.ReadsBack) :
    (itemsDoc (events.map EventRecord.toValue)).fold
      (fun found d => do return found ++ [← EventRecord.ofDoc d]) [] = .ok events := by
  have hRead : ∀ found, ∀ r ∈ events,
      (do return found ++ [← EventRecord.ofDoc r.toValue.doc]) = Except.ok (found ++ [r]) := by
    intro found r hMem
    rw [EventRecord.ofDoc_toValue_eq_ok_iff.mpr (h r hMem)]
    rfl
  rw [fold_itemsDoc hRead, List.foldl_append_eq_append, ← List.flatMap_def, List.flatMap_singleton',
    List.nil_append]

/-- The text of a reply is read as an object with the session, the events and what is said about them, and
with no other members.  The events in it are the events of the reply, if their doubles read back. -/
theorem Reports.ofText_replyText (h : Reports s d host session events judgement)
    (hSize : events.length ≤ UInt64.size) :
    ∃ items, Tree.ofText (replyText session events judgement) =
        ⟨.object (.member (some "sessionId") (.text (some session))
          (.member (some "Events") (.array items) (membersDoc judgement))), true⟩ ∧
      ((∀ r ∈ events, r.ReadsBack) →
        items.fold (fun found d => do return found ++ [← EventRecord.ofDoc d]) [] = .ok events) :=
  ⟨itemsDoc (events.map EventRecord.toValue),
    Value.ofText_render ⟨trivial, legible_events events, h.judged.legible hSize⟩, fold_events⟩

end Text

/-! ### Getting a session -/

/-- Whatever the store, the settings, the grammar and the headers, who gets a session is told the events
that are found for it in the order of time, and whether they obey in that order. -/
theorem handle_get (s : Service) (d : Disk) (r : Request) (segment : List Char) (session : String)
    (hMethod : r.method = "GET") (hSegment : IsSegment (pathOf r.target) segment)
    (hText : segmentText? segment = some session) :
    ∃ host events judgement, GivesHost r.headers host ∧
      Reports s d host session events judgement ∧
      (s.handle d r).1.status = 200 ∧
      (s.handle d r).1.body = replyText session events judgement := by
  obtain ⟨events, judgement, hReports, hBody⟩ := exists_reports s d r.host? session
  refine ⟨r.host?, events, judgement, givesHost r, hReports, ?_⟩
  rw [s.handle_fst, (s.answered d r).eq_reported hSegment (.inl hMethod) hText]
  refine ⟨rfl, ?_⟩
  rw [← hBody, hMethod]
  rfl

/-- A service whose store has two events of the session `a b`, the later one first. -/
def sampleService : Service where
  grammar := .reference
  lookup := { source := some (.memory { tables := [("epas_h",
    [{ event := "loading", sessionId := "a b", timestamp := 2 },
      { event := "init", sessionId := "a b", timestamp := 1 }])] }) }

/-- A request with a space in the name of the session, a query, and a host with a port. -/
def sampleRequest : Request where
  target := "/session/a%20b?x=1"
  headers := [("Host", .ofText "h:80")]

/-- The events of the session in the order of time. -/
def sampleEvents : List EventRecord :=
  [{ event := "init", sessionId := "a b", timestamp := 1 },
    { event := "loading", sessionId := "a b", timestamp := 2 }]

theorem arranged_sample : Arranged sampleEvents sampleEvents.reverse where
  perm := (List.reverse_perm sampleEvents).symm
  ascending := by decide +kernel
  stable t := by
    by_cases hFirst : 1 = t
    · subst hFirst
      decide +kernel
    by_cases hSecond : 2 = t
    · subst hSecond
      decide +kernel
    simp [sampleEvents, hFirst, hSecond]

theorem finds_sample : sampleService.lookup.Finds {} "epas_h" "a b" sampleEvents.reverse :=
  .returned _ _ rfl (by decide +kernel)

theorem reports_sample :
    Reports sampleService {} (some "h:80") "a b" sampleEvents [("valid", .boolean true)] where
  found := ⟨_, finds_sample, arranged_sample⟩
  own := by decide +kernel
  judged := .obeyed (by decide +kernel)
  nothing hFails := absurd (finds_sample.eq_nil hFails) (by decide)

theorem handle_get_sample :
    sampleRequest.method = "GET" ∧ IsSegment (pathOf sampleRequest.target) "a%20b".toList ∧
      segmentText? "a%20b".toList = some "a b" ∧ GivesHost sampleRequest.headers (some "h:80") ∧
      Reports sampleService {} (some "h:80") "a b" sampleEvents [("valid", .boolean true)] ∧
      (sampleService.handle {} sampleRequest).1.status = 200 ∧
      (sampleService.handle {} sampleRequest).1.body =
        replyText "a b" sampleEvents [("valid", .boolean true)] ∧
      replyText "a b" sampleEvents [("valid", .boolean true)] =
        "\x7b\"sessionId\":\"a b\",\"Events\":[" ++
          "\x7b\"event\":\"init\",\"sessionId\":\"a b\",\"timestamp\":1," ++
            "\"playhead\":0.0,\"duration\":0.0\x7d," ++
          "\x7b\"event\":\"loading\",\"sessionId\":\"a b\",\"timestamp\":2," ++
            "\"playhead\":0.0,\"duration\":0.0\x7d],\"valid\":true\x7d" := by
  have hSegment : IsSegment (pathOf sampleRequest.target) "a%20b".toList :=
    ⟨by decide, by decide, by decide⟩
  have hText : segmentText? "a%20b".toList = some "a b" := by decide +kernel
  obtain ⟨host, events, judgement, hHost, hReports, hStatus, hBody⟩ :=
    handle_get sampleService {} sampleRequest _ _ rfl hSegment hText
  have hGiven : sampleRequest.host? = some "h:80" := by decide +kernel
  obtain rfl : some "h:80" = host := hGiven.symm.trans (givesHost_iff.mp hHost)
  obtain ⟨rfl, rfl⟩ := hReports.unique reports_sample
  exact ⟨rfl, hSegment, hText, hHost, hReports, hStatus, hBody, by decide +kernel⟩

end Http

end PlayerSession
