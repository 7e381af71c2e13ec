import Mathlib.Tactic.MkIffOfInductiveProp
import PlayerSession.Grammar.Reference
import PlayerSession.Proofs.Check.Shape

/-! The sequences that the reference grammar accepts.  Its transitions look at one event and the one
before it, and its counts pass over the opening event, but together they give a session a shape as a
whole: it opens with `init`, is loaded at once or not at all, is over with `error` or `stopped`, and
alternates between `playing` and `paused`.  `Session` states that shape, and `check_reference_iff` says
that the sequences of this shape are the ones that are accepted. -/

namespace PlayerSession

/-! ### The shape of a session -/

namespace Session

/-- The kinds of the events of a session. -/
def kinds : List Kind :=
  ["init", "heartbeat", "metadata", "warning", "loading", "loaded", "playing", "paused", "buffering",
    "buffered", "seeking", "seeked", "bitrate_changed", "stopped", "error"]

/-- The kinds that may come between any two others. -/
def asides : List Kind := ["warning", "heartbeat"]

/-- The kinds that come at most once after the opening event. -/
def onceOnly : List Kind := ["loading", "loaded", "error", "stopped"]

end Session

/-- The order of the events of a session that are neither `metadata`, `warning` nor `heartbeat`. -/
structure Course (kinds : List Kind) : Prop where
  once : ∀ k ∈ Session.onceOnly, kinds.count k ≤ 1
  loading_second : ∀ before after, kinds = before ++ "loading" :: after → before.length = 1
  loaded_third : ∀ before after, kinds = before ++ "loaded" :: after →
    before.length = 2 ∧ before.getLast? = some "loading"
  error_over : ∀ before after, kinds = before ++ "error" :: after → after = [] ∨ after = ["stopped"]
  stopped_last : ∀ before after, kinds = before ++ "stopped" :: after → after = []
  alternates : Pairing.Alternates ⟨"playing", "paused"⟩ kinds
  buffered_after : ∀ before after, kinds = before ++ "buffered" :: after →
    ∃ k ∈ ["buffering", "buffered", "paused"], before.getLast? = some k
  seeked_after : ∀ before after, kinds = before ++ "seeked" :: after →
    ∃ k ∈ ["seeking", "seeked", "paused"], before.getLast? = some k
  buffering_after : ∀ before after, kinds = before ++ "buffering" :: after →
    before.getLast? ≠ some "seeking"

/-- The shape of a session, with its `metadata` left out.  A session that fails cannot have a `warning`
or a `heartbeat` for its last event, unless it was stopped. -/
structure Session (events : List Kind) : Prop where
  opens : events.head? = some "init"
  known : ∀ k ∈ events, k ∈ Session.kinds
  init_once : events.count "init" = 1
  course : Course (events.filter (· ∉ Session.asides))
  ending : ∀ k ∈ Session.asides, events.getLast? = some k →
    (events.filter (· ∉ Session.asides)).getLast? ≠ some "error"

/-! ### Pairs of events -/

/-- What the reference transitions say of an event of kind `next` right after one of kind `current`. -/
@[mk_iff] structure Succeeds (current next : Kind) : Prop where
  init : next ≠ "init"
  loading : next = "loading" → current = "init" ∨ current = "loading"
  loaded : next = "loaded" → current = "loading" ∨ current = "loaded"
  error : current = "error" → next = "error" ∨ next = "stopped"
  stopped : current = "stopped" → next = "stopped"
  buffered : next = "buffered" → current ∈ ["buffering", "buffered", "paused"]
  seeked : next = "seeked" → current ∈ ["seeking", "seeked", "paused"]
  buffering : next = "buffering" → current ≠ "seeking"

instance (current next : Kind) : Decidable (Succeeds current next) :=
  decidable_of_iff' _ (succeeds_iff current next)

/-- The kinds whose order the rules of a session are about. -/
def Session.ordered : List Kind := Session.kinds.filter fun k => k ∉ "metadata" :: Session.asides

namespace Grammar

theorem reference_forbids_iff :
    ∀ current ∈ Session.ordered, ∀ next ∈ Session.ordered,
      (¬ reference.Forbids current next ↔ Succeeds current next) := by
  decide +kernel

theorem reference_forbids_aside_iff :
    ∀ current ∈ Session.kinds, ∀ next ∈ Session.asides,
      (reference.Forbids current next ↔ current = "error") := by
  decide +kernel

theorem reference_declares_iff {k : Kind} : reference.Declares k ↔ k ∈ Session.kinds := by
  have hKeys : (Spec.referenceTransitions.map fun e => (e.1, KindSet.ofList e.2)).map (·.1) =
      Session.kinds := rfl
  rw [← hKeys]
  exact KindMap.mem_ofList

theorem mem_reference_skipped {k : Kind} : k ∈ reference.skipped ↔ k ∈ Session.asides :=
  KindSet.mem_ofList

theorem mem_reference_wildcards {k : Kind} : k ∈ reference.wildcards ↔ k = "metadata" :=
  KindSet.mem_ofList.trans List.mem_singleton

theorem mem_reference_onceOnly {k : Kind} :
    k ∈ reference.onceOnly ↔ k ∈ "init" :: Session.onceOnly :=
  KindSet.mem_ofList

end Grammar

/-! ### From pairs to the whole -/

section Steps

variable {R : Kind → Kind → Prop} {kinds rest before after : List Kind} {first k next : Kind}

/-- An event is the first one, or it comes right after another and the two are a step. -/
theorem eq_nil_or_exists_step (hChain : (first :: rest).IsChain R)
    (h : first :: rest = before ++ next :: after) :
    before = [] ∧ next = first ∨ ∃ front current, before = front ++ [current] ∧ R current next := by
  rcases List.eq_nil_or_concat' before with rfl | ⟨front, current, rfl⟩
  · cases h
    exact .inl ⟨rfl, rfl⟩
  · rw [← List.append_cons] at h
    exact .inr ⟨front, current, rfl,
      List.isChain_iff_forall_rel_of_append_cons_cons.mp hChain h⟩

theorem exists_step (hChain : (first :: rest).IsChain R)
    (h : first :: rest = before ++ next :: after) (hNe : next ≠ first) :
    ∃ front current, before = front ++ [current] ∧ R current next :=
  (eq_nil_or_exists_step hChain h).resolve_left fun ⟨_, hEq⟩ => hNe hEq

theorem not_repeated (hOnce : kinds.count k ≤ 1) : kinds ≠ before ++ k :: k :: after := by
  rintro rfl
  simp only [List.count_append, List.count_cons_self] at hOnce
  omega

end Steps

namespace Course

variable {rest : List Kind}

/-- `init` does not come again, since it may not come after any kind. -/
theorem init_not_mem (hChain : ("init" :: rest).IsChain Succeeds) : "init" ∉ rest := by
  intro hIn
  obtain ⟨before, after, rfl⟩ := List.append_of_mem hIn
  have hSplit : "init" :: (before ++ "init" :: after) = ("init" :: before) ++ "init" :: after := rfl
  rcases eq_nil_or_exists_step hChain hSplit with ⟨hNil, -⟩ | ⟨front, current, -, hStep⟩
  · cases hNil
  · exact hStep.init rfl

/-- `loading` may come after `init` only, which is the first event. -/
theorem loading_second_of_isChain (hChain : ("init" :: rest).IsChain Succeeds)
    (hOnce : ("init" :: rest).count "loading" ≤ 1) {before after : List Kind}
    (h : "init" :: rest = before ++ "loading" :: after) : before.length = 1 := by
  obtain ⟨front, current, rfl, hStep⟩ := exists_step hChain h (by decide)
  rw [← List.append_cons] at h
  rcases hStep.loading rfl with rfl | rfl
  · cases front with
    | nil => rfl
    | cons first front =>
      cases h
      exact absurd (by simp) (init_not_mem hChain)
  · exact absurd h (not_repeated hOnce)

/-- Only `stopped` may come after `stopped`. -/
theorem stopped_last_of_isChain (hChain : ("init" :: rest).IsChain Succeeds)
    (hOnce : ("init" :: rest).count "stopped" ≤ 1) {before after : List Kind}
    (h : "init" :: rest = before ++ "stopped" :: after) : after = [] := by
  cases after with
  | nil => rfl
  | cons next after =>
    have hStep := List.isChain_iff_forall_rel_of_append_cons_cons.mp hChain h
    cases hStep.stopped rfl
    exact absurd h (not_repeated hOnce)

/-- A chain of steps from `init`, with no kind twice that may come once only, has the course of a
session. -/
theorem of_isChain (hChain : ("init" :: rest).IsChain Succeeds)
    (hOnce : ∀ k ∈ Session.onceOnly, ("init" :: rest).count k ≤ 1)
    (hAlternates : Pairing.Alternates ⟨"playing", "paused"⟩ ("init" :: rest)) :
    Course ("init" :: rest) where
  once := hOnce
  loading_second _ _ h := loading_second_of_isChain hChain (hOnce "loading" (by decide)) h
  loaded_third before after h := by
    obtain ⟨front, current, rfl, hStep⟩ := exists_step hChain h (by decide)
    rw [← List.append_cons] at h
    rcases hStep.loaded rfl with rfl | rfl
    · have hFront := loading_second_of_isChain hChain (hOnce "loading" (by decide)) h
      exact ⟨by simp [hFront], List.getLast?_concat⟩
    · exact absurd h (not_repeated (hOnce "loaded" (by decide)))
  error_over before after h := by
    cases after with
    | nil => exact .inl rfl
    | cons next after =>
      have hStep := List.isChain_iff_forall_rel_of_append_cons_cons.mp hChain h
      rcases hStep.error rfl with rfl | rfl
      · exact absurd h (not_repeated (hOnce "error" (by decide)))
      · rw [List.append_cons] at h
        have hLast := stopped_last_of_isChain hChain (hOnce "stopped" (by decide)) h
        exact .inr (by rw [hLast])
  stopped_last _ _ h := stopped_last_of_isChain hChain (hOnce "stopped" (by decide)) h
  alternates := hAlternates
  buffered_after before after h := by
    obtain ⟨front, current, rfl, hStep⟩ := exists_step hChain h (by decide)
    exact ⟨current, hStep.buffered rfl, List.getLast?_concat⟩
  seeked_after before after h := by
    obtain ⟨front, current, rfl, hStep⟩ := exists_step hChain h (by decide)
    exact ⟨current, hStep.seeked rfl, List.getLast?_concat⟩
  buffering_after before after h := by
    obtain ⟨front, current, rfl, hStep⟩ := exists_step hChain h (by decide)
    rw [List.getLast?_concat]
    exact fun hEq => hStep.buffering rfl (Option.some_inj.mp hEq)

/-- In the course of a session every two events in a row are a step. -/
theorem step (h : Course ("init" :: rest)) (hInit : "init" ∉ rest) {before after : List Kind}
    {current next : Kind} (hSplit : "init" :: rest = before ++ current :: next :: after) :
    Succeeds current next where
  init := by
    rintro rfl
    cases before with
    | nil =>
      cases hSplit
      exact hInit (by simp)
    | cons first before =>
      cases hSplit
      exact hInit (by simp)
  loading := by
    rintro rfl
    have hLength := h.loading_second _ _ (hSplit.trans (List.append_cons ..))
    cases before with
    | nil =>
      cases hSplit
      exact .inl rfl
    | cons first before => simp at hLength
  loaded := by
    rintro rfl
    have hLast := (h.loaded_third _ _ (hSplit.trans (List.append_cons ..))).2
    rw [List.getLast?_concat] at hLast
    exact .inl (Option.some_inj.mp hLast)
  error := by
    rintro rfl
    rcases h.error_over _ _ hSplit with hNil | hStopped
    · cases hNil
    · cases hStopped
      exact .inr rfl
  stopped := by
    rintro rfl
    cases h.stopped_last _ _ hSplit
  buffered := by
    rintro rfl
    obtain ⟨k, hk, hLast⟩ := h.buffered_after _ _ (hSplit.trans (List.append_cons ..))
    cases List.getLast?_concat.symm.trans hLast
    exact hk
  seeked := by
    rintro rfl
    obtain ⟨k, hk, hLast⟩ := h.seeked_after _ _ (hSplit.trans (List.append_cons ..))
    cases List.getLast?_concat.symm.trans hLast
    exact hk
  buffering := by
    rintro rfl rfl
    exact h.buffering_after _ _ (hSplit.trans (List.append_cons ..)) List.getLast?_concat

theorem isChain (h : Course ("init" :: rest)) (hInit : "init" ∉ rest) :
    ("init" :: rest).IsChain Succeeds :=
  List.isChain_iff_forall_rel_of_append_cons_cons.mpr fun _ _ _ _ hSplit => h.step hInit hSplit

end Course

/-! ### After the opening event -/

namespace Session

variable {rest : List Kind}

theorem filter_init_cons (rest : List Kind) :
    ("init" :: rest).filter (· ∉ asides) = "init" :: rest.filter (· ∉ asides) :=
  List.filter_cons_of_pos (by decide)

theorem known_iff :
    (∀ k ∈ "init" :: rest, k ∈ kinds) ↔ ∀ k ∈ rest.filter (· ∉ asides), k ∈ kinds := by
  have hAsides : ∀ k ∈ asides, k ∈ kinds := by decide
  constructor
  · intro h k hk
    exact h k (List.mem_cons_of_mem _ (List.mem_filter.mp hk).1)
  · intro h k hk
    rcases List.mem_cons.mp hk with rfl | hk
    · decide
    · by_cases hAside : k ∈ asides
      · exact hAsides k hAside
      · exact h k (List.mem_filter.mpr ⟨hk, decide_eq_true hAside⟩)

theorem init_once_iff :
    ("init" :: rest).count "init" = 1 ↔ "init" ∉ rest.filter (· ∉ asides) := by
  have hMem : "init" ∈ rest.filter (· ∉ asides) ↔ "init" ∈ rest := by
    rw [List.mem_filter]
    exact and_iff_left (by decide)
  rw [hMem, ← List.count_eq_zero, List.count_cons_self]
  omega

theorem getLast?_init_cons {k : Kind} (hk : k ∈ asides) :
    ("init" :: rest).getLast? = some k ↔ rest.getLast? = some k := by
  have hNe : ∀ k ∈ asides, "init" ≠ k := by decide
  rw [List.getLast?_cons, Option.some_inj]
  cases rest.getLast? with
  | none => simpa using hNe k hk
  | some last => simp

theorem ending_iff :
    (∀ k ∈ asides, ("init" :: rest).getLast? = some k →
        (("init" :: rest).filter (· ∉ asides)).getLast? ≠ some "error") ↔
      ∀ k ∈ asides, rest.getLast? = some k →
        Grammar.reference.lastVisited (rest.filter (· ∉ asides)) ≠ "error" := by
  have hEnd : ("init" :: rest.filter (· ∉ asides)).getLast? =
      some (Grammar.reference.lastVisited (rest.filter (· ∉ asides))) := List.getLast?_cons
  rw [filter_init_cons, hEnd]
  constructor
  · intro h k hk hLast hEq
    exact h k hk ((getLast?_init_cons hk).mpr hLast) (congrArg some hEq)
  · intro h k hk hLast hEq
    exact h k hk ((getLast?_init_cons hk).mp hLast) (Option.some_inj.mp hEq)

end Session

/-! ### Accepted sequences -/

namespace Grammar

variable {rest : List Kind}

theorem count_init_cons {k : Kind} (hk : k ∈ Session.onceOnly) :
    ("init" :: rest).count k = rest.count k := by
  have hNe : ∀ k ∈ Session.onceOnly, "init" ≠ k := by decide
  exact List.count_cons_of_ne (hNe k hk)

theorem isChain_reference_iff (hOrdered : ∀ k ∈ rest, k ∈ Session.ordered) :
    (("init" :: rest).IsChain fun current next => ¬ reference.Forbids current next) ↔
      ("init" :: rest).IsChain Succeeds := by
  have hAll : ∀ k ∈ "init" :: rest, k ∈ Session.ordered := by
    intro k hk
    rcases List.mem_cons.mp hk with rfl | hk
    · decide +kernel
    · exact hOrdered k hk
  exact List.IsChain.iff_of_mem_imp fun current next hCurrent hNext =>
    reference_forbids_iff current (hAll current hCurrent) next (hAll next hNext)

/-- The rules of the reference grammar on a trail give it the course of a session. -/
theorem shaped_reference_iff (hPlain : ∀ k ∈ rest, k ∉ "metadata" :: Session.asides) :
    reference.Shaped rest ↔
      (∀ k ∈ rest, k ∈ Session.kinds) ∧ "init" ∉ rest ∧ Course ("init" :: rest) := by
  have hOrdered : (∀ k ∈ rest, k ∈ Session.kinds) → ∀ k ∈ rest, k ∈ Session.ordered :=
    fun hKnown k hk => List.mem_filter.mpr ⟨hKnown k hk, decide_eq_true (hPlain k hk)⟩
  have hInit : ¬ Pairing.Has ⟨"playing", "paused"⟩ "init" := by decide
  constructor
  · intro h
    have hKnown : ∀ k ∈ rest, k ∈ Session.kinds := fun k hk =>
      reference_declares_iff.mp (h.declared k hk)
    have hChain := (isChain_reference_iff (hOrdered hKnown)).mp h.allowed
    have hAlternates := (h.paired ⟨"playing", "paused"⟩ rfl).alternates
    have hOnce : ∀ k ∈ Session.onceOnly, ("init" :: rest).count k ≤ 1 := by
      intro k hk
      rw [count_init_cons hk]
      exact h.once k (mem_reference_onceOnly.mpr (List.mem_cons_of_mem _ hk))
    refine ⟨hKnown, Course.init_not_mem hChain, .of_isChain hChain hOnce ?_⟩
    exact (Pairing.alternates_cons_of_not hInit).mpr hAlternates
  · rintro ⟨hKnown, hNew, h⟩
    have hChain := (isChain_reference_iff (hOrdered hKnown)).mpr (h.isChain hNew)
    refine ⟨?_, fun k hk => reference_declares_iff.mpr (hKnown k hk), ?_, hChain⟩
    · intro k hk
      rcases List.mem_cons.mp (mem_reference_onceOnly.mp hk) with rfl | hk
      · rw [List.count_eq_zero_of_not_mem hNew]
        exact Nat.zero_le 1
      · rw [← count_init_cons hk]
        exact h.once k hk
    · intro p hp
      cases hp
      exact ⟨(Pairing.alternates_cons_of_not hInit).mp h.alternates,
        fun hEq => absurd hEq (by decide)⟩

theorem clean_aside_iff {k : Kind} (h : reference.Shaped rest) (hk : k ∈ Session.asides) :
    (∀ b, ¬ reference.Breaks rest k b) ↔ reference.lastVisited rest ≠ "error" := by
  have hLast : reference.lastVisited rest ∈ Session.kinds := by
    rcases List.mem_cons.mp (reference.lastVisited_mem rest) with hEq | hIn
    · rw [hEq]
      decide +kernel
    · exact reference_declares_iff.mp (h.declared _ hIn)
  have hOther : ∀ k ∈ Session.asides,
      k ∉ reference.onceOnly ∧ k ∈ Session.kinds ∧ k ≠ "playing" ∧ k ≠ "paused" := by
    decide +kernel
  obtain ⟨hOnce, hKnown, hPlay, hPause⟩ := hOther k hk
  rw [clean_iff, reference_forbids_aside_iff _ hLast k hk]
  constructor
  · rintro ⟨-, -, -, hNe⟩
    exact hNe
  · intro hNe
    refine ⟨fun h => hOnce h.1, reference_declares_iff.mpr hKnown, ?_, hNe⟩
    intro p hp
    cases hp
    exact ⟨fun hEq => absurd hEq hPause, fun hEq => absurd hEq hPlay⟩

theorem filter_reference_skipped (kinds : List Kind) :
    kinds.filter (· ∉ reference.skipped) = kinds.filter (· ∉ Session.asides) :=
  List.filter_congr fun _ _ => decide_eq_decide.mpr (not_congr mem_reference_skipped)

theorem filter_reference_wildcards (kinds : List Kind) :
    kinds.filter (· ∉ reference.wildcards) = kinds.filter (· ≠ "metadata") :=
  List.filter_congr fun _ _ => decide_eq_decide.mpr (not_congr mem_reference_wildcards)

/-- Of the kinds that may stand anywhere, a trail has at most the last event, which may not come after
`error`. -/
theorem obeys_trail_reference_iff :
    reference.Obeys (reference.trail rest) ↔
      reference.Shaped (rest.filter (· ∉ Session.asides)) ∧
        ∀ k ∈ Session.asides, rest.getLast? = some k →
          reference.lastVisited (rest.filter (· ∉ Session.asides)) ≠ "error" := by
  rw [obeys_iff_shaped]
  rcases List.eq_nil_or_concat' rest with rfl | ⟨rest, last, rfl⟩
  · simp
  rw [trail_concat, filter_reference_skipped, List.getLast?_concat, List.filter_append]
  by_cases hAside : last ∈ Session.asides
  · rw [List.filter_cons_of_neg (by simpa using hAside), List.filter_nil, List.append_nil,
      shaped_concat]
    refine and_congr_right fun h => (clean_aside_iff h hAside).trans ?_
    exact ⟨fun hNe _ _ _ => hNe, fun hAll => hAll last hAside rfl⟩
  · rw [List.filter_cons_of_pos (by simpa using hAside), List.filter_nil]
    refine (and_iff_left fun k hk hLast => ?_).symm
    cases hLast
    exact absurd hk hAside

/-- What comes after `init` obeys the rules of the reference grammar exactly when the whole is a
session. -/
theorem session_cons_iff (hMeta : "metadata" ∉ rest) :
    Session ("init" :: rest) ↔ reference.Obeys (reference.trail rest) := by
  have hPlain : ∀ k ∈ rest.filter (· ∉ Session.asides), k ∉ "metadata" :: Session.asides := by
    intro k hk
    obtain ⟨hIn, hNot⟩ := List.mem_filter.mp hk
    rw [List.mem_cons]
    rintro (rfl | hAside)
    · exact hMeta hIn
    · exact of_decide_eq_true hNot hAside
  rw [obeys_trail_reference_iff, shaped_reference_iff hPlain]
  have hBody := Session.filter_init_cons rest
  constructor
  · intro h
    refine ⟨⟨Session.known_iff.mp h.known, Session.init_once_iff.mp h.init_once, ?_⟩,
      Session.ending_iff.mp h.ending⟩
    rw [← hBody]
    exact h.course
  · rintro ⟨⟨hKnown, hNew, hCourse⟩, hEnding⟩
    refine ⟨rfl, Session.known_iff.mpr hKnown, Session.init_once_iff.mpr hNew, ?_,
      Session.ending_iff.mpr hEnding⟩
    rw [hBody]
    exact hCourse

/-- The reference grammar accepts a sequence exactly when nothing is left of it without its `metadata`,
or what is left has the shape of a session. -/
theorem check_reference_iff (kinds : List Kind) :
    reference.check kinds = .ok () ↔
      kinds.filter (· ≠ "metadata") = [] ∨ Session (kinds.filter (· ≠ "metadata")) := by
  rw [check_eq_ok_iff_trail, filter_reference_wildcards]
  have hMeta : "metadata" ∉ kinds.filter (· ≠ "metadata") := by simp
  cases hKinds : kinds.filter (· ≠ "metadata") with
  | nil => simp
  | cons first rest =>
    rw [hKinds, List.mem_cons, not_or] at hMeta
    constructor
    · intro h
      obtain ⟨rfl, hObeys⟩ := h first rest rfl
      exact .inr ((session_cons_iff hMeta.2).mpr hObeys)
    · rintro (hNil | hSession) first' rest' hEq
      · cases hNil
      · cases hEq
        obtain rfl : first = "init" := Option.some_inj.mp hSession.opens
        exact ⟨rfl, (session_cons_iff hMeta.2).mp hSession⟩

end Grammar

end PlayerSession
