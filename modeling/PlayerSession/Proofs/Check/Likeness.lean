import PlayerSession.Proofs.Check.Route
import PlayerSession.Proofs.Grammar.Renaming

/-! Two grammars that answer alike.  A check asks its grammar only so much: which kinds are once-only,
skipped, wildcards, declared and paired, and whether one kind may come right after another.  The last is
asked of the initial kind and of kinds that are not skipped, and never of a wildcard or about one, since
only the last event visited may be skipped and nothing comes after it.  Where a second grammar gives the
same answers, under other names for the kinds perhaps, every step of a check has the same outcome there,
and so has the check. -/

namespace PlayerSession

/-! ### Other names -/

def Located.rename (ρ : Kind → Kind) (e : Located) : Located := { e with kind := ρ e.kind }

@[simp] theorem Located.rename_kind (ρ : Kind → Kind) (e : Located) :
    (e.rename ρ).kind = ρ e.kind := rfl

/-- The breach under other names.  Wildcards are listed in the order of these names. -/
def Breach.rename (ρ : Kind → Kind) : Breach → Breach
  | .initialNotFirst initial wildcards =>
    .initialNotFirst (ρ initial) (KindSet.ofList (wildcards.map ρ)).keys
  | .unknownKind kind => .unknownKind (ρ kind)
  | .forbiddenTransition current next => .forbiddenTransition (ρ current) (ρ next)
  | .duplicateSingleOccurrence kind => .duplicateSingleOccurrence (ρ kind)
  | .unpairedPlayPause kind expected => .unpairedPlayPause (ρ kind) (ρ expected)

/-- The same violation under other names, at the same place. -/
def Violation.rename (ρ : Kind → Kind) (v : Violation) : Violation :=
  { v with breach := v.breach.rename ρ }

theorem Located.ofKinds_map (ρ : Kind → Kind) (kinds : List Kind) :
    ofKinds (kinds.map ρ) = (ofKinds kinds).map (·.rename ρ) := by
  rw [ofKinds, ofKinds, List.zipIdx_map, List.map_map, List.map_map]
  rfl

theorem KindSet.rename_eq_ofList (ρ : Kind → Kind) (set : KindSet) :
    set.rename ρ id = KindSet.ofList (set.keys.map ρ) := by
  rw [KindMap.rename, KindSet.ofList, KindMap.keys, List.map_map, List.map_map]
  rfl

namespace Scan

/-- The state of a scan that has seen the same kinds under other names. -/
def rename (ρ : Kind → Kind) (s : Scan) : Scan := { s with seen := s.seen.map ρ }

/-- The outcome of a step under other names. -/
def renamed (ρ : Kind → Kind) : Except Breach Scan → Except Breach Scan
  | .ok s => .ok (s.rename ρ)
  | .error b => .error (b.rename ρ)

end Scan

namespace Grammar

/-- What a check may ask about two kinds in a row. -/
structure Asks (g : Grammar) (current next : Kind) : Prop where
  heeded : current ∈ g.skipped → current = g.initial
  current_meaningful : current ∉ g.wildcards
  next_meaningful : next ∉ g.wildcards

/-- `g'` answers about the kinds under the names that `ρ` gives them what `g` answers about the kinds, as
far as a check asks. -/
structure Matches (ρ : Kind → Kind) (g g' : Grammar) : Prop where
  injective : ρ.Injective
  initial : g'.initial = ρ g.initial
  onceOnly : g'.onceOnly = g.onceOnly.rename ρ id
  skipped : g'.skipped = g.skipped.rename ρ id
  wildcards : g'.wildcards = g.wildcards.rename ρ id
  pairing : g'.pairing = g.pairing.map (.rename ρ)
  declares : ∀ kind, g'.Declares (ρ kind) ↔ g.Declares kind
  forbids : ∀ current next, g.Asks current next →
    (g'.Forbids (ρ current) (ρ next) ↔ g.Forbids current next)

theorem Matches.refl (g : Grammar) : Matches id g g where
  injective := Function.injective_id
  initial := rfl
  onceOnly := (KindMap.rename_id _).symm
  skipped := (KindMap.rename_id _).symm
  wildcards := (KindMap.rename_id _).symm
  pairing := by
    cases g.pairing with
    | none => rfl
    | some p => rfl
  declares _ := Iff.rfl
  forbids _ _ _ := Iff.rfl

variable {ρ : Kind → Kind} {g g' : Grammar} {s : Scan} {current next kind : Kind}
  {events : List Located}

/-! ### What is asked -/

/-- Of the events on a route only the last may be skipped, apart from the first. -/
theorem pairwise_asks_route (hFirst : ∀ e ∈ events.head?, e.kind = g.initial)
    (hMeaningful : ∀ e ∈ events, e.kind ∉ g.wildcards) :
    (g.route events).Pairwise fun d e => g.Asks d.kind e.kind := by
  cases events with
  | nil => exact .nil
  | cons first rest =>
    have hOpening : first.kind = g.initial := hFirst first rfl
    obtain ⟨hFirstMeaningful, hRest⟩ := List.forall_mem_cons.mp hMeaningful
    have hVisited : ∀ e ∈ g.visited rest, e.kind ∉ g.wildcards := fun e he =>
      hMeaningful e ((g.route_sublist (first :: rest)).subset (List.mem_cons_of_mem first he))
    refine List.pairwise_cons.mpr ⟨fun e he => ?_, ?_⟩
    · exact ⟨fun _ => hOpening, hFirstMeaningful, hVisited e he⟩
    · rcases List.eq_nil_or_concat' rest with rfl | ⟨rest, last, rfl⟩
      · exact .nil
      · rw [visited_concat] at hVisited ⊢
        have hAsks : ∀ d ∈ rest.filter g.heeds, ∀ e ∈ rest.filter g.heeds ++ [last],
            g.Asks d.kind e.kind := by
          intro d hd e he
          have hHeeds : d.kind ∉ g.skipped := heeds_iff.mp (List.mem_filter.mp hd).2
          exact ⟨fun hSkip => absurd hSkip hHeeds, hVisited d (List.mem_append_left _ hd),
            hVisited e he⟩
        refine List.pairwise_append.mpr ⟨?_, List.pairwise_singleton _ _, fun d hd e he => ?_⟩
        · exact List.pairwise_of_forall_mem_list fun d hd e he =>
            hAsks d hd e (List.mem_append_left _ he)
        · exact hAsks d hd e (List.mem_append_right _ he)

namespace Matches

/-! ### Steps -/

theorem mem_onceOnly (h : Matches ρ g g') : ρ kind ∈ g'.onceOnly ↔ kind ∈ g.onceOnly := by
  rw [h.onceOnly, KindMap.mem_rename_iff_mem h.injective]

theorem mem_skipped (h : Matches ρ g g') : ρ kind ∈ g'.skipped ↔ kind ∈ g.skipped := by
  rw [h.skipped, KindMap.mem_rename_iff_mem h.injective]

theorem mem_wildcards (h : Matches ρ g g') : ρ kind ∈ g'.wildcards ↔ kind ∈ g.wildcards := by
  rw [h.wildcards, KindMap.mem_rename_iff_mem h.injective]

theorem count_rename (h : Matches ρ g g') (s : Scan) (next : Kind) :
    (s.rename ρ).count g' (ρ next) = Scan.renamed ρ (s.count g next) := by
  have hSeen : ρ next ∈ (s.rename ρ).seen ↔ next ∈ s.seen := List.mem_map_of_injective h.injective
  unfold Scan.count
  simp only [h.mem_onceOnly, hSeen]
  split
  · rfl
  split
  · rfl
  · rfl

theorem alternate_rename (h : Matches ρ g g') (s : Scan) (next : Kind) :
    (s.rename ρ).alternate g' (ρ next) = Scan.renamed ρ (s.alternate g next) := by
  have hPlayback : (s.rename ρ).playback = s.playback := rfl
  unfold Scan.alternate
  rw [h.pairing]
  cases g.pairing with
  | none => rfl
  | some p =>
    have hPause : ρ next = (p.rename ρ).pause ↔ next = p.pause := h.injective.eq_iff
    have hPlay : ρ next = (p.rename ρ).play ↔ next = p.play := h.injective.eq_iff
    simp only [Option.map_some, hPause, hPlay, hPlayback]
    split
    · split
      · rfl
      · rfl
    split
    · split
      · rfl
      · rfl
    · rfl

/-- A step has the same outcome in both grammars. -/
theorem step_rename (h : Matches ρ g g') (s : Scan) (hAsks : g.Asks current next) :
    (s.rename ρ).step g' (ρ current) (ρ next) = Scan.renamed ρ (s.step g current next) := by
  simp only [Scan.step, h.count_rename, h.declares, h.forbids current next hAsks]
  cases s.count g next with
  | error b => rfl
  | ok s₁ =>
    simp only [Scan.renamed, bind, Except.bind, h.alternate_rename]
    split
    · rfl
    cases s₁.alternate g next with
    | error b => rfl
    | ok s₂ =>
      dsimp only
      split
      · rfl
      · rfl

/-! ### Runs -/

/-- A run over events that a check may ask about has the same outcome in both grammars. -/
theorem run_rename (h : Matches ρ g g') (s : Scan)
    (hAsks : (current :: events.map (·.kind)).Pairwise g.Asks) :
    (Scan.run g' (s.rename ρ) (ρ current) (events.map (·.rename ρ))).map (fun _ => ()) =
      ((Scan.run g s current events).map fun _ => ()).mapError (·.rename ρ) := by
  induction events generalizing s current with
  | nil => rfl
  | cons e events ih =>
    obtain ⟨hCurrent, hRest⟩ := List.pairwise_cons.mp hAsks
    have hStep := h.step_rename s (hCurrent e.kind List.mem_cons_self)
    rw [List.map_cons, Scan.run, Scan.run, Located.rename_kind, hStep]
    cases s.step g current e.kind with
    | ok s' => exact ih s' hRest
    | error b => rfl

/-! ### Checks -/

theorem visited_map (h : Matches ρ g g') (events : List Located) :
    g'.visited (events.map (·.rename ρ)) = (g.visited events).map (·.rename ρ) := by
  have hHeeds : ∀ e : Located, g'.heeds (e.rename ρ) = g.heeds e := fun e =>
    decide_eq_decide.mpr (not_congr h.mem_skipped)
  rcases List.eq_nil_or_concat' events with rfl | ⟨events, last, rfl⟩
  · rfl
  · rw [List.map_append, List.map_singleton, visited_concat, visited_concat, List.map_append,
      List.filter_map, List.map_singleton]
    simp only [Function.comp_def, hHeeds]

theorem meaningful_map (h : Matches ρ g g') (events : List Located) :
    g'.meaningful (events.map (·.rename ρ)) = (g.meaningful events).map (·.rename ρ) := by
  have hKept : ∀ e : Located, decide ((e.rename ρ).kind ∉ g'.wildcards) = decide (e.kind ∉ g.wildcards) :=
    fun e => decide_eq_decide.mpr (not_congr h.mem_wildcards)
  rw [meaningful, meaningful, List.filter_map]
  simp only [Function.comp_def, hKept]

/-- A check has the same outcome in both grammars, at the same place. -/
theorem check_map (h : Matches ρ g g') (kinds : List Kind) :
    g'.check (kinds.map ρ) = (g.check kinds).mapError (·.rename ρ) := by
  have hMeaningful : ∀ e ∈ g.meaningful (Located.ofKinds kinds), e.kind ∉ g.wildcards := fun e he =>
    of_decide_eq_true (List.mem_filter.mp he).2
  unfold check
  rw [Located.ofKinds_map, h.meaningful_map]
  cases hEvents : g.meaningful (Located.ofKinds kinds) with
  | nil => rfl
  | cons first rest =>
    rw [hEvents] at hMeaningful
    have hSame : (first.rename ρ).kind = g'.initial ↔ first.kind = g.initial := by
      rw [h.initial]
      exact h.injective.eq_iff
    simp only [List.map_cons, hSame]
    split
    · rename_i hFirst
      have hHead : ∀ e ∈ (first :: rest).head?, e.kind = g.initial := by
        rintro _ ⟨⟩
        exact hFirst
      have hAsks := pairwise_asks_route hHead hMeaningful
      rw [h.visited_map]
      exact h.run_rename {} (List.pairwise_map.mpr hAsks)
    · have hListed : g'.wildcards.keys = (KindSet.ofList (g.wildcards.keys.map ρ)).keys := by
        rw [h.wildcards, KindSet.rename_eq_ofList]
      rw [h.initial, hListed]
      rfl

end Matches

end Grammar

end PlayerSession
