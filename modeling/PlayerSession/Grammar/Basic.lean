import PlayerSession.Kind

/-! Grammars of player sessions: which kind opens a session, which kinds may not follow a kind, which
may occur once, which are skipped when looking for the next event, which may stand anywhere, and the
pair of kinds that must alternate.  `Spec` is a description as it was given, `Spec.defect?` the first
thing wrong with it, and `Grammar` a description with nothing wrong. -/

namespace PlayerSession

/-- The two kinds of the alternation rule: `pause` answers `play`. -/
structure Pairing where
  play : Kind
  pause : Kind
  deriving DecidableEq

/-- A description of a grammar.  `transitions` maps a kind to the kinds forbidden right after it. -/
structure Spec where
  initial : Kind
  transitions : KindMap KindSet
  onceOnly : KindSet := .empty
  skipped : KindSet := .empty
  wildcards : KindSet := .empty
  pairing : Option Pairing := none
  deriving DecidableEq

/-- A part of a description that refers to kinds without declaring them. -/
inductive RuleSet where
  | onceOnly
  | skipped
  | pairing
  deriving DecidableEq

def RuleSet.name : RuleSet → String
  | .onceOnly => "single_occurrence"
  | .skipped => "skip"
  | .pairing => "pairing"

/-- Why a description is no grammar. -/
inductive Defect where
  /-- The initial kind has no transition entry. -/
  | missingInitial (kind : Kind)
  /-- The initial kind may stand anywhere, so it could never be seen to open a session. -/
  | wildcardInitial (kind : Kind)
  /-- The entry of `owner` forbids a kind that has no entry itself. -/
  | undeclaredKind (owner kind : Kind)
  /-- A rule set refers to a kind that has no entry. -/
  | undeclaredReference (ruleSet : RuleSet) (kind : Kind)
  deriving DecidableEq

def Defect.message : Defect → String
  | .missingInitial kind => "initial kind '" ++ kind ++ "' has no transition entry"
  | .wildcardInitial kind => "initial kind '" ++ kind ++ "' cannot be a global wildcard"
  | .undeclaredKind owner kind =>
    "transition entry '" ++ owner ++ "' forbids undeclared kind '" ++ kind ++ "'"
  | .undeclaredReference ruleSet kind =>
    ruleSet.name ++ " references undeclared kind '" ++ kind ++ "'"

namespace Spec

/-- A kind is declared when it has a transition entry. -/
def Declares (s : Spec) (kind : Kind) : Prop := kind ∈ s.transitions

instance (s : Spec) (kind : Kind) : Decidable (s.Declares kind) :=
  inferInstanceAs (Decidable (kind ∈ s.transitions))

/-- The kinds that the rule sets refer to, in the order in which they are checked. -/
def references (s : Spec) : List (RuleSet × Kind) :=
  s.onceOnly.keys.map (.onceOnly, ·) ++ s.skipped.keys.map (.skipped, ·) ++
    s.pairing.toList.flatMap fun p => [(.pairing, p.play), (.pairing, p.pause)]

/-- The least entry that forbids an undeclared kind, with the least such kind. -/
def undeclaredKind? (s : Spec) : Option Defect :=
  s.transitions.entries.findSome? fun (owner, next) =>
    (next.keys.find? fun kind => ¬ s.Declares kind).map (.undeclaredKind owner)

/-- The first reference to an undeclared kind. -/
def undeclaredReference? (s : Spec) : Option Defect :=
  (s.references.find? fun r => ¬ s.Declares r.2).map fun r => .undeclaredReference r.1 r.2

/-- The first thing wrong with a description. -/
def defect? (s : Spec) : Option Defect :=
  if ¬ s.Declares s.initial then some (.missingInitial s.initial)
  else if s.initial ∈ s.wildcards then some (.wildcardInitial s.initial)
  else s.undeclaredKind?.or s.undeclaredReference?

end Spec

/-- A description with nothing wrong. -/
structure Grammar extends Spec where
  consistent : toSpec.defect? = none

namespace Grammar

theorem ext {g g' : Grammar} (h : g.toSpec = g'.toSpec) : g = g' := by
  cases g; cases g'; cases h; rfl

instance : DecidableEq Grammar := fun g g' =>
  if h : g.toSpec = g'.toSpec then isTrue (ext h) else isFalse fun he => h (he ▸ rfl)

/-- The grammar that a description describes, or the first thing wrong with it. -/
def ofSpec (s : Spec) : Except Defect Grammar :=
  match h : s.defect? with
  | none => .ok ⟨s, h⟩
  | some d => .error d

theorem toSpec_of_ofSpec {s : Spec} {g : Grammar} (h : ofSpec s = .ok g) : g.toSpec = s := by
  unfold ofSpec at h
  split at h
  · cases h; rfl
  · cases h

theorem ofSpec_toSpec (g : Grammar) : ofSpec g.toSpec = .ok g := by
  unfold ofSpec
  split
  · rfl
  · rename_i d hd
    rw [g.consistent] at hd
    cases hd

theorem declares_initial (g : Grammar) : g.Declares g.initial := by
  have h := g.consistent
  unfold Spec.defect? at h
  split at h
  · cases h
  · rename_i hNot
    exact Decidable.not_not.mp hNot

theorem initial_not_mem_wildcards (g : Grammar) : g.initial ∉ g.wildcards := by
  have h := g.consistent
  unfold Spec.defect? at h
  split at h
  · cases h
  · split at h
    · cases h
    · rename_i hNot
      exact hNot

theorem declares_of_mem_references {g : Grammar} {r : RuleSet × Kind} (h : r ∈ g.references) :
    g.Declares r.2 := by
  have hNone := g.consistent
  unfold Spec.defect? at hNone
  split at hNone
  · cases hNone
  · split at hNone
    · cases hNone
    · have hRef := (Option.or_eq_none_iff.mp hNone).2
      have hFind := Option.map_eq_none_iff.mp hRef
      simpa using List.find?_eq_none.mp hFind r h

/-- Whether `next` may not come right after `current`.  A kind without an entry forbids nothing. -/
def Forbids (g : Grammar) (current next : Kind) : Prop :=
  ∃ kinds, g.transitions.get? current = some kinds ∧ next ∈ kinds

instance (g : Grammar) (current next : Kind) : Decidable (g.Forbids current next) :=
  match h : g.transitions.get? current with
  | none => isFalse fun ⟨_, h1, _⟩ => by rw [h] at h1; cases h1
  | some kinds =>
    if hIn : next ∈ kinds then isTrue ⟨kinds, h, hIn⟩
    else isFalse fun ⟨_, h1, h2⟩ => by rw [h] at h1; cases h1; exact hIn h2

end Grammar

end PlayerSession
