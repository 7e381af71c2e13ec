import PlayerSession.Proofs.Json.Tables
import PlayerSession.Startup

/-! Grammars as they are written and as they are read.  The text of a description is read as that
description, whatever its kinds are called, and a description with nothing wrong is the grammar it came
from.  A grammar file therefore gives the one grammar that its text describes, or none. -/

namespace PlayerSession

open Json

/-! ### Descriptions -/

namespace Pairing

theorem ofDoc_toValue (p : Pairing) : ofDoc p.toValue.doc = .ok p := rfl

/-- A pairing or its absence, as it is written. -/
def valueOf : Option Pairing → Value
  | some p => p.toValue
  | none => .null

theorem legible_valueOf (pairing : Option Pairing) : (valueOf pairing).Legible := by
  cases pairing with
  | none => trivial
  | some p => exact ⟨trivial, trivial, trivial⟩

theorem asOption_valueOf (pairing : Option Pairing) :
    (valueOf pairing).doc.asOption ofDoc = .ok pairing := by
  cases pairing with
  | none => rfl
  | some p => rfl

end Pairing

namespace Spec

/-- The transitions as they are written. -/
def transitionsValue (s : Spec) : Value :=
  .object (s.transitions.entries.map fun e => (e.1, KindSet.toValue e.2))

theorem toValue_eq (s : Spec) :
    s.toValue = .object [("initial", .text s.initial), ("transitions", s.transitionsValue),
      ("single_occurrence", s.onceOnly.toValue), ("skip", s.skipped.toValue),
      ("global_wildcards", s.wildcards.toValue), ("pairing", Pairing.valueOf s.pairing)] := by
  unfold toValue
  cases s.pairing with
  | none => rfl
  | some p => rfl

theorem legible_toValue (s : Spec) : s.toValue.Legible := by
  rw [toValue_eq]
  exact ⟨trivial, legible_table legible_kindSet s.transitions, legible_kindSet s.onceOnly,
    legible_kindSet s.skipped, legible_kindSet s.wildcards, Pairing.legible_valueOf s.pairing, trivial⟩

theorem asKindMap_transitions (s : Spec) :
    s.transitionsValue.doc.asKindMap Doc.asKindSet = .ok s.transitions :=
  asKindMap_table asKindSet_kindSet s.transitions

/-- The members of a description that is written fill its fields one after the other. -/
theorem fold_members (s : Spec) :
    (membersDoc [("initial", .text s.initial), ("transitions", s.transitionsValue),
      ("single_occurrence", s.onceOnly.toValue), ("skip", s.skipped.toValue),
      ("global_wildcards", s.wildcards.toValue), ("pairing", Pairing.valueOf s.pairing)]).fold
        Fields.take {} =
      .ok ⟨some s.initial, some s.transitions, some s.onceOnly, some s.skipped, some s.wildcards,
        some s.pairing⟩ := by
  have hInitial : Fields.take {} "initial" (.text (some s.initial)) =
      .ok { initial := some s.initial } := rfl
  have hTransitions : Fields.take ⟨some s.initial, none, none, none, none, none⟩ "transitions"
      s.transitionsValue.doc =
      .ok ⟨some s.initial, some s.transitions, none, none, none, none⟩ := by
    rw [Fields.take, asKindMap_transitions]
    rfl
  have hOnce : Fields.take ⟨some s.initial, some s.transitions, none, none, none, none⟩
      "single_occurrence" s.onceOnly.toValue.doc =
      .ok ⟨some s.initial, some s.transitions, some s.onceOnly, none, none, none⟩ := by
    rw [Fields.take, asKindSet_kindSet]
    rfl
  have hSkipped : Fields.take ⟨some s.initial, some s.transitions, some s.onceOnly, none, none, none⟩
      "skip" s.skipped.toValue.doc =
      .ok ⟨some s.initial, some s.transitions, some s.onceOnly, some s.skipped, none, none⟩ := by
    rw [Fields.take, asKindSet_kindSet]
    rfl
  have hWildcards : Fields.take
      ⟨some s.initial, some s.transitions, some s.onceOnly, some s.skipped, none, none⟩
      "global_wildcards" s.wildcards.toValue.doc =
      .ok ⟨some s.initial, some s.transitions, some s.onceOnly, some s.skipped, some s.wildcards,
        none⟩ := by
    rw [Fields.take, asKindSet_kindSet]
    rfl
  have hPairing : Fields.take
      ⟨some s.initial, some s.transitions, some s.onceOnly, some s.skipped, some s.wildcards, none⟩
      "pairing" (Pairing.valueOf s.pairing).doc =
      .ok ⟨some s.initial, some s.transitions, some s.onceOnly, some s.skipped, some s.wildcards,
        some s.pairing⟩ := by
    rw [Fields.take, Pairing.asOption_valueOf]
    rfl
  simp only [membersDoc, Value.doc, Members.fold, hInitial, hTransitions, hOnce, hSkipped, hWildcards,
    hPairing, bind, Except.bind]

theorem decode_render (s : Spec) : decode s.render = .ok s := by
  refine decode_eq_ok_iff.mpr ?_
  rw [render, Value.ofText_render s.legible_toValue, toValue_eq]
  exact ⟨bind_eq_ok_iff.mpr ⟨_, s.fold_members, rfl⟩, rfl⟩

end Spec

/-! ### Grammars -/

namespace Grammar

variable {g : Grammar} {text : String} {d : Disk} {path : String}

/-- A text gives the grammar with the description that the text is read as. -/
theorem ofText_eq_ok_iff : ofText text = .ok g ↔ Spec.decode text = .ok g.toSpec := by
  unfold ofText
  rw [bind_eq_ok_iff]
  simp only [mapError_eq_ok_iff]
  constructor
  · rintro ⟨spec, hDecode, hSpec⟩
    rw [toSpec_of_ofSpec hSpec]
    exact hDecode
  · intro hDecode
    exact ⟨g.toSpec, hDecode, ofSpec_toSpec g⟩

/-- A file that is named gives the grammar with the description that its text is read as, and no other
grammar. -/
theorem load_eq_ok_iff :
    load d (some path) = .ok g ↔
      ∃ text, d.readText path = .ok text ∧ Spec.decode text = .ok g.toSpec := by
  unfold load
  rw [bind_eq_ok_iff]
  simp only [mapError_eq_ok_iff, ← ofText_eq_ok_iff]
  refine exists_congr fun text => and_congr_right fun _ => ?_
  cases ofText text with
  | ok g' =>
    show Except.ok g' = Except.ok g ↔ Except.ok g' = Except.ok g
    rw [Except.ok.injEq, Except.ok.injEq]
  | error fault => cases fault <;> exact ⟨nofun, nofun⟩

theorem readText_of_read (h : d.read path = .ok (.ofText text)) : d.readText path = .ok text := by
  unfold Disk.readText
  refine bind_eq_ok_iff.mpr ⟨_, h, ?_⟩
  rw [Bytes.text?_ofText]
  rfl

theorem load_of_read (h : d.read path = .ok (.ofText g.toSpec.render)) :
    load d (some path) = .ok g :=
  load_eq_ok_iff.mpr ⟨g.toSpec.render, readText_of_read h, g.toSpec.decode_render⟩

/-- The text of a grammar is read as its description and gives the grammar again, and so does a file
with that text.  A file that is named gives no grammar but the one whose description it is read as. -/
theorem load_rendered (g : Grammar) (d : Disk) (path : String) :
    Spec.decode g.toSpec.render = .ok g.toSpec ∧
      ofText g.toSpec.render = .ok g ∧
      (d.read path = .ok (.ofText g.toSpec.render) → load d (some path) = .ok g) ∧
      (load d (some path) = .ok g ↔
        ∃ text, d.readText path = .ok text ∧ Spec.decode text = .ok g.toSpec) :=
  ⟨g.toSpec.decode_render, ofText_eq_ok_iff.mpr g.toSpec.decode_render, load_of_read, load_eq_ok_iff⟩

/-- A grammar without a pairing, its kinds called by a quoted name with a line end, by a backslash, and
by a control character and a face. -/
def awkwardGrammar : Grammar where
  initial := "say \"hi\"\n"
  transitions := .ofList [("say \"hi\"\n", .ofList ["\\", "\x01😀"]), ("\x01😀", .ofList []),
    ("\\", .ofList ["\\"])]
  onceOnly := .ofList ["\x01😀"]
  wildcards := .ofList ["\u2028"]
  consistent := by decide +kernel

theorem load_awkwardGrammar :
    Disk.read { entries := [(["g.json"], .file (.ofText awkwardGrammar.toSpec.render))] } "g.json" =
        .ok (.ofText awkwardGrammar.toSpec.render) ∧
      load { entries := [(["g.json"], .file (.ofText awkwardGrammar.toSpec.render))] }
        (some "g.json") = .ok awkwardGrammar ∧
      awkwardGrammar ≠ reference := by
  have hRead : Disk.read { entries := [(["g.json"], .file (.ofText awkwardGrammar.toSpec.render))] }
      "g.json" = .ok (.ofText awkwardGrammar.toSpec.render) := by
    rfl
  obtain ⟨-, -, hLoad, -⟩ := load_rendered awkwardGrammar
    { entries := [(["g.json"], .file (.ofText awkwardGrammar.toSpec.render))] } "g.json"
  exact ⟨hRead, hLoad hRead, by decide +kernel⟩

end Grammar

end PlayerSession
