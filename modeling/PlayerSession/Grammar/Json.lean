import PlayerSession.Grammar.Basic
import PlayerSession.Json.Decode
import PlayerSession.Json.Value

/-! Descriptions of grammars as JSON.  Tables and sets are written in ascending order.  A description
may leave out everything but the initial kind and the transitions, and may hold nothing else. -/

namespace PlayerSession

open Json

namespace Pairing

def toValue (p : Pairing) : Value := .object [("play", .text p.play), ("pause", .text p.pause)]

structure Fields where
  play : Option String := none
  pause : Option String := none

/-- Takes a member of an object.  Members that are no fields are passed over. -/
def Fields.take (f : Fields) (name : String) (value : Doc) : Reading Fields :=
  match name with
  | "play" => do return { f with play := ← fill name f.play value.asText }
  | "pause" => do return { f with pause := ← fill name f.pause value.asText }
  | _ => do value.skip; return f

def ofDoc : Doc → Reading Pairing
  | .object members => do
    let f ← members.fold Fields.take {}
    return { play := ← require "play" f.play, pause := ← require "pause" f.pause }
  | .array items => do
    let (play, items) ← items.required "PairedKinds" 0 2 Doc.asText
    let (pause, items) ← items.required "PairedKinds" 1 2 Doc.asText
    items.finish
    return { play, pause }
  | d => d.refuse (.record "PairedKinds")

end Pairing

def KindSet.toValue (s : KindSet) : Value := .array (s.keys.map .text)

namespace Spec

/-- The names of the fields of a description, in order. -/
def fieldNames : List String :=
  ["initial", "transitions", "single_occurrence", "skip", "global_wildcards", "pairing"]

def toValue (s : Spec) : Value :=
  .object [("initial", .text s.initial),
    ("transitions", .object (s.transitions.entries.map fun (kind, next) => (kind, next.toValue))),
    ("single_occurrence", s.onceOnly.toValue), ("skip", s.skipped.toValue),
    ("global_wildcards", s.wildcards.toValue),
    ("pairing", match s.pairing with | some p => p.toValue | none => .null)]

/-- The fields of a description found so far. -/
structure Fields where
  initial : Option String := none
  transitions : Option (KindMap KindSet) := none
  onceOnly : Option KindSet := none
  skipped : Option KindSet := none
  wildcards : Option KindSet := none
  pairing : Option (Option Pairing) := none

/-- Takes a member of an object, which must be a field. -/
def Fields.take (f : Fields) (name : String) (value : Doc) : Reading Fields :=
  match name with
  | "initial" => do return { f with initial := ← fill name f.initial value.asText }
  | "transitions" => do
    return { f with transitions := ← fill name f.transitions (value.asKindMap Doc.asKindSet) }
  | "single_occurrence" => do return { f with onceOnly := ← fill name f.onceOnly value.asKindSet }
  | "skip" => do return { f with skipped := ← fill name f.skipped value.asKindSet }
  | "global_wildcards" => do return { f with wildcards := ← fill name f.wildcards value.asKindSet }
  | "pairing" => do
    return { f with pairing := ← fill name f.pairing (value.asOption Pairing.ofDoc) }
  | _ => throw (.mismatch (.unknownField name fieldNames))

/-- Reads a description.  A pairing that is null counts as left out. -/
def ofDoc : Doc → Reading Spec
  | .object members => do
    let f ← members.fold Fields.take {}
    return {
      initial := ← require "initial" f.initial
      transitions := ← require "transitions" f.transitions
      onceOnly := f.onceOnly.getD .empty
      skipped := f.skipped.getD .empty
      wildcards := f.wildcards.getD .empty
      pairing := f.pairing.join }
  | .array items => do
    let (initial, items) ← items.required "GrammarSpec" 0 6 Doc.asText
    let (transitions, items) ← items.required "GrammarSpec" 1 6 (Doc.asKindMap Doc.asKindSet)
    let (onceOnly, items) ← items.optional Doc.asKindSet
    let (skipped, items) ← items.optional Doc.asKindSet
    let (wildcards, items) ← items.optional Doc.asKindSet
    let (pairing, items) ← items.optional (Doc.asOption Pairing.ofDoc)
    items.finish
    return {
      initial, transitions
      onceOnly := onceOnly.getD .empty
      skipped := skipped.getD .empty
      wildcards := wildcards.getD .empty
      pairing := pairing.join }
  | d => d.refuse (.record "GrammarSpec")

def render (s : Spec) : String := s.toValue.render

def decode (s : String) : Reading Spec := Json.decode ofDoc s

end Spec

/-- Why a text gives no grammar. -/
inductive GrammarFault where
  | unreadable (fault : Fault)
  | defective (defect : Defect)
  deriving DecidableEq

/-- The grammar that a text describes. -/
def Grammar.ofText (s : String) : Except GrammarFault Grammar := do
  let spec ← (Spec.decode s).mapError .unreadable
  (Grammar.ofSpec spec).mapError .defective

end PlayerSession
