import PlayerSession.Grammar.Basic

/-! The grammar of sessions of a video player, used where no other is given. -/

namespace PlayerSession

/-- The kinds forbidden right after each kind.  After `paused` fewer kinds are forbidden than after
`playing`, since a seek or a full buffer may arrive while paused. -/
def Spec.referenceTransitions : List (Kind × List Kind) :=
  [("init", ["init", "loaded", "buffered", "seeked"]),
   ("heartbeat", ["init"]),
   ("metadata", ["init"]),
   ("warning", ["init", "loading"]),
   ("loading", ["init", "seeked", "buffered"]),
   ("loaded", ["init", "loading", "seeked", "buffered"]),
   ("playing", ["init", "loading", "loaded", "buffered", "seeked"]),
   ("paused", ["init", "loading", "loaded"]),
   ("buffering", ["init", "loading", "loaded", "seeked"]),
   ("buffered", ["init", "loading", "loaded", "seeked"]),
   ("seeking", ["init", "loading", "loaded", "buffered", "buffering"]),
   ("seeked", ["init", "loading", "loaded", "buffered"]),
   ("bitrate_changed", ["init", "loading", "loaded", "buffered", "seeked"]),
   ("stopped", ["init", "loading", "loaded", "playing", "paused", "buffering", "buffered",
     "seeking", "seeked", "bitrate_changed", "error"]),
   ("error", ["init", "heartbeat", "loading", "loaded", "playing", "paused", "buffering",
     "buffered", "warning", "seeking", "seeked", "bitrate_changed"])]

/-- The description of the reference grammar: sessions open with `init`, are loaded, ended and failed
at most once, and alternate between `playing` and `paused`. -/
def Spec.reference : Spec where
  initial := "init"
  transitions :=
    .ofList (referenceTransitions.map fun (kind, forbidden) => (kind, .ofList forbidden))
  onceOnly := .ofList ["init", "loading", "loaded", "error", "stopped"]
  skipped := .ofList ["warning", "heartbeat"]
  wildcards := .ofList ["metadata"]
  pairing := some ⟨"playing", "paused"⟩

/-- The reference grammar. -/
def Grammar.reference : Grammar := ⟨Spec.reference, by decide +kernel⟩

end PlayerSession
