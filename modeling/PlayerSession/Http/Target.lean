import PlayerSession.Disk
import PlayerSession.Json.Token

/-! What a request is sent to: the path of its target, and the session that the path names. -/

namespace PlayerSession.Http

/-- What follows the first `://` of a target. -/
def afterScheme : List Char → Option (List Char)
  | ':' :: '/' :: '/' :: rest => some rest
  | _ :: rest => afterScheme rest
  | [] => none

/-- The path of a target.  Query and fragment do not belong to it; a target with a scheme and a host
has at least the path `/`, and one that is only a host has none. -/
def pathChars (target : List Char) : List Char :=
  let target := target.takeWhile fun c => c ≠ '?' ∧ c ≠ '#'
  if target.head? = some '/' ∨ target = ['*'] then target
  else
    match afterScheme target with
    | none => []
    | some rest =>
      match rest.dropWhile (· ≠ '/') with
      | [] => ['/']
      | path => path

def pathOf (target : String) : String := String.ofList (pathChars target.toList)

/-- What stands before the name of a session in a path. -/
def sessionRoot : List Char := "/session/".toList

/-- The single segment behind `/session/`, as it is spelled in the path. -/
def sessionSegment? (path : String) : Option (List Char) :=
  let cs := path.toList
  if sessionRoot.isPrefixOf cs then
    let segment := cs.drop sessionRoot.length
    if segment ≠ [] ∧ '/' ∉ segment then some segment else none
  else none

/-- The bytes that a segment stands for: two hexadecimal digits behind a percent sign are one byte, and
everything else stands for itself. -/
def percentDecode : List Char → Bytes
  | '%' :: a :: b :: rest =>
    match Json.hexDigit? a, Json.hexDigit? b with
    | some high, some low => .ofNat (16 * high + low) :: percentDecode rest
    | _, _ => 0x25 :: percentDecode (a :: b :: rest)
  | c :: rest => String.utf8EncodeChar c ++ percentDecode rest
  | [] => []

/-- The text that a segment stands for, if its bytes are text. -/
def segmentText? (segment : List Char) : Option String :=
  String.fromUTF8? ⟨(percentDecode segment).toArray⟩

end PlayerSession.Http
