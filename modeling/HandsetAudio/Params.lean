import HandsetAudio.Text.Integer

/-!
# Parameter strings

The framework talks in flat strings `key=value;key=value`. Reading one never fails:
segments between the semicolons that are empty or have no key are skipped, a key
without `=` gets the empty value. Looking a key up finds its last value.
-/

namespace HandsetAudio

namespace Text

/-- The pieces of `cs` between the occurrences of `sep`; one more than there are
occurrences. -/
def splitAt (sep : Char) : List Char → List (List Char)
  | [] => [[]]
  | c :: cs =>
    if c = sep then [] :: splitAt sep cs
    else
      match splitAt sep cs with
      | [] => [[c]]
      | piece :: rest => (c :: piece) :: rest

/-- The text before the first `sep` and the text after it, empty if there is none. -/
def splitFirst (sep : Char) (cs : List Char) : List Char × List Char :=
  (cs.takeWhile (· != sep), (cs.dropWhile (· != sep)).drop 1)

end Text

/-- The pairs of a parameter string, in order. -/
structure Params where
  /-- Key and value of each pair. -/
  pairs : List (String × String)
  deriving DecidableEq, Repr

namespace Params

/-- The pair of one segment, unless its key is empty. -/
def segmentPair? (segment : List Char) : Option (String × String) :=
  let (key, value) := Text.splitFirst '=' segment
  if key = [] then none else some (String.ofList key, String.ofList value)

/-- The pairs of `text`. -/
def parse (text : String) : Params :=
  ⟨(Text.splitAt ';' text.toList).filterMap segmentPair?⟩

/-- The pairs as a parameter string. -/
def render (p : Params) : String :=
  String.intercalate ";" (p.pairs.map fun (key, value) => key ++ "=" ++ value)

/-- The last value of `key`. -/
def get? (p : Params) (key : String) : Option String :=
  (p.pairs.reverse.find? fun pair => pair.1 == key).map (·.2)

/-- The last value of `key` as a decimal integer of 64 bits. Device masks travel both
as unsigned and as sign-extended numbers. -/
def getInt? (p : Params) (key : String) : Option Int :=
  (p.get? key).bind Text.int64?

/-- Whether there is no pair. -/
def isEmpty (p : Params) : Bool := p.pairs.isEmpty

/-- The key of a device mask, in decimal. -/
def routingKey : String := "routing"

/-- The key of the Bluetooth headset's noise reduction. -/
def nrecKey : String := "bt_headset_nrec"

/-- The value that enables a parameter. -/
def onValue : String := "on"

/-- The value that disables a parameter. -/
def offValue : String := "off"

end Params

end HandsetAudio
