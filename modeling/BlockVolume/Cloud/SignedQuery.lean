import BlockVolume.Cloud.Signature
import BlockVolume.Text.Blank
/-!
Reading a signed query back.

A query falls apart at each `&`, and each of its pairs at the first `=`. Whoever has the secret
checks the signature by signing the other parameters once more.
-/

namespace BlockVolume.Cloud

open BlockVolume.Text

/-- The pairs of a query as they stand there. -/
def sentPairs (query : String) : List (String × String) :=
  (splitOnP (· == '&') query.toList).map fun pair =>
    match splitFirst '=' pair with
    | some (name, value) => (String.ofList name, String.ofList value)
    | none => (String.ofList pair, "")

/-- The text behind an encoded one. -/
def plainText (encoded : String) : String := Utf8.toStringLossy (Percent.decode encoded)

/-- The pairs of a query, decoded. -/
def decodedPairs (query : String) : List (String × String) :=
  (sentPairs query).map fun (name, value) => (plainText name, plainText value)

/-- The name of the parameter that holds the signature. -/
def signatureName : String := "Signature"

/-- The query carries the signature of its other parameters under the secret. -/
def isSignedBy (secret query : String) : Bool :=
  let pairs := decodedPairs query
  let parameters := Parameters.ofList (pairs.filter (·.1 != signatureName))
  pairs.lookup signatureName == some (sign secret (stringToSign "GET" parameters))

end BlockVolume.Cloud
