import BlockVolume.Cloud.Credentials
import BlockVolume.Cloud.Parameters
import BlockVolume.Digest.Hmac
import BlockVolume.Text.Base64
/-!
Signed requests of the control plane.

A request is signed by the secret over its method and its encoded parameters; the signature is one
more parameter at the end of the URL.
-/

namespace BlockVolume.Cloud

open BlockVolume.Text

/-- The text that is signed for a request. -/
def stringToSign (method : String) (parameters : Parameters) : String :=
  method ++ "&" ++ Percent.encode "/" ++ "&" ++ Percent.encode parameters.query

/-- The signature of a text under a secret. -/
def sign (secret text : String) : String :=
  Base64.encode (Digest.hmacSha1 (Utf8.ofString (secret ++ "&")) (Utf8.ofString text))

/-- The URL of a signed request. -/
def signedUrl (endpoint : String) (credentials : Credentials) (parameters : Parameters) : String :=
  endpoint ++ "?" ++ parameters.query ++ "&Signature=" ++
    Percent.encode (sign credentials.secret (stringToSign "GET" parameters))

/-- What makes a request unlike any other. -/
structure Stamp where
  nonce : String
  timestamp : String

/-- Two digits of a number. -/
def twoDigits (n : Nat) : List Char :=
  [Char.ofNat (48 + n / 10 % 10), Char.ofNat (48 + n % 10)]

/-- A nonce from sixteen bytes: hexadecimal digits in five groups, with the marks of a random
identifier. -/
def nonceOf (bytes : Bytes) : String :=
  let marked := bytes.zipIdx.map fun (b, i) =>
    if i = 6 then b % 16 + 0x40 else if i = 8 then b % 64 + 0x80 else b
  let digits := marked.flatMap fun b => (Percent.escape b).drop 1 |>.map Char.toLower
  String.ofList (digits.take 8 ++ '-' :: (digits.drop 8).take 4 ++ '-' :: (digits.drop 12).take 4 ++
    '-' :: (digits.drop 16).take 4 ++ '-' :: digits.drop 20)

/-- The year, month and day, `days` days after the first of March of the year zero. -/
def dateOf (days : Nat) : Nat × Nat × Nat :=
  let era := days / 146097
  let dayOfEra := days % 146097
  let yearOfEra := (dayOfEra - dayOfEra / 1460 + dayOfEra / 36524 - dayOfEra / 146096) / 365
  let dayOfYear := dayOfEra - (365 * yearOfEra + yearOfEra / 4 - yearOfEra / 100)
  let shifted := (5 * dayOfYear + 2) / 153
  let month := if shifted < 10 then shifted + 3 else shifted - 9
  (era * 400 + yearOfEra + (if month ≤ 2 then 1 else 0), month,
    dayOfYear - (153 * shifted + 2) / 5 + 1)

/-- A timestamp from seconds since the start of 1970: date and time to the second. -/
def timestampOf (seconds : Nat) : String :=
  let (year, month, day) := dateOf (seconds / 86400 + 719468)
  let time := seconds % 86400
  String.ofList (twoDigits (year / 100) ++ twoDigits year ++ '-' :: twoDigits month ++
    '-' :: twoDigits day ++ 'T' :: twoDigits (time / 3600) ++ ':' :: twoDigits (time / 60 % 60) ++
    ':' :: twoDigits (time % 60) ++ ['Z'])

/-- The version of the control plane's interface. -/
def apiVersion : String := "2014-05-26"

/-- The parameters that all calls have. -/
def commonParameters (credentials : Credentials) (action : String) (stamp : Stamp) : Parameters :=
  let parameters := Parameters.ofList
    [("Action", action), ("Format", "JSON"), ("Version", apiVersion),
     ("AccessKeyId", credentials.id), ("SignatureMethod", "HMAC-SHA1"),
     ("SignatureVersion", "1.0"), ("SignatureNonce", stamp.nonce),
     ("Timestamp", stamp.timestamp)]
  match credentials.token with
  | some token => parameters.insert "SecurityToken" token
  | none => parameters

/-- The parameters of a call that attaches or detaches a disk. -/
def changeParameters (action : String) (credentials : Credentials) (stamp : Stamp)
    (disk node : String) : Parameters :=
  ((commonParameters credentials action stamp).insert "DiskId" disk).insert "InstanceId" node

/-- The list of ids that stands for one disk. -/
def diskIds (disk : String) : String := "[\"" ++ disk ++ "\"]"

/-- The parameters of a call that looks a disk up. -/
def describeParameters (credentials : Credentials) (stamp : Stamp) (region disk : String) :
    Parameters :=
  ((commonParameters credentials "DescribeDisks" stamp).insert "RegionId" region).insert "DiskIds"
    (diskIds disk)

end BlockVolume.Cloud
